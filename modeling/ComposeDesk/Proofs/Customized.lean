import ComposeDesk.Proofs.Repositories.Represented

/-!
# What becomes of customizations

Besides repositories and hardening, which are looked up, the build service is told what
the caller asked for.  A few parts are completed: every user joins one group, one service
is enabled for registration, and a tailoring file goes before the files of the caller.
No part has a say in what becomes of another one.
-/

namespace ComposeDesk

namespace Customize

variable {σ : Type} {services : Downstream σ} {caller : Identity}
  {distribution : Distribution}

/-- Customizations put together from what the caller gave and what was looked up. -/
def assembled (customizations : Customizations) (payload : Option (List Build.Repository))
    (custom : Option (List CustomRepository)) (hardening : Hardening)
    (given : Option (List Build.File)) : Build.Customizations where
  subscription := customizations.subscription.map subscription
  packages := customizations.packages
  payloadRepositories := payload
  customRepositories := custom
  openscap := hardening.openscap
  filesystem := customizations.filesystem.filter (!·.isEmpty)
  users := customizations.users.map (·.map user)
  groups := customizations.groups
  partitioningMode := customizations.partitioningMode
  containers := customizations.containers
  directories := directories hardening customizations.directories
  files := files hardening given
  locale := customizations.locale
  kernel := customizations.kernel
  services := Customize.services customizations
  firewall := customizations.firewall
  timezone := customizations.timezone
  installationDevice := customizations.installationDevice
  fdo := customizations.fdo
  ignition := customizations.ignition
  fips := customizations.fips
  installer := customizations.installer
  cacerts := customizations.cacerts
  hostname := customizations.hostname

/-- What is looked up for customizations, step by step. -/
structure LookedUp (services : Downstream σ) (caller : Identity) (distribution : Distribution)
    (date : Option String) (customizations : Customizations) (before after : σ) where
  payload : Option (List Build.Repository)
  custom : Option (List CustomRepository)
  hardening : Hardening
  first : σ
  second : σ
  payload_ok : outcome (Customize.payload services caller date
    customizations.payloadRepositories) before = (.ok payload, first)
  custom_ok : outcome (Customize.custom services caller date
    customizations.customRepositories) first = (.ok custom, second)
  hardening_ok : outcome (Customize.hardening services caller distribution
    customizations.openscap) second = (.ok hardening, after)

variable {date : Option String} {customizations : Customizations} {before after : σ}

/-- Customizations can be used exactly if all look-ups succeed and all files can be read. -/
theorem prepare_ok_iff {sent : Build.Customizations} :
    outcome (prepare services caller distribution date customizations) before =
        (.ok sent, after) ↔
      ∃ (found : LookedUp services caller distribution date customizations before after)
        (given : Option (List Build.File)), givenFiles customizations.files = .ok given ∧
          sent = assembled customizations found.payload found.custom found.hardening given := by
  constructor
  · intro done
    obtain ⟨payload, first, payload_ok, done⟩ := outcome_bind_eq_ok done
    obtain ⟨custom, second, custom_ok, done⟩ := outcome_bind_eq_ok done
    obtain ⟨hardening, third, hardening_ok, done⟩ := outcome_bind_eq_ok done
    obtain ⟨given, fourth, read, done⟩ := outcome_bind_eq_ok done
    cases files : givenFiles customizations.files with
    | error fault =>
        rw [files] at read
        cases read
    | ok own =>
        rw [files] at read
        cases read
        cases done
        exact ⟨⟨payload, custom, hardening, first, second, payload_ok, custom_ok, hardening_ok⟩,
          given, rfl, rfl⟩
  · rintro ⟨found, given, files, rfl⟩
    rw [prepare, outcome_bind_ok found.payload_ok, outcome_bind_ok found.custom_ok,
      outcome_bind_ok found.hardening_ok, files]
    rfl

/-- The customizations of a request are prepared for the date of its first image. -/
theorem ofRequest_ok_iff {request : ComposeRequest} {result : Option Build.Customizations}
    (given : request.customizations = some customizations) :
    outcome (ofRequest services caller distribution request) before = (.ok result, after) ↔
      ∃ sent, result = some sent ∧
        outcome (prepare services caller distribution
          (request.imageRequests.head?.bind (·.snapshotDate)) customizations) before =
            (.ok sent, after) := by
  unfold ofRequest
  rw [given]
  constructor
  · intro done
    obtain ⟨sent, _, prepared, made⟩ := outcome_bind_eq_ok done
    cases made
    exact ⟨sent, rfl, prepared⟩
  · rintro ⟨sent, rfl, prepared⟩
    exact outcome_bind_ok prepared _

/-- A user as it goes out: a member of one more group, and else as it was given. -/
structure SentUser (user : User) (sent : Build.User) : Prop where
  name : sent.name = user.name
  key : sent.key = user.sshKey
  password : sent.password = user.password
  groups : sent.groups = some (if "wheel" ∈ user.groups.getD [] then user.groups.getD []
    else user.groups.getD [] ++ ["wheel"])

theorem withElement_eq (name : String) (names : List String) :
    withElement name names = if name ∈ names then names else names ++ [name] := by
  rw [withElement]
  split_ifs with held member member
  · rfl
  · exact absurd (List.contains_iff_mem.mp held) member
  · exact absurd (List.contains_iff_mem.mpr member) held
  · rfl

theorem sentUser (user : User) : SentUser user (Customize.user user) :=
  ⟨rfl, rfl, rfl, congrArg some (withElement_eq adminGroup (user.groups.getD []))⟩

/-- A subscription as it goes out: the organization is written in decimal. -/
structure SentSubscription (given : Subscription) (sent : Build.Subscription) : Prop where
  organization : sent.organization = Decimal.ofInt given.organization.toInt
  activationKey : sent.activationKey = given.activationKey
  serverUrl : sent.serverUrl = given.serverUrl
  baseUrl : sent.baseUrl = given.baseUrl
  insights : sent.insights = given.insights
  rhc : sent.rhc = given.rhc

/-- A file as it goes out: only its content is decoded. -/
structure SentFile (given : File) (sent : Build.File) : Prop where
  path : sent.path = given.path
  mode : sent.mode = given.mode
  user : sent.user = given.user
  group : sent.group = given.group
  ensureParents : sent.ensureParents = given.ensureParents
  data : fileData given = .ok sent.data

theorem sentFile {given : File} {sent : Build.File} (read : file given = .ok sent) :
    SentFile given sent := by
  unfold file at read
  cases content : fileData given with
  | error fault =>
      rw [content] at read
      cases read
  | ok data =>
      rw [content] at read
      cases read
      exact ⟨rfl, rfl, rfl, rfl, rfl, content⟩

def enabledServices (customizations : Customizations) : List String :=
  (customizations.services.bind (·.enabled)).getD []

/-- Whether the subscription asks for Insights. -/
def asksInsights (customizations : Customizations) : Bool :=
  customizations.subscription.any (·.insights)

/-- Nothing is enabled if Insights is not asked for. -/
theorem services_unasked (unasked : asksInsights customizations = false) :
    Customize.services customizations = customizations.services := by
  unfold asksInsights at unasked
  unfold Customize.services
  cases held : customizations.subscription with
  | none => rfl
  | some subscription =>
      rw [held, Option.any_some] at unasked
      exact if_neg (by rw [unasked]; exact Bool.false_ne_true)

/-- The service for Insights is among those that are enabled if Insights is asked for. -/
theorem services_asked (asked : asksInsights customizations = true) :
    Customize.services customizations =
      some { customizations.services.getD ⟨none, none, none⟩ with
        enabled := some (withElement "rhcd" (enabledServices customizations)) } := by
  unfold asksInsights at asked
  unfold Customize.services enabledServices
  cases held : customizations.subscription with
  | none =>
      rw [held] at asked
      cases asked
  | some subscription =>
      rw [held, Option.any_some] at asked
      simp only [asked, if_true]
      cases customizations.services <;> rfl

/-- The service for Insights is enabled where it is needed and was not. -/
theorem services_eq (customizations : Customizations) :
    Customize.services customizations =
      if asksInsights customizations = true ∧ "rhcd" ∉ enabledServices customizations then
        some { customizations.services.getD ⟨none, none, none⟩ with
          enabled := some (enabledServices customizations ++ ["rhcd"]) }
      else customizations.services := by
  cases asks : asksInsights customizations with
  | false => rw [services_unasked asks, if_neg (fun both => Bool.false_ne_true both.1)]
  | true =>
      rw [services_asked asks, withElement_eq]
      by_cases held : "rhcd" ∈ enabledServices customizations
      · rw [if_pos held, if_neg fun both => both.2 held]
        revert held
        unfold enabledServices
        -- What is enabled was given, so the services are those that were given.
        rcases customizations.services with _ | ⟨_ | enabled, disabled, masked⟩
        · exact nofun
        · exact nofun
        · exact fun _ => rfl
      · rw [if_neg held, if_pos ⟨rfl, held⟩]

/-! ## All parts -/

def withFirst {α : Type} : Option α → Option (List α) → Option (List α)
  | some first, given => some (first :: given.getD [])
  | none, given => given

def tailoringDirectory : Directory := ⟨"/etc/osbuild", none, none, none, none⟩

def tailoringFile (text : String) : Build.File :=
  ⟨tailoringPath, none, none, none, some text, none⟩

/-- Customizations as they go out with a tailoring file, or without one. -/
structure Translated (given : Customizations) (tailoring : Option String)
    (sent : Build.Customizations) : Prop where
  users : Option.Rel (List.Forall₂ SentUser) given.users sent.users
  services : sent.services =
    if asksInsights given = true ∧ "rhcd" ∉ enabledServices given then
      some { given.services.getD ⟨none, none, none⟩ with
        enabled := some (enabledServices given ++ ["rhcd"]) }
    else given.services
  directories : sent.directories =
    withFirst (tailoring.map fun _ => tailoringDirectory) given.directories
  files : ∃ own, Option.Rel (List.Forall₂ SentFile) given.files own ∧
    sent.files = withFirst (tailoring.map tailoringFile) own
  filesystem : sent.filesystem = if given.filesystem = some [] then none else given.filesystem
  subscription : Option.Rel SentSubscription given.subscription sent.subscription
  packages : sent.packages = given.packages
  groups : sent.groups = given.groups
  partitioningMode : sent.partitioningMode = given.partitioningMode
  containers : sent.containers = given.containers
  locale : sent.locale = given.locale
  kernel : sent.kernel = given.kernel
  firewall : sent.firewall = given.firewall
  timezone : sent.timezone = given.timezone
  installationDevice : sent.installationDevice = given.installationDevice
  fdo : sent.fdo = given.fdo
  ignition : sent.ignition = given.ignition
  fips : sent.fips = given.fips
  installer : sent.installer = given.installer
  cacerts : sent.cacerts = given.cacerts
  hostname : sent.hostname = given.hostname
  /-- There is a tailoring file exactly if hardening refers to one. -/
  tailored : tailoring.isSome = (sent.openscap.bind (·.tailoring)).isSome

/-- Files are read one by one. -/
theorem givenFiles_ok_iff {files : Option (List File)} {own : Option (List Build.File)} :
    givenFiles files = .ok own ↔
      Option.Rel (List.Forall₂ fun given sent => file given = .ok sent) files own := by
  cases files with
  | none =>
      constructor
      · intro read
        cases read
        exact .none
      · intro related
        cases related
        rfl
  | some files =>
      constructor
      · intro read
        rw [givenFiles] at read
        cases each : files.mapM file with
        | error fault =>
            rw [each] at read
            cases read
        | ok own =>
            rw [each] at read
            cases read
            exact .some (forall₂_of_mapM_ok each)
      · intro related
        cases related with
        | some each =>
            rw [givenFiles, mapM_of_forall₂ each]
            rfl

theorem sentFiles {files : Option (List File)} {own : Option (List Build.File)}
    (read : givenFiles files = .ok own) : Option.Rel (List.Forall₂ SentFile) files own := by
  cases givenFiles_ok_iff.mp read with
  | none => exact .none
  | some each => exact .some (each.imp fun _ _ => sentFile)

/-- Files that can all be read have a result. -/
theorem givenFiles_ok {files : Option (List File)}
    (readable : ∀ given ∈ files.getD [], ∃ data, fileData given = .ok data) :
    ∃ own, givenFiles files = .ok own := by
  cases files with
  | none => exact ⟨none, rfl⟩
  | some files =>
      have each : ∀ given ∈ files, ∃ sent, file given = .ok sent ∧ SentFile given sent := by
        intro given member
        obtain ⟨data, content⟩ := readable given member
        have read : file given =
            .ok ⟨given.path, given.mode, given.user, given.group, data, given.ensureParents⟩ := by
          rw [file, content]
        exact ⟨_, read, sentFile read⟩
      obtain ⟨own, read, -⟩ := mapM_ok each
      exact ⟨some own, by rw [givenFiles, read]; rfl⟩

/-- Hardening refers to a tailoring file exactly if there is one. -/
theorem hardening_tailored {openscap : Option OpenScap} {found : Hardening}
    (done : outcome (hardening services caller distribution openscap) before =
      (.ok found, after)) :
    found.tailoring.isSome = (found.openscap.bind (·.tailoring)).isSome := by
  rcases openscap with _ | id | ⟨id, _, _⟩
  · cases done
    rfl
  · obtain ⟨release, _, _, done⟩ := outcome_bind_eq_ok done
    obtain ⟨policy, _, _, done⟩ := outcome_bind_eq_ok done
    cases held : policy.tailoring with
    | none =>
        rw [held] at done
        cases done
        rfl
    | some text =>
        rw [held] at done
        cases done
        rfl
  · by_cases none : id = ""
    · simp only [hardening, if_pos none] at done
      cases done
      rfl
    · simp only [hardening, if_neg none] at done
      cases done
      rfl

/-- What is put together is what was given, as it goes out. -/
theorem translated_assembled {found : LookedUp services caller distribution date customizations
    before after} {given : Option (List Build.File)}
    (read : givenFiles customizations.files = .ok given) :
    Translated customizations found.hardening.tailoring
      (assembled customizations found.payload found.custom found.hardening given) where
  users := by
    show Option.Rel _ _ (customizations.users.map (·.map user))
    cases customizations.users with
    | none => exact .none
    | some users =>
        refine .some (List.forall₂_map_right_iff.mpr ?_)
        exact List.forall₂_same.mpr fun user _ => sentUser user
  services := services_eq customizations
  directories := by
    show directories found.hardening customizations.directories = _
    unfold Customize.directories
    cases found.hardening.tailoring <;> rfl
  files := by
    refine ⟨given, ?_, ?_⟩
    · exact sentFiles read
    · show files found.hardening given = _
      unfold Customize.files
      cases found.hardening.tailoring <;> rfl
  filesystem := by
    show customizations.filesystem.filter (!·.isEmpty) = _
    rcases customizations.filesystem with _ | _ | ⟨mount, rest⟩ <;> rfl
  subscription := by
    show Option.Rel SentSubscription _ (customizations.subscription.map Customize.subscription)
    cases customizations.subscription with
    | none => exact .none
    | some subscription => exact .some ⟨rfl, rfl, rfl, rfl, rfl, rfl⟩
  packages := rfl
  groups := rfl
  partitioningMode := rfl
  containers := rfl
  locale := rfl
  kernel := rfl
  firewall := rfl
  timezone := rfl
  installationDevice := rfl
  fdo := rfl
  ignition := rfl
  fips := rfl
  installer := rfl
  cacerts := rfl
  hostname := rfl
  tailored := hardening_tailored found.hardening_ok

/-! ## Parts and other parts -/

/-- Customizations of which the same is looked up. -/
structure AskedAlike (given other : Customizations) : Prop where
  payloadRepositories : other.payloadRepositories = given.payloadRepositories
  customRepositories : other.customRepositories = given.customRepositories
  openscap : other.openscap = given.openscap

/-- What goes out is different only in the parts that are. -/
structure DifferAlike (given other : Customizations) (sent changed : Build.Customizations) :
    Prop where
  payloadRepositories : changed.payloadRepositories = sent.payloadRepositories
  customRepositories : changed.customRepositories = sent.customRepositories
  openscap : changed.openscap = sent.openscap
  users : other.users = given.users → changed.users = sent.users
  services : other.services = given.services → asksInsights other = asksInsights given →
    changed.services = sent.services
  directories : other.directories = given.directories → changed.directories = sent.directories
  files : other.files = given.files → changed.files = sent.files
  filesystem : other.filesystem = given.filesystem → changed.filesystem = sent.filesystem
  subscription : other.subscription = given.subscription →
    changed.subscription = sent.subscription
  packages : other.packages = given.packages → changed.packages = sent.packages
  groups : other.groups = given.groups → changed.groups = sent.groups
  partitioningMode : other.partitioningMode = given.partitioningMode →
    changed.partitioningMode = sent.partitioningMode
  containers : other.containers = given.containers → changed.containers = sent.containers
  locale : other.locale = given.locale → changed.locale = sent.locale
  kernel : other.kernel = given.kernel → changed.kernel = sent.kernel
  firewall : other.firewall = given.firewall → changed.firewall = sent.firewall
  timezone : other.timezone = given.timezone → changed.timezone = sent.timezone
  installationDevice : other.installationDevice = given.installationDevice →
    changed.installationDevice = sent.installationDevice
  fdo : other.fdo = given.fdo → changed.fdo = sent.fdo
  ignition : other.ignition = given.ignition → changed.ignition = sent.ignition
  fips : other.fips = given.fips → changed.fips = sent.fips
  installer : other.installer = given.installer → changed.installer = sent.installer
  cacerts : other.cacerts = given.cacerts → changed.cacerts = sent.cacerts
  hostname : other.hostname = given.hostname → changed.hostname = sent.hostname

def LookedUp.other (found : LookedUp services caller distribution date customizations
    before after) {other : Customizations} (alike : AskedAlike customizations other) :
    LookedUp services caller distribution date other before after where
  payload := found.payload
  custom := found.custom
  hardening := found.hardening
  first := found.first
  second := found.second
  payload_ok := by rw [alike.payloadRepositories]; exact found.payload_ok
  custom_ok := by rw [alike.customRepositories]; exact found.custom_ok
  hardening_ok := by rw [alike.openscap]; exact found.hardening_ok

/-- Services are completed from the given ones and from whether Insights is asked for. -/
theorem services_congr {given other : Customizations}
    (same : other.services = given.services) (asks : asksInsights other = asksInsights given) :
    Customize.services other = Customize.services given := by
  have enabled : enabledServices other = enabledServices given := by
    rw [enabledServices, same]
    rfl
  rw [services_eq, services_eq, same, asks, enabled]

theorem differAlike_assembled (found : LookedUp services caller distribution date customizations
    before after) {other : Customizations} (alike : AskedAlike customizations other)
    {given changed : Option (List Build.File)}
    (read : givenFiles customizations.files = .ok given)
    (readOther : givenFiles other.files = .ok changed) :
    DifferAlike customizations other
      (assembled customizations found.payload found.custom found.hardening given)
      (assembled other (found.other alike).payload (found.other alike).custom
        (found.other alike).hardening changed) where
  payloadRepositories := rfl
  customRepositories := rfl
  openscap := rfl
  users same := congrArg (Option.map (List.map user)) same
  services same asks := services_congr same asks
  directories same := congrArg (directories found.hardening) same
  files same := by
    rw [same, read] at readOther
    cases readOther
    rfl
  filesystem same := by
    show other.filesystem.filter (!·.isEmpty) = customizations.filesystem.filter (!·.isEmpty)
    rw [same]
  subscription same := congrArg (Option.map subscription) same
  packages := id
  groups := id
  partitioningMode := id
  containers := id
  locale := id
  kernel := id
  firewall := id
  timezone := id
  installationDevice := id
  fdo := id
  ignition := id
  fips := id
  installer := id
  cacerts := id
  hostname := id

/-- Customizations that can be used go out as they were given, with what is completed, and
with the tailoring file that hardening needs.  Other customizations of which the same is
looked up, and whose files can be read, can be used as well; then the same was asked of
the services, and what goes out is different only in the parts that are. -/
theorem ofRequest_translated (services : Downstream σ) (caller : Identity)
    (distribution : Distribution) (request : ComposeRequest) (customizations : Customizations)
    (before after : σ) (result : Option Build.Customizations)
    (given : request.customizations = some customizations)
    (done : outcome (ofRequest services caller distribution request) before =
      (.ok result, after)) :
    ∃ sent tailoring, result = some sent ∧ Translated customizations tailoring sent ∧
      ∀ other : Customizations, AskedAlike customizations other →
        (∀ file ∈ other.files.getD [], ∃ data, fileData file = .ok data) →
        ∃ changed, outcome (ofRequest services caller distribution
              { request with customizations := some other }) before = (.ok (some changed), after) ∧
          Translated other tailoring changed ∧
          DifferAlike customizations other sent changed := by
  obtain ⟨sent, rfl, prepared⟩ := (ofRequest_ok_iff given).mp done
  obtain ⟨found, own, read, rfl⟩ := prepare_ok_iff.mp prepared
  refine ⟨_, found.hardening.tailoring, rfl, translated_assembled read, ?_⟩
  intro other alike readable
  obtain ⟨ownOther, readOther⟩ := givenFiles_ok readable
  refine ⟨_, (ofRequest_ok_iff rfl).mpr ⟨_, rfl,
    prepare_ok_iff.mpr ⟨found.other alike, ownOther, readOther, rfl⟩⟩, ?_, ?_⟩
  · exact (translated_assembled readOther :
      Translated other (found.other alike).hardening.tailoring _)
  · exact differAlike_assembled found alike read readOther

def registered : Customizations :=
  { Customizations.empty with
    users := some [⟨"admin", some ["dev"], none, some "secret"⟩]
    subscription := some ⟨42, "key", "subscription.example", "https://cdn.example", true, none⟩
    files := some [⟨"/etc/motd", none, none, none, some "aGk=", some "base64", some true⟩]
    hostname := some "web" }

theorem ofRequest_translated_registered :
    let caller : Identity := ⟨"1", "", "", "User", [], ""⟩
    let services : Downstream Unit := Downstream.unreachable
    let request : ComposeRequest := ⟨"rhel-9", [], some registered, none, none, none⟩
    ∃ sent tailoring,
      outcome (ofRequest services caller bare request) () = (.ok (some sent), ()) ∧
      Translated registered tailoring sent ∧
      ∃ changed, outcome (ofRequest services caller bare
            { request with customizations := some { registered with hostname := none } }) () =
          (.ok (some changed), ()) ∧
        Translated { registered with hostname := none } tailoring changed ∧
        DifferAlike registered { registered with hostname := none } sent changed := by
  intro caller services request
  have content : fileData ⟨"/etc/motd", none, none, none, some "aGk=", some "base64",
      some true⟩ = .ok (some "hi") := by decide +kernel
  have read : givenFiles registered.files =
      .ok (some [⟨"/etc/motd", none, none, none, some "hi", some true⟩]) :=
    givenFiles_ok_iff.mpr (.some (.cons (by rw [file, content]) .nil))
  have found : LookedUp services caller bare none registered () () :=
    ⟨none, none, ⟨none, none⟩, (), (), rfl, rfl, rfl⟩
  obtain ⟨result, done⟩ : ∃ result, outcome (ofRequest services caller bare request) () =
      (.ok result, ()) :=
    ⟨_, (ofRequest_ok_iff rfl).mpr ⟨_, rfl, prepare_ok_iff.mpr ⟨found, _, read, rfl⟩⟩⟩
  obtain ⟨sent, tailoring, rfl, translated, others⟩ := ofRequest_translated services caller bare
    request registered () () result rfl done
  refine ⟨sent, tailoring, done, translated, others _ ⟨rfl, rfl, rfl⟩ fun file member => ?_⟩
  cases List.mem_singleton.mp member
  exact ⟨some "hi", content⟩

end Customize

end ComposeDesk
