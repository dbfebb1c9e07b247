import ComposeDesk.Proofs.Lookup

/-!
# Upload targets that are supported

A target goes with certain image types, and with all that it says of accounts.  What
is sent for a target that is supported, and what the provisioning service is asked on
the way, is listed here provider by provider.
-/

namespace ComposeDesk

section Questions

variable {σ ε δ α β κ : Type}

/-- An act in a world with a list of questions, to which it adds some. -/
def Act.noting (asked : List κ) (act : Act σ ε α) : Act (σ × List κ) ε α :=
  ExceptT.mk fun (world, held) => ((act.run world).1, ((act.run world).2, held ++ asked))

/-- Beside a list of questions, an act does what another one does, and adds the questions
that go with the world. -/
def Noted (asked : σ → List κ) (act : Act σ ε α) (recorded : Act (σ × List κ) ε α) : Prop :=
  ∀ world held, outcome recorded (world, held) =
    ((outcome act world).1, ((outcome act world).2, held ++ asked world))

def unasked (_ : σ) : List κ := []

/-- The questions of what follows an act, unless the act has failed. -/
def askedNext (later : α → σ → List κ) : Except ε α × σ → List κ
  | (.ok a, left) => later a left
  | (.error _, _) => []

namespace Noted

variable {asked : σ → List κ} {act : Act σ ε α} {recorded : Act (σ × List κ) ε α}

theorem noting (asked : List κ) (act : Act σ ε α) :
    Noted (fun _ => asked) act (act.noting asked) := fun _ _ => rfl

theorem ite {condition : Prop} [Decidable condition] {first : Act σ ε α}
    {second : Act (σ × List κ) ε α} (holds : condition → Noted asked act recorded)
    (fails : ¬ condition → Noted asked first second) :
    Noted asked (if condition then act else first) (if condition then recorded else second) := by
  split
  · exact holds ‹_›
  · exact fails ‹_›

/-- Nothing that follows a fault is asked. -/
theorem throw_bind (fault : ε) (next : α → Act σ ε β) (following : α → Act (σ × List κ) ε β) :
    Noted unasked (throw fault >>= next) (throw fault >>= following) := by
  intro world held
  have here : outcome (throw fault : Act σ ε α) world = (.error fault, world) := rfl
  have beside : outcome (throw fault : Act (σ × List κ) ε α) (world, held) =
      (.error fault, (world, held)) := rfl
  rw [outcome_bind_error here, outcome_bind_error beside, unasked, List.append_nil]

theorem pure (a : α) :
    Noted unasked (pure a : Act σ ε α) (pure a : Act (σ × List κ) ε α) := by
  intro world held
  rw [outcome_pure, outcome_pure, unasked, List.append_nil]

theorem throw (fault : ε) :
    Noted unasked (throw fault : Act σ ε α) (throw fault : Act (σ × List κ) ε α) := by
  intro world held
  have same : held ++ (unasked world : List κ) = held := List.append_nil held
  rw [same]
  rfl

theorem adapt (noted : Noted asked act recorded) (tell : ε → δ) :
    Noted asked (act.adapt tell : Act σ δ α) (recorded.adapt tell) := by
  intro world held
  rw [outcome_adapt, outcome_adapt, noted world held]

/-- The questions of what follows come after those of what goes first. -/
theorem bind {next : α → Act σ ε β} {following : α → Act (σ × List κ) ε β}
    {later : α → σ → List κ} (first : Noted asked act recorded)
    (rest : ∀ a, Noted (later a) (next a) (following a)) :
    Noted (fun world => asked world ++ askedNext later (outcome act world))
      (act >>= next) (recorded >>= following) := by
  intro world held
  have both := first world held
  rcases ran : outcome act world with ⟨fault | a, left⟩
  · rw [ran] at both
    simp only [outcome_bind_error both, outcome_bind_error ran, ran, askedNext, List.append_nil]
  · rw [ran] at both
    simp only [outcome_bind_ok both, outcome_bind_ok ran, ran, askedNext, rest a left,
      List.append_assoc]

/-- What follows asks nothing more. -/
theorem bind_unasked {next : α → Act σ ε β} {following : α → Act (σ × List κ) ε β}
    (first : Noted asked act recorded) (rest : ∀ a, Noted unasked (next a) (following a)) :
    Noted asked (act >>= next) (recorded >>= following) := by
  have both := first.bind rest
  intro world held
  have none : askedNext (fun _ => unasked) (outcome act world) = ([] : List κ) := by
    rcases outcome act world with ⟨fault | a, left⟩ <;> rfl
  rw [both world held]
  simp only [none, List.append_nil]

end Noted

end Questions

/-- Services that list the sources that are looked up, and for whom. -/
def Downstream.recorded {σ : Type} (services : Downstream σ) :
    Downstream (σ × List (Identity × String)) where
  build :=
    { compose := fun order => (services.build.compose order).noting []
      composeStatus := fun id => (services.build.composeStatus id).noting []
      composeMetadata := fun id => (services.build.composeMetadata id).noting []
      cloneCompose := fun id order => (services.build.cloneCompose id order).noting []
      cloneStatus := fun id => (services.build.cloneStatus id).noting []
      openapi := services.build.openapi.noting [] }
  uploadInfo := fun caller source => (services.uploadInfo caller source).noting [(caller, source)]
  repositories := fun caller urls ids external =>
    (services.repositories caller urls ids external).noting []
  snapshotsForDate := fun caller date uuids =>
    (services.snapshotsForDate caller date uuids).noting []
  policyData := fun caller major minor policy =>
    (services.policyData caller major minor policy).noting []

namespace AzureTarget

/-- A tenant and a subscription are given, and no source. -/
def Named (target : AzureTarget) (tenant subscription : String) : Prop :=
  target.sourceId = none ∧ target.tenantId = some tenant ∧
    target.subscriptionId = some subscription

/-- A source is given, and neither a tenant nor a subscription. -/
def Sourced (target : AzureTarget) (source : String) : Prop :=
  target.sourceId = some source ∧ target.tenantId = none ∧ target.subscriptionId = none

/-- A target with any other combination of the three identifiers. -/
def Confused (target : AzureTarget) : Prop :=
  (∀ tenant subscription, ¬ target.Named tenant subscription) ∧ ∀ source, ¬ target.Sourced source

theorem cases_of_identifiers (target : AzureTarget) :
    (∃ tenant subscription, target.Named tenant subscription) ∨
      (∃ source, target.Sourced source) ∨ target.Confused := by
  by_cases named : ∃ tenant subscription, target.Named tenant subscription
  · exact .inl named
  · by_cases sourced : ∃ source, target.Sourced source
    · exact .inr (.inl sourced)
    · refine .inr (.inr ⟨?_, not_exists.mp sourced⟩)
      intro tenant subscription given
      exact named ⟨tenant, subscription, given⟩

end AzureTarget

namespace UploadTarget

variable {σ : Type} {services : Downstream σ} {caller : Identity}

/-! ## Sources that are looked up -/

/-- The sources that are reached in a world: all up to the first that has no account. -/
def reached (services : Downstream σ) (caller : Identity) : List String → σ → List String
  | [], _ => []
  | source :: rest, world =>
      source :: match outcome (awsAccount services caller source) world with
        | (.ok _, left) => reached services caller rest left
        | (.error _, _) => []

/-- If all sources have accounts, all are reached. -/
theorem reached_of_ok {sources accounts : List String} {world left : σ}
    (done : outcome (sources.mapM (awsAccount services caller)) world = (.ok accounts, left)) :
    reached services caller sources world = sources := by
  induction sources generalizing world left accounts with
  | nil => rfl
  | cons source rest ih =>
      rw [List.mapM_cons] at done
      obtain ⟨account, middle, first, done⟩ := outcome_bind_eq_ok done
      obtain ⟨others, _, later, -⟩ := outcome_bind_eq_ok done
      unfold reached
      rw [first]
      simp only [ih later]

variable (services caller) in
theorem lookUp_noted (source : String) :
    Noted (fun _ => [(caller, source)]) (lookUp services caller source)
      (lookUp services.recorded caller source) :=
  (Noted.noting _ _).adapt _

variable (services caller) in
theorem awsAccount_noted (source : String) :
    Noted (fun _ => [(caller, source)]) (awsAccount services caller source)
      (awsAccount services.recorded caller source) := by
  refine (lookUp_noted services caller source).bind_unasked fun info => ?_
  split
  · split
    · exact .pure _
    · exact .throw _
  · exact .throw _

variable (services caller) in
theorem mapM_awsAccount_noted (sources : List String) :
    Noted (fun world => (reached services caller sources world).map fun source => (caller, source))
      (sources.mapM (awsAccount services caller))
      (sources.mapM (awsAccount services.recorded caller)) := by
  induction sources with
  | nil => exact .pure _
  | cons source rest ih =>
      rw [List.mapM_cons, List.mapM_cons]
      have both := (awsAccount_noted services caller source).bind
        fun account => ih.bind_unasked fun accounts => .pure (account :: accounts)
      intro world held
      rw [both world held]
      simp only [reached]
      rcases outcome (awsAccount services caller source) world with ⟨fault | account, left⟩ <;> rfl

theorem awsAccounts_noted (accounts sources : Option (List String)) :
    Noted (fun world => (reached services caller (sources.getD []) world).map
        fun source => (caller, source))
      (awsAccounts services caller accounts sources)
      (awsAccounts services.recorded caller accounts sources) := by
  have each := (mapM_awsAccount_noted services caller (sources.getD [])).bind_unasked
    fun found => .pure (accounts.getD [] ++ found)
  refine .ite (fun nobody => ?_) fun _ => each
  have none : sources.getD [] = [] := by
    simpa using (Bool.and_eq_true_iff.mp nobody).2
  have silent : (fun world => (reached services caller (sources.getD []) world).map
      fun source => (caller, source)) = unasked := by
    funext world
    rw [none]
    rfl
  rw [silent]
  exact .throw_bind _ _ _

def loneSource (target : AzureTarget) : List String :=
  match target.sourceId, target.tenantId, target.subscriptionId with
  | some source, none, none => [source]
  | _, _, _ => []

/-- The sources that are looked up for a target in a world: for EC2 those that are
reached, for Azure the one that is given alone, and no others. -/
def lookups (services : Downstream σ) (caller : Identity) (type : ImageType) :
    UploadTarget → σ → List String
  | .aws target, world =>
      if type.isAws then reached services caller (target.shareWithSources.getD []) world else []
  | .azure target, _ => if type.isAzure then loneSource target else []
  | .awsS3, _ => []
  | .gcp _, _ => []
  | .oci, _ => []

section Azure

variable {target : AzureTarget} {source tenant subscription : String}

theorem azurePlace_named (given : target.Named tenant subscription) :
    azurePlace services caller target = pure (tenant, subscription) := by
  obtain ⟨sourceless, tenantGiven, subscriptionGiven⟩ := given
  unfold azurePlace
  rw [sourceless, tenantGiven, subscriptionGiven]

theorem azurePlace_sourced (given : target.Sourced source) :
    azurePlace services caller target = (do
      let info ← lookUp services caller source
      match info.azure.bind (·.tenantId), info.azure.bind (·.subscriptionId) with
      | some tenant, some subscription => return (tenant, subscription)
      | _, _ => throw (.azureSourceUnresolved source)) := by
  obtain ⟨sourceGiven, tenantless, subscriptionless⟩ := given
  obtain ⟨⟩ := target
  cases sourceGiven
  cases tenantless
  cases subscriptionless
  rfl

theorem azurePlace_confused (confused : target.Confused) :
    azurePlace services caller target = throw .azureTarget := by
  obtain ⟨unnamed, unsourced⟩ := confused
  unfold azurePlace
  split
  · rename_i tenant subscription sourceless tenantGiven subscriptionGiven
    exact absurd ⟨sourceless, tenantGiven, subscriptionGiven⟩ (unnamed tenant subscription)
  · rename_i source sourceGiven tenantless subscriptionless
    exact absurd ⟨sourceGiven, tenantless, subscriptionless⟩ (unsourced source)
  · rfl

theorem loneSource_named (given : target.Named tenant subscription) : loneSource target = [] := by
  obtain ⟨sourceless, -⟩ := given
  unfold loneSource
  rw [sourceless]

theorem loneSource_sourced (given : target.Sourced source) : loneSource target = [source] := by
  obtain ⟨sourceGiven, tenantless, subscriptionless⟩ := given
  unfold loneSource
  rw [sourceGiven, tenantless, subscriptionless]

theorem loneSource_confused (confused : target.Confused) : loneSource target = [] := by
  unfold loneSource
  split
  · rename_i source sourceGiven tenantless subscriptionless
    exact absurd ⟨sourceGiven, tenantless, subscriptionless⟩ (confused.2 source)
  · rfl

end Azure

theorem azurePlace_noted (target : AzureTarget) :
    Noted (fun _ => (loneSource target).map fun source => (caller, source))
      (azurePlace services caller target) (azurePlace services.recorded caller target) := by
  rcases target.cases_of_identifiers with ⟨_, _, named⟩ | ⟨source, sourced⟩ | confused
  · rw [loneSource_named named, azurePlace_named named, azurePlace_named named]
    exact .pure _
  · rw [loneSource_sourced sourced, azurePlace_sourced sourced, azurePlace_sourced sourced]
    refine (lookUp_noted services caller _).bind_unasked fun info => ?_
    split
    · exact .pure _
    · exact .throw _
  · rw [loneSource_confused confused, azurePlace_confused confused, azurePlace_confused confused]
    exact .throw _

/-- What is asked on the way to an answer are the look-ups, in their order. -/
theorem resolve_noted (settings : UploadSettings) (type : ImageType) (target : UploadTarget) :
    Noted (fun world => (lookups services caller type target world).map
        fun source => (caller, source))
      (resolve services caller settings type target)
      (resolve services.recorded caller settings type target) := by
  cases target with
  | aws target =>
      cases fits : type.isAws with
      | false =>
          simp only [resolve, lookups, fits]
          exact .throw_bind _ _ _
      | true =>
          simp only [resolve, lookups, fits]
          exact (awsAccounts_noted _ _).bind_unasked fun accounts => .pure _
  | awsS3 =>
      simp only [resolve]
      cases s3Kind? type with
      | some kind => exact .pure _
      | none => exact .throw _
  | gcp target => exact .ite (fun _ => .pure _) fun _ => .throw _
  | azure target =>
      cases fits : type.isAzure with
      | false =>
          simp only [resolve, lookups, fits]
          exact .throw_bind _ _ _
      | true =>
          simp only [resolve, lookups, fits]
          exact (azurePlace_noted target).bind_unasked fun place => .pure _
  | oci => exact .ite (fun _ => .pure _) fun _ => .throw _

/-! ## Targets that are supported -/

def deliverables : List (ImageType × Build.ImageKind) :=
  [(.edgeCommit, .edgeCommit), (.edgeInstaller, .edgeInstaller),
    (.rhelEdgeCommit, .edgeCommit), (.rhelEdgeInstaller, .edgeInstaller),
    (.guestImage, .guestImage), (.imageInstaller, .imageInstaller),
    (.vsphere, .vsphere), (.vsphereOva, .vsphereOva), (.wsl, .wsl)]

theorem s3Kind?_eq_some_iff {type : ImageType} {kind : Build.ImageKind} :
    s3Kind? type = some kind ↔ (type, kind) ∈ deliverables := by
  cases type <;> simp [s3Kind?, deliverables, eq_comm]

/-- A target that is supported for an image type: what is sent for it, what is made, and
the world that is left.  The tenant and the subscription of Azure are both the caller's,
or both from one answer. -/
inductive Supported (services : Downstream σ) (caller : Identity) (settings : UploadSettings)
    (world : σ) : UploadTarget → ImageType → Build.Upload → Build.ImageKind → σ → Prop where
  | aws {target : AwsTarget} {type : ImageType} {accounts : List String} {left : σ}
      (fits : type = .aws ∨ type = .ami)
      (shared : outcome (awsAccounts services caller target.shareWithAccounts
        target.shareWithSources) world = (.ok accounts, left)) :
      Supported services caller settings world (.aws target) type
        (.aws ⟨settings.awsRegion, accounts⟩) .aws left
  | awsS3 {type : ImageType} {kind : Build.ImageKind} (fits : (type, kind) ∈ deliverables) :
      Supported services caller settings world .awsS3 type (.awsS3 settings.awsRegion) kind world
  | gcp (target : GcpTarget) :
      Supported services caller settings world (.gcp target) .gcp
        (.gcp ⟨settings.gcpRegion, settings.gcpBucket, target.shareWithAccounts⟩) .gcp world
  | oci : Supported services caller settings world .oci .oci .oci .oci world
  | azureNamed {target : AzureTarget} {type : ImageType} {tenant subscription : String}
      (fits : type = .azure ∨ type = .vhd) (given : target.Named tenant subscription) :
      Supported services caller settings world (.azure target) type
        (.azure ⟨tenant, subscription, target.resourceGroup, target.imageName,
          target.hyperVGeneration⟩) .azure world
  | azureSource {target : AzureTarget} {type : ImageType} {source tenant subscription : String}
      {info : UploadInfo} {account : AzureAccount} {left : σ}
      (fits : type = .azure ∨ type = .vhd) (given : target.Sourced source)
      (answered : outcome (services.uploadInfo caller source) world = (.ok info, left))
      (known : info.azure = some account) (tenantKnown : account.tenantId = some tenant)
      (subscriptionKnown : account.subscriptionId = some subscription) :
      Supported services caller settings world (.azure target) type
        (.azure ⟨tenant, subscription, target.resourceGroup, target.imageName,
          target.hyperVGeneration⟩) .azure left

variable {settings : UploadSettings} {type : ImageType} {world left : σ}

theorem isAws_iff : type.isAws = true ↔ type = .aws ∨ type = .ami := by
  simp [ImageType.isAws]

theorem isAzure_iff : type.isAzure = true ↔ type = .azure ∨ type = .vhd := by
  simp [ImageType.isAzure]

/-- A source is looked up if the provisioning service answers. -/
theorem lookUp_ok_iff {source : String} {info : UploadInfo} :
    outcome (lookUp services caller source) world = (.ok info, left) ↔
      outcome (services.uploadInfo caller source) world = (.ok info, left) :=
  outcome_adapt_ok_iff

/-- The place that a source stands for is told by one answer. -/
theorem azurePlace_ok_iff {target : AzureTarget} {source tenant subscription : String}
    (given : target.Sourced source) :
    outcome (azurePlace services caller target) world = (.ok (tenant, subscription), left) ↔
      ∃ info account, outcome (services.uploadInfo caller source) world = (.ok info, left) ∧
        info.azure = some account ∧ account.tenantId = some tenant ∧
        account.subscriptionId = some subscription := by
  rw [azurePlace_sourced given]
  constructor
  · intro done
    obtain ⟨info, middle, looked, placed⟩ := outcome_bind_eq_ok done
    split at placed
    · rename_i tenant' subscription' tenantKnown subscriptionKnown
      cases placed
      obtain ⟨account, known, sameTenant⟩ := Option.bind_eq_some_iff.mp tenantKnown
      rw [known] at subscriptionKnown
      exact ⟨info, account, lookUp_ok_iff.mp looked, known, sameTenant, subscriptionKnown⟩
    · cases placed
  · rintro ⟨info, account, answered, known, tenantKnown, subscriptionKnown⟩
    rw [outcome_bind_ok (lookUp_ok_iff.mpr answered)]
    simp only [known, Option.bind_some, tenantKnown, subscriptionKnown]
    rfl

theorem resolve_aws (fits : type.isAws = true) (target : AwsTarget) :
    resolve services caller settings type (.aws target) = (do
      let accounts ← awsAccounts services caller target.shareWithAccounts target.shareWithSources
      return (.aws ⟨settings.awsRegion, accounts⟩, .aws)) := by
  simp only [resolve, fits]
  rfl

theorem resolve_azure (fits : type.isAzure = true) (target : AzureTarget) :
    resolve services caller settings type (.azure target) = (do
      let place ← azurePlace services caller target
      return (.azure ⟨place.1, place.2, target.resourceGroup, target.imageName,
        target.hyperVGeneration⟩, .azure)) := by
  simp only [resolve, fits]
  rfl

/-- A target of EC2 or Azure does not go with other image types. -/
theorem resolve_unfit {target : UploadTarget}
    (unfit : (∃ aws, target = .aws aws ∧ type.isAws = false) ∨
      ∃ azure, target = .azure azure ∧ type.isAzure = false) :
    outcome (resolve services caller settings type target) world =
      (.error .invalidImageType, world) := by
  rcases unfit with ⟨aws, rfl, other⟩ | ⟨azure, rfl, other⟩
  · simp only [resolve, other]
    rfl
  · simp only [resolve, other]
    rfl

variable {upload : Build.Upload} {kind : Build.ImageKind}

/-- What is sent is what is supported. -/
theorem supported_of_resolve {target : UploadTarget}
    (done : outcome (resolve services caller settings type target) world =
      (.ok (upload, kind), left)) :
    Supported services caller settings world target type upload kind left := by
  cases target with
  | aws target =>
      cases fits : type.isAws with
      | false =>
          rw [resolve_unfit (.inl ⟨target, rfl, fits⟩)] at done
          cases done
      | true =>
          rw [resolve_aws fits] at done
          obtain ⟨accounts, _, shared, made⟩ := outcome_bind_eq_ok done
          cases made
          exact .aws (isAws_iff.mp fits) shared
  | awsS3 =>
      simp only [resolve] at done
      split at done
      · rename_i kind fits
        cases done
        exact .awsS3 (s3Kind?_eq_some_iff.mp fits)
      · cases done
  | gcp target =>
      simp only [resolve] at done
      split at done
      · rename_i fits
        cases fits
        cases done
        exact .gcp target
      · cases done
  | azure target =>
      cases fits : type.isAzure with
      | false =>
          rw [resolve_unfit (.inr ⟨target, rfl, fits⟩)] at done
          cases done
      | true =>
          rw [resolve_azure fits] at done
          obtain ⟨⟨tenant, subscription⟩, _, placed, made⟩ := outcome_bind_eq_ok done
          cases made
          rcases target.cases_of_identifiers with ⟨_, _, named⟩ | ⟨source, sourced⟩ | confused
          · rw [azurePlace_named named] at placed
            cases placed
            exact .azureNamed (isAzure_iff.mp fits) named
          · obtain ⟨info, account, answered, known, tenantKnown, subscriptionKnown⟩ :=
              (azurePlace_ok_iff sourced).mp placed
            exact .azureSource (isAzure_iff.mp fits) sourced answered known tenantKnown
              subscriptionKnown
          · rw [azurePlace_confused confused] at placed
            cases placed
  | oci =>
      simp only [resolve] at done
      split at done
      · rename_i fits
        cases fits
        cases done
        exact .oci
      · cases done

/-- What is supported is sent. -/
theorem Supported.resolve {target : UploadTarget}
    (supported : Supported services caller settings world target type upload kind left) :
    outcome (UploadTarget.resolve services caller settings type target) world =
      (.ok (upload, kind), left) := by
  cases supported with
  | aws fits shared => rw [resolve_aws (isAws_iff.mpr fits), outcome_bind_ok shared, outcome_pure]
  | awsS3 fits =>
      simp only [UploadTarget.resolve]
      rw [s3Kind?_eq_some_iff.mpr fits]
      rfl
  | gcp target => rfl
  | oci => rfl
  | azureNamed fits given =>
      rw [resolve_azure (isAzure_iff.mpr fits), azurePlace_named given]
      rfl
  | azureSource fits given answered known tenantKnown subscriptionKnown =>
      have placed := (azurePlace_ok_iff given).mpr
        ⟨_, _, answered, known, tenantKnown, subscriptionKnown⟩
      rw [resolve_azure (isAzure_iff.mpr fits), outcome_bind_ok placed, outcome_pure]

/-- Upload resolution accepts exactly the targets that are supported.  An Azure target
with any other identifiers is refused in fixed words, and beside a list of questions
nothing is asked but the look-ups of the target. -/
theorem resolve_exact (services : Downstream σ) (caller : Identity) (settings : UploadSettings)
    (type : ImageType) (target : UploadTarget) (world : σ) :
    (∀ upload kind left,
      outcome (resolve services caller settings type target) world = (.ok (upload, kind), left) ↔
        Supported services caller settings world target type upload kind left) ∧
      (∀ azure : AzureTarget, target = .azure azure → type = .azure ∨ type = .vhd →
        azure.Confused →
        outcome (resolve services caller settings type target) world =
            (.error .azureTarget, world) ∧
          UploadFault.azureTarget.message =
            "Request must contain either (1) a source id, and no tenant or subscription ids or " ++
              "(2) tenant and subscription ids, and no source id.") ∧
      (∀ held, outcome (resolve services.recorded caller settings type target) (world, held) =
        ((outcome (resolve services caller settings type target) world).1,
          ((outcome (resolve services caller settings type target) world).2,
            held ++ (lookups services caller type target world).map
              fun source => (caller, source)))) := by
  refine ⟨fun upload kind left => ⟨supported_of_resolve, Supported.resolve⟩, ?_, ?_⟩
  · rintro azure rfl fits confused
    constructor
    · rw [resolve_azure (isAzure_iff.mpr fits), azurePlace_confused confused]
      rfl
    · rfl
  · exact resolve_noted settings type target world

/-- Services of which only the provisioning service answers: it knows an EC2 account of
the source `1`, and a tenant and a subscription of the source `2`. -/
def provisioned : Downstream Unit :=
  { Downstream.unreachable with
    uploadInfo := fun _ source =>
      if source = "1" then pure ⟨some ⟨some "123456789012"⟩, none⟩
      else if source = "2" then pure ⟨none, some ⟨some "tenant", some "subscription", none⟩⟩
      else throw .http }

theorem resolve_exact_provisioned :
    let caller : Identity := ⟨"1", "", "", "User", [], ""⟩
    let settings : UploadSettings := ⟨"us-east-1", "us-east4", none⟩
    let shared : UploadTarget := .aws ⟨none, some ["1", "2", "1"]⟩
    let placed : UploadTarget := .azure ⟨some "2", none, none, "group", none, none⟩
    let confused : UploadTarget := .azure ⟨some "2", some "tenant", none, "group", none, none⟩
    Supported provisioned caller settings () placed .vhd
        (.azure ⟨"tenant", "subscription", "group", none, none⟩) .azure () ∧
      (outcome (resolve provisioned.recorded caller settings .ami shared) ((), [])).2.2 =
        [(caller, "1"), (caller, "2")] ∧
      outcome (resolve provisioned caller settings .azure confused) () =
        (.error .azureTarget, ()) := by
  intro caller settings shared placed confused
  obtain ⟨supported, -, -⟩ := resolve_exact provisioned caller settings .vhd placed ()
  obtain ⟨-, -, asked⟩ := resolve_exact provisioned caller settings .ami shared ()
  obtain ⟨-, refused, -⟩ := resolve_exact provisioned caller settings .azure confused ()
  refine ⟨(supported _ _ _).mp rfl, ?_, ?_⟩
  · rw [asked []]
    decide
  · refine (refused _ rfl (.inl rfl) ⟨?_, ?_⟩).1
    · rintro tenant subscription ⟨sourceless, -⟩
      cases sourceless
    · rintro source ⟨-, tenantless, -⟩
      cases tenantless

end UploadTarget

end ComposeDesk
