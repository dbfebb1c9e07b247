import ComposeDesk.Proofs.Drafting
import ComposeDesk.Proofs.Race
import ComposeDesk.Proofs.Resubmission

/-!
# Making a blueprint and updating one

A blueprint is made under one rule on its users and updated under another one, which
looks at the stored users too.  Where no stored user has the name of a given one, both
rules say the same, and what is stored is the same but for salts and for empty
credentials: a blueprint is made with them, and an update takes them away.
-/

namespace ComposeDesk

variable {σ : Type}

/-- No stored user has the name of a given one. -/
def Apart (users stored : List User) : Prop :=
  ∀ user ∈ users, ∀ held ∈ stored, held.name ≠ user.name

namespace User

variable {user : User} {stored : List User}

theorem completed_of_apart (apart : ∀ held ∈ stored, held.name ≠ user.name) :
    user.completed stored = user := by
  have none : stored.find? (·.name = user.name) = none := by
    rw [List.find?_eq_none]
    intro held member
    simpa using apart held member
  unfold completed
  rw [none]

/-- Without a stored user of the name, a merge applies the rule on new users, and then
takes empty credentials away. -/
theorem mergeForUpdate_of_apart (apart : ∀ held ∈ stored, held.name ≠ user.name) :
    user.mergeForUpdate stored = user.validate.map User.withoutEmpty := by
  rw [mergeForUpdate_eq, completed_of_apart apart]
  unfold validate
  rw [withoutEmpty_isValid]
  split <;> rfl

/-- A user without empty credentials has none to be taken away. -/
theorem withoutEmpty_of_filled (password : user.password ≠ some "") (key : user.sshKey ≠ some "") :
    user.withoutEmpty = user := by
  unfold withoutEmpty
  rw [if_neg password, if_neg key]

end User

theorem Customizations.withoutEmpty_of_filled {customizations : Customizations}
    (filled : ∀ user ∈ customizations.users.getD [], user.withoutEmpty = user) :
    customizations.withoutEmpty = customizations := by
  have same : customizations.users.map (·.map User.withoutEmpty) = customizations.users := by
    cases held : customizations.users with
    | none => rfl
    | some users =>
        rw [held, Option.getD_some] at filled
        rw [Option.map_some, List.map_congr_left filled, List.map_id']
  unfold withoutEmpty
  rw [same]

/-- Of several users the first that is not valid is complained about. -/
theorem mapM_mergeForUpdate_of_apart {users stored : List User} (apart : Apart users stored) :
    users.mapM (·.mergeForUpdate stored) =
      match users.find? (!·.isValid) with
      | some user => .error user.complaint
      | none => .ok (users.map User.withoutEmpty) := by
  induction users with
  | nil => rfl
  | cons user rest ih =>
      obtain ⟨first, later⟩ := List.forall_mem_cons.mp apart
      rw [List.mapM_cons, User.mergeForUpdate_of_apart first, ih later, List.find?_cons]
      unfold User.validate
      cases user.isValid with
      | false => rfl
      | true =>
          cases rest.find? (!·.isValid) <;> rfl

namespace Desk

/-- New users are complained about in the same way. -/
theorem checkUsers_eq_find (customizations : Customizations) :
    checkUsers customizations =
      match (customizations.users.getD []).find? (!·.isValid) with
      | some user => .error (.validation user.complaint)
      | none => .ok () := by
  unfold checkUsers
  generalize customizations.users.getD [] = users
  induction users with
  | nil => rfl
  | cons user rest ih =>
      rw [List.forM_eq_forM] at ih ⊢
      rw [List.forM_cons, ih, List.find?_cons]
      unfold User.validate
      cases user.isValid with
      | false => rfl
      | true =>
          cases rest.find? (!·.isValid) <;> rfl

/-- What is merged apart from stored users passes the rule on new users. -/
theorem mergedUsers_of_apart {customizations : Customizations} {stored : List User}
    (apart : Apart (customizations.users.getD []) stored) :
    mergedUsers stored customizations =
      (checkUsers customizations).map fun _ => customizations.withoutEmpty := by
  rw [checkUsers_eq_find]
  unfold mergedUsers Customizations.withoutEmpty
  cases held : customizations.users with
  | none =>
      obtain ⟨⟩ := customizations
      cases held
      rfl
  | some users =>
      rw [held, Option.getD_some] at apart
      simp only [mapM_mergeForUpdate_of_apart apart, Option.getD_some]
      cases users.find? (!·.isValid) <;> rfl

end Desk

def BlueprintRequest.objection (request : BlueprintRequest) : Except Error Unit := do
  Desk.checkName request.name
  Desk.checkUsers request.customizations

/-- All objections are told as faults of the request. -/
theorem BlueprintRequest.objection_error {request : BlueprintRequest} {error : Error}
    (told : request.objection = .error error) : ∃ text, error = .validation text := by
  unfold objection at told
  rcases named : Desk.checkName request.name with fault | _
  · rw [named] at told
    cases told
    unfold Desk.checkName at named
    split at named
    · cases named
      exact ⟨_, rfl⟩
    · cases named
  · rw [named] at told
    change Desk.checkUsers request.customizations = _ at told
    rw [Desk.checkUsers_eq_find] at told
    split at told
    · cases told
      exact ⟨_, rfl⟩
    · cases told

namespace Desk

variable {desk : Desk σ} {caller : Identity}

/-- A new blueprint is drafted from the request as it is. -/
theorem outcome_drafting (desk : Desk σ) (request : BlueprintRequest) (state : DeskState σ) :
    outcome (desk.drafting request) state =
      match request.objection with
      | .error error => (.error error, state)
      | .ok _ =>
          (.ok (draftOf request (desk.cryptPasswords request.customizations state.world).1),
            { state with
              world := (desk.cryptPasswords request.customizations state.world).2 }) := by
  unfold drafting BlueprintRequest.objection
  rcases checkName request.name with error | _
  · rfl
  · rcases checkUsers request.customizations with error | _ <;> rfl

/-- Apart from the stored users, an update is drafted from the request without empty
credentials. -/
theorem outcome_draftUpdate_of_apart (desk : Desk σ) {id : Uuid} {request : BlueprintRequest}
    {state : DeskState σ} {entry : BlueprintEntry} {stored : BlueprintBody}
    (found : state.store.getBlueprint id caller.org none = .ok entry)
    (body : storedBody entry = .ok stored) (apart : Apart request.body.users stored.users) :
    outcome (desk.draftUpdate caller id request) state =
      match request.objection with
      | .error error => (.error error, state)
      | .ok _ =>
          (.ok (draftOf request
              (desk.cryptPasswords request.customizations.withoutEmpty state.world).1),
            { state with world :=
                (desk.cryptPasswords request.customizations.withoutEmpty state.world).2 }) := by
  have merged : mergedUsers (stored.customizations.users.getD []) request.customizations =
      (checkUsers request.customizations).map fun _ => request.customizations.withoutEmpty :=
    mergedUsers_of_apart apart
  have read : outcome (Work.of (storedBody entry) : Work σ BlueprintBody) state =
      (.ok stored, state) := Prod.ext body rfl
  unfold draftUpdate BlueprintRequest.objection
  rcases checkName request.name with error | _
  · rfl
  · have name : outcome (Work.of (.ok ()) : Work σ Unit) state = (.ok (), state) := rfl
    rw [outcome_bind_ok name, outcome_bind_ok (outcome_blueprintOf found), outcome_bind_ok read,
      merged]
    rcases checkUsers request.customizations with error | _ <;> rfl

/-! ## Hashes -/

section Hashing

variable (hashes : ∀ password world, "$6$".toList <+: (desk.crypt password world).1.toList)
include hashes

/-- A password that is not empty is stored as one that is not, the same but for salts
whenever it is stored. -/
theorem secure_tally {password : String} (some : password ≠ "") :
    Tally (fun _ _ => True) (fun kept made => desk.Salted kept made ∧ made ≠ "")
      (desk.secure password) (desk.secure password) := by
  intro left right bound
  obtain ⟨salted, -⟩ := salted_secures hashes password password (.refl password) left right bound
  refine ⟨⟨salted, ?_⟩, trivial⟩
  unfold secure
  split
  · exact some
  · exact (isHash_crypt hashes password right).ne_empty

/-- Hashing makes the same of a user before and after empty credentials are taken
away. -/
theorem cryptUser_withoutEmpty (user : User) :
    Tally (fun _ _ => True) (fun kept made => kept.Like desk.Salted made.withoutEmpty)
      (desk.cryptUser user.withoutEmpty) (desk.cryptUser user) := by
  obtain ⟨name, groups, key, password⟩ := user
  rw [cryptUser_eq, cryptUser_eq]
  cases password with
  | none => exact .pure (.refl Salted.refl _)
  | some password =>
      by_cases empty : password = ""
      · subst empty
        exact .pure (.refl Salted.refl _)
      · have kept : (User.mk name groups key (some password)).withoutEmpty.password =
            some password := User.withoutEmpty_password rfl empty
        rw [kept]
        refine .bind (secure_tally hashes empty) ?_
        rintro hash other ⟨salted, filled⟩
        have made : (User.mk name groups key (some other)).withoutEmpty.password = some other :=
          User.withoutEmpty_password rfl filled
        refine .pure ⟨rfl, ?_⟩
        rw [made]
        exact .some salted

theorem cryptPasswords_withoutEmpty (customizations : Customizations) :
    Tally (fun _ _ => True) (fun kept made => kept.Like desk.Salted made.withoutEmpty)
      (desk.cryptPasswords customizations.withoutEmpty) (desk.cryptPasswords customizations) := by
  unfold cryptPasswords
  cases held : customizations.users with
  | none =>
      have none : customizations.withoutEmpty.users = .none := by
        rw [Customizations.withoutEmpty, held]
        rfl
      rw [none]
      exact .pure (.refl Salted.refl _)
  | some users =>
      have some : customizations.withoutEmpty.users = .some (users.map User.withoutEmpty) := by
        rw [Customizations.withoutEmpty, held]
        rfl
      have each : (users.map User.withoutEmpty).Forall₂ (fun kept user => kept = user.withoutEmpty)
          users :=
        List.forall₂_map_left_iff.mpr (List.forall₂_same.mpr fun _ _ => rfl)
      have hashed : Tally (fun _ _ => True)
          (List.Forall₂ fun kept made => kept.Like desk.Salted made.withoutEmpty)
          ((users.map User.withoutEmpty).mapM desk.cryptUser) (users.mapM desk.cryptUser) := by
        refine .mapM ?_ each
        rintro _ user rfl
        exact cryptUser_withoutEmpty hashes user
      rw [some]
      refine hashed.bind fun kept made all => .pure ⟨rfl, ?_⟩
      exact .some (List.forall₂_map_right_iff.mpr all)

/-- Hashing leaves no empty credentials where there were none. -/
theorem Crypts.withoutEmpty {user kept : User} (crypts : desk.Crypts user kept)
    (password : user.password ≠ some "") (key : user.sshKey ≠ some "") :
    kept.withoutEmpty = kept := by
  rcases crypts.cases with ⟨rfl, -⟩ | ⟨plain, world, -, -, -, rfl⟩
  · exact User.withoutEmpty_of_filled password key
  · apply User.withoutEmpty_of_filled
    · intro empty
      exact (isHash_crypt hashes plain world).ne_empty (Option.some.inj empty)
    · exact key

theorem cryptPasswords_filled {customizations : Customizations}
    (filled : ∀ user ∈ customizations.users.getD [],
      user.password ≠ some "" ∧ user.sshKey ≠ some "") (world : σ) :
    (desk.cryptPasswords customizations world).1.withoutEmpty =
      (desk.cryptPasswords customizations world).1 := by
  apply Customizations.withoutEmpty_of_filled
  have both := (List.forall₂_and_left _ _).mpr
    ⟨filled, cryptPasswords_crypts desk customizations world⟩
  exact forall_of_forall₂ (fun _ _ one => one.2.withoutEmpty hashes one.1.1 one.1.2) both

end Hashing

/-- A call stores a version with a body, of the blueprint `target` if there is one and of a
new one otherwise, unless its name is taken. -/
inductive Stores (caller : Identity) (name : String) (target : Option Uuid) (body : BlueprintBody)
    (before : Store) : Except Error Operation.Answer × DeskState σ → Prop where
  | added {id : Uuid} {version : VersionRow} {left : DeskState σ}
      (versions : left.store.versions = before.versions ++ [version])
      (home : version.blueprintId = id) (aimed : ∀ own ∈ target, id = own)
      (document : version.body = BlueprintBody.codec.write body) :
      Stores caller name target body before (.ok (.created ⟨id⟩), left)
  | taken {left : DeskState σ} (held : before.isTaken caller.org name target = true)
      (kept : left.store = before) :
      Stores caller name target body before
        (.error (.conflict (StoreFault.nameTaken name).message), left)

section Calls

variable {state left : DeskState σ} {request : BlueprintRequest} {draft : BlueprintDraft}

/-- The identifiers and the time of a new blueprint come from outside. -/
theorem outcome_creation (caller : Identity)
    (drafted : outcome (desk.drafting request) state = (.ok draft, left)) :
    ∃ id versionId now world, outcome (desk.creation caller request) state =
      (.ok (writeOf caller id versionId draft, now), { left with world }) := by
  refine ⟨(desk.drawId left.world).1, (desk.drawId (desk.drawId left.world).2).1,
    (desk.now (desk.drawId (desk.drawId left.world).2).2).1,
    (desk.now (desk.drawId (desk.drawId left.world).2).2).2, ?_⟩
  rw [creation, outcome_bind_ok drafted]
  rfl

theorem createBlueprint_refused (caller : Identity) {error : Error}
    (refused : outcome (desk.drafting request) state = (.error error, left)) :
    outcome (desk.perform caller (.createBlueprint request)) state = (.error error, left) := by
  have planned : outcome (desk.creation caller request) state = (.error error, left) :=
    outcome_bind_error refused _
  rw [perform, createBlueprint_eq_commit]
  exact outcome_map_error (Work.outcome_commit_error planned) _

theorem updateBlueprint_refused {id : Uuid} {error : Error}
    (refused : outcome (desk.draftUpdate caller id request) state = (.error error, left)) :
    outcome (desk.perform caller (.updateBlueprint id request)) state = (.error error, left) := by
  rw [perform, updateBlueprint]
  exact outcome_map_error (outcome_bind_error refused _) _

/-- What is drafted of a new blueprint is stored. -/
theorem createBlueprint_stores (drafted : outcome (desk.drafting request) state = (.ok draft, left))
    (kept : left.store = state.store) :
    Stores caller draft.name none draft.body state.store
      (outcome (desk.perform caller (.createBlueprint request)) state) := by
  obtain ⟨id, versionId, now, world, planned⟩ := outcome_creation caller drafted
  rw [perform, outcome_map, createBlueprint_eq_commit, Work.outcome_commit, planned]
  simp only [silently, Store.insertBlueprint_eq, kept]
  by_cases held : state.store.isTaken caller.org draft.name none = true
  · have taken : state.store.isTaken (writeOf caller id versionId draft).org
        (writeOf caller id versionId draft).name none = true := held
    rw [if_pos taken]
    exact .taken held rfl
  · have free : ¬ state.store.isTaken (writeOf caller id versionId draft).org
        (writeOf caller id versionId draft).name none = true := held
    rw [if_neg free]
    exact .added rfl rfl (by simp) rfl

/-- What is drafted of an update of an own blueprint is stored. -/
theorem updateBlueprint_stores {id : Uuid}
    (drafted : outcome (desk.draftUpdate caller id request) state = (.ok draft, left))
    (kept : left.store = state.store)
    (owned : state.store.ownsBlueprint id caller.org caller.account = true) :
    Stores caller draft.name (some id) draft.body state.store
      (outcome (desk.perform caller (.updateBlueprint id request)) state) := by
  obtain ⟨versionId, now, world, written⟩ := outcome_writeUpdate desk caller id draft left
  have owns : state.store.ownsBlueprint (writeOf caller id versionId draft).id
      (writeOf caller id versionId draft).org (writeOf caller id versionId draft).account = true :=
    owned
  rw [kept, Store.updateBlueprint_eq, owns] at written
  rw [perform, outcome_map, updateBlueprint, outcome_bind_ok drafted]
  by_cases held : state.store.isTaken caller.org draft.name (some id) = true
  · have taken : state.store.isTaken (writeOf caller id versionId draft).org
        (writeOf caller id versionId draft).name (some (writeOf caller id versionId draft).id) =
          true := held
    rw [if_pos taken] at written
    rw [outcome_bind_error written]
    exact .taken held rfl
  · have free : ¬ state.store.isTaken (writeOf caller id versionId draft).org
        (writeOf caller id versionId draft).name (some (writeOf caller id versionId draft).id) =
          true := held
    rw [if_neg free] at written
    rw [outcome_bind_ok written]
    exact .added rfl rfl (by simp) rfl

end Calls

/-- The body is that of the version that was added. -/
theorem Stores.body_eq {caller : Identity} {name : String} {target : Option Uuid}
    {body known : BlueprintBody} {before : Store}
    {result : Except Error Operation.Answer × DeskState σ} {answer : Operation.Answer}
    {version : VersionRow} (stores : Stores caller name target body before result)
    (accepted : result.1 = .ok answer)
    (versions : result.2.store.versions = before.versions ++ [version])
    (document : version.body = BlueprintBody.codec.write known) : body = known := by
  cases stores with
  | taken held kept => cases accepted
  | @added _ other _ added home aimed written =>
      obtain rfl : other = version :=
        List.singleton_inj.mp (List.append_cancel_left (added.symm.trans versions))
      exact BlueprintBody.codec_sound.injective (written.symm.trans document)

/-! ## Both ways -/

variable {state : DeskState σ} {row : BlueprintRow} {request : BlueprintRequest}

/-- Bodies that are the same but for salts, where `kept` has none of the empty credentials
that `made` may have; it is no different if none were given. -/
def AlikeButEmpty (desk : Desk σ) (request : BlueprintRequest) (kept made : BlueprintBody) : Prop :=
  kept.Like desk.Salted made.withoutEmpty ∧
    ((∀ user ∈ request.body.users, user.password ≠ some "" ∧ user.sshKey ≠ some "") →
      kept.Like desk.Salted made)

/-- A blueprint that is made of a request and one that is updated to it come to the same:
both calls are refused in the same words, and nothing is stored, or what the update stores
goes with what the new blueprint has. -/
def Agrees (goes : BlueprintBody → BlueprintBody → Prop) (desk : Desk σ) (state : DeskState σ)
    (caller : Identity) (id : Uuid) (request : BlueprintRequest) (first second : σ) : Prop :=
  (∃ text,
    (desk.serve state ⟨caller, .createBlueprint request, first⟩).1 = .error (.validation text) ∧
    (desk.serve state ⟨caller, .createBlueprint request, first⟩).2.store = state.store ∧
    (desk.serve state ⟨caller, .updateBlueprint id request, second⟩).1 =
      .error (.validation text) ∧
    (desk.serve state ⟨caller, .updateBlueprint id request, second⟩).2.store = state.store) ∨
  ∃ made kept,
    Stores caller request.name none made state.store
      (desk.serve state ⟨caller, .createBlueprint request, first⟩) ∧
    Stores caller request.name (some id) kept state.store
      (desk.serve state ⟨caller, .updateBlueprint id request, second⟩) ∧
    goes kept made

theorem agrees
    (hashes : ∀ password world, "$6$".toList <+: (desk.crypt password world).1.toList)
    {entry : BlueprintEntry} {stored : BlueprintBody}
    (found : state.store.getBlueprint row.id caller.org none = .ok entry)
    (body : storedBody entry = .ok stored)
    (owned : state.store.ownsBlueprint row.id caller.org caller.account = true)
    (apart : Apart request.body.users stored.users) (first second : σ) :
    desk.Agrees (desk.AlikeButEmpty request) state caller row.id request first second := by
  have drafting := outcome_drafting desk request { state with world := first }
  have draftUpdate : outcome (desk.draftUpdate caller row.id request)
      { state with world := second } = _ := outcome_draftUpdate_of_apart desk found body apart
  rcases objection : request.objection with error | _
  · rw [objection] at drafting draftUpdate
    obtain ⟨text, rfl⟩ := BlueprintRequest.objection_error objection
    have made := createBlueprint_refused caller drafting
    have kept := updateBlueprint_refused draftUpdate
    refine .inl ⟨text, ?_⟩
    unfold serve
    rw [made, kept]
    exact ⟨rfl, rfl, rfl, rfl⟩
  · rw [objection] at drafting draftUpdate
    have alike : (desk.cryptPasswords request.customizations.withoutEmpty second).1.Like desk.Salted
        (desk.cryptPasswords request.customizations first).1.withoutEmpty :=
      (cryptPasswords_withoutEmpty hashes request.customizations second first trivial).1
    refine .inr ⟨_, _, createBlueprint_stores drafting rfl,
      updateBlueprint_stores draftUpdate rfl owned, ⟨rfl, rfl, alike⟩, ?_⟩
    intro filled
    have same : (desk.cryptPasswords request.customizations first).1.withoutEmpty =
        (desk.cryptPasswords request.customizations first).1 :=
      cryptPasswords_filled hashes filled first
    rw [same] at alike
    exact ⟨rfl, rfl, alike⟩

/-- Whatever was done before, every blueprint has a latest version, and a request whose users
have other names than the users of that comes to the same, be it that its owner makes a new
blueprint of it or updates this one to it. -/
theorem counterparts_agree (desk : Desk σ)
    (hashes : ∀ password world, "$6$".toList <+: (desk.crypt password world).1.toList)
    (metrics : Metrics) (world : σ) (calls : List (Call σ)) :
    ∀ row ∈ (desk.after (start metrics world) calls).store.blueprints, ∃ version stored,
      (desk.after (start metrics world) calls).store.latest? row.id = some version ∧
      version.body = BlueprintBody.codec.write stored ∧
      ∀ (caller : Identity) (request : BlueprintRequest) (first second : σ),
        caller.org = row.org → caller.account = row.account →
        Apart request.body.users stored.users →
        desk.Agrees (desk.AlikeButEmpty request) (desk.after (start metrics world) calls) caller
          row.id request first second := by
  have titled : (desk.after (start metrics world) calls).store.Titled :=
    after_titled Store.titled_empty calls
  have legible : (desk.after (start metrics world) calls).store.Legible :=
    after_legible Store.legible_empty calls
  intro row member
  obtain ⟨version, latest⟩ := titled.latest? member
  obtain ⟨stored, document⟩ := legible.versions version (Store.latest?_mem latest).1
  refine ⟨version, stored, latest, document, ?_⟩
  intro caller request first second org account apart
  have found : (desk.after (start metrics world) calls).store.getBlueprint row.id caller.org none =
      .ok (Store.blueprintEntry row version) := by
    rw [org]
    exact Store.getBlueprint_of_chosen (titled.housed.blueprint? member) latest
  have owned := (Store.owns_of_matching titled.housed member).mpr ⟨org.symm, account.symm⟩
  exact agrees hashes found (storedBody_ok document) owned apart first second

def strangerBody (key : Option String) : BlueprintBody :=
  ⟨"rhel-9", [],
    { Customizations.empty with users := some [⟨"stranger", none, key, some "$6$secret"⟩] }⟩

def strangerRequest : BlueprintRequest :=
  ⟨"db", "", "rhel-9", [],
    { Customizations.empty with users := some [⟨"stranger", none, some "", some "secret"⟩] }⟩

theorem sealed_latest : (sealing.after (start .empty []) sealed).store.latest? (uniform 1) =
    some ⟨uniform 2, uniform 1, 1,
      BlueprintBody.codec.write (adminRequest (some "$6$secret")).body, ⟨0, 0⟩⟩ := rfl

theorem stranger_apart :
    Apart strangerRequest.body.users (adminRequest (some "$6$secret")).body.users := by
  unfold Apart
  decide

theorem counterparts_agree_stranger :
    (∀ password world, "$6$".toList <+: (sealing.crypt password world).1.toList) ∧
      sealedRow ∈ (sealing.after (start .empty []) sealed).store.blueprints ∧
      Apart strangerRequest.body.users (adminRequest (some "$6$secret")).body.users ∧
      sealing.Agrees (sealing.AlikeButEmpty strangerRequest)
        (sealing.after (start .empty []) sealed) ⟨"1", "", "", "User", [], ""⟩ (uniform 1)
        strangerRequest [uniform 3, uniform 4] [uniform 4] := by
  have member : sealedRow ∈ (sealing.after (start .empty []) sealed).store.blueprints :=
    List.mem_singleton_self sealedRow
  obtain ⟨version, stored, latest, document, agreed⟩ :=
    counterparts_agree sealing sealing_hashes .empty [] sealed sealedRow member
  cases latest.symm.trans sealed_latest
  cases BlueprintBody.codec_sound.injective document
  exact ⟨sealing_hashes, member, stranger_apart, agreed _ _ _ _ rfl rfl stranger_apart⟩

/-- The new blueprint has the empty key that was given, and the updated one has no key:
they differ in more than salts. -/
theorem empty_key_kept :
    sealedRow ∈ (sealing.after (start .empty []) sealed).store.blueprints ∧
      (∃ version, (sealing.after (start .empty []) sealed).store.latest? (uniform 1) =
          some version ∧
        version.body = BlueprintBody.codec.write (adminRequest (some "$6$secret")).body) ∧
      Apart strangerRequest.body.users (adminRequest (some "$6$secret")).body.users ∧
      ¬ sealing.Agrees (fun kept made => kept.Like sealing.Salted made)
        (sealing.after (start .empty []) sealed) ⟨"1", "", "", "User", [], ""⟩ (uniform 1)
        strangerRequest [uniform 3, uniform 4] [uniform 4] := by
  have created : (sealing.serve (sealing.after (start .empty []) sealed)
      ⟨⟨"1", "", "", "User", [], ""⟩, .createBlueprint strangerRequest,
        [uniform 3, uniform 4]⟩).1 = .ok (.created ⟨uniform 3⟩) := by rfl
  have updated : (sealing.serve (sealing.after (start .empty []) sealed)
      ⟨⟨"1", "", "", "User", [], ""⟩, .updateBlueprint (uniform 1) strangerRequest,
        [uniform 4]⟩).1 = .ok (.created ⟨uniform 1⟩) := by rfl
  refine ⟨List.mem_singleton_self sealedRow, ⟨_, sealed_latest, rfl⟩, stranger_apart, ?_⟩
  rintro (⟨text, refused, -⟩ | ⟨made, kept, first, second, alike⟩)
  · cases created.symm.trans refused
  · have new : made = strangerBody (some "") := first.body_eq created rfl rfl
    have old : kept = strangerBody none := second.body_eq updated rfl rfl
    subst new old
    exact absurd alike.redacted (by decide)

end Desk

end ComposeDesk
