import ComposeDesk.Proofs.Isolation
import ComposeDesk.Proofs.Itemwise
import ComposeDesk.Proofs.Request.Credentials
import ComposeDesk.Proofs.Revision
import ComposeDesk.Proofs.Shown

/-!
# Credentials at rest

Composes are stored without passwords, and the versions of blueprints with hashes
only.  Users come into a version through the rule on credentials and are hashed
after that; a hash that an update carries over is not hashed again.
-/

namespace ComposeDesk

variable {σ α β γ : Type}

/-- What is stored shows no password: none with a compose, and none in clear with a
version of a blueprint. -/
structure Store.Guarded (store : Store) : Prop where
  composes : ∀ row ∈ store.composes, ∃ request : ComposeRequest,
    row.request = ComposeRequest.codec.write request ∧
      ∀ user ∈ request.users, user.password = none
  versions : ∀ row ∈ store.versions, ∃ body : BlueprintBody,
    row.body = BlueprintBody.codec.write body ∧ ∀ user ∈ body.users, user.AtRest

/-- What becomes of a user of an update, given the stored users: a hash stays as it
is, be it given or carried over from the stored user of the name. -/
structure User.Carried (stored : List User) (given kept : User) : Prop where
  name : kept.name = given.name
  held : ∀ existing password, stored.find? (·.name = given.name) = some existing →
    given.password = none → existing.password = some password → password ≠ "" →
      kept.password = some password
  given : ∀ password, given.password = some password → IsHash password →
    kept.password = some password

namespace Desk

variable {desk : Desk σ} {caller : Identity}

/-- A user is hashed at some moment. -/
def Crypts (desk : Desk σ) (user kept : User) : Prop :=
  ∃ world, kept = (desk.cryptUser user world).1

/-- A user stays as it is, or gets a hash for a password in clear. -/
theorem Crypts.cases {user kept : User} (crypts : desk.Crypts user kept) :
    (kept = user ∧ ∀ password, user.password = some password →
      password = "" ∨ IsHash password) ∨
    ∃ password world, user.password = some password ∧ password ≠ "" ∧ ¬ IsHash password ∧
      kept = { user with password := some (desk.crypt password world).1 } := by
  obtain ⟨world, rfl⟩ := crypts
  unfold cryptUser
  cases form : user.password with
  | none => exact .inl ⟨rfl, by rintro _ ⟨⟩⟩
  | some password =>
      simp only
      by_cases settled : (password = "" || isCrypted password) = true
      · rw [if_pos settled]
        refine .inl ⟨rfl, ?_⟩
        rintro _ ⟨rfl⟩
        simpa [isCrypted_iff] using settled
      · rw [if_neg settled]
        simp only [Bool.or_eq_true, decide_eq_true_eq, isCrypted_iff, not_or] at settled
        exact .inr ⟨password, world, rfl, settled.1, settled.2, rfl⟩

theorem Crypts.name {user kept : User} (crypts : desk.Crypts user kept) :
    kept.name = user.name := by
  rcases crypts.cases with ⟨rfl, -⟩ | ⟨_, _, -, -, -, rfl⟩ <;> rfl

/-- A hash is not hashed again. -/
theorem Crypts.of_hash {user kept : User} {password : String}
    (crypts : desk.Crypts user kept) (given : user.password = some password)
    (hash : IsHash password) : kept.password = some password := by
  rcases crypts.cases with ⟨rfl, -⟩ | ⟨other, _, held, -, clear, -⟩
  · exact given
  · cases given.symm.trans held
    exact absurd hash clear

/-- A valid user is at rest once hashed. -/
theorem Crypts.atRest {user kept : User} (crypts : desk.Crypts user kept)
    (hashes : ∀ password world, "$6$".toList <+: (desk.crypt password world).1.toList)
    (valid : user.isValid = true) : kept.AtRest := by
  obtain ⟨named, credited⟩ := User.isValid_iff.mp valid
  rcases crypts.cases with ⟨rfl, settled⟩ | ⟨password, world, given, -, -, rfl⟩
  · exact ⟨named, credited, settled⟩
  · have hash := hashes password world
    refine ⟨named, .inl ⟨_, rfl, ?_⟩, ?_⟩
    · intro empty
      rw [empty] at hash
      exact absurd hash (by decide)
    · rintro _ ⟨rfl⟩
      exact .inr ⟨"$6$", by decide, hash⟩

/-- Users are hashed one by one. -/
theorem mapM_crypts (desk : Desk σ) (users : List User) (world : σ) :
    users.Forall₂ desk.Crypts (users.mapM desk.cryptUser world).1 := by
  induction users generalizing world with
  | nil => exact .nil
  | cons user rest ih =>
      rw [List.mapM_cons]
      exact .cons ⟨world, rfl⟩ (ih _)

theorem cryptPasswords_crypts (desk : Desk σ) (customizations : Customizations) (world : σ) :
    (customizations.users.getD []).Forall₂ desk.Crypts
      ((desk.cryptPasswords customizations world).1.users.getD []) := by
  unfold cryptPasswords
  cases held : customizations.users with
  | none =>
      change List.Forall₂ _ [] (customizations.users.getD [])
      rw [held]
      exact .nil
  | some users => exact mapM_crypts desk users world

/-- Users that pass the rule on new users are valid. -/
theorem checkUsers_ok {customizations : Customizations}
    (passed : checkUsers customizations = .ok ()) :
    ∀ user ∈ customizations.users.getD [], user.isValid = true := by
  unfold checkUsers at passed
  generalize customizations.users.getD [] = users at passed
  induction users with
  | nil => exact fun _ held => nomatch held
  | cons user rest ih =>
      rw [List.forM_eq_forM, List.forM_cons] at passed
      by_cases valid : user.isValid = true
      · rw [User.validate, if_pos valid] at passed
        intro other held
        rcases List.mem_cons.mp held with rfl | later
        · exact valid
        · exact ih passed other later
      · rw [User.validate, if_neg valid] at passed
        cases passed

/-- Each user of an update is merged with the stored ones. -/
theorem mergedUsers_ok {stored : List User} {customizations merged : Customizations}
    (done : mergedUsers stored customizations = .ok merged) :
    (customizations.users.getD []).Forall₂
      (fun user result => user.mergeForUpdate stored = .ok result)
      (merged.users.getD []) := by
  unfold mergedUsers at done
  cases held : customizations.users with
  | none =>
      rw [held] at done
      cases done
      rw [held]
      exact .nil
  | some users =>
      rw [held] at done
      simp only at done
      rcases results : users.mapM (·.mergeForUpdate stored) with error | results
      · rw [results] at done
        cases done
      · rw [results] at done
        cases done
        exact forall₂_of_mapM_ok results

/-- The users of the draft of a new blueprint are valid ones, hashed. -/
theorem drafting_ok {request : BlueprintRequest} {state left : DeskState σ}
    {draft : BlueprintDraft}
    (done : outcome (desk.drafting request) state = (.ok draft, left)) :
    (∀ user ∈ request.body.users, user.isValid = true) ∧
      request.body.users.Forall₂ desk.Crypts draft.body.users := by
  obtain ⟨_, named, name, rest⟩ := outcome_bind_eq_ok done
  obtain ⟨-, rfl⟩ := Work.of_ok name
  obtain ⟨_, checked, users, crypted⟩ := outcome_bind_eq_ok rest
  obtain ⟨passed, rfl⟩ := Work.of_ok users
  cases crypted
  exact ⟨checkUsers_ok passed, cryptPasswords_crypts desk request.customizations _⟩

/-- The users of the draft of an update are completed from the latest version,
without empty credentials, valid, and hashed. -/
theorem draftUpdate_ok {id : Uuid} {request : BlueprintRequest} {state left : DeskState σ}
    {draft : BlueprintDraft}
    (done : outcome (desk.draftUpdate caller id request) state = (.ok draft, left)) :
    ∃ entry stored, state.store.getBlueprint id caller.org none = .ok entry ∧
      storedBody entry = .ok stored ∧
      request.body.users.Forall₂ (fun given kept =>
        (given.completed stored.users).isValid = true ∧
          desk.Crypts (given.completed stored.users).withoutEmpty kept) draft.body.users := by
  obtain ⟨_, named, name, toEntry⟩ := outcome_bind_eq_ok done
  obtain ⟨-, rfl⟩ := Work.of_ok name
  obtain ⟨entry, looked, found, toBody⟩ := outcome_bind_eq_ok toEntry
  obtain ⟨rfl, got⟩ := blueprintOf_ok found
  obtain ⟨stored, read, decoded, toMerge⟩ := outcome_bind_eq_ok toBody
  obtain ⟨body, rfl⟩ := Work.of_ok decoded
  obtain ⟨merged, joined, merges, crypted⟩ := outcome_bind_eq_ok toMerge
  obtain ⟨users, rfl⟩ := Work.of_ok merges
  cases crypted
  refine ⟨entry, stored, got, body, ?_⟩
  -- Merging and hashing both go user by user.
  refine forall₂_trans ?_ (mergedUsers_ok users) (cryptPasswords_crypts desk merged joined.world)
  intro given result kept merge crypts
  obtain ⟨valid, rfl⟩ := User.mergeForUpdate_ok_iff.mp merge
  exact ⟨valid, crypts⟩

/-- A draft of a new version, made for an operation in a state. -/
inductive Drafts (desk : Desk σ) (caller : Identity) (state : DeskState σ) :
    Operation → BlueprintBody → Prop where
  | new {request : BlueprintRequest} {draft : BlueprintDraft} {left : DeskState σ}
      (done : outcome (desk.drafting request) state = (.ok draft, left)) :
      Drafts desk caller state (.createBlueprint request) draft.body
  | next {id : Uuid} {request : BlueprintRequest} {draft : BlueprintDraft} {left : DeskState σ}
      (done : outcome (desk.draftUpdate caller id request) state = (.ok draft, left)) :
      Drafts desk caller state (.updateBlueprint id request) draft.body

/-- An operation adds no versions but the one that it drafts. -/
theorem Revises.adds {state : DeskState σ} {operation : Operation}
    {answer : Except Error Operation.Answer} {next : Store}
    (revises : Revises desk caller state operation answer next) :
    ∀ row ∈ next.versions, row ∈ state.store.versions ∨
      ∃ body, row.body = BlueprintBody.codec.write body ∧
        Drafts desk caller state operation body := by
  intro row held
  cases revises with
  | kept _ same =>
      have versions : next.versions = state.store.versions := congrArg Prod.snd same
      exact .inl (versions ▸ held)
  | failed same => exact .inl (same ▸ held)
  | created drafted inserted =>
      obtain ⟨-, rfl⟩ := Store.insertBlueprint_ok inserted
      rcases List.mem_append.mp held with before | new
      · exact .inl before
      · rw [List.mem_singleton.mp new]
        exact .inr ⟨_, rfl, .new drafted⟩
  | updated drafted written =>
      obtain ⟨-, -, -, rfl⟩ := Store.updateBlueprint_ok written
      rcases List.mem_append.mp held with before | new
      · exact .inl before
      · rw [List.mem_singleton.mp new]
        exact .inr ⟨_, rfl, .next drafted⟩
  | removed deleted =>
      obtain ⟨-, rfl⟩ := Store.deleteBlueprint_ok deleted
      exact .inl (List.mem_filter.mp held).1

/-! ## Runs -/

/-- The users of a draft are at rest. -/
theorem Drafts.atRest {state : DeskState σ} {operation : Operation} {body : BlueprintBody}
    (drafts : Drafts desk caller state operation body)
    (hashes : ∀ password world, "$6$".toList <+: (desk.crypt password world).1.toList) :
    ∀ user ∈ body.users, user.AtRest := by
  cases drafts with
  | new done =>
      obtain ⟨valid, crypts⟩ := drafting_ok done
      have both := (List.forall₂_and_left _ _).mpr ⟨valid, crypts⟩
      exact forall_of_forall₂ (fun _ _ user => user.2.atRest hashes user.1) both
  | next done =>
      obtain ⟨_, _, -, -, merged⟩ := draftUpdate_ok done
      refine forall_of_forall₂ ?_ merged
      rintro given kept ⟨valid, crypts⟩
      exact crypts.atRest hashes ((User.withoutEmpty_isValid _).trans valid)

/-- Every operation leaves the store guarded. -/
theorem serve_guarded {state : DeskState σ} (guarded : state.store.Guarded)
    (hashes : ∀ password world, "$6$".toList <+: (desk.crypt password world).1.toList)
    (call : Call σ) : (desk.serve state call).2.store.Guarded := by
  constructor
  · intro row held
    obtain ⟨ids, changes⟩ := perform_changes desk call.caller call.operation
      { state with world := call.world }
    rcases changes.of_fixed (List.mem_map_of_mem held) with before | ⟨request, -, document⟩
    · obtain ⟨earlier, member, same⟩ := List.mem_map.mp before
      obtain ⟨request, document, clean⟩ := guarded.composes earlier member
      have kept : earlier.request = row.request := congrArg (·.2.2) same
      exact ⟨request, kept.symm.trans document, clean⟩
    · exact ⟨request.redacted, congrArg Prod.snd document,
        fun _ member => ComposeRequest.redacted_password member⟩
  · intro row held
    rcases (perform_revises desk call.caller call.operation
        { state with world := call.world }).adds row held with before | ⟨body, document, drafts⟩
    · exact guarded.versions row before
    · exact ⟨body, document, drafts.atRest hashes⟩

theorem after_guarded {state : DeskState σ} (guarded : state.store.Guarded)
    (hashes : ∀ password world, "$6$".toList <+: (desk.crypt password world).1.toList)
    (calls : List (Call σ)) : (desk.after state calls).store.Guarded := by
  induction calls generalizing state with
  | nil => exact guarded
  | cons call rest ih => exact ih (serve_guarded guarded hashes call)

/-- A user of an update is carried into the new version, if the stored users are at
rest. -/
theorem carried {stored : List User} (rest : ∀ user ∈ stored, user.AtRest) {given kept : User}
    (crypts : desk.Crypts (given.completed stored).withoutEmpty kept) :
    User.Carried stored given kept := by
  constructor
  · exact crypts.name.trans (User.completed_name given stored)
  · intro existing password found none held some
    have complete := (User.completed_password_of_held found none).trans held
    rcases (rest existing (List.mem_of_find?_eq_some found)).hashed password held with empty | hash
    · exact absurd empty some
    · exact crypts.of_hash (User.withoutEmpty_password complete some) hash
  · intro password present hash
    have complete : (given.completed stored).password = some password :=
      User.completed_password_of_given present
    exact crypts.of_hash (User.withoutEmpty_password complete hash.ne_empty) hash

end Desk

/-- A blueprint gets a new version, with the users that are given, as they are
carried into it from those of its latest version. -/
def Store.Renewed (id : Uuid) (org : String) (given : List User) (store next : Store) : Prop :=
  ∃ entry stored version body, store.getBlueprint id org none = .ok entry ∧
    Desk.storedBody entry = .ok stored ∧ next.versions = store.versions ++ [version] ∧
    version.blueprintId = id ∧ version.body = BlueprintBody.codec.write body ∧
    given.Forall₂ (User.Carried stored.users) body.users

namespace Desk

variable {desk : Desk σ}

/-- An update that succeeds renews its blueprint. -/
theorem renewed_of_update {state : DeskState σ} {call : Call σ} {id : Uuid}
    {request : BlueprintRequest} {answer : Operation.Answer} (guarded : state.store.Guarded)
    (operation : call.operation = .updateBlueprint id request)
    (answered : (desk.serve state call).1 = .ok answer) :
    state.store.Renewed id call.caller.org request.body.users
      (desk.serve state call).2.store := by
  have revises := perform_revises desk call.caller call.operation
    { state with world := call.world }
  change Revises _ _ _ _ (desk.serve state call).1 (desk.serve state call).2.store at revises
  rw [operation, answered] at revises
  generalize (desk.serve state call).2.store = next at revises
  cases revises with
  | kept other => cases other
  | updated drafted written =>
      obtain ⟨-, -, -, rfl⟩ := Store.updateBlueprint_ok written
      obtain ⟨entry, stored, found, body, merged⟩ := draftUpdate_ok drafted
      have rest : ∀ user ∈ stored.users, user.AtRest := by
        obtain ⟨row, version, -, -, chosen, rfl⟩ := Store.getBlueprint_ok found
        obtain ⟨known, document, clean⟩ :=
          guarded.versions version (Store.chosenVersion?_mem chosen).1
        cases body.symm.trans (storedBody_ok document)
        exact clean
      refine ⟨entry, stored, _, _, found, body, rfl, rfl, rfl, ?_⟩
      exact merged.imp fun _ _ user => carried rest user.2

theorem guarded_empty : Store.empty.Guarded where
  composes _ held := nomatch held
  versions _ held := nomatch held

/-- Whatever was done before, no compose is stored with a password and no version of
a blueprint with one in clear, and an update keeps the hashes that it carries over. -/
theorem credentials_guarded (desk : Desk σ)
    (hashes : ∀ password world, "$6$".toList <+: (desk.crypt password world).1.toList)
    (metrics : Metrics) (world : σ) (calls : List (Call σ)) :
    (desk.after (start metrics world) calls).store.Guarded ∧
    ∀ (call : Call σ) (id : Uuid) (request : BlueprintRequest) (answer : Operation.Answer),
      call.operation = .updateBlueprint id request →
      (desk.serve (desk.after (start metrics world) calls) call).1 = .ok answer →
        (desk.after (start metrics world) calls).store.Renewed id call.caller.org
          request.body.users (desk.serve (desk.after (start metrics world) calls) call).2.store := by
  have guarded : (desk.after (start metrics world) calls).store.Guarded :=
    after_guarded guarded_empty hashes calls
  refine ⟨guarded, ?_⟩
  intro call id request answer operation answered
  exact renewed_of_update guarded operation answered

/-- The secluded desk with hashes that can be told apart from passwords. -/
def sealing : Desk (List Uuid) :=
  { secluded with crypt := fun password => pure ("$6$" ++ password) }

theorem sealing_hashes (password : String) (world : List Uuid) :
    "$6$".toList <+: (sealing.crypt password world).1.toList := by
  have split : (sealing.crypt password world).1.toList = "$6$".toList ++ password.toList :=
    String.toList_append
  rw [split]
  exact List.prefix_append _ _

def admin (password : Option String) : User :=
  ⟨"admin", none, some "", password⟩

def adminRequest (password : Option String) : BlueprintRequest :=
  ⟨"web", "", "rhel-9", [], { Customizations.empty with users := some [admin password] }⟩

def sealed : List (Call (List Uuid)) :=
  [⟨⟨"1", "", "", "User", [], ""⟩, .createBlueprint (adminRequest (some "secret")),
    [uniform 1, uniform 2]⟩]

def resealing : Call (List Uuid) :=
  ⟨⟨"1", "", "", "User", [], ""⟩, .updateBlueprint (uniform 1) (adminRequest none), [uniform 3]⟩

theorem credentials_guarded_sealed :
    (∀ password world, "$6$".toList <+: (sealing.crypt password world).1.toList) ∧
      (sealing.serve (sealing.after (start .empty []) sealed) resealing).1 =
        .ok (.created ⟨uniform 1⟩) ∧
      (sealing.after (start .empty []) sealed).store.Guarded ∧
      (sealing.after (start .empty []) sealed).store.Renewed (uniform 1) "1" [admin none]
        (sealing.serve (sealing.after (start .empty []) sealed) resealing).2.store := by
  have answered : (sealing.serve (sealing.after (start .empty []) sealed) resealing).1 =
      .ok (.created ⟨uniform 1⟩) := by
    rfl
  obtain ⟨guarded, renewed⟩ := credentials_guarded sealing sealing_hashes .empty [] sealed
  exact ⟨sealing_hashes, answered, guarded, renewed resealing (uniform 1) _ _ rfl answered⟩

end Desk

end ComposeDesk
