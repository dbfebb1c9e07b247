import ComposeDesk.Proofs.Credentials
import ComposeDesk.Proofs.Store.History

/-!
# Blueprints are sent back

An owner who reads a blueprint, changes nothing, and sends it back gets a new version
like the one before.  The passwords, which were not shown, are found again by the
names of the users, and hashes are not hashed again.
-/

namespace ComposeDesk

variable {σ : Type}

/-- Every blueprint has an identifier and a name of its own, which shows, and has a
version. -/
structure Store.Titled (store : Store) : Prop where
  housed : store.Housed
  named : store.names.Nodup
  begun : ∀ row ∈ store.blueprints, ∃ version ∈ store.versions, version.blueprintId = row.id
  spoken : ∀ row ∈ store.blueprints, Desk.checkName row.name = .ok ()

namespace Store

variable {store next : Store} {row : BlueprintRow} {write : BlueprintWrite} {now : Timestamp}

theorem titled_empty : empty.Titled where
  housed := housed_empty
  named := .nil
  begun _ member := by cases member
  spoken _ member := by cases member

theorem Titled.congr (titled : store.Titled) (same : next.shelf = store.shelf) : next.Titled := by
  have blueprints : next.blueprints = store.blueprints := congrArg Prod.fst same
  have versions : next.versions = store.versions := congrArg Prod.snd same
  constructor
  case housed => exact titled.housed.congr blueprints versions
  case named =>
    rw [names, blueprints]
    exact titled.named
  case begun =>
    rw [blueprints, versions]
    exact titled.begun
  case spoken =>
    rw [blueprints]
    exact titled.spoken

theorem Titled.insertBlueprint (titled : store.Titled)
    (name : Desk.checkName write.name = .ok ())
    (inserted : store.insertBlueprint write now = .ok next) : next.Titled := by
  have housed := titled.housed.insertBlueprint inserted
  have named := insertBlueprint_names titled.named inserted
  obtain ⟨-, rfl⟩ := insertBlueprint_ok inserted
  refine ⟨housed, named, ?_, ?_⟩
  · intro row member
    rcases mem_putBlueprint member with rfl | held
    · exact ⟨write.version 1 now, List.mem_append_right _ (List.mem_singleton_self _), rfl⟩
    · obtain ⟨version, among, home⟩ := titled.begun row held
      exact ⟨version, List.mem_append_left _ among, home⟩
  · intro row member
    rcases mem_putBlueprint member with rfl | held
    · exact name
    · exact titled.spoken row held

theorem Titled.updateBlueprint {number : Nat} (titled : store.Titled)
    (name : Desk.checkName write.name = .ok ())
    (written : store.updateBlueprint write now = .ok (next, number)) : next.Titled := by
  have housed := titled.housed.updateBlueprint written
  have named := updateBlueprint_names titled.housed titled.named written
  obtain ⟨-, -, -, rfl⟩ := updateBlueprint_ok written
  refine ⟨housed, named, ?_, ?_⟩
  · intro row member
    obtain ⟨before, held, rfl⟩ := List.mem_map.mp member
    obtain ⟨version, among, home⟩ := titled.begun before held
    exact ⟨version, List.mem_append_left _ among, by rw [BlueprintRow.rename_id, home]⟩
  · intro row member
    obtain ⟨before, held, rfl⟩ := List.mem_map.mp member
    unfold BlueprintRow.rename
    split
    · exact name
    · exact titled.spoken before held

theorem Titled.deleteBlueprint {id : Uuid} {org account : String} (titled : store.Titled)
    (deleted : store.deleteBlueprint id org account = .ok next) : next.Titled := by
  have housed := titled.housed.deleteBlueprint deleted
  have named := deleteBlueprint_names titled.named deleted
  obtain ⟨-, rfl⟩ := deleteBlueprint_ok deleted
  refine ⟨housed, named, ?_, ?_⟩
  · intro row member
    obtain ⟨held, kept⟩ := List.mem_filter.mp member
    obtain ⟨version, among, home⟩ := titled.begun row held
    have other : version.blueprintId ≠ id := by
      rw [home]
      exact of_decide_eq_true kept
    exact ⟨version, List.mem_filter.mpr ⟨among, decide_eq_true other⟩, home⟩
  · intro row member
    exact titled.spoken row (List.mem_filter.mp member).1

/-- Of versions that are compared the latest one is found. -/
theorem foldl_laterVersion_eq_none {rows : List VersionRow} {held : Option VersionRow}
    (none : rows.foldl laterVersion held = .none) : rows = [] := by
  induction rows generalizing held with
  | nil => rfl
  | cons first rest ih =>
      rw [List.foldl_cons] at none
      have last := ih none
      subst last
      unfold laterVersion at none
      split at none
      · split at none <;> cases none
      · cases none

theorem Titled.latest? (titled : store.Titled) (member : row ∈ store.blueprints) :
    ∃ version, store.latest? row.id = some version := by
  obtain ⟨version, among, home⟩ := titled.begun row member
  rcases latest : store.latest? row.id with _ | last
  · have none := foldl_laterVersion_eq_none latest
    have held : version ∈ store.versions.filter (·.blueprintId = row.id) :=
      List.mem_filter.mpr ⟨among, decide_eq_true home⟩
    rw [none] at held
    cases held
  · exact ⟨last, rfl⟩

/-- An update under the old name and description adds a version and does nothing else. -/
theorem Titled.updateBlueprint_same (titled : store.Titled) (member : row ∈ store.blueprints)
    (same : write.row = row) :
    store.updateBlueprint write now = .ok ({ store with
      versions := store.versions ++ [write.version (store.nextNumber row.id) now] },
      store.nextNumber row.id) := by
  subst same
  have unique := List.inj_on_of_nodup_map titled.housed.unique
  have owned : store.ownsBlueprint write.id write.org write.account = true :=
    (owns_of_matching titled.housed member).mpr ⟨rfl, rfl⟩
  have free : store.isTaken write.org write.name (some write.id) = false := by
    rw [isTaken_eq_false_iff]
    intro other held org name
    have equal := List.inj_on_of_nodup_map titled.named held member (Prod.ext org name)
    rw [equal]
    rfl
  have renamed : store.blueprints.map (·.rename write) = store.blueprints := by
    refine (List.map_congr_left fun other held => ?_).trans (List.map_id _)
    unfold BlueprintRow.rename
    split
    · rename_i own
      rw [unique held member own]
      rfl
    · rfl
  rw [updateBlueprint_eq, owned, free, renamed]
  rfl

end Store

namespace Desk

variable {desk : Desk σ} {caller : Identity}

theorem Revises.titled {state : DeskState σ} {operation : Operation}
    {answer : Except Error Operation.Answer} {next : Store}
    (revises : Revises desk caller state operation answer next) (titled : state.store.Titled) :
    next.Titled := by
  cases revises with
  | kept _ same => exact titled.congr same
  | failed same =>
      rw [same]
      exact titled
  | created drafted inserted =>
      obtain ⟨passed, name, -⟩ := drafting_titled drafted
      rw [← name] at passed
      exact titled.insertBlueprint passed inserted
  | updated drafted written =>
      obtain ⟨passed, name, -⟩ := draftUpdate_titled drafted
      rw [← name] at passed
      exact titled.updateBlueprint passed written
  | removed deleted => exact titled.deleteBlueprint deleted

theorem after_titled {state : DeskState σ} (titled : state.store.Titled)
    (calls : List (Call σ)) : (desk.after state calls).store.Titled := by
  induction calls generalizing state with
  | nil => exact titled
  | cons call rest ih =>
      exact ih ((perform_revises desk call.caller call.operation _).titled titled)

/-! ## The users of an update -/

theorem mapM_mergeForUpdate_redacted {stored part : List User}
    (rest : ∀ user ∈ stored, user.AtRest) (distinct : (stored.map (·.name)).Nodup)
    (among : part ⊆ stored) :
    (part.map User.redacted).mapM (·.mergeForUpdate stored) =
      .ok (part.map User.withoutEmpty) := by
  induction part with
  | nil => rfl
  | cons user others ih =>
      obtain ⟨member, later⟩ := List.cons_subset.mp among
      rw [List.map_cons, List.mapM_cons, (rest user member).mergeForUpdate_redacted distinct member,
        ih later]
      rfl

/-- The users of a version, shown without passwords, are merged to what they were. -/
theorem mergedUsers_redacted {customizations : Customizations}
    (rest : ∀ user ∈ customizations.users.getD [], user.AtRest)
    (distinct : ((customizations.users.getD []).map (·.name)).Nodup) :
    mergedUsers (customizations.users.getD []) customizations.redacted =
      .ok customizations.withoutEmpty := by
  unfold mergedUsers Customizations.redacted Customizations.withoutEmpty
  cases held : customizations.users with
  | none => rfl
  | some users =>
      rw [held, Option.getD_some] at rest distinct
      have merged := mapM_mergeForUpdate_redacted rest distinct (List.Subset.refl users)
      simp only [Option.map_some, Option.getD_some, merged]

/-- Hashes and empty passwords are left as they are. -/
theorem cryptUser_of_settled (desk : Desk σ) {user : User} (world : σ)
    (settled : ∀ password, user.password = some password → IsHash password) :
    desk.cryptUser user world = (user, world) := by
  unfold cryptUser
  cases held : user.password with
  | none => rfl
  | some password =>
      have hash : isCrypted password = true := isCrypted_iff.mpr (settled password held)
      simp only [hash, Bool.or_true, if_true]
      rfl

theorem mapM_cryptUser_of_settled (desk : Desk σ) {users : List User} (world : σ)
    (settled : ∀ user ∈ users, ∀ password, user.password = some password → IsHash password) :
    users.mapM desk.cryptUser world = (users, world) := by
  induction users with
  | nil => rfl
  | cons user rest ih =>
      have first := desk.cryptUser_of_settled world (settled user List.mem_cons_self)
      have later := ih fun other held => settled other (List.mem_cons_of_mem user held)
      have run : ∀ (act : StateM σ User) (next : StateM σ (List User)),
          (act >>= fun kept => next >>= fun others => pure (kept :: others)) world =
            ((act world).1 :: (next (act world).2).1, (next (act world).2).2) := fun _ _ => rfl
      rw [List.mapM_cons, run, first, later]

theorem cryptPasswords_of_settled (desk : Desk σ) {customizations : Customizations} (world : σ)
    (settled : ∀ user ∈ customizations.users.getD [], ∀ password,
      user.password = some password → IsHash password) :
    desk.cryptPasswords customizations world = (customizations, world) := by
  unfold cryptPasswords
  cases held : customizations.users with
  | none => rfl
  | some users =>
      rw [held, Option.getD_some] at settled
      have kept := desk.mapM_cryptUser_of_settled world settled
      have run : ∀ (act : StateM σ (List User)),
          (act >>= fun users => pure { customizations with users := some users }) world =
            ({ customizations with users := some (act world).1 }, (act world).2) := fun _ => rfl
      simp only [run, kept, ← held]

/-- A stored version without empty credentials has no password that would be hashed. -/
theorem settled_of_atRest {body : BlueprintBody} (rest : ∀ user ∈ body.users, user.AtRest) :
    ∀ user ∈ body.customizations.withoutEmpty.users.getD [], ∀ password,
      user.password = some password → IsHash password := by
  intro user member password present
  unfold BlueprintBody.users at rest
  unfold Customizations.withoutEmpty at member
  cases held : body.customizations.users with
  | none =>
      rw [held] at member
      cases member
  | some users =>
      rw [held] at rest member
      obtain ⟨before, among, rfl⟩ := List.mem_map.mp member
      exact (rest before among).withoutEmpty_hash present

/-! ## The update -/

section Update

variable {state : DeskState σ} {row : BlueprintRow} {version : VersionRow}
  {stored : BlueprintBody}

/-- What an update writes if all that it is checked for is in order. -/
theorem outcome_draftUpdate {id : Uuid} {request : BlueprintRequest} {entry : BlueprintEntry}
    {merged : Customizations}
    (named : checkName request.name = .ok ())
    (found : state.store.getBlueprint id caller.org none = .ok entry)
    (body : storedBody entry = .ok stored)
    (merges : mergedUsers stored.users request.customizations = .ok merged)
    (settled : ∀ user ∈ merged.users.getD [], ∀ password,
      user.password = some password → IsHash password) :
    outcome (desk.draftUpdate caller id request) state =
      (.ok ⟨request.name, request.description, { request.body with customizations := merged }⟩,
        state) := by
  have name : outcome (Work.of (checkName request.name) : Work σ Unit) state = (.ok (), state) :=
    Prod.ext named rfl
  have read : outcome (Work.of (storedBody entry) : Work σ BlueprintBody) state =
      (.ok stored, state) := Prod.ext body rfl
  have join : outcome (Work.of (mergedUsers (stored.customizations.users.getD [])
      request.customizations) : Work σ Customizations) state = (.ok merged, state) :=
    Prod.ext merges rfl
  have crypt : outcome (Work.outside (desk.cryptPasswords merged)) state =
      (.ok merged, state) := by
    rw [Work.outcome_outside, desk.cryptPasswords_of_settled state.world settled]
  rw [draftUpdate, outcome_bind_ok name, outcome_bind_ok (outcome_blueprintOf found),
    outcome_bind_ok read, outcome_bind_ok join, outcome_bind_ok crypt]
  rfl

/-- The identifier and the time of a new version come from outside. -/
theorem outcome_revision {id : Uuid} {request : BlueprintRequest} {draft : BlueprintDraft}
    (drafted : outcome (desk.draftUpdate caller id request) state = (.ok draft, state)) :
    ∃ versionId now left, outcome (desk.revision caller id request) state =
      (.ok (writeOf caller id versionId draft, now), left) ∧ left.store = state.store := by
  refine ⟨(desk.drawId state.world).1, (desk.now (desk.drawId state.world).2).1,
    { state with world := (desk.now (desk.drawId state.world).2).2 }, ?_, rfl⟩
  rw [revision, outcome_bind_ok drafted]
  rfl

/-- An update under the old title is accepted, and adds what was drafted. -/
theorem outcome_updateBlueprint (state : DeskState σ) {request : BlueprintRequest} {draft : BlueprintDraft}
    (titled : state.store.Titled) (member : row ∈ state.store.blueprints)
    (org : caller.org = row.org) (account : caller.account = row.account)
    (name : draft.name = row.name) (description : draft.description = row.description)
    (drafted : outcome (desk.draftUpdate caller row.id request) state = (.ok draft, state)) :
    ∃ versionId now left, outcome (desk.updateBlueprint caller row.id request) state =
      (.ok ⟨row.id⟩, left) ∧ left.store = { state.store with
        versions := state.store.versions ++ [⟨versionId, row.id, state.store.nextNumber row.id,
          BlueprintBody.codec.write draft.body, now⟩] } := by
  obtain ⟨versionId, now, left, planned, kept⟩ := outcome_revision drafted
  have same : (writeOf caller row.id versionId draft).row = row := by
    simp only [BlueprintWrite.row, writeOf, org, account, name, description]
  have written : state.store.updateBlueprint (writeOf caller row.id versionId draft) now = _ :=
    titled.updateBlueprint_same member same
  refine ⟨versionId, now, { left with store := { state.store with
    versions := state.store.versions ++ [(writeOf caller row.id versionId draft).version
      (state.store.nextNumber row.id) now] } }, ?_, rfl⟩
  rw [updateBlueprint_eq_commit, Work.outcome_commit, planned]
  simp only [kept, written]

end Update

end Desk

/-- What is shown of a blueprint, as it may be sent back. -/
def BlueprintView.request (view : BlueprintView) : BlueprintRequest :=
  ⟨view.name, view.description, view.distribution, view.imageRequests, view.customizations⟩

namespace Desk

/-- The owner reads the latest version of a blueprint and sends back what is shown:
this is accepted, and a version with the body of the latest one comes after it, in
which only empty credentials are missing. -/
def Resubmits (desk : Desk σ) (state : DeskState σ) (row : BlueprintRow) (version : VersionRow)
    (stored : BlueprintBody) : Prop :=
  ∀ (caller : Identity) (number : Option Int) (world later : σ),
    caller.org = row.org → caller.account = row.account → requestedVersion number = .ok none →
    ∃ view read left renewed,
      desk.serve state ⟨caller, .getBlueprint row.id number, world⟩ = (.ok (.blueprint view), read) ∧
      view.request.body = stored.redacted ∧
      BlueprintRequest.codec.read (BlueprintRequest.codec.write view.request) = .ok view.request ∧
      desk.serve read ⟨caller, .updateBlueprint row.id view.request, later⟩ =
        (.ok (.created ⟨row.id⟩), left) ∧
      left.store = { state.store with versions := state.store.versions ++ [renewed] } ∧
      left.store.latest? row.id = some renewed ∧ renewed.blueprintId = row.id ∧
      renewed.number = version.number + 1 ∧
      renewed.body = BlueprintBody.codec.write stored.withoutEmpty

variable {desk : Desk σ} {caller : Identity} {state : DeskState σ} {row : BlueprintRow}
  {version : VersionRow} {stored : BlueprintBody}

/-- The latest version is shown without passwords. -/
theorem outcome_getBlueprint_latest (state : DeskState σ) (titled : state.store.Titled)
    (legible : state.store.Legible) (member : row ∈ state.store.blueprints)
    (latest : state.store.latest? row.id = some version)
    (document : version.body = BlueprintBody.codec.write stored) (org : caller.org = row.org)
    {number : Option Int} (asked : requestedVersion number = .ok none) :
    outcome (getBlueprint caller row.id number : Work σ BlueprintView) state =
      (.ok ((Store.blueprintEntry row version).view stored.redacted), state) := by
  have found : state.store.getBlueprint row.id caller.org none =
      .ok (Store.blueprintEntry row version) := by
    rw [org]
    exact Store.getBlueprint_of_chosen (titled.housed.blueprint? member) latest
  obtain ⟨body, same, shown⟩ := outcome_getBlueprint legible asked found
  cases BlueprintBody.codec_sound.injective (document.symm.trans same)
  exact shown

/-- What was shown of the latest version is drafted as it was stored. -/
theorem outcome_draftUpdate_shown (state : DeskState σ) (titled : state.store.Titled)
    (member : row ∈ state.store.blueprints) (latest : state.store.latest? row.id = some version)
    (document : version.body = BlueprintBody.codec.write stored) (org : caller.org = row.org)
    (rest : ∀ user ∈ stored.users, user.AtRest) (distinct : (stored.users.map (·.name)).Nodup) :
    outcome (desk.draftUpdate caller row.id
        ((Store.blueprintEntry row version).view stored.redacted).request) state =
      (.ok ⟨row.name, row.description, stored.withoutEmpty⟩, state) := by
  have found : state.store.getBlueprint row.id caller.org none =
      .ok (Store.blueprintEntry row version) := by
    rw [org]
    exact Store.getBlueprint_of_chosen (titled.housed.blueprint? member) latest
  exact outcome_draftUpdate (titled.spoken row member) found (storedBody_ok document)
    (mergedUsers_redacted rest distinct) (settled_of_atRest rest)

theorem resubmits (desk : Desk σ) (titled : state.store.Titled) (legible : state.store.Legible)
    (member : row ∈ state.store.blueprints) (latest : state.store.latest? row.id = some version)
    (document : version.body = BlueprintBody.codec.write stored)
    (rest : ∀ user ∈ stored.users, user.AtRest)
    (distinct : (stored.users.map (·.name)).Nodup) :
    desk.Resubmits state row version stored := by
  intro caller number world later org account asked
  have shown : outcome (getBlueprint caller row.id number : Work σ BlueprintView)
      { state with world } = (.ok ((Store.blueprintEntry row version).view stored.redacted),
        { state with world }) :=
    outcome_getBlueprint_latest { state with world } titled legible member latest document org
      asked
  have drafted : outcome (desk.draftUpdate caller row.id
      ((Store.blueprintEntry row version).view stored.redacted).request)
        { state with world := later } =
      (.ok ⟨row.name, row.description, stored.withoutEmpty⟩, { state with world := later }) :=
    outcome_draftUpdate_shown { state with world := later } titled member latest document org rest
      distinct
  obtain ⟨versionId, now, left, done, written⟩ :=
    outcome_updateBlueprint { state with world := later } titled member org account rfl rfl drafted
  have number : state.store.nextNumber row.id = version.number + 1 := by
    rw [Store.nextNumber, latest]
  have added : left.store.versions = state.store.versions ++ [⟨versionId, row.id,
      version.number + 1, BlueprintBody.codec.write stored.withoutEmpty, now⟩] := by
    rw [written, ← number]
  refine ⟨(Store.blueprintEntry row version).view stored.redacted, { state with world }, left,
    ⟨versionId, row.id, version.number + 1, BlueprintBody.codec.write stored.withoutEmpty, now⟩,
    ?_, rfl,
    BlueprintRequest.codec_sound.faithful _, ?_, ?_,
    Store.latest?_of_added added rfl latest (Nat.lt_succ_self _), rfl, rfl, rfl⟩
  · rw [serve, perform, outcome_map, shown]
    rfl
  · rw [serve, perform, outcome_map, done]
    rfl
  · rw [written, ← number]

/-- Whatever was done before, every blueprint has a latest version, and if the users
of that have names of their own, its owner may read it and send it back. -/
theorem resubmission_keeps_credentials (desk : Desk σ)
    (hashes : ∀ password world, "$6$".toList <+: (desk.crypt password world).1.toList)
    (metrics : Metrics) (world : σ) (calls : List (Call σ)) :
    ∀ row ∈ (desk.after (start metrics world) calls).store.blueprints, ∃ version stored,
      (desk.after (start metrics world) calls).store.latest? row.id = some version ∧
      version.body = BlueprintBody.codec.write stored ∧
      ((stored.users.map (·.name)).Nodup →
        desk.Resubmits (desk.after (start metrics world) calls) row version stored) := by
  have titled : (desk.after (start metrics world) calls).store.Titled :=
    after_titled Store.titled_empty calls
  have guarded : (desk.after (start metrics world) calls).store.Guarded :=
    after_guarded guarded_empty hashes calls
  have legible : (desk.after (start metrics world) calls).store.Legible :=
    after_legible Store.legible_empty calls
  intro row member
  obtain ⟨version, latest⟩ := titled.latest? member
  obtain ⟨stored, document, rest⟩ :=
    guarded.versions version (Store.latest?_mem latest).1
  exact ⟨version, stored, latest, document,
    resubmits desk titled legible member latest document rest⟩

def sealedRow : BlueprintRow := ⟨uniform 1, "1", "", "web", ""⟩

theorem resubmission_keeps_credentials_sealed :
    (∀ password world, "$6$".toList <+: (sealing.crypt password world).1.toList) ∧
      sealedRow ∈ (sealing.after (start .empty []) sealed).store.blueprints ∧
      ∃ version stored, (sealing.after (start .empty []) sealed).store.latest? (uniform 1) =
          some version ∧
        version.body = BlueprintBody.codec.write stored ∧
        stored.users = [admin (some "$6$secret")] ∧ (stored.users.map (·.name)).Nodup ∧
        sealing.Resubmits (sealing.after (start .empty []) sealed) sealedRow version stored := by
  have member : sealedRow ∈ (sealing.after (start .empty []) sealed).store.blueprints :=
    List.mem_singleton_self sealedRow
  obtain ⟨version, stored, latest, document, accepted⟩ :=
    resubmission_keeps_credentials sealing sealing_hashes .empty [] sealed sealedRow member
  have known : (sealing.after (start .empty []) sealed).store.latest? (uniform 1) =
      some ⟨uniform 2, uniform 1, 1,
        BlueprintBody.codec.write (adminRequest (some "$6$secret")).body, ⟨0, 0⟩⟩ := by
    rfl
  cases latest.symm.trans known
  cases BlueprintBody.codec_sound.injective document
  have distinct : ((adminRequest (some "$6$secret")).body.users.map (·.name)).Nodup :=
    List.nodup_singleton _
  exact ⟨sealing_hashes, member, _, _, known, rfl, rfl, distinct, accepted distinct⟩

end Desk

end ComposeDesk
