import ComposeDesk.Proofs.Deletion
import ComposeDesk.Proofs.Quota

/-!
# Clones and their identifiers

Each clone has the identifier that the build service gave for it, and nothing compares
it with those of the clones that are there.  So composes always have identifiers of
their own, but clones have them exactly if the build service never gives one twice.
-/

namespace ComposeDesk

variable {σ : Type}

def CloneRow.key (row : CloneRow) : Uuid × Uuid :=
  (row.id, row.composeId)

def DeskState.clones (state : DeskState σ) : List CloneRow :=
  state.store.clones

def Operation.copied : Operation → Except Error Operation.Answer → List (Uuid × Uuid)
  | .cloneCompose id _, .ok (.created created) => [(created.id, id)]
  | _, _ => []

theorem Operation.of_mem_copied {operation : Operation} {answered : Except Error Operation.Answer}
    {key : Uuid × Uuid} (copied : key ∈ operation.copied answered) :
    ∃ request, operation = .cloneCompose key.2 request ∧
      answered = .ok (.created ⟨key.1⟩) := by
  unfold Operation.copied at copied
  split at copied
  · rw [List.mem_singleton] at copied
    subst copied
    exact ⟨_, rfl, rfl⟩
  · cases copied

namespace Desk

variable {desk : Desk σ} {caller : Identity}

/-- All copies that a run made, in their order. -/
def copies (desk : Desk σ) (state : DeskState σ) (calls : List (Call σ)) : List (Uuid × Uuid) :=
  (desk.trace state calls).flatMap fun served => served.1.operation.copied served.2

/-- An order to copy that the build service accepts is recorded, whatever identifier it
is given. -/
theorem cloneCompose_of_placed {composeId id : Uuid} {request : CloneRequest} {now : Timestamp}
    {state left : DeskState σ}
    (placed : outcome (desk.copying caller composeId request) state = (.ok (id, now), left)) :
    outcome (desk.cloneCompose caller composeId request) state =
      (.ok ⟨id⟩, { left with store := { state.store with
        clones := state.store.clones ++ [.ofRequest composeId request id now] } }) := by
  have kept : left.store = state.store := by
    have keeps := copying_keeps desk caller composeId request state
    rw [placed] at keeps
    exact keeps
  obtain ⟨parent, held⟩ : ∃ parent, state.store.compose? composeId = some parent := by
    have owned := owns_of_copying placed
    unfold Store.owns at owned
    split at owned
    · exact ⟨_, by assumption⟩
    · cases owned
  have inserted : state.store.insertClone (.ofRequest composeId request id now) =
      .ok { state.store with
        clones := state.store.clones ++ [.ofRequest composeId request id now] } := by
    simp only [Store.insertClone, CloneRow.ofRequest, held]
  rw [cloneCompose_eq_commit, Work.outcome_commit, placed]
  simp only [silently, kept, inserted]
  rfl

/-- Copies are made of orders that the build service accepts, and of nothing else. -/
theorem outcome_cloneCompose (desk : Desk σ) (caller : Identity) (composeId : Uuid)
    (request : CloneRequest) (state : DeskState σ) :
    (∃ error left, outcome (desk.cloneCompose caller composeId request) state =
        (.error error, left) ∧ left.store = state.store) ∨
      ∃ id now left, outcome (desk.copying caller composeId request) state =
        (.ok (id, now), left) := by
  rcases done : outcome (desk.copying caller composeId request) state with ⟨error | placed, left⟩
  · refine .inl ⟨error, left, ?_, ?_⟩
    · rw [cloneCompose_eq_commit]
      exact Work.outcome_commit_error done
    · have keeps := copying_keeps desk caller composeId request state
      rw [done] at keeps
      exact keeps
  · exact .inr ⟨placed.1, placed.2, left, rfl⟩

theorem composeFor_keeps_clones (desk : Desk σ) (caller : Identity) (request : ComposeRequest)
    (versionId : Option Uuid) :
    Keeps DeskState.clones (desk.composeFor caller request versionId) := by
  intro state
  rcases composeFor_cases desk caller request versionId state with
    ⟨error, left, failed, kept⟩ | ⟨id, now, left, done, -, stored⟩
  · rw [failed]
    exact congrArg Store.clones kept
  · rw [done, DeskState.clones, stored]
    rfl

theorem composeBlueprint_keeps_clones (desk : Desk σ) (caller : Identity) (id : Uuid)
    (selection : ImageSelection) :
    Keeps DeskState.clones (desk.composeBlueprint caller id selection) := by
  rw [composeBlueprint_eq]
  refine .bind (fun state => congrArg Store.clones (choosing_keeps_store caller id selection state))
    fun chosen => ?_
  exact .mapM (fun image => composeFor_keeps_clones desk caller _ _) _

/-- A write that leaves the clones is all that a plan comes to. -/
theorem commit_keeps_clones {α β γ : Type} {plan : Work σ β}
    {write : β → Store → Except StoreFault (Store × γ)} {answer : β → γ → α}
    (keeps : Keeps DeskState.store plan)
    (leaves : ∀ planned store next written, write planned store = .ok (next, written) →
      next.clones = store.clones) :
    Keeps DeskState.clones (Work.commit plan write answer) := by
  intro state
  rcases Work.commit_cases write answer keeps state with
    ⟨error, left, failed, kept⟩ | ⟨planned, left, next, written, -, wrote, done⟩
  · rw [failed]
    exact congrArg Store.clones kept
  · rw [done]
    exact leaves planned state.store next written wrote

/-- An operation adds the clone of the copy that it made, and leaves all others. -/
theorem perform_copies (desk : Desk σ) (caller : Identity) (operation : Operation)
    (state : DeskState σ) :
    (outcome (desk.perform caller operation) state).2.store.clones.map CloneRow.key =
      state.store.clones.map CloneRow.key ++
        operation.copied (outcome (desk.perform caller operation) state).1 := by
  have kept (keeps : Keeps DeskState.clones (desk.perform caller operation))
      (other : operation.copied (outcome (desk.perform caller operation) state).1 = []) :
      (outcome (desk.perform caller operation) state).2.store.clones.map CloneRow.key =
        state.store.clones.map CloneRow.key ++
          operation.copied (outcome (desk.perform caller operation) state).1 := by
    rw [other, List.append_nil]
    exact congrArg (List.map CloneRow.key) (keeps state)
  cases operation with
  | cloneCompose id request =>
      rw [perform, outcome_map]
      rcases outcome_cloneCompose desk caller id request state with
        ⟨error, left, failed, same⟩ | ⟨given, now, left, placed⟩
      · rw [failed]
        simp only [same, Operation.copied, Except.map, List.append_nil]
      · rw [cloneCompose_of_placed placed]
        simp only [List.map_append, Operation.copied, Except.map]
        rfl
  | compose request => exact kept ((composeFor_keeps_clones desk caller request none).map _) rfl
  | composeBlueprint id selection =>
      exact kept ((composeBlueprint_keeps_clones desk caller id selection).map _) rfl
  | deleteCompose id =>
      refine kept (.map ?_ _) rfl
      rw [deleteCompose_eq_commit]
      refine commit_keeps_clones (.pure _) fun _ _ next _ written => ?_
      obtain ⟨-, rfl⟩ := Store.deleteCompose_ok (silently_ok written)
      rfl
  | createBlueprint request =>
      refine kept (.map ?_ _) rfl
      rw [createBlueprint_eq_commit]
      refine commit_keeps_clones (creation_keeps desk caller request) fun _ _ next _ written => ?_
      obtain ⟨-, rfl⟩ := Store.insertBlueprint_ok (silently_ok written)
      rfl
  | updateBlueprint id request =>
      refine kept (.map ?_ _) rfl
      rw [updateBlueprint_eq_commit]
      refine commit_keeps_clones (revision_keeps desk caller id request)
        fun _ _ next _ written => ?_
      obtain ⟨-, -, -, rfl⟩ := Store.updateBlueprint_ok written
      rfl
  | deleteBlueprint id =>
      refine kept (.map ?_ _) rfl
      rw [deleteBlueprint_eq_commit]
      refine commit_keeps_clones (.pure _) fun _ _ next _ written => ?_
      obtain ⟨-, rfl⟩ := Store.deleteBlueprint_ok (silently_ok written)
      rfl
  | composes | composeStatus | composeMetadata | clones | cloneStatus | getBlueprint
  | exportBlueprint | blueprints | blueprintComposes =>
      refine kept (fun state => ?_) rfl
      exact congrArg Store.clones (perform_keeps_store desk caller rfl state)

/-! ## Runs -/

theorem serve_copies (desk : Desk σ) (state : DeskState σ) (call : Call σ) :
    (desk.serve state call).2.store.clones.map CloneRow.key =
      state.store.clones.map CloneRow.key ++
        call.operation.copied (desk.serve state call).1 :=
  perform_copies desk call.caller call.operation { state with world := call.world }

theorem copies_cons (desk : Desk σ) (state : DeskState σ) (call : Call σ) (rest : List (Call σ)) :
    desk.copies state (call :: rest) =
      call.operation.copied (desk.serve state call).1 ++
        desk.copies (desk.serve state call).2 rest := rfl

/-- A run adds the clones of the copies that it made, and leaves all others. -/
theorem after_copies (desk : Desk σ) (state : DeskState σ) (calls : List (Call σ)) :
    (desk.after state calls).store.clones.map CloneRow.key =
      state.store.clones.map CloneRow.key ++ desk.copies state calls := by
  induction calls generalizing state with
  | nil => exact (List.append_nil _).symm
  | cons call rest ih =>
      rw [after, ih, serve_copies, copies_cons, List.append_assoc]

/-- The build service gives no identifier for a copy that a clone has already. -/
def Unrepeated (desk : Desk σ) (state : DeskState σ) (calls : List (Call σ)) : Prop :=
  ∀ earlier call later, calls = earlier ++ call :: later →
    ∀ composeId request, call.operation = .cloneCompose composeId request →
      ∀ id now left, outcome (desk.copying call.caller composeId request)
          { desk.after state earlier with world := call.world } = (.ok (id, now), left) →
        ∀ clone ∈ (desk.after state earlier).store.clones, clone.id ≠ id

section Run

variable {state : DeskState σ} {call : Call σ} {rest : List (Call σ)}

/-- Identifiers are first members of keys. -/
theorem ids_eq_keys (clones : List CloneRow) :
    clones.map (·.id) = (clones.map CloneRow.key).map Prod.fst := by
  rw [List.map_map]
  rfl

theorem serve_ids (desk : Desk σ) (state : DeskState σ) (call : Call σ) :
    (desk.serve state call).2.store.clones.map (·.id) =
      state.store.clones.map (·.id) ++
        (call.operation.copied (desk.serve state call).1).map Prod.fst := by
  rw [ids_eq_keys, serve_copies, List.map_append, ← ids_eq_keys]

theorem after_ids (desk : Desk σ) (state : DeskState σ) (calls : List (Call σ)) :
    (desk.after state calls).store.clones.map (·.id) =
      state.store.clones.map (·.id) ++ (desk.copies state calls).map Prod.fst := by
  rw [ids_eq_keys, after_copies, List.map_append, ← ids_eq_keys]

/-- A call that copies is answered with the identifier that was given. -/
theorem copied_of_placed {composeId id : Uuid} {request : CloneRequest} {now : Timestamp}
    {left : DeskState σ} (copies : call.operation = .cloneCompose composeId request)
    (placed : outcome (desk.copying call.caller composeId request)
      { state with world := call.world } = (.ok (id, now), left)) :
    call.operation.copied (desk.serve state call).1 = [(id, composeId)] := by
  rw [serve, copies, perform, outcome_map, cloneCompose_of_placed placed]
  rfl

/-- Only orders that the build service accepts add to the copies. -/
theorem placed_of_copied {key : Uuid × Uuid}
    (copied : key ∈ call.operation.copied (desk.serve state call).1) :
    ∃ request now left, call.operation = .cloneCompose key.2 request ∧
      outcome (desk.copying call.caller key.2 request) { state with world := call.world } =
        (.ok (key.1, now), left) := by
  obtain ⟨request, operation, -⟩ := Operation.of_mem_copied copied
  rcases outcome_cloneCompose desk call.caller key.2 request { state with world := call.world } with
    ⟨error, left, failed, -⟩ | ⟨given, now, left, placed⟩
  · rw [serve, operation, perform, outcome_map, failed] at copied
    cases copied
  · rw [copied_of_placed operation placed, List.mem_singleton] at copied
    exact ⟨request, now, left, operation, by rw [placed, copied]⟩

/-- If no identifier is repeated in a run, none is in the calls after the first. -/
theorem Unrepeated.tail (unrepeated : desk.Unrepeated state (call :: rest)) :
    desk.Unrepeated (desk.serve state call).2 rest := by
  intro earlier other later split
  exact unrepeated (call :: earlier) other later (by rw [split, List.cons_append])

/-- A call that is given no identifier of a clone keeps their identifiers apart. -/
theorem serve_nodup (unrepeated : desk.Unrepeated state (call :: rest))
    (distinct : (state.store.clones.map (·.id)).Nodup) :
    ((desk.serve state call).2.store.clones.map (·.id)).Nodup := by
  rw [serve_ids, List.nodup_append]
  refine ⟨distinct, ?_, ?_⟩
  · unfold Operation.copied
    split
    · exact List.nodup_singleton _
    · exact .nil
  · rintro _ held _ made rfl
    obtain ⟨clone, member, same⟩ := List.mem_map.mp held
    obtain ⟨key, copied, first⟩ := List.mem_map.mp made
    obtain ⟨request, now, left, operation, placed⟩ := placed_of_copied copied
    exact unrepeated [] call rest rfl key.2 request operation key.1 now left placed clone member
      (same.trans first.symm)

theorem after_nodup {calls : List (Call σ)} (unrepeated : desk.Unrepeated state calls)
    (distinct : (state.store.clones.map (·.id)).Nodup) :
    ((desk.after state calls).store.clones.map (·.id)).Nodup := by
  induction calls generalizing state with
  | nil => exact distinct
  | cons call rest ih => exact ih unrepeated.tail (serve_nodup unrepeated distinct)

/-- Clones that have identifiers of their own after a run were given them all along. -/
theorem unrepeated_of_nodup {calls : List (Call σ)}
    (distinct : ((desk.after state calls).store.clones.map (·.id)).Nodup) :
    desk.Unrepeated state calls := by
  rintro earlier call later rfl composeId request operation id now left placed clone member rfl
  rw [after_append, after, after_ids, serve_ids, copied_of_placed operation placed] at distinct
  have soon := (List.nodup_append.mp distinct).1
  exact (List.nodup_append.mp soon).2.2 clone.id (List.mem_map.mpr ⟨clone, member, rfl⟩) clone.id
    (List.mem_singleton_self _) rfl

end Run

/-- How composes and clones are told apart after a run. -/
structure Identifies (desk : Desk σ) (state : DeskState σ) (calls : List (Call σ)) : Prop where
  composes : ((desk.after state calls).store.composes.map (·.id)).Nodup
  /-- The clones are those of the orders to copy that were accepted, one for each. -/
  recorded : (desk.after state calls).store.clones.map CloneRow.key = desk.copies state calls
  /-- An order is accepted and recorded whatever identifier the build service gives. -/
  accepted : ∀ {caller composeId request present id now left},
    outcome (desk.copying caller composeId request)
        { desk.after state calls with world := present } = (.ok (id, now), left) →
      outcome (desk.cloneCompose caller composeId request)
          { desk.after state calls with world := present } =
        (.ok ⟨id⟩, { left with store := { (desk.after state calls).store with
          clones := (desk.after state calls).store.clones ++
            [.ofRequest composeId request id now] } })
  clones : ((desk.after state calls).store.clones.map (·.id)).Nodup ↔ desk.Unrepeated state calls
  /-- Then the state of a clone names the only compose that there is for its identifier. -/
  parents : desk.Unrepeated state calls → ∀ {caller id present status},
    (desk.serve (desk.after state calls) ⟨caller, .cloneStatus id, present⟩).1 =
        .ok (.cloneStatus status) →
      ∃ clone ∈ (desk.after state calls).store.clones,
        clone.id = id ∧ clone.composeId = status.composeId ∧
          ∀ other ∈ (desk.after state calls).store.clones, other.id = id → other = clone

/-- The state of a clone is that of one that the caller's organization has. -/
theorem cloneStatus_ok {id : Uuid} {state left : DeskState σ} {status : CloneStatus}
    (done : outcome (desk.cloneStatus caller id) state = (.ok status, left)) :
    ∃ clone ∈ state.store.clones, clone.id = id ∧ clone.composeId = status.composeId := by
  obtain ⟨found, _, looked, toRow⟩ := outcome_bind_eq_ok done
  obtain ⟨row, _, checked, toReply⟩ := outcome_bind_eq_ok toRow
  obtain ⟨reply, _, -, toKnown⟩ := outcome_bind_eq_ok toReply
  obtain ⟨known, _, -, toStatus⟩ := outcome_bind_eq_ok toKnown
  obtain ⟨read, _, -, toResult⟩ := outcome_bind_eq_ok toStatus
  obtain ⟨result, _, -, answered⟩ := outcome_bind_eq_ok toResult
  cases answered
  cases looked
  obtain ⟨member, same, -⟩ := Store.getClone_ok (Work.check_ok checked).1
  exact ⟨row, member, same, rfl⟩

/-- Composes always have identifiers of their own.  Clones have them exactly if the build
service never gives one that a clone has already; it is not refused if it does. -/
theorem clones_identified (desk : Desk σ) (metrics : Metrics) (world : σ)
    (calls : List (Call σ)) : desk.Identifies (start metrics world) calls where
  composes := (after_anchored Store.anchored_empty calls).unique
  recorded := after_copies desk (start metrics world) calls
  accepted placed := cloneCompose_of_placed placed
  clones := ⟨unrepeated_of_nodup, fun unrepeated => after_nodup unrepeated .nil⟩
  parents unrepeated caller id present status answered := by
    obtain ⟨read, left, done, same⟩ := outcome_map_eq_ok answered
    cases same
    obtain ⟨clone, member, own, parent⟩ := cloneStatus_ok done
    have distinct : ((desk.after (start metrics world) calls).store.clones.map (·.id)).Nodup :=
      after_nodup unrepeated .nil
    refine ⟨clone, member, own, parent, fun other among same => ?_⟩
    exact List.inj_on_of_nodup_map distinct among member (same.trans own.symm)

/-- A desk for EC2 images.  The world has the identifier that the build service gives,
for composes and for copies, and the second that it is. -/
def copious : Desk (Uuid × Int) :=
  let given : Act (Uuid × Int) ServiceFault Reply := do
    let (id, _) ← get
    return ⟨201, ("\x7b\"id\": \"" ++ id.toText ++ "\"\x7d").toUTF8.toList⟩
  { lenient with
    services :=
      { lenient.services with
        build :=
          { lenient.services.build with
            compose := fun _ => given
            cloneCompose := fun _ _ => given
            cloneStatus := fun _ => return ⟨200,
              ("\x7b\"status\": \"success\", \"type\": \"aws\", \"options\": " ++
                "\x7b\"ami\": \"ami-1\", \"region\": \"us-east-1\"\x7d\x7d").toUTF8.toList⟩ } }
    registry := ⟨[("rhel-9", ⟨none, ⟨"rhel-9", "", none, false⟩, some ⟨["aws"], []⟩, none⟩)]⟩
    quotas := .disabled }

def memberOf (org : String) : Identity :=
  ⟨org, "", "", "User", [], ""⟩

/-- A compose of each of two organizations, and a copy of each.  The second copy is given
the identifier of the first one. -/
def mixed : List (Call (Uuid × Int)) :=
  let shared : AwsTarget := ⟨some ["123456789012"], none⟩
  let image : ComposeRequest :=
    ⟨"rhel-9", [⟨"x86_64", .aws, .aws shared, none, none, none⟩], none, none, none, none⟩
  let copy : CloneRequest := ⟨"us-west-1", some ["123456789012"], none⟩
  [⟨memberOf "1", .compose image, uniform 1, 10⟩,
    ⟨memberOf "2", .compose image, uniform 2, 11⟩,
    ⟨memberOf "1", .cloneCompose (uniform 1) copy, uniform 9, 12⟩,
    ⟨memberOf "2", .cloneCompose (uniform 2) copy, uniform 9, 13⟩]

def parentOf (caller : Identity) (id : Uuid) (state : DeskState (Uuid × Int)) : Option Uuid :=
  match (copious.serve state ⟨caller, .cloneStatus id, (id, 20)⟩).1 with
  | .ok (.cloneStatus status) => some status.composeId
  | _ => none

/-- Two clones have one identifier, which stands for the compose of whoever asks. -/
theorem copies_mixed :
    let state := copious.after (start .empty (uniform 0, 0)) mixed
    state.store.clones.map CloneRow.key = [(uniform 9, uniform 1), (uniform 9, uniform 2)] ∧
      ¬ (state.store.clones.map (·.id)).Nodup ∧
      parentOf (memberOf "1") (uniform 9) state = some (uniform 1) ∧
      parentOf (memberOf "2") (uniform 9) state = some (uniform 2) := by
  decide +kernel

end Desk

end ComposeDesk
