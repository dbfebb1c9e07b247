import ComposeDesk.Proofs.Remembered
import ComposeDesk.Proofs.Store.Stamps

/-!
# The ledger of submissions

A run comes down to the submissions that are made in it, one after another: composes
that callers ask for, and the images of blueprints up to the first that is not
accepted.  The accepted ones account for all that the store remembers of composes,
whatever else is done in between.
-/

namespace ComposeDesk

variable {σ : Type}

/-- A submission of a compose, in the state that it finds. -/
structure Submission (σ : Type) where
  caller : Identity
  request : ComposeRequest
  versionId : Option Uuid
  before : DeskState σ

namespace Submission

def run (desk : Desk σ) (submission : Submission σ) : Except Error Created × DeskState σ :=
  outcome (desk.composeFor submission.caller submission.request submission.versionId)
    submission.before

def answer (desk : Desk σ) (submission : Submission σ) : Except Error Created :=
  (submission.run desk).1

def time (desk : Desk σ) (submission : Submission σ) : Timestamp :=
  (desk.now submission.before.world).1

/-- The instant at which an accepted submission was recorded. -/
def recorded? (desk : Desk σ) (submission : Submission σ) : Option Timestamp :=
  match submission.answer desk,
      (outcome (desk.submission submission.caller submission.request) submission.before).1 with
  | .ok _, .ok (_, now) => some now
  | _, _ => none

/-- The instants at which accepted submissions of an organization were recorded. -/
def ledger (desk : Desk σ) (org : String) (submissions : List (Submission σ)) :
    List Timestamp :=
  (submissions.filter (·.caller.org = org)).filterMap (·.recorded? desk)

theorem ledger_append (desk : Desk σ) (org : String) (earlier later : List (Submission σ)) :
    ledger desk org (earlier ++ later) = ledger desk org earlier ++ ledger desk org later := by
  rw [ledger, List.filter_append, List.filterMap_append]
  rfl

/-- Either nothing was recorded and the store is as it was, or a compose was added
at the instant that is told. -/
theorem run_cases (desk : Desk σ) (submission : Submission σ) :
    (∃ error, submission.answer desk = .error error ∧ submission.recorded? desk = none ∧
      (submission.run desk).2.store = submission.before.store) ∨
    ∃ id now, submission.answer desk = .ok ⟨id⟩ ∧ submission.recorded? desk = some now ∧
      (submission.run desk).2.store = { submission.before.store with
        composes := submission.before.store.composes ++
          [.ofRequest submission.caller submission.request submission.versionId id now] } := by
  obtain ⟨caller, request, versionId, state⟩ := submission
  obtain ⟨metrics, same⟩ := Desk.outcome_composeFor desk caller request versionId state
  simp only [recorded?, answer, run, same]
  rw [Desk.submit_eq_commit]
  rcases Work.commit_cases (fun placed : Uuid × Timestamp => silently
      (·.insertCompose (.ofRequest caller request versionId placed.1 placed.2)))
      (fun placed _ => (⟨placed.1⟩ : Created)) (Desk.submission_keeps desk caller request) state with
    ⟨error, left, failed, kept⟩ | ⟨⟨id, now⟩, planned, next, told, placed, written, done⟩
  · rw [failed]
    exact .inl ⟨error, rfl, rfl, kept⟩
  · obtain ⟨-, rfl⟩ := Store.insertCompose_ok_iff.mp (silently_ok written)
    rw [done, placed]
    exact .inr ⟨id, now, rfl, rfl, rfl⟩

/-- Exactly the accepted submissions are recorded. -/
theorem recorded?_isSome (desk : Desk σ) (submission : Submission σ) :
    (submission.recorded? desk).isSome = true ↔
      ∃ created, submission.answer desk = .ok created := by
  rcases submission.run_cases desk with ⟨error, failed, none, -⟩ | ⟨id, now, done, some, -⟩
  · simp [failed, none]
  · simp [done, some]

theorem stamps_run (desk : Desk σ) (submission : Submission σ) (org : String) :
    (submission.run desk).2.store.stamps org =
      submission.before.store.stamps org ++ ledger desk org [submission] := by
  unfold ledger
  rcases submission.run_cases desk with ⟨error, -, none, kept⟩ | ⟨id, now, -, some, stored⟩
  · rw [kept]
    by_cases own : submission.caller.org = org <;> simp [own, none]
  · rw [stored, Store.stamps_concat]
    by_cases own : submission.caller.org = org <;> simp [own, some, ComposeRow.ofRequest]

end Submission

/-- Submissions account for the instants that a store has more than another one, each
of them for what it finds. -/
structure Accounts (desk : Desk σ) (store : Store) (submissions : List (Submission σ))
    (next : Store) : Prop where
  total : ∀ org, next.stamps org = store.stamps org ++ Submission.ledger desk org submissions
  each : ∀ earlier submission later, submissions = earlier ++ submission :: later →
    ∀ org, submission.before.store.stamps org =
      store.stamps org ++ Submission.ledger desk org earlier

namespace Accounts

variable {desk : Desk σ} {store middle next : Store} {submissions more : List (Submission σ)}

theorem none (same : ∀ org, next.stamps org = store.stamps org) : Accounts desk store [] next where
  total org := by
    rw [same, Submission.ledger]
    exact (List.append_nil _).symm
  each earlier submission later split := by
    cases earlier <;> cases split

theorem single (desk : Desk σ) (submission : Submission σ) :
    Accounts desk submission.before.store [submission] (submission.run desk).2.store where
  total org := submission.stamps_run desk org
  each earlier other later split := by
    intro org
    cases earlier with
    | nil =>
        cases split
        exact (List.append_nil _).symm
    | cons first rest =>
        obtain ⟨-, impossible⟩ := List.cons.inj split
        cases rest <;> cases impossible

theorem append (first : Accounts desk store submissions middle)
    (second : Accounts desk middle more next) : Accounts desk store (submissions ++ more) next where
  total org := by
    rw [second.total, first.total, Submission.ledger_append, List.append_assoc]
  each earlier submission later split := by
    intro org
    rcases List.append_eq_append_iff.mp split with ⟨rest, rfl, after⟩ | ⟨rest, rfl, after⟩
    · rw [second.each rest submission later after, first.total, Submission.ledger_append,
        List.append_assoc]
    · cases rest with
      | nil =>
          have total := first.total org
          rw [List.append_nil] at total
          rw [second.each [] submission later after.symm, total]
          exact List.append_nil _
      | cons other rest =>
          obtain ⟨rfl, -⟩ := List.cons.inj after
          exact first.each earlier submission rest rfl org

end Accounts

def Operation.isComposing : Operation → Bool
  | .compose _ | .composeBlueprint _ _ => true
  | .composes _ | .composeStatus _ | .composeMetadata _ | .deleteCompose _ | .cloneCompose _ _
  | .clones _ _ | .cloneStatus _ | .createBlueprint _ | .getBlueprint _ _ | .exportBlueprint _
  | .blueprints _ _ | .updateBlueprint _ _ | .deleteBlueprint _
  | .blueprintComposes _ _ _ => false

namespace Desk

/-- The submissions of images of a blueprint, up to the first that is not accepted. -/
def submissionsOfImages (desk : Desk σ) (caller : Identity) (entry : BlueprintEntry)
    (body : BlueprintBody) : List ImageRequest → DeskState σ → List (Submission σ)
  | [], _ => []
  | image :: rest, state =>
      let submission : Submission σ :=
        ⟨caller, blueprintRequest entry body image, some entry.versionId, state⟩
      submission ::
        match submission.run desk with
        | (.ok _, left) => desk.submissionsOfImages caller entry body rest left
        | (.error _, _) => []

def submissionsOf (desk : Desk σ) (state : DeskState σ) (call : Call σ) : List (Submission σ) :=
  match call.operation with
  | .compose request => [⟨call.caller, request, none, { state with world := call.world }⟩]
  | .composeBlueprint id selection =>
      match outcome (choosing call.caller id selection) { state with world := call.world } with
      | (.ok ((entry, body), images), left) =>
          desk.submissionsOfImages call.caller entry body images left
      | (.error _, _) => []
  | _ => []

/-- All submissions of a run, in their order. -/
def submissions (desk : Desk σ) : DeskState σ → List (Call σ) → List (Submission σ)
  | _, [] => []
  | state, call :: rest =>
      desk.submissionsOf state call ++ desk.submissions (desk.serve state call).2 rest

variable {desk : Desk σ} {caller : Identity} {entry : BlueprintEntry} {body : BlueprintBody}

section Images

variable {image : ImageRequest} {rest : List ImageRequest} {state left : DeskState σ}

theorem submissionsOfImages_of_error {error : Error}
    (failed : outcome (desk.composeFor caller (blueprintRequest entry body image)
      (some entry.versionId)) state = (.error error, left)) :
    desk.submissionsOfImages caller entry body (image :: rest) state =
      [⟨caller, blueprintRequest entry body image, some entry.versionId, state⟩] := by
  simp only [submissionsOfImages, Submission.run, failed]

theorem submissionsOfImages_of_ok {created : Created}
    (done : outcome (desk.composeFor caller (blueprintRequest entry body image)
      (some entry.versionId)) state = (.ok created, left)) :
    desk.submissionsOfImages caller entry body (image :: rest) state =
      ⟨caller, blueprintRequest entry body image, some entry.versionId, state⟩ ::
        desk.submissionsOfImages caller entry body rest left := by
  simp only [submissionsOfImages, Submission.run, done]

end Images

/-- The answer for images is that of their submissions, which ends with the first
error. -/
theorem submitAll_answer (images : List ImageRequest) (state : DeskState σ) :
    (outcome (desk.submitAll caller entry body images) state).1 =
      (desk.submissionsOfImages caller entry body images state).mapM (Submission.answer desk) := by
  unfold submitAll
  induction images generalizing state with
  | nil => rfl
  | cons image rest ih =>
      rw [List.mapM_cons]
      rcases done : outcome (desk.composeFor caller (blueprintRequest entry body image)
        (some entry.versionId)) state with ⟨error | created, left⟩
      · rw [outcome_bind_error done, submissionsOfImages_of_error done, List.mapM_cons,
          Submission.answer, Submission.run, done]
        rfl
      · have following := ih left
        rw [outcome_bind_ok done, submissionsOfImages_of_ok done, List.mapM_cons,
          Submission.answer, Submission.run, done, ← following, outcome_bind]
        rcases outcome (rest.mapM fun image => desk.composeFor caller
          (blueprintRequest entry body image) (some entry.versionId)) left with
          ⟨error | others, last⟩ <;> rfl

/-- Submissions of images come to an error that one of them is answered with: the ones
before it are accepted, and none follows. -/
theorem mapM_answer_error_iff (images : List ImageRequest) (state : DeskState σ) {error : Error} :
    (desk.submissionsOfImages caller entry body images state).mapM (Submission.answer desk) =
        .error error ↔
      ∃ submission ∈ desk.submissionsOfImages caller entry body images state,
        submission.answer desk = .error error := by
  induction images generalizing state with
  | nil =>
      constructor
      · intro same
        cases same
      · rintro ⟨submission, member, -⟩
        exact absurd member List.not_mem_nil
  | cons image rest ih =>
      rcases done : outcome (desk.composeFor caller (blueprintRequest entry body image)
        (some entry.versionId)) state with ⟨told | created, left⟩
      · have answered : Submission.answer desk ⟨caller, blueprintRequest entry body image,
            some entry.versionId, state⟩ = .error told := congrArg Prod.fst done
        rw [submissionsOfImages_of_error done]
        simp only [List.mapM_cons, List.mem_singleton, exists_eq_left, answered]
        constructor
        · intro same
          cases same
          rfl
        · intro same
          cases same
          rfl
      · have answered : Submission.answer desk ⟨caller, blueprintRequest entry body image,
            some entry.versionId, state⟩ = .ok created := congrArg Prod.fst done
        rw [submissionsOfImages_of_ok done]
        simp only [List.mapM_cons, List.mem_cons, exists_eq_or_imp, answered, ← ih left,
          reduceCtorEq, false_or]
        rcases (desk.submissionsOfImages caller entry body rest left).mapM
          (Submission.answer desk) with first | others
        · constructor
          · intro same
            cases same
            rfl
          · intro same
            cases same
            rfl
        · exact iff_of_false nofun nofun

theorem submitAll_accounts (images : List ImageRequest) (state : DeskState σ) :
    Accounts desk state.store (desk.submissionsOfImages caller entry body images state)
      (outcome (desk.submitAll caller entry body images) state).2.store := by
  unfold submitAll
  induction images generalizing state with
  | nil => exact .none fun _ => rfl
  | cons image rest ih =>
      have single := Accounts.single desk
        ⟨caller, blueprintRequest entry body image, some entry.versionId, state⟩
      rw [List.mapM_cons]
      rcases done : outcome (desk.composeFor caller (blueprintRequest entry body image)
        (some entry.versionId)) state with ⟨error | created, left⟩
      · rw [Submission.run, done] at single
        rw [outcome_bind_error done, submissionsOfImages_of_error done]
        exact single
      · rw [Submission.run, done] at single
        have following := ih left
        rw [outcome_bind_ok done, submissionsOfImages_of_ok done, outcome_bind]
        rcases ran : outcome (rest.mapM fun image => desk.composeFor caller
          (blueprintRequest entry body image) (some entry.versionId)) left with
          ⟨error | others, last⟩
        · rw [ran] at following
          exact single.append following
        · rw [ran] at following
          exact single.append following

/-! ## Runs -/

/-- The work for calls of other organizations, and for calls that ask for no compose,
leaves the instants of an organization. -/
theorem serve_stamps (desk : Desk σ) (state : DeskState σ) {call : Call σ} {org : String}
    (unable : call.caller.org ≠ org ∨
      ∀ request, ¬ call.operation.Asks state.store call.caller request) :
    (desk.serve state call).2.store.stamps org = state.store.stamps org := by
  obtain ⟨ids, changes⟩ := perform_changes desk call.caller call.operation
    { state with world := call.world }
  exact changes.stamps_eq unable

section Chosen

variable {id : Uuid} {selection : ImageSelection} {images : List ImageRequest}
  {state left : DeskState σ} {world : σ}

theorem submissionsOf_of_error {error : Error}
    (failed : outcome (choosing caller id selection) { state with world } = (.error error, left)) :
    desk.submissionsOf state ⟨caller, .composeBlueprint id selection, world⟩ = [] := by
  simp only [submissionsOf, failed]

/-- The images that are chosen are submitted in the state that the call finds. -/
theorem submissionsOf_of_chosen
    (chosen : outcome (choosing caller id selection) { state with world } =
      (.ok ((entry, body), images), left)) :
    desk.submissionsOf state ⟨caller, .composeBlueprint id selection, world⟩ =
      desk.submissionsOfImages caller entry body images { state with world } := by
  obtain ⟨rfl, -⟩ := choosing_ok chosen
  simp only [submissionsOf, chosen]

end Chosen

/-- The submissions of a call account for what it adds. -/
theorem serve_accounts (desk : Desk σ) (state : DeskState σ) (call : Call σ) :
    Accounts desk state.store (desk.submissionsOf state call) (desk.serve state call).2.store := by
  obtain ⟨caller, operation, world⟩ := call
  cases operation with
  | compose request =>
      rw [serve, perform, outcome_map]
      exact .single desk ⟨caller, request, none, { state with world }⟩
  | composeBlueprint id selection =>
      rw [serve, perform, outcome_map, composeBlueprint_eq]
      rcases chosen : outcome (choosing caller id selection) { state with world } with
        ⟨error | ⟨⟨entry, body⟩, images⟩, left⟩
      · have kept := choosing_keeps_store caller id selection { state with world }
        rw [chosen] at kept
        rw [outcome_bind_error chosen, submissionsOf_of_error chosen]
        exact .none fun org => congrArg (Store.stamps · org) kept
      · obtain ⟨rfl, -⟩ := choosing_ok chosen
        rw [outcome_bind_ok chosen, submissionsOf_of_chosen chosen]
        exact submitAll_accounts images { state with world }
  | composes | composeStatus | composeMetadata | deleteCompose | cloneCompose | clones
  | cloneStatus | createBlueprint | getBlueprint | exportBlueprint | blueprints
  | updateBlueprint | deleteBlueprint | blueprintComposes =>
      refine .none fun org => serve_stamps desk state (.inr fun request asked => ?_)
      cases asked

/-- A call to compose is answered as its submission, or as all submissions of its
images. -/
theorem serve_answer (desk : Desk σ) (state : DeskState σ) (caller : Identity) (world : σ) :
    (∀ request, (desk.serve state ⟨caller, .compose request, world⟩).1 =
      (Submission.answer desk ⟨caller, request, none, { state with world }⟩).map .created) ∧
    ∀ id selection entry body images left,
      outcome (choosing caller id selection) { state with world } =
        (.ok ((entry, body), images), left) →
      (desk.serve state ⟨caller, .composeBlueprint id selection, world⟩).1 =
        ((desk.submissionsOf state ⟨caller, .composeBlueprint id selection, world⟩).mapM
          (Submission.answer desk)).map .createdAll := by
  constructor
  · intro request
    rw [serve, perform, outcome_map]
    rfl
  · intro id selection entry body images left chosen
    obtain ⟨rfl, -⟩ := choosing_ok chosen
    rw [serve, perform, outcome_map, composeBlueprint_eq, outcome_bind_ok chosen,
      submissionsOf_of_chosen chosen, submitAll_answer]

/-- The submissions of a run account for all composes that it leaves. -/
theorem run_accounts (desk : Desk σ) (state : DeskState σ) (calls : List (Call σ)) :
    Accounts desk state.store (desk.submissions state calls) (desk.after state calls).store := by
  induction calls generalizing state with
  | nil => exact .none fun _ => rfl
  | cons call rest ih => exact (serve_accounts desk state call).append (ih _)

end Desk

end ComposeDesk
