import ComposeDesk.Proofs.Metering
import ComposeDesk.Proofs.Quota
import ComposeDesk.Proofs.Request.Body

/-!
# Counters and submissions

What a submission adds to the counters is told by how it ends: whether the quota
refuses it, which image it has if the quota does not, and whether it fails.  So the
counters of a run are the numbers of its submissions that end in these ways.
-/

namespace ComposeDesk

variable {σ : Type}

def ComposeRequest.sole? (request : ComposeRequest) : Option ImageRequest :=
  match request.imageRequests with
  | [image] => some image
  | _ => none

namespace Submission

/-- Whether a submission is refused for the quota. -/
def isRejected (desk : Desk σ) (submission : Submission σ) : Bool :=
  match submission.answer desk with
  | .error .quotaExceeded => true
  | _ => false

/-- Whether a submission ends with an error that is not the caller's. -/
def isFailed (desk : Desk σ) (submission : Submission σ) : Bool :=
  match submission.answer desk with
  | .error error => 500 ≤ error.status
  | .ok _ => false

/-- The only image of a submission that passes the quota. -/
def admitted? (desk : Desk σ) (submission : Submission σ) : Option ImageRequest :=
  match desk.quotas.allows submission.caller.org submission.before.store
      (submission.time desk) with
  | .ok true => submission.request.sole?
  | _ => none

/-- Whether a submission passes the quota with one image, which is of a type. -/
def isAdmitted (desk : Desk σ) (type : ImageType) (submission : Submission σ) : Bool :=
  (submission.admitted? desk).any (·.imageType = type)

def counted (desk : Desk σ) (submission : Submission σ) (metrics : Metrics) : Metrics where
  composeRequests :=
    match submission.admitted? desk with
    | some image => Series.update image.imageType.name 0 (· + 1) metrics.composeRequests
    | none => metrics.composeRequests
  composeErrors := metrics.composeErrors + (submission.isFailed desk).toNat
  quotaRejections := metrics.quotaRejections + (submission.isRejected desk).toNat
  durations := metrics.durations

variable {desk : Desk σ}

theorem isRejected_iff (submission : Submission σ) :
    submission.isRejected desk = true ↔ submission.answer desk = .error .quotaExceeded := by
  unfold isRejected
  split
  · rename_i same
    exact iff_of_true rfl same
  · rename_i other
    exact iff_of_false Bool.false_ne_true other

/-- A submission that the guard does not refuse is not refused for the quota. -/
theorem isRejected_of_ne {submission : Submission σ}
    (other : desk.quotas.allows submission.caller.org submission.before.store
      (submission.time desk) ≠ .ok false) : submission.isRejected desk = false := by
  rw [Bool.eq_false_iff, ne_eq, isRejected_iff, answer_quotaExceeded_iff]
  exact other

end Submission

namespace Desk

variable {desk : Desk σ} {caller : Identity} {request : ComposeRequest}
  {versionId : Option Uuid} {state left : DeskState σ}

/-- Admission goes by the guard, and counts refusals for the quota. -/
theorem allow_cases (desk : Desk σ) (caller : Identity) (state : DeskState σ) :
    (∃ fault left,
        desk.quotas.allows caller.org state.store (desk.now state.world).1 = .error fault ∧
        outcome (desk.allow caller) state = (.error fault.error, left) ∧
        left.metrics = state.metrics) ∨
      (∃ left, desk.quotas.allows caller.org state.store (desk.now state.world).1 = .ok false ∧
        outcome (desk.allow caller) state = (.error .quotaExceeded, left) ∧
        left.metrics = state.metrics.quotaRejected) ∨
      ∃ left, desk.quotas.allows caller.org state.store (desk.now state.world).1 = .ok true ∧
        outcome (desk.allow caller) state = (.ok (), left) ∧ left.metrics = state.metrics := by
  unfold allow
  simp only [outcome_bind, Work.outcome_outside, Work.outcome_look, Work.outcome_check]
  rcases desk.quotas.allows caller.org state.store (desk.now state.world).1 with fault | _ | _
  · exact .inl ⟨fault, _, rfl, rfl, rfl⟩
  · exact .inr (.inl ⟨_, rfl, rfl, rfl⟩)
  · exact .inr (.inr ⟨_, rfl, rfl, rfl⟩)

/-- Once a request is admitted, only the type of its only image is counted. -/
theorem placing_metrics (desk : Desk σ) (caller : Identity) (request : ComposeRequest)
    (state : DeskState σ) :
    (outcome (desk.placing caller request) state).2.metrics =
      match request.sole? with
      | some image => state.metrics.composeRequested image.imageType.name
      | none => state.metrics := by
  have ordered (image : ImageRequest) : Keeps DeskState.metrics
      (desk.orderFor caller request image >>= fun order => desk.place order) :=
    (orderFor_unmetered desk caller request image).bind fun order => place_unmetered desk order
  unfold placing soleImage ComposeRequest.sole?
  rcases request.imageRequests with _ | ⟨image, _ | ⟨second, rest⟩⟩
  · rfl
  · exact ordered image
      { state with metrics := state.metrics.composeRequested image.imageType.name }
  · rfl

theorem submit_metrics_of_refused {error : Error}
    (refused : outcome (desk.allow caller) state = (.error error, left)) :
    (outcome (desk.submit caller request versionId) state).2.metrics = left.metrics := by
  rw [submit_eq_stages, outcome_bind_error refused]

theorem submit_metrics_of_admitted
    (admitted : outcome (desk.allow caller) state = (.ok (), left)) :
    (outcome (desk.submit caller request versionId) state).2.metrics =
      (outcome (desk.placing caller request) left).2.metrics := by
  have recorded (id : Uuid) : Keeps DeskState.metrics
      (desk.record caller request versionId id >>= fun _ => (pure ⟨id⟩ : Work σ Created)) :=
    (record_unmetered desk caller request versionId id).bind fun _ => .pure _
  rw [submit_eq_stages, outcome_bind_ok admitted]
  rcases placed : outcome (desk.placing caller request) left with ⟨error | id, last⟩
  · rw [outcome_bind_error placed]
  · rw [outcome_bind_ok placed]
    exact recorded id last

/-- A failure is counted at the end. -/
theorem composeFor_metrics (desk : Desk σ) (caller : Identity) (request : ComposeRequest)
    (versionId : Option Uuid) (state : DeskState σ) :
    (outcome (desk.composeFor caller request versionId) state).2.metrics =
      match outcome (desk.submit caller request versionId) state with
      | (.error error, left) =>
          if 500 ≤ error.status then left.metrics.composeFailed else left.metrics
      | (.ok _, left) => left.metrics := by
  rw [composeFor, outcome_tryCatch]
  rcases outcome (desk.submit caller request versionId) state with ⟨error | created, left⟩
  · simp only
    split
    · rfl
    · rfl
  · rfl

end Desk

namespace Submission

variable {desk : Desk σ}

/-- What is counted of a submission before its end, where failures are. -/
theorem submit_metrics (desk : Desk σ) (submission : Submission σ) :
    (outcome (desk.submit submission.caller submission.request submission.versionId)
        submission.before).2.metrics =
      { submission.counted desk submission.before.metrics with
        composeErrors := submission.before.metrics.composeErrors } := by
  unfold counted admitted? time
  rcases Desk.allow_cases desk submission.caller submission.before with
    ⟨fault, left, guarded, refused, metered⟩ | ⟨left, guarded, refused, metered⟩ |
      ⟨left, guarded, passed, metered⟩
  · have unrejected : submission.isRejected desk = false := isRejected_of_ne (by
      rw [time, guarded]
      intro same
      cases same)
    rw [Desk.submit_metrics_of_refused refused, metered, guarded, unrejected]
    rfl
  · have rejected : submission.isRejected desk = true :=
      submission.isRejected_iff.mpr (answer_of_refused (congrArg Prod.fst refused))
    rw [Desk.submit_metrics_of_refused refused, metered, guarded, rejected]
    rfl
  · have unrejected : submission.isRejected desk = false := isRejected_of_ne (by
      rw [time, guarded]
      intro same
      cases same)
    rw [Desk.submit_metrics_of_admitted passed, Desk.placing_metrics, metered, guarded, unrejected]
    simp only
    cases submission.request.sole? with
    | none => rfl
    | some image => rfl

/-- The metrics after a submission are those before, with what it adds. -/
theorem run_metrics (desk : Desk σ) (submission : Submission σ) :
    (submission.run desk).2.metrics = submission.counted desk submission.before.metrics := by
  have before := submission.submit_metrics desk
  have answered : submission.answer desk = _ := submission.answer_eq
  rw [run, Desk.composeFor_metrics]
  rcases done : outcome (desk.submit submission.caller submission.request submission.versionId)
    submission.before with ⟨error | created, left⟩
  · rw [done] at before answered
    simp only at before answered
    have failed : submission.isFailed desk = decide (500 ≤ error.status) := by
      rw [isFailed, answered]
    simp only [before]
    split
    · rename_i severe
      rw [decide_eq_true severe] at failed
      simp only [counted, failed]
      rfl
    · rename_i mild
      rw [decide_eq_false mild] at failed
      simp only [counted, failed]
      rfl
  · rw [done] at before answered
    have failed : submission.isFailed desk = false := by
      rw [isFailed, answered]
    simp only at before ⊢
    rw [before]
    simp only [counted, failed]
    rfl

end Submission

def Metrics.counting (desk : Desk σ) (metrics : Metrics) (submissions : List (Submission σ)) :
    Metrics :=
  submissions.foldl (fun counts submission => submission.counted desk counts) metrics

namespace Desk

variable {desk : Desk σ} {caller : Identity}

theorem submitAll_metrics {entry : BlueprintEntry} {body : BlueprintBody}
    (images : List ImageRequest) (state : DeskState σ) :
    (outcome (desk.submitAll caller entry body images) state).2.metrics =
      state.metrics.counting desk (desk.submissionsOfImages caller entry body images state) := by
  unfold submitAll
  induction images generalizing state with
  | nil => rfl
  | cons image rest ih =>
      have first := Submission.run_metrics desk
        ⟨caller, blueprintRequest entry body image, some entry.versionId, state⟩
      rw [List.mapM_cons]
      rcases done : outcome (desk.composeFor caller (blueprintRequest entry body image)
        (some entry.versionId)) state with ⟨error | created, left⟩
      · rw [Submission.run, done] at first
        rw [outcome_bind_error done, submissionsOfImages_of_error done]
        exact first
      · rw [Submission.run, done] at first
        simp only at first
        rw [outcome_bind_ok done, submissionsOfImages_of_ok done, Metrics.counting,
          List.foldl_cons, ← first]
        refine Eq.trans ?_ (ih left)
        rw [outcome_bind]
        rcases outcome (rest.mapM fun image => desk.composeFor caller
          (blueprintRequest entry body image) (some entry.versionId)) left with
          ⟨error | others, last⟩ <;> rfl

/-- A call adds what its submissions add, and nothing else. -/
theorem serve_metrics (desk : Desk σ) (state : DeskState σ) (call : Call σ) :
    (desk.serve state call).2.metrics =
      state.metrics.counting desk (desk.submissionsOf state call) := by
  obtain ⟨caller, operation, world⟩ := call
  cases operation with
  | compose request =>
      rw [serve, perform, outcome_map]
      exact Submission.run_metrics desk ⟨caller, request, none, { state with world }⟩
  | composeBlueprint id selection =>
      have unmetered := choosing_unmetered caller id selection { state with world }
      rw [serve, perform, outcome_map, composeBlueprint_eq]
      rcases chosen : outcome (choosing caller id selection) { state with world } with
        ⟨error | ⟨⟨entry, body⟩, images⟩, left⟩
      · rw [chosen] at unmetered
        rw [outcome_bind_error chosen, submissionsOf_of_error chosen]
        exact unmetered
      · obtain ⟨rfl, -⟩ := choosing_ok chosen
        rw [outcome_bind_ok chosen, submissionsOf_of_chosen chosen]
        exact submitAll_metrics images { state with world }
  | composes | composeStatus | composeMetadata | deleteCompose | cloneCompose | clones
  | cloneStatus | createBlueprint | getBlueprint | exportBlueprint | blueprints
  | updateBlueprint | deleteBlueprint | blueprintComposes =>
      exact perform_unmetered desk caller rfl { state with world }

end Desk

namespace Metrics

variable {desk : Desk σ} {metrics : Metrics}

theorem counting_cons (submission : Submission σ) (rest : List (Submission σ)) :
    metrics.counting desk (submission :: rest) =
      (submission.counted desk metrics).counting desk rest := rfl

theorem counting_append (earlier later : List (Submission σ)) :
    metrics.counting desk (earlier ++ later) =
      (metrics.counting desk earlier).counting desk later :=
  List.foldl_append

/-- A number to which each submission that ends in some way adds one comes to the number
of these submissions. -/
theorem counting_number (number : Metrics → Nat) (ends : Submission σ → Bool)
    (kept : Metrics → Prop)
    (keeps : ∀ {metrics}, kept metrics → ∀ submission : Submission σ,
      kept (submission.counted desk metrics))
    (each : ∀ {metrics}, kept metrics → ∀ submission : Submission σ,
      number (submission.counted desk metrics) = number metrics + (ends submission).toNat)
    (holds : kept metrics) (submissions : List (Submission σ)) :
    number (metrics.counting desk submissions) = number metrics + submissions.countP ends := by
  induction submissions generalizing metrics with
  | nil => rfl
  | cons submission rest ih =>
      rw [counting_cons, ih (keeps holds submission), each holds, List.countP_cons]
      cases ends submission with
      | true =>
          rw [Bool.toNat_true, if_pos rfl]
          omega
      | false =>
          rw [Bool.toNat_false, if_neg Bool.false_ne_true]
          omega

theorem counting_rejections (metrics : Metrics) (submissions : List (Submission σ)) :
    (metrics.counting desk submissions).quotaRejections =
      metrics.quotaRejections + submissions.countP (·.isRejected desk) :=
  counting_number quotaRejections (·.isRejected desk) (fun _ => True) (fun _ _ => trivial)
    (fun _ _ => rfl) trivial submissions

theorem counting_errors (metrics : Metrics) (submissions : List (Submission σ)) :
    (metrics.counting desk submissions).composeErrors =
      metrics.composeErrors + submissions.countP (·.isFailed desk) :=
  counting_number composeErrors (·.isFailed desk) (fun _ => True) (fun _ _ => trivial)
    (fun _ _ => rfl) trivial submissions

theorem counted_sorted (sorted : metrics.composeRequests.Sorted) (submission : Submission σ) :
    (submission.counted desk metrics).composeRequests.Sorted := by
  unfold Submission.counted
  cases submission.admitted? desk with
  | none => exact sorted
  | some image => exact sorted.update _ _ _

/-- A submission counts for the type of its image, if it passes the quota. -/
theorem counted_requests (sorted : metrics.composeRequests.Sorted) (submission : Submission σ)
    (type : ImageType) :
    (submission.counted desk metrics).requestsOf type.name =
      metrics.requestsOf type.name + (submission.isAdmitted desk type).toNat := by
  unfold requestsOf Submission.counted Submission.isAdmitted
  cases submission.admitted? desk with
  | none => rfl
  | some image =>
      by_cases same : image.imageType = type
      · subst same
        simp only [Series.get?_update_self sorted, Option.getD_some, Option.any_some, decide_true,
          Bool.toNat_true]
      · have apart : image.imageType.name ≠ type.name := fun alike =>
          same (ImageType.codec_sound.injective (congrArg Json.str alike))
        simp only [Series.get?_update_of_ne apart, Option.any_some, same, decide_false,
          Bool.toNat_false, Nat.add_zero]

theorem counting_requests (sorted : metrics.composeRequests.Sorted)
    (submissions : List (Submission σ)) (type : ImageType) :
    (metrics.counting desk submissions).requestsOf type.name =
      metrics.requestsOf type.name + submissions.countP (·.isAdmitted desk type) :=
  counting_number (·.requestsOf type.name) (·.isAdmitted desk type) (·.composeRequests.Sorted)
    counted_sorted (fun sorted submission => counted_requests sorted submission type) sorted
    submissions

end Metrics

end ComposeDesk
