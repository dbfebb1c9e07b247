import ComposeDesk.Proofs.Quota
import ComposeDesk.Proofs.Race
import ComposeDesk.Proofs.Submission
import Mathlib.Data.Fintype.Card

/-!
# Submissions in a rush

A submission takes three steps: it is admitted when few enough composes are counted, it
is placed with the build service, and it is recorded.  Nothing is held from the first
step to the last one, so submissions whose steps are taken in turns may all be admitted
before any of them is recorded.  A quota is exceeded by no more submissions than are
between these steps at the same time, less one.
-/

namespace ComposeDesk

variable {ι σ : Type}

/-- How far a submission has come. -/
inductive Stage where
  | asked
  | admitted
  | placed (id : Uuid)
  | recorded (id : Uuid)
  | failed (error : Error)

namespace Stage

/-- Whether composes were counted for the submission, and it may still be recorded. -/
def isPending : Stage → Bool
  | .admitted | .placed _ => true
  | .asked | .recorded _ | .failed _ => false

def after {α : Type} (next : α → Stage) : Except Error α × DeskState σ → Stage × DeskState σ
  | (.ok a, left) => (next a, left)
  | (.error error, left) => (.failed error, left)

end Stage

structure Attempt where
  caller : Identity
  request : ComposeRequest
  versionId : Option Uuid

/-- What submissions have made of a state. -/
structure Rush (ι σ : Type) where
  state : DeskState σ
  stage : ι → Stage

namespace Rush

def start (ι : Type) (state : DeskState σ) : Rush ι σ :=
  ⟨state, fun _ => .asked⟩

/-- The submissions between counting and recording. -/
def pending [Fintype ι] (rush : Rush ι σ) : Finset ι :=
  Finset.univ.filter fun who => (rush.stage who).isPending = true

end Rush

namespace Desk

/-- The next step of a submission.  Placing is one step whatever services are asked for
it, because none of them sees the store. -/
def stride (desk : Desk σ) (attempt : Attempt) (state : DeskState σ) :
    Stage → Stage × DeskState σ
  | .asked => Stage.after (fun _ => .admitted) (outcome (desk.allow attempt.caller) state)
  | .admitted =>
      Stage.after .placed (outcome (desk.placing attempt.caller attempt.request) state)
  | .placed id =>
      Stage.after (fun _ => .recorded id)
        (outcome (desk.record attempt.caller attempt.request attempt.versionId id) state)
  | .recorded id => (.recorded id, state)
  | .failed error => (.failed error, state)

def move [DecidableEq ι] (desk : Desk σ) (attempts : ι → Attempt) (rush : Rush ι σ)
    (turn : Turn ι σ) : Rush ι σ :=
  let (next, left) := desk.stride (attempts turn.who) { rush.state with world := turn.world }
    (rush.stage turn.who)
  ⟨left, Function.update rush.stage turn.who next⟩

/-- Submissions take their steps in turns. -/
def rush [DecidableEq ι] (desk : Desk σ) (attempts : ι → Attempt) :
    Rush ι σ → List (Turn ι σ) → Rush ι σ
  | rush, [] => rush
  | rush, turn :: rest => desk.rush attempts (desk.move attempts rush turn) rest

/-- The most submissions that are between counting and recording at the same time. -/
def overlap [Fintype ι] [DecidableEq ι] (desk : Desk σ) (attempts : ι → Attempt) :
    Rush ι σ → List (Turn ι σ) → Nat
  | rush, [] => rush.pending.card
  | rush, turn :: rest =>
      max rush.pending.card (desk.overlap attempts (desk.move attempts rush turn) rest)

/-- The steps of a submission that is alone are those of the desk. -/
theorem stride_stride_stride (desk : Desk σ) (attempt : Attempt) (state : DeskState σ) :
    let admitted := desk.stride attempt state .asked
    let placed := desk.stride attempt admitted.2 admitted.1
    desk.stride attempt placed.2 placed.1 =
      Stage.after (fun created => .recorded created.id)
        (outcome (desk.submit attempt.caller attempt.request attempt.versionId) state) := by
  rw [submit_eq_stages]
  rcases allowed : outcome (desk.allow attempt.caller) state with ⟨error | _, first⟩
  · rw [outcome_bind_error allowed]
    simp only [stride, allowed, Stage.after]
  · rw [outcome_bind_ok allowed]
    rcases placed : outcome (desk.placing attempt.caller attempt.request) first with
      ⟨error | id, second⟩
    · rw [outcome_bind_error placed]
      simp only [stride, allowed, placed, Stage.after]
    · rw [outcome_bind_ok placed]
      rcases recorded : outcome (desk.record attempt.caller attempt.request attempt.versionId id)
        second with ⟨error | _, last⟩
      · rw [outcome_bind_error recorded]
        simp only [stride, allowed, placed, recorded, Stage.after]
      · rw [outcome_bind_ok recorded]
        simp only [stride, allowed, placed, recorded, Stage.after]
        rfl

/-- What a step does to the stage of a submission and to the store. -/
inductive Strides (desk : Desk σ) (attempt : Attempt) (state : DeskState σ) :
    Stage → Stage → Store → Prop where
  | admitted
      (allowed : desk.quotas.allows attempt.caller.org state.store (desk.now state.world).1 =
        .ok true) :
      Strides desk attempt state .asked .admitted state.store
  | placed (id : Uuid) : Strides desk attempt state .admitted (.placed id) state.store
  | recorded (id : Uuid) (now : Timestamp) :
      Strides desk attempt state (.placed id) (.recorded id) { state.store with
        composes := state.store.composes ++
          [.ofRequest attempt.caller attempt.request attempt.versionId id now] }
  | failed (stage : Stage) (error : Error) :
      Strides desk attempt state stage (.failed error) state.store
  | ended (id : Uuid) : Strides desk attempt state (.recorded id) (.recorded id) state.store

section Keeping

variable (desk : Desk σ) (caller : Identity)

theorem allow_keeps_store : Keeps DeskState.store (desk.allow caller) :=
  keeps_store_of_agree fun _ =>
    allow_agree (Store.views_pinned _ _).toLists desk.alike_self.toAsksAlike

theorem placing_keeps_store (request : ComposeRequest) :
    Keeps DeskState.store (desk.placing caller request) :=
  keeps_store_of_agree fun _ =>
    .bind (soleImage_agree request) fun image =>
      .bind (orderFor_agree desk.alike_self.toAsksAlike request image) fun order =>
        place_agree (desk.actsAlike_self.compose order)

/-- Recording is one change of the store, at the time that it is. -/
theorem record_eq_commit (request : ComposeRequest) (versionId : Option Uuid) (id : Uuid) :
    desk.record caller request versionId id =
      Work.commit (Work.outside desk.now)
        (fun now => silently (·.insertCompose (.ofRequest caller request versionId id now)))
        (fun _ _ => ()) := by
  simp only [record, Work.commit, bind_pure_unit]
  rfl

end Keeping

/-- After work that keeps the store, a submission has failed or is at the next stage. -/
theorem after_cases {α : Type} {work : Work σ α} (keeps : Keeps DeskState.store work)
    (next : α → Stage) (state : DeskState σ) :
    (Stage.after next (outcome work state)).2.store = state.store ∧
      ((∃ error, (Stage.after next (outcome work state)).1 = .failed error) ∨
        ∃ a left, outcome work state = (.ok a, left) ∧
          (Stage.after next (outcome work state)).1 = next a) := by
  have kept := keeps state
  rcases done : outcome work state with ⟨error | a, left⟩
  · rw [done] at kept
    exact ⟨kept, .inl ⟨error, rfl⟩⟩
  · rw [done] at kept
    exact ⟨kept, .inr ⟨a, left, rfl, rfl⟩⟩

/-- A step does one of these things. -/
theorem stride_strides (desk : Desk σ) (attempt : Attempt) (state : DeskState σ) (stage : Stage) :
    desk.Strides attempt state stage (desk.stride attempt state stage).1
      (desk.stride attempt state stage).2.store := by
  cases stage with
  | asked =>
      obtain ⟨kept, ⟨error, failed⟩ | ⟨told, left, done, reached⟩⟩ :=
        after_cases (desk.allow_keeps_store attempt.caller) (fun _ => .admitted) state
      · rw [stride, kept, failed]
        exact .failed _ error
      · rw [stride, kept, reached]
        exact .admitted (allow_ok done).1
  | admitted =>
      obtain ⟨kept, ⟨error, failed⟩ | ⟨id, left, done, reached⟩⟩ :=
        after_cases (desk.placing_keeps_store attempt.caller attempt.request) .placed state
      · rw [stride, kept, failed]
        exact .failed _ error
      · rw [stride, kept, reached]
        exact .placed id
  | placed id =>
      simp only [stride]
      rw [record_eq_commit]
      rcases Work.commit_cases (fun now => silently (·.insertCompose
          (.ofRequest attempt.caller attempt.request attempt.versionId id now)))
          (fun _ _ => ()) (fun _ => rfl : Keeps DeskState.store (Work.outside desk.now)) state with
        ⟨error, left, failed, kept⟩ | ⟨now, planned, next, told, -, written, done⟩
      · rw [failed]
        simp only [Stage.after]
        rw [kept]
        exact .failed _ error
      · obtain ⟨-, rfl⟩ := Store.insertCompose_ok_iff.mp (silently_ok written)
        rw [done]
        exact .recorded id now
  | recorded id => exact .ended id
  | failed error => exact .failed _ error

end Desk

/-! ## Counting -/

namespace Store

/-- Later on, no more of the same composes are within a window. -/
theorem countComposes_anti (store : Store) (org : String) (window : Int)
    {earlier later : Timestamp} (order : earlier.total ≤ later.total) :
    store.countComposes org later window ≤ store.countComposes org earlier window := by
  unfold countComposes
  refine (List.monotone_filter_right store.composes fun row counted => ?_).length_le
  simp only [Timestamp.isWithin, Bool.and_eq_true, decide_eq_true_eq] at counted ⊢
  exact ⟨counted.1, by omega⟩

/-- A new compose is at most one more within a window. -/
theorem countComposes_concat (store : Store) (row : ComposeRow) (org : String) (now : Timestamp)
    (window : Int) :
    ({ store with composes := store.composes ++ [row] } : Store).countComposes org now window ≤
      store.countComposes org now window + 1 := by
  unfold countComposes
  rw [List.filter_append, List.length_append]
  exact Nat.add_le_add_left (List.length_filter_le _ [row]) _

end Store

namespace Rush

variable [Fintype ι] [DecidableEq ι]

/-- A step counts for the submission that takes it. -/
theorem card_pending (rush : Rush ι σ) (who : ι) (next : Stage) (left : DeskState σ) :
    (⟨left, Function.update rush.stage who next⟩ : Rush ι σ).pending.card +
        (rush.stage who).isPending.toNat =
      rush.pending.card + next.isPending.toNat := by
  have others : (Finset.univ.erase who).filter
      (fun other => (Function.update rush.stage who next other).isPending = true) =
        (Finset.univ.erase who).filter (fun other => (rush.stage other).isPending = true) := by
    refine Finset.filter_congr fun other member => ?_
    rw [Function.update_of_ne (Finset.ne_of_mem_erase member)]
  have absent (stage : ι → Stage) :
      who ∉ (Finset.univ.erase who).filter fun other => (stage other).isPending = true := by
    simp
  simp only [pending]
  rw [← Finset.insert_erase (Finset.mem_univ who), Finset.filter_insert, Finset.filter_insert,
    Function.update_self, others]
  cases next.isPending <;> cases (rush.stage who).isPending <;>
    simp [Finset.card_insert_of_notMem (absent rush.stage)]

/-- Composes within a window, and those that may still be added to them. -/
def load (rush : Rush ι σ) (org : String) (now : Timestamp) (window : Int) : Nat :=
  rush.state.store.countComposes org now window + rush.pending.card

end Rush

namespace Desk

section Bounded

variable [Fintype ι] [DecidableEq ι] {desk : Desk σ} {org : String} {quota : Quota}
  {attempts : ι → Attempt} {now : Timestamp} {most : Nat}
  (limited : desk.quotas.quotaFor org = .ok (some quota))

include limited in
/-- A step does not take the load above the quota and the overlap: who is admitted finds
fewer composes than the quota, and who is recorded was part of the load. -/
theorem Strides.load_le {attempt : Attempt} {rush : Rush ι σ} {who : ι} {world : σ}
    {stage next : Stage} {store : Store} {left : DeskState σ}
    (strides : desk.Strides attempt { rush.state with world } stage next store)
    (reached : rush.stage who = stage) (stored : left.store = store)
    (own : attempt.caller.org = org) (read : (desk.now world).1.total ≤ now.total)
    (few : (⟨left, Function.update rush.stage who next⟩ : Rush ι σ).pending.card ≤ most)
    (fits : (rush.load org now quota.window.toInt : Int) ≤
      quota.limit.toInt + (most - 1 : Nat)) :
    ((⟨left, Function.update rush.stage who next⟩ : Rush ι σ).load org now quota.window.toInt :
      Int) ≤ quota.limit.toInt + (most - 1 : Nat) := by
  have cards := rush.card_pending who next left
  rw [reached] at cards
  unfold Rush.load at fits ⊢
  rw [stored]
  cases strides with
  | admitted allowed =>
      have counted := rush.state.store.countComposes_anti org quota.window.toInt read
      rw [own, QuotaGuard.allows_of_quota limited] at allowed
      have below := of_decide_eq_true (Except.ok.inj allowed)
      simp only [Stage.isPending, Bool.toNat_false, Bool.toNat_true] at cards below ⊢
      omega
  | placed id =>
      simp only [Stage.isPending, Bool.toNat_true] at cards ⊢
      omega
  | recorded id recordedAt =>
      have counted := rush.state.store.countComposes_concat
        (.ofRequest attempt.caller attempt.request attempt.versionId id recordedAt) org now
        quota.window.toInt
      simp only [Stage.isPending, Bool.toNat_false, Bool.toNat_true] at cards
      simp only
      omega
  | failed stage error =>
      have out : (Stage.failed error).isPending = false := rfl
      simp only [out, Bool.toNat_false] at cards ⊢
      omega
  | ended id =>
      simp only [Stage.isPending, Bool.toNat_false] at cards ⊢
      omega

theorem card_pending_le_overlap (desk : Desk σ) (attempts : ι → Attempt) (rush : Rush ι σ)
    (turns : List (Turn ι σ)) : rush.pending.card ≤ desk.overlap attempts rush turns := by
  cases turns with
  | nil => exact le_rfl
  | cons turn rest => exact Nat.le_max_left _ _

variable (own : ∀ who, (attempts who).caller.org = org)

include limited own in
/-- Turns of submissions that do not overlap any further keep the load. -/
theorem load_rush {rush : Rush ι σ} {turns : List (Turn ι σ)}
    (read : ∀ turn ∈ turns, (desk.now turn.world).1.total ≤ now.total)
    (few : desk.overlap attempts rush turns ≤ most)
    (fits : (rush.load org now quota.window.toInt : Int) ≤ quota.limit.toInt + (most - 1 : Nat)) :
    ((desk.rush attempts rush turns).load org now quota.window.toInt : Int) ≤
      quota.limit.toInt + (most - 1 : Nat) := by
  induction turns generalizing rush with
  | nil => exact fits
  | cons turn rest ih =>
      have further : desk.overlap attempts (desk.move attempts rush turn) rest ≤ most :=
        (Nat.le_max_right _ _).trans few
      have moved : (desk.move attempts rush turn).pending.card ≤ most :=
        (card_pending_le_overlap desk attempts _ rest).trans further
      have step := desk.stride_strides (attempts turn.who) { rush.state with world := turn.world }
        (rush.stage turn.who)
      refine ih (fun other member => read other (List.mem_cons_of_mem turn member)) further ?_
      exact step.load_le limited rfl rfl (own turn.who) (read turn List.mem_cons_self) moved fits

end Bounded

/-- However the steps of submissions follow each other, the composes of an organization
within the window of its quota are no more than the quota and those submissions, less
one, that are between counting and recording at the same time. -/
theorem rush_bounded [Fintype ι] [DecidableEq ι] (desk : Desk σ) {org : String} {quota : Quota}
    (limited : desk.quotas.quotaFor org = .ok (some quota)) (attempts : ι → Attempt)
    (own : ∀ who, (attempts who).caller.org = org) (state : DeskState σ) {opened : Timestamp}
    (within : (state.store.countComposes org opened quota.window.toInt : Int) ≤
      quota.limit.toInt)
    (turns : List (Turn ι σ)) {now : Timestamp} (later : opened.total ≤ now.total)
    (read : ∀ turn ∈ turns, (desk.now turn.world).1.total ≤ now.total) :
    ((desk.rush attempts (.start ι state) turns).state.store.countComposes org now
        quota.window.toInt : Int) ≤
      quota.limit.toInt + (desk.overlap attempts (.start ι state) turns - 1 : Nat) := by
  have counted := state.store.countComposes_anti org quota.window.toInt later
  have idle : (Rush.start ι state).pending.card = 0 :=
    Finset.card_eq_zero.mpr (Finset.filter_eq_empty_iff.mpr fun _ _ => Bool.false_ne_true)
  have fits : ((Rush.start ι state).load org now quota.window.toInt : Int) ≤
      quota.limit.toInt + (desk.overlap attempts (.start ι state) turns - 1 : Nat) := by
    unfold Rush.load
    rw [idle]
    simp only [Rush.start]
    omega
  have loaded := load_rush limited own read le_rfl fits
  unfold Rush.load at loaded
  omega

def twins : Bool → Attempt :=
  fun _ => ⟨⟨"1", "", "", "User", [], ""⟩, guestRequest, none⟩

/-- Both are admitted before one of them is recorded. -/
def crossed : List (Turn Bool (Uuid × Int)) :=
  let first : Turn Bool (Uuid × Int) := ⟨false, uniform 1, 10⟩
  let second : Turn Bool (Uuid × Int) := ⟨true, uniform 2, 10⟩
  [first, second, first, second, first, second]

def collided : Rush Bool (Uuid × Int) :=
  lenient.rush twins (.start Bool (start .empty (uniform 0, 0))) crossed

theorem twins_limited : lenient.quotas.quotaFor "1" = .ok (some ⟨1, 5000000000⟩) := by
  decide +kernel

theorem crossed_read (turn : Turn Bool (Uuid × Int)) (taken : turn ∈ crossed) :
    (lenient.now turn.world).1 = ⟨10, 0⟩ := by
  simp only [crossed, List.mem_cons, List.not_mem_nil, or_false] at taken
  rcases taken with rfl | rfl | rfl | rfl | rfl | rfl <;> rfl

theorem rush_bounded_twins :
    lenient.quotas.quotaFor "1" = .ok (some ⟨1, 5000000000⟩) ∧
      (∀ who, (twins who).caller.org = "1") ∧
      (∀ turn ∈ crossed, (lenient.now turn.world).1 = ⟨10, 0⟩) ∧
      lenient.overlap twins (.start Bool (start .empty (uniform 0, 0))) crossed = 2 ∧
      (collided.state.store.countComposes "1" ⟨10, 0⟩ 5000000000 : Int) ≤ 1 + (2 - 1 : Nat) := by
  have limit : (1 : Int64).toInt = 1 := by decide
  have window : (5000000000 : Int64).toInt = 5000000000 := by decide
  have within : ((start Metrics.empty (uniform 0, (0 : Int))).store.countComposes "1" ⟨10, 0⟩
      (5000000000 : Int64).toInt : Int) ≤ (1 : Int64).toInt := by decide
  have both : lenient.overlap twins (.start Bool (start .empty (uniform 0, 0))) crossed = 2 := by
    decide +kernel
  have read (turn : Turn Bool (Uuid × Int)) (taken : turn ∈ crossed) :
      (lenient.now turn.world).1.total ≤ (⟨10, 0⟩ : Timestamp).total :=
    (congrArg Timestamp.total (crossed_read turn taken)).le
  have bounded := rush_bounded lenient twins_limited twins (fun _ => rfl)
    (start .empty (uniform 0, 0)) within crossed le_rfl read
  rw [window, limit, both] at bounded
  refine ⟨twins_limited, fun _ => rfl, crossed_read, both, ?_⟩
  unfold collided
  exact bounded

/-- Both are recorded, so that there are more composes in the window than there may be. -/
theorem rush_exceeds :
    lenient.quotas.quotaFor "1" = .ok (some ⟨1, 5000000000⟩) ∧
      (∀ who, (twins who).caller.org = "1") ∧
      (∀ turn ∈ crossed, (lenient.now turn.world).1 = ⟨10, 0⟩) ∧
      (start Metrics.empty (uniform 0, (0 : Int))).store.countComposes "1" ⟨10, 0⟩ 5000000000 ≤ 1 ∧
      ¬ collided.state.store.countComposes "1" ⟨10, 0⟩ 5000000000 ≤ 1 := by
  refine ⟨twins_limited, fun _ => rfl, crossed_read, by decide, ?_⟩
  decide +kernel

end Desk

end ComposeDesk
