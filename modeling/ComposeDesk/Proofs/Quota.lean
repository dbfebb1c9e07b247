import ComposeDesk.Proofs.Confined
import ComposeDesk.Proofs.Isolation
import ComposeDesk.Proofs.Ledger

/-!
# Quotas are about the past

Whether a submission is refused for the quota is decided by the instants at which the
accepted submissions of its organization were recorded, and by nothing else.
-/

namespace ComposeDesk

variable {σ : Type}

namespace Desk

/-- Admission answers as the guard of the quota does. -/
theorem outcome_allow (desk : Desk σ) (caller : Identity) (state : DeskState σ) :
    (outcome (desk.allow caller) state).1 =
      match desk.quotas.allows caller.org state.store (desk.now state.world).1 with
      | .ok true => .ok ()
      | .ok false => .error .quotaExceeded
      | .error fault => .error fault.error := by
  unfold allow
  simp only [outcome_bind, Work.outcome_outside, Work.outcome_look, Work.outcome_check]
  rcases desk.quotas.allows caller.org state.store (desk.now state.world).1 with fault | allowed
  · rfl
  · cases allowed <;> rfl

end Desk

namespace QuotaFile

def ruling (quotas : List (String × Quota)) (org : String) : Option Quota :=
  entry? quotas org <|> entry? quotas "default"

theorem quotaFor_eq {file : QuotaFile} {quotas : List (String × Quota)}
    (readable : file.quotas = .ok quotas) (org : String) :
    file.quotaFor org = (ruling quotas org).elim (.error (.noDefault file.path)) .ok := by
  unfold quotaFor ruling
  rw [readable]
  simp only [bind, Except.bind]
  cases entry? quotas org <|> entry? quotas "default" with
  | none => rfl
  | some quota => rfl

end QuotaFile

namespace QuotaGuard

/-- The guard goes by the instants of an organization. -/
theorem allows_congr (guard : QuotaGuard) {store next : Store} {org : String}
    (same : next.stamps org = store.stamps org) (now : Timestamp) :
    guard.allows org next now = guard.allows org store now := by
  unfold allows
  simp only [Store.countComposes_eq, same]

/-- A quota allows composes until as many as its limit are within its window. -/
theorem allows_of_quota {guard : QuotaGuard} {org : String} {quota : Quota}
    (limited : guard.quotaFor org = .ok (some quota)) (store : Store) (now : Timestamp) :
    guard.allows org store now =
      .ok (decide ((store.countComposes org now quota.window.toInt : Int) < quota.limit.toInt)) := by
  unfold allows
  rw [limited]
  rfl

section File

variable {guard : QuotaGuard} {file : QuotaFile} {quotas : List (String × Quota)}
  (configured : guard.file = some file) (readable : file.quotas = .ok quotas)

include configured readable

/-- An organization that is listed, or the default for it, limits how many composes
are within the window. -/
theorem allows_of_entry {org : String} {quota : Quota}
    (listed : QuotaFile.ruling quotas org = some quota)
    (store : Store) (now : Timestamp) :
    guard.allows org store now =
      .ok (decide ((((store.stamps org).filter
        (·.isWithin now quota.window.toInt)).length : Int) < quota.limit.toInt)) := by
  have found : guard.quotaFor org = .ok (some quota) := by
    rw [quotaFor, configured]
    simp only [QuotaFile.quotaFor_eq readable, listed]
    rfl
  rw [allows_of_quota found, Store.countComposes_eq]

/-- Without an entry and without a default there is no answer. -/
theorem allows_of_no_entry {org : String}
    (unlisted : QuotaFile.ruling quotas org = none)
    (store : Store) (now : Timestamp) :
    guard.allows org store now = .error (.noDefault file.path) := by
  have missing : guard.quotaFor org = .error (.noDefault file.path) := by
    rw [quotaFor, configured]
    simp only [QuotaFile.quotaFor_eq readable, unlisted]
    rfl
  unfold allows
  rw [missing]
  rfl

end File

end QuotaGuard

namespace Submission

variable {desk : Desk σ}

/-- Counting a failure does not change the answer. -/
theorem answer_eq (submission : Submission σ) :
    submission.answer desk =
      (outcome (desk.submit submission.caller submission.request submission.versionId)
        submission.before).1 := by
  obtain ⟨metrics, same⟩ := Desk.outcome_composeFor desk submission.caller submission.request
    submission.versionId submission.before
  rw [answer, run, same]

/-- A submission that is not admitted is answered with the reason. -/
theorem answer_of_refused {submission : Submission σ} {error : Error}
    (refused : (outcome (desk.allow submission.caller) submission.before).1 = .error error) :
    submission.answer desk = .error error := by
  have stopped : outcome (desk.allow submission.caller) submission.before =
      (.error error, (outcome (desk.allow submission.caller) submission.before).2) :=
    Prod.ext refused rfl
  rw [answer_eq, Desk.submit_eq_stages, outcome_bind_error stopped]

/-- A submission that is admitted is not refused for the quota any more. -/
theorem answer_of_admitted {submission : Submission σ}
    (admitted : (outcome (desk.allow submission.caller) submission.before).1 = .ok ()) :
    submission.answer desk ≠ .error .quotaExceeded := by
  have passed : outcome (desk.allow submission.caller) submission.before =
      (.ok (), (outcome (desk.allow submission.caller) submission.before).2) :=
    Prod.ext admitted rfl
  rw [answer_eq, Desk.submit_eq_stages, outcome_bind_ok passed]
  exact (Desk.admitted_confined desk _ _ _).ne (fun worded => worded.ne rfl) _

/-- A submission is refused for the quota exactly when the guard says no. -/
theorem answer_quotaExceeded_iff (submission : Submission σ) :
    submission.answer desk = .error .quotaExceeded ↔
      desk.quotas.allows submission.caller.org submission.before.store
        (submission.time desk) = .ok false := by
  have asked := Desk.outcome_allow desk submission.caller submission.before
  rw [← time] at asked
  rcases guarded : desk.quotas.allows submission.caller.org submission.before.store
    (submission.time desk) with fault | _ | _
  · rw [guarded] at asked
    rw [answer_of_refused asked]
    refine iff_of_false (fun same => ?_) nofun
    have ordinary := fault.error_ordinary
    rw [Except.error.inj same] at ordinary
    exact Error.not_ordinary_quotaExceeded ordinary
  · rw [guarded] at asked
    exact iff_of_true (answer_of_refused asked) rfl
  · rw [guarded] at asked
    exact iff_of_false (answer_of_admitted asked) nofun

/-- A submission for which the guard has no answer is refused with the fault of the
guard. -/
theorem answer_of_fault {submission : Submission σ} {fault : QuotaFault}
    (faulty : desk.quotas.allows submission.caller.org submission.before.store
      (submission.time desk) = .error fault) :
    submission.answer desk = .error fault.error := by
  apply answer_of_refused
  rw [Desk.outcome_allow, ← time, faulty]

end Submission

/-! ## Decisions of a run -/

namespace Desk

/-- A call sidesteps the quota of an organization if another one makes it, if it deletes
a compose, or if no submission of it is accepted. -/
def Sidesteps (desk : Desk σ) (state : DeskState σ) (call : Call σ) (org : String) : Prop :=
  call.caller.org ≠ org ∨ (∃ id, call.operation = .deleteCompose id) ∨
    ∀ submission ∈ desk.submissionsOf state call, ∀ created,
      submission.answer desk ≠ .ok created

/-- A caller who asks for composes is told that the quota is exceeded exactly when that
is the answer to one of the submissions. -/
theorem serve_quotaExceeded_iff (desk : Desk σ) (state : DeskState σ) {call : Call σ}
    (composing : call.operation.isComposing = true) :
    (desk.serve state call).1 = .error .quotaExceeded ↔
      ∃ submission ∈ desk.submissionsOf state call,
        submission.answer desk = .error .quotaExceeded := by
  obtain ⟨caller, operation, world⟩ := call
  obtain ⟨single, several⟩ := serve_answer desk state caller world
  cases operation with
  | compose request =>
      rw [single request]
      simp only [submissionsOf, List.mem_singleton, exists_eq_left]
      exact map_eq_error_iff
  | composeBlueprint id selection =>
      rcases chosen : outcome (choosing caller id selection) { state with world } with
        ⟨error | ⟨⟨entry, body⟩, images⟩, left⟩
      · rw [submissionsOf_of_error chosen, serve, perform, outcome_map, composeBlueprint_eq,
          outcome_bind_error chosen]
        constructor
        · intro failed
          cases failed
          exact absurd (congrArg Prod.fst chosen)
            ((choosing_confined caller id selection).ne Error.not_ordinary_quotaExceeded _)
        · rintro ⟨submission, member, -⟩
          exact absurd member List.not_mem_nil
      · rw [several id selection entry body images left chosen, map_eq_error_iff]
        obtain ⟨rfl, -⟩ := choosing_ok chosen
        rw [submissionsOf_of_chosen chosen]
        exact mapM_answer_error_iff images { state with world }
  | composes | composeStatus | composeMetadata | deleteCompose | cloneCompose | clones
  | cloneStatus | createBlueprint | getBlueprint | exportBlueprint | blueprints
  | updateBlueprint | deleteBlueprint | blueprintComposes => cases composing

/-- The quotas of a file decide about the submissions of a run by what was recorded
before each of them. -/
structure QuotaDecides (desk : Desk σ) (file : QuotaFile) (quotas : List (String × Quota))
    (state : DeskState σ) (calls : List (Call σ)) : Prop where
  /-- The own quota of an organization, or the default, is exceeded once as many composes
  as it allows are within its window. -/
  limited : ∀ earlier submission later,
    desk.submissions state calls = earlier ++ submission :: later →
      ∀ quota, QuotaFile.ruling quotas submission.caller.org = some quota →
        (submission.answer desk = .error .quotaExceeded ↔
          quota.limit.toInt ≤ ((Submission.ledger desk submission.caller.org earlier).filter
            (·.isWithin (submission.time desk) quota.window.toInt)).length)
  /-- Callers are told so. -/
  told : ∀ earlier call later, calls = earlier ++ call :: later →
    call.operation.isComposing = true →
      ((desk.serve (desk.after state earlier) call).1 = .error .quotaExceeded ↔
        ∃ submission ∈ desk.submissionsOf (desk.after state earlier) call,
          submission.answer desk = .error .quotaExceeded)
  /-- Nothing is accepted without a quota. -/
  unlisted : ∀ submission ∈ desk.submissions state calls,
    QuotaFile.ruling quotas submission.caller.org = none →
      submission.answer desk = .error (QuotaFault.noDefault file.path).error
  /-- Accepted submissions count, and no others. -/
  counted : ∀ submission ∈ desk.submissions state calls,
    (submission.recorded? desk).isSome = true ↔ ∃ created, submission.answer desk = .ok created
  /-- They are what the store remembers, whether it was deleted since or not. -/
  remembered : ∀ org, (desk.after state calls).store.stamps org =
    Submission.ledger desk org (desk.submissions state calls)
  /-- Calls that sidestep a quota do not change what it decides at any time. -/
  unmoved : ∀ earlier call later, calls = earlier ++ call :: later →
    ∀ org, desk.Sidesteps (desk.after state earlier) call org →
      ∀ now, desk.quotas.allows org (desk.serve (desk.after state earlier) call).2.store now =
        desk.quotas.allows org (desk.after state earlier).store now

/-- A call that sidesteps the quota of an organization leaves its instants. -/
theorem Sidesteps.stamps_eq {desk : Desk σ} {state : DeskState σ} {call : Call σ} {org : String}
    (sidesteps : desk.Sidesteps state call org) :
    (desk.serve state call).2.store.stamps org = state.store.stamps org := by
  rcases sidesteps with other | ⟨id, deletion⟩ | refused
  · exact serve_stamps desk state (.inl other)
  · refine serve_stamps desk state (.inr fun request asked => ?_)
    rw [deletion] at asked
    cases asked
  · have nothing : Submission.ledger desk org (desk.submissionsOf state call) = [] := by
      refine List.filterMap_eq_nil_iff.mpr fun submission member => ?_
      have made := List.mem_of_mem_filter member
      by_contra some
      obtain ⟨created, accepted⟩ := (submission.recorded?_isSome desk).mp
        (Option.isSome_iff_ne_none.mpr some)
      exact refused submission made created accepted
    rw [(serve_accounts desk state call).total org, nothing, List.append_nil]

/-- Every submission of a run is decided by what was recorded for its organization
before: deletions, other organizations and refused submissions make no difference. -/
theorem quota_decisions (desk : Desk σ) {file : QuotaFile} {quotas : List (String × Quota)}
    (configured : desk.quotas.file = some file) (readable : file.quotas = .ok quotas)
    (metrics : Metrics) (world : σ) (calls : List (Call σ)) :
    desk.QuotaDecides file quotas (start metrics world) calls := by
  have accounts := run_accounts desk (start metrics world) calls
  constructor
  case limited =>
    intro earlier submission later split quota listed
    have found : submission.before.store.stamps submission.caller.org =
        Submission.ledger desk submission.caller.org earlier :=
      accounts.each earlier submission later split submission.caller.org
    rw [submission.answer_quotaExceeded_iff,
      QuotaGuard.allows_of_entry configured readable listed, found]
    simp only [Except.ok.injEq, decide_eq_false_iff_not, Int.not_lt]
  case told =>
    intro earlier call later _ composing
    exact serve_quotaExceeded_iff desk (desk.after (start metrics world) earlier) composing
  case unlisted =>
    intro submission _ missing
    exact Submission.answer_of_fault
      (QuotaGuard.allows_of_no_entry configured readable missing _ _)
  case counted =>
    intro submission _
    exact submission.recorded?_isSome desk
  case remembered =>
    intro org
    exact accounts.total org
  case unmoved =>
    intro earlier call later _ org sidesteps now
    exact desk.quotas.allows_congr sidesteps.stamps_eq now

/-- The first organization may have one compose in five seconds, all others none. -/
def frugal : QuotaFile where
  path := "quotas.json"
  content := .text ("\x7b\"1\": \x7b\"quota\": 1, \"slidingWindow\": 5000000000\x7d, " ++
    "\"default\": \x7b\"quota\": 0, \"slidingWindow\": 0\x7d\x7d")

def frugalQuotas : List (String × Quota) :=
  [("1", ⟨1, 5000000000⟩), ("default", ⟨0, 0⟩)]

/-- A desk whose build service takes every order.  The world has the identifier that is
given to an order, and the second that it is. -/
def lenient : Desk (Uuid × Int) where
  services :=
    { build :=
        { compose := fun _ => do
            let (id, _) ← get
            return ⟨201, ("\x7b\"id\": \"" ++ id.toText ++ "\"\x7d").toUTF8.toList⟩
          composeStatus := fun _ => throw .http
          composeMetadata := fun _ => throw .http
          cloneCompose := fun _ _ => throw .http
          cloneStatus := fun _ => throw .http
          openapi := throw .http }
      uploadInfo := fun _ _ => throw .http
      repositories := fun _ _ _ _ => throw .http
      snapshotsForDate := fun _ _ _ => throw .http
      policyData := fun _ _ _ _ => throw .http }
  registry :=
    ⟨[("rhel-9", ⟨none, ⟨"rhel-9", "", none, false⟩, some ⟨["guest-image"], []⟩, none⟩)]⟩
  quotas := .ofFile frugal
  uploads := ⟨"us-east-1", "us", none⟩
  now := fun world => (⟨world.2, 0⟩, world)
  drawId := fun world => (world.1, world)
  crypt := pure

def guestRequest : ComposeRequest :=
  ⟨"rhel-9", [⟨"x86_64", .guestImage, .awsS3, none, none, none⟩], none, none, none, none⟩

/-- The first organization deletes its compose, and is refused another one until the
first one is six seconds old. -/
def hasty : List (Call (Uuid × Int)) :=
  let first : Identity := ⟨"1", "", "", "User", [], ""⟩
  let second : Identity := ⟨"2", "", "", "User", [], ""⟩
  [⟨first, .compose guestRequest, uniform 1, 10⟩,
    ⟨first, .deleteCompose (uniform 1), uniform 1, 11⟩,
    ⟨second, .compose guestRequest, uniform 2, 12⟩,
    ⟨first, .compose guestRequest, uniform 2, 15⟩,
    ⟨first, .compose guestRequest, uniform 3, 16⟩]

theorem quota_decisions_hasty :
    lenient.quotas.file = some frugal ∧ frugal.quotas = .ok frugalQuotas ∧
      lenient.QuotaDecides frugal frugalQuotas (start .empty (uniform 0, 0)) hasty ∧
      (lenient.submissions (start .empty (uniform 0, 0)) hasty).map (·.answer lenient) =
        [.ok ⟨uniform 1⟩, .error .quotaExceeded, .error .quotaExceeded, .ok ⟨uniform 3⟩] := by
  have readable : frugal.quotas = .ok frugalQuotas := by decide +kernel
  refine ⟨rfl, readable, ?_, by decide +kernel⟩
  exact quota_decisions lenient rfl readable .empty (uniform 0, 0) hasty

end Desk

end ComposeDesk
