import ComposeDesk.Proofs.Credentials
import ComposeDesk.Proofs.Store.Likeness
import Mathlib.Logic.Function.Basic

/-!
# Updates in a race

An update of a blueprint takes two steps at the store: it drafts a version from the
latest one, and later it appends the draft to whatever is the latest one by then.
Updates whose steps are taken in turns come to the same as some of them one after
another, but for salts, as long as each draft could still be made when it is
written.  Nothing sees to that, and without it credentials that one update has
written are lost to another one.
-/

namespace ComposeDesk

variable {ι σ : Type}

/-- How far an update has come. -/
inductive Progress where
  | asked
  | drafted (draft : BlueprintDraft)
  | written (number : Nat)
  | failed (error : Error)

def Progress.isWritten : Progress → Bool
  | .written _ => true
  | .asked | .drafted _ | .failed _ => false

structure Update where
  caller : Identity
  request : BlueprintRequest

/-- One of the updates takes its next step, in the world of that moment. -/
structure Turn (ι σ : Type) where
  who : ι
  world : σ

/-- What updates have made of a state. -/
structure Race (ι σ : Type) where
  state : DeskState σ
  progress : ι → Progress

def Race.start (ι : Type) (state : DeskState σ) : Race ι σ :=
  ⟨state, fun _ => .asked⟩

namespace Desk

variable {desk : Desk σ} {id : Uuid}

def step (desk : Desk σ) (id : Uuid) (update : Update) (state : DeskState σ) :
    Progress → Progress × DeskState σ
  | .asked =>
      match outcome (desk.draftUpdate update.caller id update.request) state with
      | (.ok draft, left) => (.drafted draft, left)
      | (.error error, left) => (.failed error, left)
  | .drafted draft =>
      match outcome (desk.writeUpdate update.caller id draft) state with
      | (.ok number, left) => (.written number, left)
      | (.error error, left) => (.failed error, left)
  | .written number => (.written number, state)
  | .failed error => (.failed error, state)

def advance [DecidableEq ι] (desk : Desk σ) (id : Uuid) (updates : ι → Update)
    (race : Race ι σ) (turn : Turn ι σ) : Race ι σ :=
  let (next, left) := desk.step id (updates turn.who) { race.state with world := turn.world }
    (race.progress turn.who)
  ⟨left, Function.update race.progress turn.who next⟩

/-- Updates take their steps in turns. -/
def race [DecidableEq ι] (desk : Desk σ) (id : Uuid) (updates : ι → Update) :
    Race ι σ → List (Turn ι σ) → Race ι σ
  | race, [] => race
  | race, turn :: rest => desk.race id updates (desk.advance id updates race turn) rest

/-- Each draft could still be made when it is written, in some world. -/
def Current [DecidableEq ι] (desk : Desk σ) (id : Uuid) (updates : ι → Update) :
    Race ι σ → List (Turn ι σ) → Prop
  | _, [] => True
  | race, turn :: rest =>
      (∀ draft, race.progress turn.who = .drafted draft →
        ∃ world, (outcome (desk.draftUpdate (updates turn.who).caller id
          (updates turn.who).request) { race.state with world }).1 = .ok draft) ∧
      desk.Current id updates (desk.advance id updates race turn) rest

def callOf (id : Uuid) (update : Update) (world : σ) : Call σ :=
  ⟨update.caller, .updateBlueprint id update.request, world⟩

/-- Two stored passwords are the same, or hashes of the same password. -/
def Salted (desk : Desk σ) (password other : String) : Prop :=
  password = other ∨ ∃ plain first second, password = (desk.crypt plain first).1 ∧
    other = (desk.crypt plain second).1

/-- Two versions of a blueprint are the same but for identifiers, times and salts. -/
structure Resalted (desk : Desk σ) (row other : VersionRow) : Prop where
  blueprintId : row.blueprintId = other.blueprintId
  number : row.number = other.number
  body : BodiesLike desk.Salted row.body other.body

theorem Salted.refl (password : String) : desk.Salted password password :=
  .inl rfl

theorem Resalted.refl (row : VersionRow) : desk.Resalted row row :=
  ⟨rfl, rfl, .same _⟩

theorem resalted_match (desk : Desk σ) : RowsMatch desk.Resalted where
  blueprintId both := both.blueprintId
  number both := both.number

section Hashing

variable (hashes : ∀ password world, "$6$".toList <+: (desk.crypt password world).1.toList)
include hashes

theorem isHash_crypt (password : String) (world : σ) : IsHash (desk.crypt password world).1 :=
  ⟨"$6$", by decide, hashes password world⟩

theorem salted_keepsEmpty : KeepsEmpty desk.Salted := by
  rintro password other (rfl | ⟨plain, first, second, rfl, rfl⟩)
  · rfl
  · have one := (isHash_crypt hashes plain first).ne_empty
    have two := (isHash_crypt hashes plain second).ne_empty
    simp [one, two]

/-- Hashing the same passwords gives the same but for salts. -/
theorem salted_secures : desk.SecuresAlike desk.Salted (fun _ _ => True) := by
  rintro password other (rfl | ⟨plain, first, second, rfl, rfl⟩) left right -
  · refine ⟨?_, trivial⟩
    unfold secure
    split
    · exact .inl rfl
    · exact .inr ⟨password, left, right, rfl, rfl⟩
  · have settled (world moment : σ) :
        desk.secure (desk.crypt plain world).1 moment = ((desk.crypt plain world).1, moment) := by
      have hash := isCrypted_iff.mpr (isHash_crypt hashes plain world)
      unfold secure
      rw [hash, Bool.or_true]
      rfl
    rw [settled, settled]
    exact ⟨.inr ⟨plain, first, second, rfl, rfl⟩, trivial⟩

end Hashing

/-- The second half of an update is one write of the store. -/
theorem outcome_writeUpdate (desk : Desk σ) (caller : Identity) (id : Uuid)
    (draft : BlueprintDraft) (state : DeskState σ) :
    ∃ versionId now world, outcome (desk.writeUpdate caller id draft) state =
      match state.store.updateBlueprint (writeOf caller id versionId draft) now with
      | .ok (store, number) => (.ok number, { state with store, world })
      | .error fault => (.error fault.error, { state with world }) := by
  refine ⟨(desk.drawId state.world).1, (desk.now (desk.drawId state.world).2).1,
    (desk.now (desk.drawId state.world).2).2, ?_⟩
  simp only [writeUpdate, outcome_bind, Work.outcome_outside, Work.outcome_change]
  rcases state.store.updateBlueprint _ _ with fault | ⟨store, number⟩ <;> rfl

/-- A step either writes the version that was drafted, or leaves the store and
whether a version was written. -/
theorem step_cases (desk : Desk σ) (id : Uuid) (update : Update) (state : DeskState σ)
    (progress : Progress) :
    ((desk.step id update state progress).2.store = state.store ∧
      (desk.step id update state progress).1.isWritten = progress.isWritten) ∨
    ∃ draft number versionId now, progress = .drafted draft ∧
      (desk.step id update state progress).1 = .written number ∧
      state.store.updateBlueprint (writeOf update.caller id versionId draft) now =
        .ok ((desk.step id update state progress).2.store, number) := by
  cases progress with
  | asked =>
      have kept := draftUpdate_keeps_store desk update.caller id update.request state
      unfold step
      rcases drafted : outcome (desk.draftUpdate update.caller id update.request) state with
        ⟨error | draft, left⟩
      · rw [drafted] at kept
        exact .inl ⟨kept, rfl⟩
      · rw [drafted] at kept
        exact .inl ⟨kept, rfl⟩
  | drafted draft =>
      obtain ⟨versionId, now, world, wrote⟩ :=
        outcome_writeUpdate desk update.caller id draft state
      unfold step
      simp only [wrote]
      rcases stored : state.store.updateBlueprint (writeOf update.caller id versionId draft) now with
        fault | ⟨store, number⟩
      · exact .inl ⟨rfl, rfl⟩
      · exact .inr ⟨draft, number, versionId, now, rfl, rfl, stored⟩
  | written number => exact .inl ⟨rfl, rfl⟩
  | failed error => exact .inl ⟨rfl, rfl⟩

/-! ## One after another -/

section Serial

variable (hashes : ∀ password world, "$6$".toList <+: (desk.crypt password world).1.toList)
  {update : Update} {state other : DeskState σ}
include hashes

/-- What can be drafted can be drafted beside a store that is the same but for salts,
and comes out the same but for salts. -/
theorem drafted_beside {draft : BlueprintDraft} (like : state.store.Like desk.Resalted other.store)
    (drafted : (outcome (desk.draftUpdate update.caller id update.request) state).1 = .ok draft) :
    ∃ known left, outcome (desk.draftUpdate update.caller id update.request) other =
      (.ok known, left) ∧ draft.Like desk.Salted known := by
  have finds : ∀ {store held : Store}, store.Like desk.Resalted held →
      Matching (BlueprintEntry.BodyLike desk.Salted)
        (store.getBlueprint id update.caller.org none)
        (held.getBlueprint id update.caller.org none) := by
    intro store held like
    refine (like.getBlueprint (resalted_match desk) id update.caller.org none).imp ?_
    intro entry known entries
    exact Store.Like.bodyLike Salted.refl (fun both => both.body) entries
  have accord : Accord (DeskState.Related .ignored (Store.Like desk.Resalted) fun _ _ => True)
      (BlueprintDraft.Like desk.Salted)
      (desk.draftUpdate update.caller id update.request)
      (desk.draftUpdate update.caller id update.request) :=
    draftUpdate_accord (salted_secures hashes) (salted_keepsEmpty hashes) finds
      (.refl Salted.refl update.request)
  obtain ⟨matching, -⟩ := accord state other ⟨like, trivial, trivial⟩
  rcases matching.cases with ⟨fault, failed, -⟩ | ⟨one, known, done, ran, both⟩
  · rw [drafted] at failed
    cases failed
  · rw [drafted] at done
    cases done
    exact ⟨known, _, Prod.ext ran rfl, both⟩

/-- An update whose draft is current does what the whole update does beside it. -/
theorem serve_beside {draft : BlueprintDraft} {versionId : Uuid} {now : Timestamp} {next : Store}
    {number : Nat} (like : state.store.Like desk.Resalted other.store)
    (drafted : (outcome (desk.draftUpdate update.caller id update.request) state).1 = .ok draft)
    (written : state.store.updateBlueprint (writeOf update.caller id versionId draft) now =
      .ok (next, number)) (world : σ) :
    (desk.serve other (callOf id update world)).1 = .ok (.created ⟨id⟩) ∧
      next.Like desk.Resalted (desk.serve other (callOf id update world)).2.store := by
  have beside : state.store.Like desk.Resalted ({ other with world } : DeskState σ).store := like
  obtain ⟨known, left, draftedToo, both⟩ := drafted_beside hashes beside drafted
  have kept : left.store = other.store := by
    have keeps := draftUpdate_keeps_store desk update.caller id update.request
      { other with world }
    rw [draftedToo] at keeps
    exact keeps
  obtain ⟨otherId, later, moment, wrote⟩ :=
    outcome_writeUpdate desk update.caller id known left
  have same : (writeOf update.caller id versionId draft).row =
      (writeOf update.caller id otherId known).row := by
    unfold writeOf BlueprintWrite.row
    rw [both.name, both.description]
  have matching : Matching (fun made left => made.2 = left.2 ∧ made.1.Like desk.Resalted left.1)
      (state.store.updateBlueprint (writeOf update.caller id versionId draft) now)
      (other.store.updateBlueprint (writeOf update.caller id otherId known) later) :=
    like.updateBlueprint (resalted_match desk) same
      fun number => ⟨rfl, rfl, .written both.body⟩
  rw [written] at matching
  rcases matching.cases with ⟨fault, failed, -⟩ | ⟨made, store, done, stored, -, alike⟩
  · cases failed
  · cases done
    rw [kept, stored] at wrote
    have served : desk.serve other (callOf id update world) =
        (.ok (.created ⟨id⟩), { left with store := store.1, world := moment }) := by
      unfold serve callOf perform updateBlueprint
      rw [outcome_map, outcome_bind_ok draftedToo, outcome_bind_ok wrote]
      rfl
    rw [served]
    exact ⟨rfl, alike⟩

end Serial

/-! ## Races -/

/-- Between two moments of a race, the updates of an order write in it, and one after
another they do the same beside it, but for salts. -/
structure Serial (desk : Desk σ) (id : Uuid) (updates : ι → Update) (worlds : ι → σ)
    (race last : Race ι σ) (other : DeskState σ) (order : List ι) : Prop where
  nodup : order.Nodup
  members : ∀ i, i ∈ order ↔
    (race.progress i).isWritten = false ∧ (last.progress i).isWritten = true
  answers : ∀ answered ∈ desk.trace other (order.map fun i => callOf id (updates i) (worlds i)),
    answered.2 = .ok (.created ⟨id⟩)
  like : last.state.store.Like desk.Resalted
    (desk.after other (order.map fun i => callOf id (updates i) (worlds i))).store

namespace Serial

variable {updates : ι → Update} {worlds : ι → σ} {race next last : Race ι σ} {other : DeskState σ} {order : List ι}

theorem nil (like : race.state.store.Like desk.Resalted other.store) :
    Serial desk id updates worlds race race other [] where
  nodup := .nil
  members i := by
    simp only [List.not_mem_nil, false_iff, not_and]
    intro no yes
    rw [no] at yes
    cases yes
  answers _ held := nomatch held
  like := like

/-- A step that writes nothing adds nothing to the order. -/
theorem skip (same : ∀ i, (next.progress i).isWritten = (race.progress i).isWritten)
    (serial : Serial desk id updates worlds next last other order) :
    Serial desk id updates worlds race last other order where
  nodup := serial.nodup
  members i := by rw [serial.members i, same i]
  answers := serial.answers
  like := serial.like

/-- An update that writes comes first in the order. -/
theorem write {who : ι} (before : (race.progress who).isWritten = false)
    (now : (next.progress who).isWritten = true) (after : (last.progress who).isWritten = true)
    (others : ∀ i, i ≠ who → next.progress i = race.progress i)
    (answered : (desk.serve other (callOf id (updates who) (worlds who))).1 = .ok (.created ⟨id⟩))
    (serial : Serial desk id updates worlds next last
      (desk.serve other (callOf id (updates who) (worlds who))).2 order) :
    Serial desk id updates worlds race last other (who :: order) := by
  -- It does not come again, as nothing is written twice.
  have notAgain : who ∉ order := by
    intro again
    have notYet := ((serial.members who).mp again).1
    rw [now] at notYet
    cases notYet
  constructor
  · exact List.nodup_cons.mpr ⟨notAgain, serial.nodup⟩
  · intro i
    by_cases mine : i = who
    · subst mine
      simp [before, after]
    · rw [List.mem_cons, serial.members i, others i mine]
      simp [mine]
  · intro one held
    rcases List.mem_cons.mp held with rfl | later
    · exact answered
    · exact serial.answers one later
  · exact serial.like

end Serial

section Run

variable [DecidableEq ι] {updates : ι → Update}

/-- What was written stays written. -/
theorem race_isWritten (desk : Desk σ) (id : Uuid) (updates : ι → Update) (race : Race ι σ)
    (turns : List (Turn ι σ)) (i : ι) (written : (race.progress i).isWritten = true) :
    ((desk.race id updates race turns).progress i).isWritten = true := by
  induction turns generalizing race with
  | nil => exact written
  | cons turn rest ih =>
      refine ih _ ?_
      unfold advance
      simp only
      by_cases mine : i = turn.who
      · subst mine
        rw [Function.update_self]
        rcases step_cases desk id (updates turn.who) { race.state with world := turn.world }
            (race.progress turn.who) with ⟨-, same⟩ | ⟨_, _, _, _, drafted, -, -⟩
        · exact same.trans written
        · rw [drafted] at written
          cases written
      · rw [Function.update_of_ne mine]
        exact written

/-- From states that are the same but for salts, a race whose drafts are current comes
to the same as the updates that write in it, one after another in the order in which
they write. -/
theorem race_beside
    (hashes : ∀ password world, "$6$".toList <+: (desk.crypt password world).1.toList)
    (worlds : ι → σ) {race : Race ι σ} {turns : List (Turn ι σ)} {other : DeskState σ}
    (like : race.state.store.Like desk.Resalted other.store)
    (current : desk.Current id updates race turns) :
    ∃ order, Serial desk id updates worlds race (desk.race id updates race turns) other order := by
  -- By induction on the turns, with the state beside the race as it is by then.
  induction turns generalizing race other with
  | nil => exact ⟨[], .nil like⟩
  | cons turn rest ih =>
      obtain ⟨draftable, following⟩ := current
      have others : ∀ i, i ≠ turn.who →
          (desk.advance id updates race turn).progress i = race.progress i :=
        fun i apart => Function.update_of_ne apart _ _
      have own : (desk.advance id updates race turn).progress turn.who =
          (desk.step id (updates turn.who) { race.state with world := turn.world }
            (race.progress turn.who)).1 := Function.update_self ..
      rcases step_cases desk id (updates turn.who) { race.state with world := turn.world }
          (race.progress turn.who) with
        ⟨kept, same⟩ | ⟨draft, number, versionId, now, drafted, wrote, written⟩
      · have beside : (desk.advance id updates race turn).state.store.Like desk.Resalted
            other.store := by
          unfold advance
          simp only [kept]
          exact like
        obtain ⟨order, serial⟩ := ih beside following
        refine ⟨order, serial.skip fun i => ?_⟩
        by_cases mine : i = turn.who
        · subst mine
          rw [own, same]
        · rw [others i mine]
      -- The update that writes is done as a whole beside the race, since it would still
      -- make the same draft.
      · obtain ⟨world, draftedNow⟩ := draftable draft drafted
        have likeNow : ({ race.state with world } : DeskState σ).store.Like desk.Resalted
            other.store := like
        obtain ⟨answered, beside⟩ :=
          serve_beside hashes likeNow draftedNow written (worlds turn.who)
        obtain ⟨order, serial⟩ := ih beside following
        have before : (race.progress turn.who).isWritten = false := by
          rw [drafted]
          rfl
        have nowWritten :
            ((desk.advance id updates race turn).progress turn.who).isWritten = true := by
          rw [own, wrote]
          rfl
        have last := race_isWritten desk id updates _ rest _ nowWritten
        exact ⟨turn.who :: order, serial.write before nowWritten last others answered⟩

/-- Updates that take their steps in turns come to the same, but for salts, as those
that write, one after another in some order, whatever worlds they find there, as long
as each draft could still be made when it is written. -/
theorem race_serial (desk : Desk σ)
    (hashes : ∀ password world, "$6$".toList <+: (desk.crypt password world).1.toList)
    (id : Uuid) (updates : ι → Update) (state : DeskState σ) (turns : List (Turn ι σ))
    (current : desk.Current id updates (Race.start ι state) turns) (worlds : ι → σ) :
    ∃ order : List ι, order.Nodup ∧
      (∀ i, i ∈ order ↔
        ((desk.race id updates (Race.start ι state) turns).progress i).isWritten = true) ∧
      (∀ answered ∈ desk.trace state (order.map fun i => callOf id (updates i) (worlds i)),
        answered.2 = .ok (.created ⟨id⟩)) ∧
      (desk.race id updates (Race.start ι state) turns).state.store.Like desk.Resalted
        (desk.after state (order.map fun i => callOf id (updates i) (worlds i))).store := by
  have same : (Race.start ι state).state.store.Like desk.Resalted state.store :=
    .refl Resalted.refl _
  obtain ⟨order, serial⟩ := race_beside hashes worlds same current
  refine ⟨order, serial.nodup, ?_, serial.answers, serial.like⟩
  intro i
  rw [serial.members i]
  exact and_iff_right rfl

end Run

/-- Both updates read before one of them writes. -/
def overlapping : List (Turn Bool (List Uuid)) :=
  [⟨true, []⟩, ⟨false, []⟩, ⟨true, [uniform 3]⟩, ⟨false, [uniform 4]⟩]

/-- One update gives the user a new password, the other one gives both credentials. -/
def peers (first : Bool) : Update :=
  ⟨⟨"1", "", "", "User", [], ""⟩,
    if first then adminRequest (some "fresh")
    else
      ⟨"web", "", "rhel-9", [],
        { Customizations.empty with users := some [⟨"admin", none, some "key", some "own"⟩] }⟩⟩

theorem race_serial_peers :
    (∀ password world, "$6$".toList <+: (sealing.crypt password world).1.toList) ∧
      sealing.Current (uniform 1) peers
        (Race.start Bool (sealing.after (start .empty []) sealed)) overlapping ∧
      ∃ order : List Bool, order.Nodup ∧ (∀ peer, peer ∈ order) ∧
        (sealing.race (uniform 1) peers
            (Race.start Bool (sealing.after (start .empty []) sealed)) overlapping).state.store.Like
          sealing.Resalted
          (sealing.after (sealing.after (start .empty []) sealed)
            (order.map fun peer => callOf (uniform 1) (peers peer) [])).store := by
  have current : sealing.Current (uniform 1) peers
      (Race.start Bool (sealing.after (start .empty []) sealed)) overlapping := by
    refine ⟨?_, ?_, ?_, ?_, trivial⟩
    · rintro _ ⟨⟩
    · rintro _ ⟨⟩
    · rintro _ ⟨⟩
      exact ⟨[], rfl⟩
    · rintro _ ⟨⟩
      exact ⟨[], rfl⟩
  obtain ⟨order, nodup, members, -, alike⟩ := race_serial sealing sealing_hashes (uniform 1) peers
    (sealing.after (start .empty []) sealed) overlapping current fun _ => []
  refine ⟨sealing_hashes, current, order, nodup, ?_, alike⟩
  intro peer
  rw [members peer]
  cases peer <;> rfl

/-- One rival gives the user a new password, the other one gives none. -/
def rivals (first : Bool) : Update :=
  ⟨⟨"1", "", "", "User", [], ""⟩, adminRequest (if first then some "fresh" else none)⟩

def latestPasswords (store : Store) (id : Uuid) (org : String) :
    Except Error (List (Option String)) := do
  let entry ← (store.getBlueprint id org none).mapError StoreFault.error
  let body ← storedBody entry
  return body.users.map (·.password)

theorem passwords_eq {related : String → String → Prop}
    (same : ∀ password other, related password other → password = other) {users others : List User}
    (all : users.Forall₂ (User.Like related) others) :
    users.map (·.password) = others.map (·.password) := by
  refine map_eq_of_forall₂ (fun user other one => ?_) all
  rcases optionRel_cases one.password with ⟨left, right⟩ | ⟨p, q, left, right, bound⟩
  · rw [left, right]
  · rw [left, right, same p q bound]

/-- The hashes of the desk are the same whenever they are of the same password. -/
theorem eq_of_salted {password other : String} (salted : sealing.Salted password other) :
    password = other := by
  rcases salted with same | ⟨plain, first, second, rfl, rfl⟩
  · exact same
  · rfl

theorem latestPasswords_eq {store other : Store} (like : store.Like sealing.Resalted other)
    (id : Uuid) (org : String) : latestPasswords store id org = latestPasswords other id org := by
  unfold latestPasswords
  rcases (like.getBlueprint (resalted_match sealing) id org none).cases with
    ⟨fault, left, right⟩ | ⟨entry, held, left, right, entries⟩
  · rw [left, right]
  · rw [left, right]
    have bodies := Store.Like.bodyLike Salted.refl (fun both => both.body) entries
    rcases bodies.cases with ⟨error, read, also⟩ | ⟨body, known, read, also, both⟩
    · simp only [mapError_ok, read, also, Except.bind, bind]
    · have users : body.users.map (·.password) = known.users.map (·.password) :=
        passwords_eq (fun _ _ => eq_of_salted) both.customizations.getD
      simp only [mapError_ok, read, also, Except.bind, bind, users]

theorem race_loses_password :
    (∀ rival, ((sealing.race (uniform 1) rivals
        (Race.start Bool (sealing.after (start .empty []) sealed)) overlapping).progress
          rival).isWritten = true) ∧
      ¬ ∃ (order : List Bool) (worlds : Bool → List Uuid), order.Nodup ∧ (∀ rival, rival ∈ order) ∧
        (sealing.race (uniform 1) rivals
            (Race.start Bool (sealing.after (start .empty []) sealed)) overlapping).state.store.Like
          sealing.Resalted
          (sealing.after (sealing.after (start .empty []) sealed)
            (order.map fun rival => callOf (uniform 1) (rivals rival) (worlds rival))).store := by
  have lost : latestPasswords (sealing.race (uniform 1) rivals
      (Race.start Bool (sealing.after (start .empty []) sealed)) overlapping).state.store
        (uniform 1) "1" = .ok [some "$6$secret"] := rfl
  constructor
  · intro rival
    cases rival <;> rfl
  · rintro ⟨order, worlds, nodup, all, like⟩
    have same := latestPasswords_eq like (uniform 1) "1"
    rw [lost] at same
    have length : order.length = 2 :=
      ((List.perm_ext_iff_of_nodup nodup (by decide : [true, false].Nodup)).mpr fun rival => by
        cases rival <;> simp [all]).length_eq
    obtain ⟨first, second, rfl⟩ := List.length_eq_two.mp length
    have kept (rival : Bool) : latestPasswords (sealing.after (sealing.after (start .empty []) sealed)
        ([rival, !rival].map fun rival => callOf (uniform 1) (rivals rival) (worlds rival))).store
          (uniform 1) "1" = .ok [some "$6$fresh"] := by
      cases rival <;> rfl
    have apart : second = !first := by
      revert nodup
      cases first <;> cases second <;> decide
    rw [apart, kept first] at same
    exact absurd same (by decide)

end Desk

end ComposeDesk
