import ComposeDesk.Proofs.Listings
import ComposeDesk.Proofs.Store.Lasting
import ComposeDesk.Proofs.Unknown

/-!
# Deleted composes

A compose that was deleted stays deleted, whatever is done at the desk afterwards.
Nobody is shown it again, or gets anything done with it, and its identifier stays
taken; but it goes on counting, and its clones stay.
-/

namespace ComposeDesk.Desk

variable {σ : Type} {desk : Desk σ}

theorem after_anchored {state : DeskState σ} (anchored : state.store.Anchored)
    (calls : List (Call σ)) : (desk.after state calls).store.Anchored :=
  after_keep Store.Changes.anchored anchored calls

theorem after_lasts (desk : Desk σ) (state : DeskState σ) (calls : List (Call σ)) :
    state.store.Lasts (desk.after state calls).store :=
  after_keep (fun changes lasts => lasts.trans changes.lasts) (.refl state.store) calls

section Deleted

variable {state : DeskState σ} {row : ComposeRow} {caller : Identity} {id : Uuid}

/-- Items show entries under their identifiers. -/
theorem ne_of_shownAs {entries : List ComposeEntry} {items : List ComposeItem}
    (each : entries.Forall₂ ComposeEntry.ShownAs items)
    (others : ∀ entry ∈ entries, entry.id ≠ id) : ∀ item ∈ items, item.id ≠ id := by
  induction each with
  | nil => exact fun _ held => nomatch held
  | @cons entry _ rest _ shown _ ih =>
      intro item held
      rcases List.mem_cons.mp held with rfl | later
      · obtain ⟨request, -, rfl⟩ := shown
        exact others entry List.mem_cons_self
      · exact ih (fun other member => others other (List.mem_cons_of_mem entry member)) item later

/-- No list of composes shows one that is not in it. -/
theorem Lists.ne {work : Work σ (List ComposeItem × Nat)} {left final : DeskState σ}
    {range : Range} {rows : List ComposeEntry} {listed : List ComposeItem × Nat}
    (lists : Lists work state left range rows ComposeEntry.ShownAs)
    (others : ∀ entry ∈ rows, entry.id ≠ id)
    (answered : outcome work state = (.ok listed, final)) : ∀ item ∈ listed.1, item.id ≠ id := by
  obtain ⟨shown, ran, each⟩ := lists
  cases ran.symm.trans answered
  exact ne_of_shownAs each fun entry held => others entry (mem_range range held)

/-- Whatever answers with composes shows none that is in no list. -/
theorem perform_ne (legible : state.store.Legible)
    (others : ∀ org now window, ∀ entry ∈ state.store.activeComposes org now window,
      entry.id ≠ id)
    {operation : Operation} {items : List ComposeItem} {total : Nat}
    (answered : (outcome (desk.perform caller operation) state).1 = .ok (.composes items total)) :
    ∀ item ∈ items, item.id ≠ id := by
  cases operation with
  | composes range =>
      obtain ⟨listed, left, done, same⟩ := outcome_map_eq_ok answered
      cases same
      exact (composes_lists desk legible caller range).ne (others _ _ _) done
  | blueprintComposes blueprint number range =>
      obtain ⟨listed, left, done, same⟩ := outcome_map_eq_ok answered
      cases same
      obtain ⟨entry, wanted, found, asked⟩ := of_blueprintComposes_ok done
      exact (blueprintComposes_lists desk legible range found asked).ne
        (fun entry held => others _ _ _ entry (List.mem_filter.mp held).1) done
  | compose | composeStatus | composeMetadata | deleteCompose | cloneCompose | clones
  | cloneStatus | createBlueprint | getBlueprint | exportBlueprint | blueprints
  | updateBlueprint | deleteBlueprint | composeBlueprint =>
      obtain ⟨_, _, -, other⟩ := outcome_map_eq_ok answered
      cases other

/-- What may be asked about a compose. -/
inductive Concerns (id : Uuid) : Operation → Prop where
  | status : Concerns id (.composeStatus id)
  | metadata : Concerns id (.composeMetadata id)
  | clone (request : CloneRequest) : Concerns id (.cloneCompose id request)
  | delete : Concerns id (.deleteCompose id)

theorem perform_of_missing
    (missing : state.store.getCompose id caller.org = .error (.notFound .compose))
    {operation : Operation} (concerns : Concerns id operation) :
    outcome (desk.perform caller operation) state =
      (.error (StoreFault.notFound .compose).error, state) := by
  cases concerns with
  | status => exact outcome_map_error (outcome_bind_error (composeOf_of_missing missing) _) _
  | metadata => exact outcome_map_error (outcome_bind_error (composeOf_of_missing missing) _) _
  | clone request => exact outcome_map_error (cloneCompose_of_missing missing request) _
  | delete => exact outcome_map_error (deleteCompose_of_missing missing) _

/-- A submission under an identifier that is taken is refused and changes nothing. -/
theorem composeFor_of_taken (taken : state.store.compose? id = some row)
    {request : ComposeRequest} (versionId : Option Uuid) {now : Timestamp} {left : DeskState σ}
    (placed : outcome (desk.submission caller request) state = (.ok (id, now), left)) :
    outcome (desk.composeFor caller request versionId) state =
        (.error (StoreFault.composeExists id).error, left) ∧
      left.store = state.store := by
  have kept : left.store = state.store := by
    have keeps := submission_keeps desk caller request state
    rw [placed] at keeps
    exact keeps
  have refused : state.store.insertCompose (.ofRequest caller request versionId id now) =
      .error (.composeExists id) := by
    simp only [Store.insertCompose, ComposeRow.ofRequest, taken]
  refine ⟨?_, kept⟩
  rw [composeFor, outcome_tryCatch, submit_eq_commit, Work.outcome_commit, placed]
  simp only [silently, kept, refused]
  rfl

end Deleted

/-- A compose is gone: look-ups miss it, no list shows it, whatever is asked about it
is refused, and so is a new compose under its identifier.  It still counts, and its
clones can still be looked up. -/
structure Gone (desk : Desk σ) (state : DeskState σ) (row : ComposeRow) : Prop where
  missing : ∀ org, state.store.getCompose row.id org = .error (.notFound .compose)
  unlisted : ∀ org now window, ∀ entry ∈ state.store.activeComposes org now window,
    entry.id ≠ row.id
  apart : ∀ org id number now window,
    ∀ entry ∈ state.store.composesOfBlueprint org id number now window, entry.id ≠ row.id
  unshown : ∀ (caller : Identity) (operation : Operation) (items : List ComposeItem)
      (total : Nat),
    (outcome (desk.perform caller operation) state).1 = .ok (.composes items total) →
    ∀ item ∈ items, item.id ≠ row.id
  refused : ∀ (caller : Identity) (operation : Operation), Concerns row.id operation →
    outcome (desk.perform caller operation) state =
      (.error (.notFound "compose not found"), state)
  taken : ∀ (caller : Identity) (request : ComposeRequest) (versionId : Option Uuid)
      (now : Timestamp) (left : DeskState σ),
    outcome (desk.submission caller request) state = (.ok (row.id, now), left) →
    outcome (desk.composeFor caller request versionId) state =
        (.error (.conflict ("compose " ++ row.id.toText ++ " already exists")), left) ∧
      left.store = state.store
  counted : ∀ now window, row.createdAt.isWithin now window = true →
    state.store.countComposes row.org now window =
      ({ state.store with composes := state.store.composes.filter (·.id ≠ row.id) } :
        Store).countComposes row.org now window + 1
  clones : ∀ clone ∈ state.store.clones, clone.composeId = row.id →
    clone ∈ state.store.clonesOf row.id row.org ∧
      ∃ found, state.store.getClone clone.id row.org = .ok found

theorem gone (desk : Desk σ) {state : DeskState σ} {row : ComposeRow}
    (legible : state.store.Legible) (anchored : state.store.Anchored)
    (member : row ∈ state.store.composes) (deleted : row.deleted = true) :
    desk.Gone state row := by
  have missing := Store.getCompose_of_deleted anchored member deleted
  have held := anchored.compose? member
  have unlisted : ∀ org now window, ∀ entry ∈ state.store.activeComposes org now window,
      entry.id ≠ row.id :=
    fun org now window entry listed => Store.activeComposes_ne anchored member deleted listed
  constructor
  case missing => exact missing
  case unlisted => exact unlisted
  case apart =>
    intro org id number now window entry listed
    exact unlisted org now window entry (List.mem_filter.mp listed).1
  case unshown => exact fun caller operation items total told => perform_ne legible unlisted told
  case refused => exact fun caller operation concerns => perform_of_missing (missing _) concerns
  case taken =>
    exact fun caller request versionId now left placed => composeFor_of_taken held versionId placed
  case counted => exact fun now window recent => Store.countComposes_of_mem anchored member recent
  case clones => exact fun clone among made => Store.readable_of_parent held among made

/-- Every compose lasts, apart from being deleted and losing its blueprint, every clone
that could be looked up still can be, and what was deleted is gone for good. -/
theorem deletion_final (desk : Desk σ) (metrics : Metrics) (world : σ)
    (earlier later : List (Call σ)) :
    (desk.after (start metrics world) earlier).store.Lasts
        (desk.after (start metrics world) (earlier ++ later)).store ∧
      (∀ id org clone,
        (desk.after (start metrics world) earlier).store.getClone id org = .ok clone →
        (desk.after (start metrics world) (earlier ++ later)).store.getClone id org = .ok clone) ∧
      (∀ id org, ∀ clone ∈ (desk.after (start metrics world) earlier).store.clonesOf id org,
        clone ∈ (desk.after (start metrics world) (earlier ++ later)).store.clonesOf id org) ∧
      ∀ row ∈ (desk.after (start metrics world) earlier).store.composes, row.deleted = true →
        ∃ last ∈ (desk.after (start metrics world) (earlier ++ later)).store.composes,
          row.Becomes last ∧ ∀ present : σ,
            desk.Gone { desk.after (start metrics world) (earlier ++ later) with world := present }
              last := by
  have anchored : (desk.after (start metrics world) earlier).store.Anchored :=
    after_anchored Store.anchored_empty earlier
  have lasts : (desk.after (start metrics world) earlier).store.Lasts
      (desk.after (start metrics world) (earlier ++ later)).store := by
    rw [after_append]
    exact after_lasts desk _ later
  refine ⟨lasts, fun id org clone found => lasts.getClone anchored found,
    fun id org clone listed => lasts.mem_clonesOf listed, fun row member deleted => ?_⟩
  obtain ⟨last, held, becomes⟩ := lasts.exists_row member
  have legible : (desk.after (start metrics world) (earlier ++ later)).store.Legible :=
    after_legible Store.legible_empty _
  have rooted : (desk.after (start metrics world) (earlier ++ later)).store.Anchored :=
    after_anchored Store.anchored_empty _
  exact ⟨last, held, becomes, fun present =>
    gone desk legible rooted held (becomes.deleted deleted)⟩

end ComposeDesk.Desk
