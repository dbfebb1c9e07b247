import ComposeDesk.Proofs.Ledger

/-!
# What is counted, and where

A number of the metrics is found under its name and label as it was last changed.  Of
all that the desk does, only admission, the choice of the only image and the end of a
submission change one.  Everything else leaves the metrics as they are.
-/

namespace ComposeDesk

variable {σ ε α β γ : Type}

namespace Series

/-- The labels stand in their order, each of them once. -/
def Sorted (series : Series α) : Prop :=
  series.Pairwise fun entry later => entry.1 < later.1

variable {series : Series α} {label other : String} {start held : α} {change : α → α}

theorem get?_of_lt (sorted : Sorted ((other, held) :: series)) (before : label < other) :
    Series.get? ((other, held) :: series) label = none := by
  rw [get?, Option.map_eq_none_iff, List.find?_eq_none]
  intro entry member
  have after : label < entry.1 := by
    rcases List.mem_cons.mp member with rfl | later
    · exact before
    · exact String.lt_trans before (List.rel_of_pairwise_cons sorted later)
  simpa using (String.ne_of_lt after).symm

theorem get?_cons_of_ne (different : other ≠ label) :
    Series.get? ((other, held) :: series) label = Series.get? series label := by
  rw [get?, List.find?_cons_of_neg (by simpa using different)]
  rfl

theorem get?_cons_self : Series.get? ((label, held) :: series) label = some held := by
  rw [get?, List.find?_cons_of_pos (by simp)]
  rfl

/-- The labels after a change are those before and the one that is changed. -/
theorem mem_update {entry : String × α} (member : entry ∈ update label start change series) :
    entry.1 = label ∨ ∃ old ∈ series, old.1 = entry.1 := by
  induction series with
  | nil =>
      rw [update, List.mem_singleton] at member
      exact .inl (congrArg Prod.fst member)
  | cons first rest ih =>
      obtain ⟨other, held⟩ := first
      rw [update] at member
      split at member
      · rcases List.mem_cons.mp member with rfl | old
        · exact .inl rfl
        · exact .inr ⟨entry, old, rfl⟩
      · split at member
        · rcases List.mem_cons.mp member with rfl | old
          · exact .inl rfl
          · exact .inr ⟨entry, List.mem_cons_of_mem _ old, rfl⟩
        · rcases List.mem_cons.mp member with rfl | later
          · exact .inr ⟨(other, held), List.mem_cons_self, rfl⟩
          · rcases ih later with same | ⟨old, among, same⟩
            · exact .inl same
            · exact .inr ⟨old, List.mem_cons_of_mem _ among, same⟩

theorem Sorted.update (sorted : Sorted series) (label : String) (start : α) (change : α → α) :
    Sorted (series.update label start change) := by
  induction series with
  | nil => exact List.pairwise_singleton _ _
  | cons first rest ih =>
      obtain ⟨other, held⟩ := first
      have following : ∀ entry ∈ rest, other < entry.1 := (List.pairwise_cons.mp sorted).1
      rw [Series.update]
      split
      · rename_i before
        refine List.pairwise_cons.mpr ⟨fun entry member => ?_, sorted⟩
        rcases List.mem_cons.mp member with rfl | later
        · exact before
        · exact String.lt_trans before (following entry later)
      · split
        · rename_i same
          subst same
          exact List.pairwise_cons.mpr ⟨following, sorted.of_cons⟩
        · rename_i late different
          have after : other < label := by
            by_contra early
            exact different (String.le_antisymm (String.not_lt.mp early) (String.not_lt.mp late))
          refine List.pairwise_cons.mpr ⟨fun entry member => ?_, ih sorted.of_cons⟩
          rcases mem_update member with same | ⟨old, among, same⟩
          · exact same ▸ after
          · exact same ▸ following old among

/-- A change is seen under its label. -/
theorem get?_update_self (sorted : Sorted series) :
    (series.update label start change).get? label =
      some (change ((series.get? label).getD start)) := by
  induction series with
  | nil => exact get?_cons_self
  | cons first rest ih =>
      obtain ⟨other, held⟩ := first
      rw [update]
      split
      · rename_i before
        rw [get?_cons_self, get?_of_lt sorted before]
        rfl
      · split
        · rename_i same
          subst same
          rw [get?_cons_self, get?_cons_self]
          rfl
        · rename_i different
          rw [get?_cons_of_ne (Ne.symm different), get?_cons_of_ne (Ne.symm different),
            ih sorted.of_cons]

/-- A change is not seen under another label. -/
theorem get?_update_of_ne (different : label ≠ other) :
    (series.update label start change).get? other = series.get? other := by
  induction series with
  | nil => exact get?_cons_of_ne different
  | cons first rest ih =>
      obtain ⟨name, held⟩ := first
      rw [update]
      split
      · exact get?_cons_of_ne different
      · split
        · rename_i same
          subst same
          rw [get?_cons_of_ne different, get?_cons_of_ne different]
        · by_cases found : name = other
          · subst found
            rw [get?_cons_self, get?_cons_self]
          · rw [get?_cons_of_ne found, get?_cons_of_ne found, ih]

end Series

/-! ## What is shown of counters -/

namespace Family

def value? (family : Family) (name : String) (labels : List (String × String)) : Option String :=
  (family.samples.find? fun sample => sample.name = name ∧ sample.labels = labels).map (·.value)

variable {family : Family} {name other help label : String} {labels : List (String × String)}

/-- A family shows nothing under a name that none of its samples has. -/
theorem value?_eq_none (unnamed : ∀ sample ∈ family.samples, sample.name ≠ name) :
    family.value? name labels = none := by
  rw [value?, Option.map_eq_none_iff, List.find?_eq_none]
  intro sample member named
  exact unnamed sample member (of_decide_eq_true named).1

theorem counter_value? (count : Nat) :
    (counter name help count).value? name [] = some (Decimal.ofNat count) :=
  congrArg (Option.map Sample.value) (List.find?_cons_of_pos (decide_eq_true ⟨rfl, rfl⟩))

theorem counter_value?_of_ne (count : Nat) (different : name ≠ other) :
    (counter name help count).value? other labels = none := by
  refine value?_eq_none fun sample member => ?_
  rw [List.mem_singleton.mp member]
  exact different

/-- A count by a label is shown if there is one. -/
theorem counters_value? (series : Series Nat) (value : String) :
    (counters name help label series).value? name [(label, value)] =
      (series.get? value).map Decimal.ofNat := by
  have own (entry : String × Nat) :
      decide (name = name ∧ [(label, entry.1)] = [(label, value)]) = (entry.1 == value) := by
    rw [Bool.eq_iff_iff]
    simp
  rw [value?, counters, List.find?_map, Option.map_map, Series.get?, Option.map_map]
  refine congrArg _ (congrArg (List.find? · series) (funext fun entry => ?_))
  exact own entry

theorem counters_value?_of_ne (series : Series Nat) (different : name ≠ other) :
    (counters name help label series).value? other labels = none := by
  refine value?_eq_none fun sample member => ?_
  obtain ⟨entry, -, rfl⟩ := List.mem_map.mp member
  exact different

/-- The names of the samples of histograms say what they are. -/
theorem histograms_names {series : Series Histogram} {sample : Sample}
    (member : sample ∈ (histograms name help label series).samples) :
    sample.name = name ++ "_bucket" ∨ sample.name = name ++ "_sum" ∨
      sample.name = name ++ "_count" := by
  obtain ⟨entry, -, among⟩ := List.mem_flatMap.mp member
  rcases List.mem_append.mp among with bucket | rest
  · obtain ⟨bound, -, rfl⟩ := List.mem_map.mp bucket
    exact .inl rfl
  · simp only [List.mem_cons, List.not_mem_nil, or_false] at rest
    rcases rest with rfl | rfl | rfl
    · exact .inl rfl
    · exact .inr (.inl rfl)
    · exact .inr (.inr rfl)

theorem histograms_value?_of_ne (series : Series Histogram) (bucket : name ++ "_bucket" ≠ other)
    (sum : name ++ "_sum" ≠ other) (count : name ++ "_count" ≠ other) :
    (histograms name help label series).value? other labels = none := by
  refine value?_eq_none fun sample member => ?_
  rcases histograms_names member with same | same | same
  · rw [same]
    exact bucket
  · rw [same]
    exact sum
  · rw [same]
    exact count

end Family

namespace Metrics

/-- The number that is shown under a name with some labels. -/
def value? (metrics : Metrics) (name : String) (labels : List (String × String)) :
    Option String :=
  metrics.families.findSome? (·.value? name labels)

variable (metrics : Metrics)

theorem value?_errors :
    metrics.value? "image_builder_compose_errors_total" [] =
      some (Decimal.ofNat metrics.composeErrors) := by
  rw [value?, families, List.findSome?_cons, Family.counter_value?]

theorem value?_requests (label : String) :
    metrics.value? "image_builder_compose_requests_total" [("image_type", label)] =
      (metrics.composeRequests.get? label).map Decimal.ofNat := by
  rw [value?, families, List.findSome?_cons, Family.counter_value?_of_ne _ (by decide),
    List.findSome?_cons, Family.counters_value?, List.findSome?_cons,
    Family.histograms_value?_of_ne _ (by decide) (by decide) (by decide), List.findSome?_cons,
    Family.counter_value?_of_ne _ (by decide)]
  cases metrics.composeRequests.get? label with
  | none => rfl
  | some count => rfl

theorem value?_rejections :
    metrics.value? "image_builder_quota_rejections_total" [] =
      some (Decimal.ofNat metrics.quotaRejections) := by
  rw [value?, families, List.findSome?_cons, Family.counter_value?_of_ne _ (by decide),
    List.findSome?_cons, Family.counters_value?_of_ne _ (by decide), List.findSome?_cons,
    Family.histograms_value?_of_ne _ (by decide) (by decide) (by decide), List.findSome?_cons,
    Family.counter_value?]

end Metrics

namespace Work

theorem outside_unmetered (act : StateM σ α) : Keeps DeskState.metrics (outside act) :=
  fun _ => rfl

theorem ask_unmetered (tell : ε → Error) (act : Act σ ε α) :
    Keeps DeskState.metrics (ask tell act) :=
  fun _ => rfl

theorem check_unmetered (tell : ε → Error) (result : Except ε α) :
    Keeps DeskState.metrics (check tell result : Work σ α) :=
  fun _ => rfl

theorem of_unmetered (result : Except Error α) :
    Keeps DeskState.metrics (of result : Work σ α) :=
  fun _ => rfl

theorem look_unmetered (find : Store → α) : Keeps DeskState.metrics (look find : Work σ α) :=
  fun _ => rfl

theorem change_unmetered (tell : ε → Error) (write : Store → Except ε (Store × α)) :
    Keeps DeskState.metrics (change tell write : Work σ α) := by
  intro state
  rw [outcome_change]
  split
  · rfl
  · rfl

theorem commit_unmetered {plan : Work σ β} (unmetered : Keeps DeskState.metrics plan)
    (write : β → Store → Except StoreFault (Store × γ)) (answer : β → γ → α) :
    Keeps DeskState.metrics (commit plan write answer) :=
  .bind unmetered fun _ => .bind (change_unmetered _ _) fun _ => .pure _

end Work

namespace Desk

variable (desk : Desk σ) (caller : Identity)

theorem orderFor_unmetered (request : ComposeRequest) (image : ImageRequest) :
    Keeps DeskState.metrics (desk.orderFor caller request image) := by
  unfold orderFor
  refine .bind (Work.of_unmetered _) fun distribution => ?_
  refine .bind (Work.of_unmetered _) fun architecture => ?_
  refine .bind (Work.ask_unmetered _ _) fun repositories => ?_
  refine .bind (Work.ask_unmetered _ _) fun target => ?_
  refine .bind (Work.check_unmetered _ _) fun _ => .bind (Work.check_unmetered _ _) fun _ => ?_
  exact .bind (Work.ask_unmetered _ _) fun _ => .pure _

theorem place_unmetered (order : Build.Order) :
    Keeps DeskState.metrics (desk.place order) :=
  .bind (Work.ask_unmetered _ _) fun _ =>
    .ite (.bind (Work.check_unmetered _ _) fun _ => .pure _) (.throw _)

theorem record_unmetered (request : ComposeRequest) (versionId : Option Uuid) (id : Uuid) :
    Keeps DeskState.metrics (desk.record caller request versionId id) :=
  .bind (Work.outside_unmetered _) fun _ => Work.change_unmetered _ _

theorem ready_unmetered : Keeps DeskState.metrics desk.ready :=
  .bind (Work.ask_unmetered _ _) fun _ => .ite (.pure _) (.throw _)

theorem composeOf_unmetered (id : Uuid) :
    Keeps DeskState.metrics (composeOf caller id : Work σ ComposeEntry) :=
  .bind (Work.look_unmetered _) fun _ => Work.check_unmetered _ _

theorem blueprintOf_unmetered (id : Uuid) (number : Option Int) :
    Keeps DeskState.metrics (blueprintOf caller id number : Work σ BlueprintEntry) :=
  .bind (Work.look_unmetered _) fun _ => Work.check_unmetered _ _

theorem composesOf_unmetered (id : Uuid) (wanted : Option Int) (range : Range) :
    Keeps DeskState.metrics (desk.composesOf caller id wanted range) :=
  .bind (Work.outside_unmetered _) fun _ => .bind (Work.look_unmetered _) fun _ =>
    .bind (Work.of_unmetered _) fun _ => .pure _

theorem sharing_unmetered (composeId : Uuid) (request : CloneRequest) :
    Keeps DeskState.metrics (desk.sharing caller composeId request) := by
  refine .bind ?_ fun _ => Work.ask_unmetered _ _
  exact .bind (Work.look_unmetered _) fun _ => .bind (Work.check_unmetered _ _) fun _ =>
    .ite (.pure _) (.throw _)

theorem copying_unmetered (composeId : Uuid) (request : CloneRequest) :
    Keeps DeskState.metrics (desk.copying caller composeId request) := by
  refine .bind (sharing_unmetered desk caller composeId request) fun accounts => ?_
  refine .bind ?_ fun id => .bind (Work.outside_unmetered _) fun _ => .pure _
  exact .bind (Work.ask_unmetered _ _) fun _ =>
    .ite (.bind (Work.check_unmetered _ _) fun _ => .pure _) (.throw _)

theorem drafting_unmetered (request : BlueprintRequest) :
    Keeps DeskState.metrics (desk.drafting request) :=
  .bind (Work.of_unmetered _) fun _ => .bind (Work.of_unmetered _) fun _ =>
    .bind (Work.outside_unmetered _) fun _ => .pure _

theorem creation_unmetered (request : BlueprintRequest) :
    Keeps DeskState.metrics (desk.creation caller request) :=
  .bind (drafting_unmetered desk request) fun _ => .bind (Work.outside_unmetered _) fun _ =>
    .bind (Work.outside_unmetered _) fun _ => .bind (Work.outside_unmetered _) fun _ => .pure _

theorem revision_unmetered (id : Uuid) (request : BlueprintRequest) :
    Keeps DeskState.metrics (desk.revision caller id request) := by
  refine .bind ?_ fun draft => .bind (Work.outside_unmetered _) fun _ =>
    .bind (Work.outside_unmetered _) fun _ => .pure _
  exact .bind (Work.of_unmetered _) fun _ => .bind (blueprintOf_unmetered caller id none) fun _ =>
    .bind (Work.of_unmetered _) fun _ => .bind (Work.of_unmetered _) fun _ =>
      .bind (Work.outside_unmetered _) fun _ => .pure _

theorem choosing_unmetered (id : Uuid) (selection : ImageSelection) :
    Keeps DeskState.metrics (choosing caller id selection :
      Work σ ((BlueprintEntry × BlueprintBody) × List ImageRequest)) := by
  refine .bind (blueprintOf_unmetered caller id none) fun entry =>
    .bind (Work.of_unmetered _) fun body => ?_
  exact .ite (.bind (.throw _) fun _ => .pure _) (.pure _)

/-- Nothing but composing is counted. -/
theorem perform_unmetered {operation : Operation} (other : operation.isComposing = false) :
    Keeps DeskState.metrics (desk.perform caller operation) := by
  cases operation with
  | compose | composeBlueprint => cases other
  | composes range =>
      exact .map (.bind (Work.outside_unmetered _) fun _ => .bind (Work.look_unmetered _) fun _ =>
        .bind (Work.of_unmetered _) fun _ => .pure _) _
  | composeStatus id =>
      refine .map (.bind (composeOf_unmetered caller id) fun entry => ?_) _
      exact .bind (Work.ask_unmetered _ _) fun _ => .bind (Work.of_unmetered _) fun _ =>
        .bind (Work.check_unmetered _ _) fun _ => .bind (Work.of_unmetered _) fun _ =>
          .bind (Work.of_unmetered _) fun _ => .pure _
  | composeMetadata id =>
      refine .map (.bind (composeOf_unmetered caller id) fun entry => ?_) _
      exact .bind (Work.ask_unmetered _ _) fun _ => .bind (Work.of_unmetered _) fun _ =>
        .bind (Work.check_unmetered _ _) fun _ => .pure _
  | deleteCompose id => exact .map (Work.change_unmetered _ _) _
  | cloneCompose id request =>
      rw [perform, cloneCompose_eq_commit]
      exact .map (Work.commit_unmetered (copying_unmetered desk caller id request) _ _) _
  | clones id range =>
      exact .map (.bind (Work.look_unmetered _) fun _ => .bind (Work.of_unmetered _) fun _ =>
        .pure _) _
  | cloneStatus id =>
      refine .map (.bind (Work.look_unmetered _) fun _ => .bind (Work.check_unmetered _ _)
        fun row => ?_) _
      exact .bind (Work.ask_unmetered _ _) fun _ => .bind (Work.of_unmetered _) fun _ =>
        .bind (Work.check_unmetered _ _) fun _ => .bind (Work.of_unmetered _) fun _ => .pure _
  | createBlueprint request =>
      rw [perform, createBlueprint_eq_commit]
      exact .map (Work.commit_unmetered (creation_unmetered desk caller request) _ _) _
  | getBlueprint id number =>
      refine .map (.bind (Work.of_unmetered _) fun number => ?_) _
      exact .bind (blueprintOf_unmetered caller id number) fun _ =>
        .bind (Work.of_unmetered _) fun _ => .pure _
  | exportBlueprint id =>
      refine .map (.bind (blueprintOf_unmetered caller id none) fun entry => ?_) _
      exact .bind (Work.of_unmetered _) fun _ => .bind (Work.outside_unmetered _) fun _ => .pure _
  | blueprints filter range => exact .map (.bind (Work.look_unmetered _) fun _ => .pure _) _
  | updateBlueprint id request =>
      rw [perform, updateBlueprint_eq_commit]
      exact .map (Work.commit_unmetered (revision_unmetered desk caller id request) _ _) _
  | deleteBlueprint id => exact .map (Work.change_unmetered _ _) _
  | blueprintComposes id number range =>
      rw [perform, blueprintComposes_eq]
      refine .map (.bind (blueprintOf_unmetered caller id none) fun entry => ?_) _
      exact .bind (Work.of_unmetered _) fun wanted =>
        composesOf_unmetered desk caller id wanted range

end Desk

end ComposeDesk
