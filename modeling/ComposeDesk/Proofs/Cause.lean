import ComposeDesk.Proofs.Json.Fields
import ComposeDesk.Response.Cause

/-!
# Errors and their causes

Which documents report an error is told without the reader: one error is the cause of another
where that one has the identifier of a dependency and details that report the cause.  The details
of a cause are part of the details that report it; so a chain of causes is no longer than the
details of its first error are large, and the root of an error is the end of its chain.
-/

namespace ComposeDesk.BuildError

open Json

/-- The reason that is given for an error: a text, or none. -/
inductive ReasonGiven : List Json → String → Prop where
  | omitted : ReasonGiven [] ""
  | given (reason : String) : ReasonGiven [.str reason] reason

/-- The details that are given for an error: a document without defects, its members sorted, where
null stands for none. -/
inductive DetailsGiven : List Json → Option Json → Prop where
  | omitted : DetailsGiven [] none
  | null : DetailsGiven [.null] none
  | given {value : Json} (present : value ≠ .null) (readable : value.readable = true) :
      DetailsGiven [value] (some value.sorted)

/-- The fields of an error, none of them given twice. -/
structure ReportedIn (parts : Parts) (error : BuildError) : Prop where
  id : parts.given ["id"] 0 = [.int error.id.toInt]
  reason : ReasonGiven (parts.given ["reason"] 1) error.reason
  details : DetailsGiven (parts.given ["details"] 2) error.details

/-- A document reports an error: it is an object with the fields of the error, or an array of
them. -/
def Reports (json : Json) (error : BuildError) : Prop :=
  ∃ parts, Record.Opens [["id"], ["reason"], ["details"]] json parts ∧ ReportedIn parts error

theorem reasonGiven_iff {values : List Json} {reason : String} :
    ReasonGiven values reason ↔
      (values = [] ∧ "" = reason) ∨
        ∃ value, values = [value] ∧ Codec.text.read value = .ok reason := by
  constructor
  · rintro (_ | _)
    · exact .inl ⟨rfl, rfl⟩
    · exact .inr ⟨_, rfl, rfl⟩
  · rintro (⟨rfl, rfl⟩ | ⟨value, rfl, read⟩)
    · exact .omitted
    · rw [Codec.text_ok_iff.mp read]
      exact .given reason

theorem detailsGiven_iff {values : List Json} {details : Option Json} :
    DetailsGiven values details ↔
      (values = [] ∧ none = details) ∨
        ∃ value, values = [value] ∧ Codec.value.nullable.read value = .ok details := by
  constructor
  · rintro (_ | _ | ⟨present, readable⟩)
    · exact .inl ⟨rfl, rfl⟩
    · exact .inr ⟨_, rfl, rfl⟩
    · refine .inr ⟨_, rfl, Codec.nullable_ok_iff.mpr (.inr ⟨present, _, ?_, rfl⟩)⟩
      exact Codec.value_ok_iff.mpr ⟨readable, rfl⟩
  · rintro (⟨rfl, rfl⟩ | ⟨value, rfl, read⟩)
    · exact .omitted
    · rcases Codec.nullable_ok_iff.mp read with ⟨rfl, rfl⟩ | ⟨present, inner, met, rfl⟩
      · exact .null
      · obtain ⟨readable, rfl⟩ := Codec.value_ok_iff.mp met
        exact .given present readable

theorem reportedRecord_found_iff {expected : String} {parts : Parts} {error : BuildError} :
    reportedRecord.read expected parts = .found error ↔ ReportedIn parts error := by
  constructor
  · intro met
    obtain ⟨_, details, met₂, givenDetails, rfl⟩ := Record.nullable_found_iff.mp met
    obtain ⟨_, reason, met₁, givenReason, rfl⟩ := Record.defaulted_found_iff.mp met₂
    obtain ⟨_, id, met₀, ⟨value, single, read⟩, rfl⟩ := Record.required_found_iff.mp met₁
    cases Record.start_found_iff.mp met₀
    rw [Codec.int64_ok_iff.mp read] at single
    exact ⟨single, reasonGiven_iff.mpr givenReason, detailsGiven_iff.mpr givenDetails⟩
  · rintro ⟨id, reason, details⟩
    refine Record.nullable_found_iff.mpr
      ⟨mk error.id error.reason, _, ?_, detailsGiven_iff.mp details, rfl⟩
    refine Record.defaulted_found_iff.mpr ⟨mk error.id, _, ?_, reasonGiven_iff.mp reason, rfl⟩
    exact Record.required_found_iff.mpr
      ⟨mk, error.id, rfl, ⟨_, id, Codec.int64_ok_iff.mpr rfl⟩, rfl⟩

/-- The documents that are read as an error are those that report it. -/
theorem reported_ok_iff {json : Json} {error : BuildError} :
    reported.read json = .ok error ↔ Reports json error := by
  rw [reported, Record.codec_ok_iff]
  exact exists_congr fun _ => and_congr_right fun _ => reportedRecord_found_iff

/-- The details of an error are a part of the document that reports it, with its members sorted. -/
theorem Reports.details {json inner : Json} {error : BuildError} (reports : Reports json error)
    (held : error.details = some inner) : ∃ value ∈ json.parts, value.sorted = inner := by
  obtain ⟨parts, opens, -, -, details⟩ := reports
  rw [held] at details
  cases given : parts.given ["details"] 2 with
  | nil =>
      rw [given] at details
      cases details
  | cons value rest =>
      have among : value ∈ parts.given ["details"] 2 := by
        rw [given]
        exact List.mem_cons_self
      rw [given] at details
      cases details with
      | given => exact ⟨value, opens.given_part among, rfl⟩

/-- Details that were read are in order. -/
theorem Reports.ordered {json inner : Json} {error : BuildError} (reports : Reports json error)
    (held : error.details = some inner) : inner.Ordered := by
  obtain ⟨value, -, rfl⟩ := reports.details held
  exact ordered_sorted value

/-- An error weighs less than the document that reports it. -/
theorem Reports.weight_lt {json : Json} {error : BuildError} (reports : Reports json error) :
    error.weight < json.size := by
  cases held : error.details with
  | none =>
      rw [weight, held]
      exact json.size_pos
  | some inner =>
      obtain ⟨value, among, rfl⟩ := reports.details held
      calc error.weight
        _ = value.sorted.size := by rw [weight, held]
        _ ≤ value.size := value.size_sorted_le
        _ < json.size := size_part_lt among

/-- One error wraps another: it has the identifier of a dependency, and its details report the
other one. -/
def Wraps (error cause : BuildError) : Prop :=
  error.id ∈ [5, 9, 26, 28] ∧ ∃ details, error.details = some details ∧ Reports details cause

theorem cause?_eq_some_iff {error cause : BuildError} :
    error.cause? = some cause ↔ error.Wraps cause := by
  have dependency : dependencyIds.contains error.id = true ↔ error.id ∈ [5, 9, 26, 28] :=
    List.contains_iff_mem
  rw [cause?, Wraps, ← dependency]
  split_ifs with known
  · simp only [known, true_and, Option.bind_eq_some_iff, toOption_eq_some_iff, reported_ok_iff]
  · exact ⟨nofun, fun wraps => absurd wraps.1 known⟩

theorem cause?_eq_none_iff {error : BuildError} :
    error.cause? = none ↔ ∀ cause, ¬ error.Wraps cause := by
  simp only [Option.eq_none_iff_forall_ne_some, ne_eq, cause?_eq_some_iff]

variable {error cause other last : BuildError}

theorem Wraps.weight_lt (wraps : error.Wraps cause) : cause.weight < error.weight := by
  obtain ⟨-, details, held, reports⟩ := wraps
  calc cause.weight
    _ < details.size := reports.weight_lt
    _ = error.weight := by rw [weight, held]

/-- The details of a cause were read, so they are in order. -/
theorem Wraps.ordered (wraps : error.Wraps cause) {inner : Json}
    (held : cause.details = some inner) : inner.Ordered := by
  obtain ⟨-, details, -, reports⟩ := wraps
  exact reports.ordered held

/-- Of details in order, those of a cause are a part as they are. -/
theorem Wraps.part (wraps : error.Wraps cause)
    (ordered : ∀ details, error.details = some details → details.Ordered) {inner : Json}
    (held : cause.details = some inner) :
    ∃ details, error.details = some details ∧ inner ∈ details.parts := by
  obtain ⟨-, details, outer, reports⟩ := wraps
  obtain ⟨value, among, rfl⟩ := reports.details held
  refine ⟨details, outer, ?_⟩
  rw [sorted_of_ordered value ((ordered details outer).part among)]
  exact among

/-- The root is that of the cause, as long as there is one. -/
theorem Wraps.root_eq (wraps : error.Wraps cause) : error.root = cause.root := by
  rw [root, cause?_eq_some_iff.mpr wraps]
  -- What the recursion asks for its end always holds of a cause.
  exact if_pos wraps.weight_lt

theorem root_eq_self (settled : ∀ cause, ¬ error.Wraps cause) : error.root = error := by
  rw [root, cause?_eq_none_iff.mpr settled]

/-- One error is reached from another along a chain of causes. -/
def Reaches : BuildError → BuildError → Prop :=
  Relation.ReflTransGen Wraps

theorem Reaches.root_eq (reaches : error.Reaches last) : error.root = last.root := by
  induction reaches with
  | refl => rfl
  | tail _ wraps ih => exact ih.trans wraps.root_eq

/-- Wrapping ends, because details get smaller. -/
theorem wraps_wellFounded : WellFounded fun cause error : BuildError => error.Wraps cause :=
  Subrelation.wf Wraps.weight_lt (measure weight).wf

/-- The root is reached, and wraps no other error. -/
theorem reaches_root (error : BuildError) :
    error.Reaches error.root ∧ ∀ cause, ¬ error.root.Wraps cause := by
  induction error using wraps_wellFounded.induction with
  | _ error ih =>
      by_cases settled : ∀ cause, ¬ error.Wraps cause
      · rw [root_eq_self settled]
        exact ⟨.refl, settled⟩
      · obtain ⟨cause, wraps⟩ := not_forall_not.mp settled
        rw [wraps.root_eq]
        exact ⟨.head wraps (ih cause wraps).1, (ih cause wraps).2⟩

/-- A chain of causes is no longer than the details of its first error are large. -/
theorem length_le_weight {levels : List BuildError} (chain : (error :: levels).IsChain Wraps) :
    levels.length ≤ error.weight := by
  induction levels generalizing error with
  | nil => exact Nat.zero_le _
  | cons cause rest ih =>
      obtain ⟨wraps, later⟩ := List.isChain_cons_cons.mp chain
      exact Nat.lt_of_le_of_lt (ih later) wraps.weight_lt

/-- Along a chain of causes, details in order hold those of each level. -/
theorem Reaches.held (reaches : error.Reaches last)
    (ordered : ∀ details, error.details = some details → details.Ordered) {inner : Json}
    (held : last.details = some inner) :
    ∃ details, error.details = some details ∧ details.Holds inner := by
  induction reaches using Relation.ReflTransGen.head_induction_on with
  | refl => exact ⟨inner, held, .refl⟩
  | head wraps _ ih =>
      obtain ⟨middle, outer, holds⟩ := ih fun details => wraps.ordered
      obtain ⟨details, first, part⟩ := wraps.part ordered outer
      exact ⟨details, first, .head part holds⟩

/-- Unwrapping follows the chain of causes to its end.  The chain ends, there is one end only,
and that is the root: an error of the chain as it is, which has no identifier of a dependency or no
details that report an error.  An error of another identifier is its own root, so is every root,
and details in order hold the details of the root. -/
theorem root_unwraps (error : BuildError) :
    (∀ levels, (error :: levels).IsChain Wraps → levels.length ≤ error.weight) ∧
      error.Reaches error.root ∧
      (error.root.id ∉ [5, 9, 26, 28] ∨
        ∀ details, error.root.details = some details → ∀ cause, ¬ Reports details cause) ∧
      (∀ last, error.Reaches last → (∀ cause, ¬ last.Wraps cause) → last = error.root) ∧
      (error.id ∉ [5, 9, 26, 28] → error.root = error) ∧
      error.root.root = error.root ∧
      ((∀ details, error.details = some details → details.Ordered) →
        ∀ inner, error.root.details = some inner →
          ∃ details, error.details = some details ∧ details.Holds inner) := by
  obtain ⟨reaches, settled⟩ := error.reaches_root
  refine ⟨fun levels => length_le_weight, reaches, ?_, fun last reached ends => ?_, fun other => ?_,
    root_eq_self settled, fun ordered inner => reaches.held ordered⟩
  · refine or_iff_not_imp_left.mpr fun dependency details held cause reports => ?_
    exact settled cause ⟨not_not.mp dependency, details, held, reports⟩
  · exact (root_eq_self ends).symm.trans reached.root_eq.symm
  · exact root_eq_self fun cause wraps => other wraps.1

end ComposeDesk.BuildError
