import ComposeDesk.Api.Answer
import ComposeDesk.Proofs.Decimal
import ComposeDesk.Proofs.Outcome
import ComposeDesk.Proofs.Url.Form
import ComposeDesk.Proofs.Uuid
import Mathlib.Data.List.TakeWhile

/-!
# Reading addresses

The address of a part of a list is read back: its path is cut into the segments that
it was made of, and its query gives the two numbers that it tells.
-/

namespace ComposeDesk

/-- A segment of a path, which no character ends or changes. -/
def Segment (text : String) : Prop :=
  ∀ c ∈ text.toList, c ≠ '/' ∧ c ≠ '?' ∧ c ≠ '#' ∧ c ≠ '%'

-- The letters of the text are looked through, not all that there are.
instance (text : String) : Decidable (Segment text) :=
  List.decidableBAll _ text.toList

namespace Uuid

theorem mem_group {c : Char} {sizes : List Nat} {cs : List Char} (member : c ∈ group sizes cs) :
    c = '-' ∨ c ∈ cs := by
  fun_induction group sizes cs with
  | case1 cs => exact .inr member
  | case2 size cs => exact .inr member
  | case3 size sizes cs more ih =>
      rcases List.mem_append.mp member with first | later
      · exact .inr (List.mem_of_mem_take first)
      · rcases List.mem_cons.mp later with hyphen | rest
        · exact .inl hyphen
        · exact (ih rest).imp id List.mem_of_mem_drop

theorem hexChar_segment (digit : Fin 16) :
    Text.hexChar digit ≠ '/' ∧ Text.hexChar digit ≠ '?' ∧ Text.hexChar digit ≠ '#' ∧
      Text.hexChar digit ≠ '%' := by
  revert digit
  decide

/-- An identifier is a segment of a path. -/
theorem segment_toText (id : Uuid) : Segment id.toText := by
  intro c member
  rw [toText, String.toList_ofList] at member
  rcases mem_group member with rfl | digit
  · decide
  · obtain ⟨value, -, rfl⟩ := List.mem_map.mp digit
    exact hexChar_segment value

theorem toText_ne_empty (id : Uuid) : id.toText ≠ "" := by
  intro empty
  have read := ofText?_toText id
  rw [empty] at read
  cases read

end Uuid

namespace Api

theorem parts_intercalate {segment : String} {rest : List String} (first : Segment segment)
    (others : ∀ text ∈ rest, Segment text) :
    Route.parts ("/".intercalate (segment :: rest)) = segment :: rest := by
  have solid {text : String} (segment : Segment text) :
      ∀ c ∈ text.toList, (c == '/') = false :=
    fun c member => beq_eq_false_iff_ne.mpr (segment c member).1
  induction rest generalizing segment with
  | nil =>
      rw [Route.parts, String.intercalate_singleton, Text.split_whole (solid first), List.map_cons,
        List.map_nil, String.ofList_toList]
  | cons second more ih =>
      have later := ih (others second List.mem_cons_self)
        (fun text member => others text (List.mem_cons_of_mem second member))
      rw [Route.parts] at later ⊢
      have letters : ("/".intercalate (segment :: second :: more)).toList =
          segment.toList ++ '/' :: ("/".intercalate (second :: more)).toList := by
        rw [String.intercalate_cons_cons, String.toList_append, String.toList_append,
          List.append_assoc]
        rfl
      rw [letters, Text.split_append (solid first) (beq_self_eq_true '/'), List.map_cons, later,
        String.ofList_toList]

theorem ne_mark_of_mem_intercalate {segments : List String}
    (each : ∀ text ∈ segments, Segment text) :
    ∀ c ∈ ("/".intercalate segments).toList, c ≠ '?' ∧ c ≠ '#' := by
  have plain {text : String} (segment : Segment text) : ∀ c ∈ text.toList, c ≠ '?' ∧ c ≠ '#' :=
    fun c member => ⟨(segment c member).2.1, (segment c member).2.2.1⟩
  induction segments with
  | nil => exact List.forall_mem_nil _
  | cons first rest ih =>
      have later := ih fun text member => each text (List.mem_cons_of_mem first member)
      cases rest with
      | nil =>
          rw [String.intercalate_singleton]
          exact plain (each first List.mem_cons_self)
      | cons second more =>
          have slash : ∀ c ∈ "/".toList, c ≠ '?' ∧ c ≠ '#' :=
            List.forall_mem_singleton.mpr (by decide)
          rw [String.intercalate_cons_cons, String.toList_append, String.toList_append,
            List.forall_mem_append, List.forall_mem_append]
          exact ⟨⟨plain (each first List.mem_cons_self), slash⟩, later⟩

theorem identifier_toText (id : Uuid) : Request.identifier id.toText = .ok id := by
  have plain : ∀ c ∈ id.toText.toList, c ≠ '%' := fun c member =>
    (id.segment_toText c member).2.2.2
  have text : Request.part "id" id.toText = .ok id.toText := by
    rw [Request.part, Percent.decode_encode plain, Utf8.decode?_encode]
  rw [Request.identifier, text]
  simp only [bind, Except.bind, Uuid.ofText?_toText]

section Target

variable {request : Request} {path query : String}

/-- The path of a target ends at the question mark. -/
theorem path_of_target (target : request.target.toList = path.toList ++ '?' :: query.toList)
    (paths : ∀ c ∈ path.toList, c ≠ '?' ∧ c ≠ '#') : request.path = path := by
  have all : ∀ c ∈ path.toList, (c ≠ '?' && c ≠ '#') = true := by
    intro c member
    obtain ⟨mark, hash⟩ := paths c member
    rw [decide_eq_true mark, decide_eq_true hash]
    rfl
  have stop : (decide ('?' ≠ '?') && decide ('?' ≠ '#')) = false := by decide
  rw [Request.path, target, Text.takeWhile_cut all stop, String.ofList_toList]

theorem query_of_target (target : request.target.toList = path.toList ++ '?' :: query.toList)
    (paths : ∀ c ∈ path.toList, c ≠ '?' ∧ c ≠ '#') (queries : ∀ c ∈ query.toList, c ≠ '#') :
    request.query = query := by
  have whole : (path.toList ++ '?' :: query.toList).takeWhile (fun c => decide (c ≠ '#')) =
      path.toList ++ '?' :: query.toList := by
    refine List.takeWhile_eq_self_iff.mpr fun c member => decide_eq_true ?_
    rcases List.mem_append.mp member with front | back
    · exact (paths c front).2
    · rcases List.mem_cons.mp back with rfl | back
      · decide
      · exact queries c back
  have all : ∀ c ∈ path.toList, decide (c ≠ '?') = true := fun c member =>
    decide_eq_true (paths c member).1
  have stop : decide ('?' ≠ '?') = false := by decide
  rw [Request.query, target, whole, Text.dropWhile_cut all stop, List.drop_one, List.tail_cons,
    String.ofList_toList]

end Target

def partQuery (offset limit : Int) : String :=
  "offset" ++ "=" ++ Decimal.ofInt offset ++ "&" ++ "limit" ++ "=" ++ Decimal.ofInt limit

theorem toList_linkTo (path : String) (offset limit : Int) :
    (linkTo path offset limit).toList =
      (root ++ "v1" ++ path).toList ++ '?' :: (partQuery offset limit).toList := by
  simp only [linkTo, partQuery, String.toList_append, List.append_assoc]
  rfl

theorem digitChar_plain : ∀ d < 10, Decimal.digitChar d ≠ '%' ∧ Decimal.digitChar d ≠ '+' ∧
    Decimal.digitChar d ≠ '=' ∧ Decimal.digitChar d ≠ '&' ∧ Decimal.digitChar d ≠ '#' := by
  decide

section Numbers

variable {offset limit : Int}

theorem plain_ofInt {n : Int} (natural : 0 ≤ n) : Form.Plain (Decimal.ofInt n) := by
  intro c member
  obtain ⟨d, below, rfl⟩ := Decimal.mem_ofInt natural member
  obtain ⟨percent, plus, equals, ampersand, -⟩ := digitChar_plain d below
  exact ⟨percent, plus, equals, ampersand⟩

theorem ne_hash_of_mem_partQuery (start : 0 ≤ offset) (size : 0 ≤ limit) :
    ∀ c ∈ (partQuery offset limit).toList, c ≠ '#' := by
  have number {n : Int} (natural : 0 ≤ n) : ∀ c ∈ (Decimal.ofInt n).toList, c ≠ '#' := by
    intro c member
    obtain ⟨d, below, rfl⟩ := Decimal.mem_ofInt natural member
    exact (digitChar_plain d below).2.2.2.2
  have word {text : String} (fixed : text ∈ ["offset", "=", "&", "limit"]) :
      ∀ c ∈ text.toList, c ≠ '#' := by
    have segments : ∀ text ∈ ["offset", "=", "&", "limit"], Segment text := by decide
    exact fun c member => (segments text fixed c member).2.2.1
  simp only [partQuery, String.toList_append, List.forall_mem_append]
  exact ⟨⟨⟨⟨⟨⟨word (by decide), word (by decide)⟩, number start⟩, word (by decide)⟩,
    word (by decide)⟩, word (by decide)⟩, number size⟩

/-- A resource that knows both numbers reads them, and no filter. -/
theorem ofText_partQuery {known : List Parameter}
    (offsets : known.find? (·.key = "offset") = some .offset)
    (limits : known.find? (·.key = "limit") = some .limit) (start : 0 ≤ offset)
    (size : 0 ≤ limit) (near : offset ≤ 9223372036854775807)
    (small : limit ≤ 9223372036854775807) :
    Query.ofText known (partQuery offset limit) =
      .ok ⟨some limit, some offset, none, none, none⟩ := by
  have first : Form.Plain "offset" := by decide
  have second : Form.Plain "limit" := by decide
  have pairs := Form.decode_two first (plain_ofInt start) second (plain_ofInt size)
  have offset' := Decimal.integer_ofInt 9223372036854775808 start near
  have limit' := Decimal.integer_ofInt 9223372036854775808 size small
  have taken : Query.take known .empty ("offset", Decimal.ofInt offset) =
      .ok { Query.empty with offset := some offset } := by
    simp only [Query.take, offsets, Query.put, Query.long, offset']
    rfl
  have both : Query.take known { Query.empty with offset := some offset }
      ("limit", Decimal.ofInt limit) =
      .ok { Query.empty with offset := some offset, limit := some limit } := by
    simp only [Query.take, limits, Query.put, Query.long, limit']
    rfl
  rw [Query.ofText, partQuery, pairs, List.foldlM_cons, taken]
  simp only [bind, Except.bind, List.foldlM_cons, both, List.foldlM_nil]
  rfl

end Numbers

theorem foldlM_keep {ε α β : Type} {f : β → α → Except ε β} {keeps : β → Prop}
    (step : ∀ b a c, keeps b → f b a = .ok c → keeps c) {items : List α} {start stop : β}
    (first : keeps start) (done : items.foldlM f start = .ok stop) : keeps stop := by
  induction items generalizing start with
  | nil =>
      cases done
      exact first
  | cons a rest ih =>
      rw [List.foldlM_cons] at done
      cases next : f start a with
      | error fault =>
          rw [next] at done
          cases done
      | ok b =>
          rw [next] at done
          exact ih (step start a b first next) done

/-- The limit of a query, if it has one, is a number of 64 bits. -/
def Query.Limited (query : Query) : Prop :=
  ∀ n, query.limit = some n → n ≤ 9223372036854775807

theorem put_limited {query result : Query} {parameter : Parameter} {value : String}
    (limited : query.Limited) (done : query.put parameter value = .ok result) :
    result.Limited := by
  cases parameter with
  | limit =>
      obtain ⟨limit, read, rfl⟩ := map_eq_ok done
      intro n same
      cases same
      exact Decimal.integer_le (mapError_eq_ok_iff.mp read)
  | offset | version =>
      obtain ⟨n, -, rfl⟩ := map_eq_ok done
      exact limited
  | name | search =>
      cases done
      exact limited

theorem ofText_limited {known : List Parameter} {text : String} {query : Query}
    (read : Query.ofText known text = .ok query) : query.Limited := by
  refine foldlM_keep ?_ (fun n none => by cases none) read
  intro query pair result limited taken
  unfold Query.take at taken
  split at taken
  · cases taken
    exact limited
  · split at taken
    · cases taken
    · exact put_limited limited taken

end Api

end ComposeDesk
