import ComposeDesk.Proofs.Text.Utf8
import ComposeDesk.Url.Form
import Mathlib.Data.List.TakeDrop

/-!
# Plain forms

Names and values without percent signs, pluses and marks between them are read as
they stand, and so is a form that is made of them.
-/

namespace ComposeDesk

namespace Text

variable {separates : Char → Bool}

theorem split_ne_nil (cs : List Char) : split separates cs ≠ [] := by
  induction cs with
  | nil => exact List.cons_ne_nil _ _
  | cons c rest ih =>
      rw [split]
      split
      · split_ifs
        · exact List.cons_ne_nil _ _
        · exact List.cons_ne_nil _ _
      · contradiction

/-- A text without separators is one part. -/
theorem split_whole {cs : List Char} (none : ∀ c ∈ cs, separates c = false) :
    split separates cs = [cs] := by
  induction cs with
  | nil => rfl
  | cons c rest ih =>
      have later := ih fun d member => none d (List.mem_cons_of_mem c member)
      simp only [split, later, none c List.mem_cons_self, Bool.false_eq_true, if_false]

/-- A part ends at the first separator. -/
theorem split_append {cs : List Char} {mark : Char} (none : ∀ c ∈ cs, separates c = false)
    (cut : separates mark = true) (rest : List Char) :
    split separates (cs ++ mark :: rest) = cs :: split separates rest := by
  induction cs with
  | nil =>
      rw [List.nil_append, split]
      cases parts : split separates rest with
      | nil => exact absurd parts (split_ne_nil rest)
      | cons first others => simp only [cut, if_true]
  | cons c more ih =>
      have later := ih fun d member => none d (List.mem_cons_of_mem c member)
      rw [List.cons_append, split, later]
      simp only [none c List.mem_cons_self, Bool.false_eq_true, if_false]

/-- What stands before a mark is taken up to the mark. -/
theorem takeWhile_cut {keeps : Char → Bool} {cs : List Char} {mark : Char}
    (all : ∀ c ∈ cs, keeps c = true) (stop : keeps mark = false) (rest : List Char) :
    (cs ++ mark :: rest).takeWhile keeps = cs := by
  rw [List.takeWhile_append_of_pos all,
    List.takeWhile_cons_of_neg (Bool.eq_false_iff.mp stop), List.append_nil]

theorem dropWhile_cut {keeps : Char → Bool} {cs : List Char} {mark : Char}
    (all : ∀ c ∈ cs, keeps c = true) (stop : keeps mark = false) (rest : List Char) :
    (cs ++ mark :: rest).dropWhile keeps = mark :: rest := by
  rw [List.dropWhile_append_of_pos all,
    List.dropWhile_cons_of_neg (Bool.eq_false_iff.mp stop)]

end Text

namespace Percent

theorem ofNat_ne {n : Nat} (small : n < 256) (other : n ≠ 37) : UInt8.ofNat n ≠ 37 := by
  intro same
  have code := congrArg UInt8.toNat same
  rw [Utf8.toNat_ofNat small] at code
  exact other code

/-- Only a percent sign has the byte of one. -/
theorem ne_of_mem_utf8EncodeChar {c : Char} (other : c ≠ '%') :
    ∀ byte ∈ String.utf8EncodeChar c, byte ≠ 37 := by
  have valid : c.toNat < 0x110000 := by
    rcases c.valid with low | ⟨_, high⟩
    · exact Nat.lt_trans low (by decide)
    · exact high
  have code : c.val.toNat = c.toNat := rfl
  have differs : c.toNat ≠ 37 := by
    intro same
    exact other (by rw [← Char.ofNat_toNat c, same])
  unfold String.utf8EncodeChar
  rw [code]
  generalize c.toNat = n at valid differs
  simp only
  split_ifs
  all_goals simp only [List.forall_mem_cons]
  case pos => exact ⟨ofNat_ne (by omega) differs, List.forall_mem_nil _⟩
  case pos =>
    exact ⟨ofNat_ne (by omega) (by omega), ofNat_ne (by omega) (by omega),
      List.forall_mem_nil _⟩
  case pos =>
    exact ⟨ofNat_ne (by omega) (by omega), ofNat_ne (by omega) (by omega),
      ofNat_ne (by omega) (by omega), List.forall_mem_nil _⟩
  case neg =>
    exact ⟨ofNat_ne (by omega) (by omega), ofNat_ne (by omega) (by omega),
      ofNat_ne (by omega) (by omega), ofNat_ne (by omega) (by omega), List.forall_mem_nil _⟩

theorem decode_plain {bytes : List UInt8} (plain : ∀ byte ∈ bytes, byte ≠ 37) :
    decode bytes = bytes := by
  induction bytes with
  | nil => rfl
  | cons byte rest ih =>
      have later := ih fun other member => plain other (List.mem_cons_of_mem byte member)
      rw [decode, later]
      intro _ _ _ sign
      exact absurd sign (plain byte List.mem_cons_self)

/-- A text without percent signs is decoded as it stands. -/
theorem decode_encode {text : String} (plain : ∀ c ∈ text.toList, c ≠ '%') :
    decode (Utf8.encode text) = Utf8.encode text := by
  refine decode_plain fun byte member => ?_
  rw [Utf8.encode_eq] at member
  obtain ⟨c, held, written⟩ := List.mem_flatMap.mp member
  exact ne_of_mem_utf8EncodeChar (plain c held) byte written

end Percent

namespace Form

/-- A text of characters that mean themselves in a name or a value. -/
def Plain (text : String) : Prop :=
  ∀ c ∈ text.toList, c ≠ '%' ∧ c ≠ '+' ∧ c ≠ '=' ∧ c ≠ '&'

instance (text : String) : Decidable (Plain text) :=
  List.decidableBAll _ text.toList

theorem decodeText_plain {text : String} (plain : Plain text) :
    decodeText text.toList = text := by
  have spaced : text.toList.map (fun c => if c = '+' then ' ' else c) = text.toList := by
    have same := List.map_congr_left fun c member =>
      (if_neg (plain c member).2.1 : (if c = '+' then ' ' else c) = id c)
    exact same.trans (List.map_id text.toList)
  simp only [decodeText, spaced, String.ofList_toList,
    Percent.decode_encode fun c member => (plain c member).1, Utf8.lossy_encode]

theorem decodePair_plain {name value : String} (names : Plain name) (values : Plain value) :
    decodePair (name.toList ++ '=' :: value.toList) = (name, value) := by
  have before : ∀ c ∈ name.toList, decide (c ≠ '=') = true := fun c member =>
    decide_eq_true (names c member).2.2.1
  have stop : decide ('=' ≠ '=') = false := by decide
  have cut : (name.toList ++ '=' :: value.toList).span (· ≠ '=') =
      (name.toList, '=' :: value.toList) := by
    rw [List.span_eq_takeWhile_dropWhile, Text.takeWhile_cut before stop,
      Text.dropWhile_cut before stop]
  simp only [decodePair, cut, decodeText_plain names, decodeText_plain values]

/-- A pair of plain texts is not cut. -/
theorem split_pair {name value : String} (names : Plain name) (values : Plain value) :
    ∀ c ∈ name.toList ++ '=' :: value.toList, (c == '&') = false := by
  intro c member
  refine beq_eq_false_iff_ne.mpr ?_
  rcases List.mem_append.mp member with first | second
  · exact (names c first).2.2.2
  · rcases List.mem_cons.mp second with rfl | second
    · decide
    · exact (values c second).2.2.2

/-- Two plain pairs are read as they stand. -/
theorem decode_two {name value other second : String} (names : Plain name)
    (values : Plain value) (others : Plain other) (seconds : Plain second) :
    decode (name ++ "=" ++ value ++ "&" ++ other ++ "=" ++ second) =
      [(name, value), (other, second)] := by
  have letters : (name ++ "=" ++ value ++ "&" ++ other ++ "=" ++ second).toList =
      (name.toList ++ '=' :: value.toList) ++ '&' :: (other.toList ++ '=' :: second.toList) := by
    simp only [String.toList_append, List.append_assoc, List.cons_append]
    rfl
  have solid (text rest : String) :
      (!(text.toList ++ '=' :: rest.toList).isEmpty) = true := by
    cases text.toList with
    | nil => rfl
    | cons c cs => rfl
  rw [decode, letters, Text.split_append (split_pair names values) (beq_self_eq_true '&'),
    Text.split_whole (split_pair others seconds)]
  simp only [List.filter_cons, solid, if_true, List.filter_nil, List.map_cons, List.map_nil,
    decodePair_plain names values, decodePair_plain others seconds]

end Form

end ComposeDesk
