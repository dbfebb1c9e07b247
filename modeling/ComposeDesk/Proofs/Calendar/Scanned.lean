import ComposeDesk.Calendar.Reader
import ComposeDesk.Proofs.Decimal
import Mathlib.Tactic.SplitIfs

/-!
# What readers take

What a reader of a calendar text takes away from the front of it, and what it leaves: one
lemma for each of the readers that all others are made of.
-/

namespace ComposeDesk

namespace Calendar

/-- A text begins with no digit. -/
def Stops (rest : List Char) : Prop :=
  ∀ c later, rest = c :: later → Decimal.isDigit c = false

theorem stops_nil : Stops [] := by
  rintro c later ⟨⟩

theorem stops_cons {c : Char} {later : List Char} :
    Stops (c :: later) ↔ Decimal.isDigit c = false := by
  constructor
  · exact fun stops => stops c later rfl
  · rintro none _ _ ⟨⟩
    exact none

structure IsNumber (digits : List Char) (n : Nat) : Prop where
  all : ∀ c ∈ digits, Decimal.isDigit c = true
  means : Decimal.value digits = n

/-- A number of a given width within bounds. -/
structure Fixed (width least most : Nat) (digits : List Char) (n : Nat) : Prop where
  number : IsNumber digits n
  width : digits.length = width
  inside : least ≤ n ∧ n ≤ most

theorem Fixed.length_pos {width least most : Nat} {digits : List Char} {n : Nat}
    (fixed : Fixed width least most digits n) (positive : 0 < width) : 0 < digits.length := by
  rw [fixed.width]
  exact positive

section Scan

variable {α β : Type} {cs rest : List Char}

theorem bind_ok_iff {scan : Scan α} {next : α → Scan β} {b : β} :
    (scan >>= next) cs = .ok (b, rest) ↔
      ∃ a middle, scan cs = .ok (a, middle) ∧ next a middle = .ok (b, rest) := by
  have run : (scan >>= next) cs = (scan cs).bind fun came => next came.1 came.2 := rfl
  rw [run]
  rcases scan cs with fault | ⟨a, middle⟩
  · exact ⟨nofun, fun ⟨_, _, came, _⟩ => nomatch came⟩
  · constructor
    · exact fun came => ⟨a, middle, rfl, came⟩
    · rintro ⟨_, _, ⟨⟩, came⟩
      exact came

theorem pure_ok_iff {a b : α} :
    (pure a : Scan α) cs = .ok (b, rest) ↔ b = a ∧ rest = cs := by
  constructor
  · rintro ⟨⟩
    exact ⟨rfl, rfl⟩
  · rintro ⟨rfl, rfl⟩
    rfl

theorem get_bind {next : List Char → Scan α} : (get >>= next) cs = next cs cs := rfl

/-- What is given unless it is refused. -/
theorem unless_ok_iff {refused : Prop} [Decidable refused] {fault : Fault} {a b : α} :
    (if refused then (throw fault : Scan PUnit) >>= fun _ => pure a else pure a : Scan α) cs =
        .ok (b, rest) ↔ ¬ refused ∧ b = a ∧ rest = cs := by
  split_ifs with refusal
  · exact iff_of_false nofun fun came => came.1 refusal
  · rw [pure_ok_iff]
    exact (and_iff_right refusal).symm

theorem char_ok_iff {c : Char} {u : Unit} : char c cs = .ok (u, rest) ↔ cs = c :: rest := by
  rcases cs with _ | ⟨d, later⟩
  · exact ⟨nofun, nofun⟩
  · have run : char c (d :: later) = if c = d then .ok ((), later) else .error .invalid := rfl
    rw [run, List.cons.injEq]
    split_ifs with same
    · constructor
      · rintro ⟨⟩
        exact ⟨same.symm, rfl⟩
      · rintro ⟨-, rfl⟩
        rfl
    · exact ⟨nofun, fun ⟨first, _⟩ => absurd first.symm same⟩

/-- What is taken as digits, and what is left. -/
theorem digitsUpTo_spec (most : Nat) (cs : List Char) :
    cs = (digitsUpTo most cs).1 ++ (digitsUpTo most cs).2 ∧
      (∀ c ∈ (digitsUpTo most cs).1, Decimal.isDigit c = true) ∧
      (digitsUpTo most cs).1.length ≤ most ∧
      ((digitsUpTo most cs).1.length = most ∨ Stops (digitsUpTo most cs).2) := by
  fun_induction digitsUpTo most cs with
  | case1 cs => exact ⟨rfl, nofun, Nat.le_refl 0, .inl rfl⟩
  | case2 most => exact ⟨rfl, nofun, Nat.zero_le _, .inr stops_nil⟩
  | case3 most c later digit front after taken ih =>
      rw [taken] at ih
      obtain ⟨split, all, fits, ends⟩ := ih
      refine ⟨congrArg (c :: ·) split, List.forall_mem_cons.mpr ⟨digit, all⟩,
        Nat.succ_le_succ fits, ends.imp_left (congrArg (· + 1))⟩
  | case4 most c later none =>
      exact ⟨rfl, nofun, Nat.zero_le _, .inr (stops_cons.mpr (Bool.eq_false_iff.mpr none))⟩

theorem digitsUpTo_append {most : Nat} {digits : List Char}
    (all : ∀ c ∈ digits, Decimal.isDigit c = true) (fits : digits.length ≤ most)
    (ends : digits.length = most ∨ Stops rest) :
    digitsUpTo most (digits ++ rest) = (digits, rest) := by
  induction digits generalizing most with
  | nil =>
      rcases most with _ | most
      · rfl
      · have stops := ends.resolve_left (Nat.succ_ne_zero most).symm
        rcases rest with _ | ⟨c, later⟩
        · rfl
        · rw [List.nil_append, digitsUpTo, if_neg]
          rw [stops_cons.mp stops]
          exact Bool.false_ne_true
  | cons c digits ih =>
      obtain ⟨digit, all⟩ := List.forall_mem_cons.mp all
      rcases most with _ | most
      · exact absurd fits (Nat.not_succ_le_zero _)
      · rw [List.cons_append, digitsUpTo, if_pos digit, ih all (Nat.le_of_succ_le_succ fits)
          (ends.imp_left Nat.succ.inj)]

/-- A number is all digits in front, as many as are allowed. -/
theorem number_ok_iff {least most n : Nat} :
    number least most cs = .ok (n, rest) ↔ ∃ digits, cs = digits ++ rest ∧ IsNumber digits n ∧
      (least ≤ digits.length ∧ digits.length ≤ most) ∧
      (digits.length = most ∨ Stops rest) ∧ n ≤ 9223372036854775807 := by
  constructor
  · intro read
    obtain ⟨split, all, fits, ends⟩ := digitsUpTo_spec most cs
    unfold number at read
    dsimp only at read
    split_ifs at read with short large
    cases read
    exact ⟨_, split, ⟨all, rfl⟩, ⟨Nat.not_lt.mp short, fits⟩, ends, Nat.not_lt.mp large⟩
  · rintro ⟨digits, rfl, ⟨all, rfl⟩, ⟨enough, fits⟩, ends, small⟩
    unfold number
    rw [digitsUpTo_append all fits ends]
    dsimp only
    rw [if_neg (Nat.not_lt.mpr enough), if_neg (Nat.not_lt.mpr small)]

theorem within_ok_iff {least most n m : Nat} :
    within least most n cs = .ok (m, rest) ↔ (least ≤ n ∧ n ≤ most) ∧ m = n ∧ rest = cs := by
  unfold within
  split_ifs with inside
  · rw [pure_ok_iff]
    exact (and_iff_right inside).symm
  · exact iff_of_false nofun fun came => inside came.1

/-- A number of a fixed width that cannot be too large takes that many digits. -/
theorem number_fixed_ok_iff {width n : Nat} (narrow : width ≤ 18) :
    number width width cs = .ok (n, rest) ↔
      ∃ digits, cs = digits ++ rest ∧ IsNumber digits n ∧ digits.length = width := by
  rw [number_ok_iff]
  constructor
  · rintro ⟨digits, split, number, ⟨enough, fits⟩, -, -⟩
    exact ⟨digits, split, number, Nat.le_antisymm fits enough⟩
  · rintro ⟨digits, split, number, rfl⟩
    refine ⟨digits, split, number, ⟨Nat.le_refl _, Nat.le_refl _⟩, .inl rfl, ?_⟩
    have small : n < 10 ^ digits.length := by
      rw [← number.means]
      exact Decimal.value_lt digits
    have large : 10 ^ digits.length ≤ 10 ^ 18 := Nat.pow_le_pow_right (by decide) narrow
    omega

theorem twoDigits_ok_iff {least most n : Nat} :
    twoDigits least most cs = .ok (n, rest) ↔
      ∃ digits, cs = digits ++ rest ∧ Fixed 2 least most digits n := by
  rw [twoDigits, bind_ok_iff]
  constructor
  · rintro ⟨m, middle, read, bounded⟩
    obtain ⟨inside, rfl, rfl⟩ := within_ok_iff.mp bounded
    obtain ⟨digits, split, number, width⟩ := (number_fixed_ok_iff (by decide)).mp read
    exact ⟨digits, split, number, width, inside⟩
  · rintro ⟨digits, split, number, width, inside⟩
    exact ⟨n, rest, (number_fixed_ok_iff (by decide)).mpr ⟨digits, split, number, width⟩,
      within_ok_iff.mpr ⟨inside, rfl, rfl⟩⟩

/-- All blanks in front are taken. -/
theorem blanks_ok_iff {u : Unit} :
    blanks cs = .ok (u, rest) ↔ ∃ before, cs = before ++ rest ∧
      (∀ c ∈ before, Text.isBlank c = true) ∧
      ∀ c later, rest = c :: later → Text.isBlank c = false := by
  have run : blanks cs = .ok ((), cs.dropWhile Text.isBlank) := rfl
  rw [run]
  constructor
  · rintro ⟨⟩
    refine ⟨cs.takeWhile Text.isBlank, List.takeWhile_append_dropWhile.symm,
      fun c member => List.all_eq_true.mp List.all_takeWhile c member,
      fun c later starts => ?_⟩
    have head := List.head?_dropWhile_not Text.isBlank cs
    rw [starts] at head
    exact head
  · rintro ⟨before, rfl, all, stops⟩
    rw [List.dropWhile_append_of_pos all]
    cases rest with
    | nil => rfl
    | cons c later => rw [List.dropWhile_cons_of_neg (Bool.eq_false_iff.mp (stops c later rfl))]

/-- A digit is no blank. -/
theorem isBlank_of_isDigit {c : Char} (digit : Decimal.isDigit c = true) :
    Text.isBlank c = false := by
  have code := Decimal.isDigit_iff.mp digit
  simp only [Text.isBlank, Bool.or_eq_false_iff, Bool.and_eq_false_iff, beq_eq_false_iff_ne,
    decide_eq_false_iff_not]
  omega

/-- Blanks are followed by none where something else is known to come. -/
theorem blanks_append {before : List Char} {c : Char} {later : List Char}
    (all : ∀ c ∈ before, Text.isBlank c = true) (solid : Text.isBlank c = false) :
    blanks (before ++ c :: later) = .ok ((), c :: later) := by
  refine blanks_ok_iff.mpr ⟨before, rfl, all, ?_⟩
  rintro _ _ ⟨⟩
  exact solid

/-- A number of one or two digits, with blanks in front of it. -/
theorem looseDigits_ok_iff {least most n : Nat} (stops : Stops rest) :
    looseDigits least most cs = .ok (n, rest) ↔ ∃ before digits, cs = before ++ digits ++ rest ∧
      (∀ c ∈ before, Text.isBlank c = true) ∧ IsNumber digits n ∧
      (1 ≤ digits.length ∧ digits.length ≤ 2) ∧ least ≤ n ∧ n ≤ most := by
  rw [looseDigits, bind_ok_iff]
  constructor
  · rintro ⟨_, solid, skipped, read⟩
    obtain ⟨m, middle, counted, bounded⟩ := bind_ok_iff.mp read
    obtain ⟨inside, rfl, rfl⟩ := within_ok_iff.mp bounded
    obtain ⟨digits, rfl, number, width, -, -⟩ := number_ok_iff.mp counted
    obtain ⟨before, rfl, all, -⟩ := blanks_ok_iff.mp skipped
    exact ⟨before, digits, (List.append_assoc _ _ _).symm, all, number, width, inside⟩
  · rintro ⟨before, digits, rfl, all, number, width, inside⟩
    obtain ⟨c, later, rfl⟩ := List.exists_cons_of_length_pos width.1
    have solid := isBlank_of_isDigit (number.all c List.mem_cons_self)
    have small : n < 10 ^ 2 := by
      rw [← number.means]
      exact Nat.lt_of_lt_of_le (Decimal.value_lt _) (Nat.pow_le_pow_right (by omega) width.2)
    rw [List.append_assoc]
    refine ⟨(), _, blanks_append all solid, bind_ok_iff.mpr ⟨n, rest, ?_, ?_⟩⟩
    · exact number_ok_iff.mpr ⟨_, rfl, number, width, .inr stops, by omega⟩
    · exact within_ok_iff.mpr ⟨inside, rfl, rfl⟩

theorem separator_ok_iff {u : Unit} :
    separator cs = .ok (u, rest) ↔ ∃ c, cs = c :: rest ∧ (c = 't' ∨ c = 'T' ∨ c = ' ') := by
  rcases cs with _ | ⟨d, later⟩
  · exact ⟨nofun, nofun⟩
  · have run : separator (d :: later) =
        if d = 't' || d = 'T' || d = ' ' then .ok ((), later) else .error .invalid := rfl
    rw [run]
    split_ifs with letter
    · simp only [Bool.or_eq_true, decide_eq_true_eq, or_assoc] at letter
      constructor
      · rintro ⟨⟩
        exact ⟨d, rfl, letter⟩
      · rintro ⟨c, ⟨⟩, -⟩
        rfl
    · simp only [Bool.or_eq_true, decide_eq_true_eq, or_assoc] at letter
      refine ⟨nofun, ?_⟩
      rintro ⟨c, ⟨⟩, allowed⟩
      exact absurd allowed letter

end Scan

end Calendar

end ComposeDesk
