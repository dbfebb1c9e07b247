import ComposeDesk.Proofs.Calendar.Scanned

/-!
# The forms of instants

The texts that are read as instants: all numbers have their widths but for the part of a
second, and an offset ends the text.
-/

namespace ComposeDesk

namespace Calendar

/-- How the part of a second may be written: not at all, or after a point with any number of
digits, of which the first nine count. -/
inductive FractionForm : List Char → Nat → Prop
  | none : FractionForm [] 0
  | some {counted more : List Char} {n : Nat} (number : IsNumber counted n)
      (width : 1 ≤ counted.length ∧ counted.length ≤ 9)
      (full : counted.length = 9 ∨ more = [])
      (digits : ∀ c ∈ more, Decimal.isDigit c = true) :
      FractionForm ('.' :: (counted ++ more)) (n * 10 ^ (9 - counted.length))

/-- How an offset may be written: as none, or with hours and minutes ahead or behind. -/
inductive ZoneForm : List Char → Int → Prop
  | utc {c : Char} (letter : c = 'Z' ∨ c = 'z') : ZoneForm [c] 0
  | ahead {hour minute : List Char} {h m : Nat} (hours : Fixed 2 0 99 hour h)
      (minutes : Fixed 2 0 59 minute m) :
      ZoneForm ('+' :: (hour ++ ':' :: minute)) (h * 3600 + m * 60)
  | behind {c : Char} {hour minute : List Char} {h m : Nat} (sign : c = '-' ∨ c = '\u2212')
      (hours : Fixed 2 0 99 hour h) (minutes : Fixed 2 0 59 minute m) :
      ZoneForm (c :: (hour ++ ':' :: minute)) (-(h * 3600 + m * 60))

/-- How an instant may be written: fixed widths, and an offset below a day. -/
inductive StrictForm : List Char → Parts → Prop
  | mk {year month day hour minute second tail zone : List Char} {letter : Char}
      {y m d h i s n : Nat} {offset : Int} (years : Fixed 4 0 9999 year y)
      (months : Fixed 2 1 12 month m) (days : Fixed 2 1 31 day d)
      (separates : letter = 't' ∨ letter = 'T' ∨ letter = ' ') (hours : Fixed 2 0 23 hour h)
      (minutes : Fixed 2 0 59 minute i) (seconds : Fixed 2 0 60 second s)
      (fraction : FractionForm tail n) (zones : ZoneForm zone offset)
      (inside : -86340 ≤ offset ∧ offset ≤ 86340) :
      StrictForm (year ++ '-' :: month ++ '-' :: day ++ letter :: hour ++ ':' :: minute ++
        ':' :: second ++ tail ++ zone) ⟨y, m, d, h, i, s, n, offset⟩

section Strict

variable {cs rest : List Char}

theorem offsetDigits_cons (high a b : Char) (later : List Char) :
    offsetDigits high (a :: b :: later) =
      if Decimal.isDigit a && Decimal.isDigit b then
        if high < a then .error .outOfRange else .ok (Decimal.value [a, b], later)
      else .error .invalid :=
  rfl

/-- The largest first digit bounds a number of two digits. -/
theorem not_lt_iff_value_le {high a b : Char} {most : Nat}
    (bound : high.toNat * 10 + 9 = 480 + most) (first : Decimal.isDigit a = true)
    (second : Decimal.isDigit b = true) : ¬ high < a ↔ Decimal.value [a, b] ≤ most := by
  have order : high < a ↔ high.toNat < a.toNat := Iff.rfl
  have tens := Decimal.isDigit_iff.mp first
  have ones := Decimal.isDigit_iff.mp second
  rw [order, Decimal.value_pair first second]
  omega

theorem offsetDigits_ok_iff {high : Char} {most n : Nat}
    (bound : high.toNat * 10 + 9 = 480 + most) :
    offsetDigits high cs = .ok (n, rest) ↔
      ∃ digits, cs = digits ++ rest ∧ Fixed 2 0 most digits n := by
  constructor
  · intro read
    rcases cs with _ | ⟨a, _ | ⟨b, later⟩⟩
    · cases read
    · cases read
    · rw [offsetDigits_cons] at read
      split_ifs at read with digits beyond
      cases read
      obtain ⟨first, second⟩ := (Bool.and_eq_true _ _).mp digits
      refine ⟨[a, b], rfl, ⟨?_, rfl⟩, rfl, Nat.zero_le _,
        (not_lt_iff_value_le bound first second).mp beyond⟩
      exact List.forall_mem_cons.mpr ⟨first, List.forall_mem_singleton.mpr second⟩
  · rintro ⟨digits, rfl, ⟨all, rfl⟩, width, -, inside⟩
    obtain ⟨a, b, rfl⟩ := List.length_eq_two.mp width
    obtain ⟨first, others⟩ := List.forall_mem_cons.mp all
    have second := List.forall_mem_singleton.mp others
    show offsetDigits high (a :: b :: rest) = _
    rw [offsetDigits_cons, first, second, Bool.and_self, if_pos rfl,
      if_neg ((not_lt_iff_value_le bound first second).mpr inside)]

/-- The digits in front of a text that begins with none after them. -/
theorem dropWhile_digits {more : List Char} (digits : ∀ c ∈ more, Decimal.isDigit c = true)
    (stops : Stops rest) : (more ++ rest).dropWhile Decimal.isDigit = rest := by
  rw [List.dropWhile_append_of_pos digits]
  cases rest with
  | nil => rfl
  | cons c later => rw [List.dropWhile_cons_of_neg (Bool.eq_false_iff.mp (stops c later rfl))]

theorem nanoseconds_eq (cs : List Char) :
    nanoseconds cs = (number 1 9 cs).bind fun came =>
      .ok (came.1 * 10 ^ (9 - (cs.length - came.2.length)),
        came.2.dropWhile Decimal.isDigit) :=
  rfl

/-- The digits of a part of a second are all taken, and nine of them count. -/
theorem nanoseconds_ok_iff {part : Nat} (stops : Stops rest) :
    nanoseconds cs = .ok (part, rest) ↔ ∃ form, cs = form ++ rest ∧
      FractionForm ('.' :: form) part := by
  rw [nanoseconds_eq]
  constructor
  · intro read
    rcases came : number 1 9 cs with fault | ⟨n, after⟩
    · rw [came] at read
      cases read
    · rw [came] at read
      obtain ⟨counted, rfl, counts, width, ends, -⟩ := number_ok_iff.mp came
      have length : (counted ++ after).length - after.length = counted.length := by
        rw [List.length_append, Nat.add_sub_cancel]
      rw [Except.bind, length] at read
      cases read
      refine ⟨counted ++ after.takeWhile Decimal.isDigit, ?_, .some counts width ?_
        fun c member => List.all_eq_true.mp List.all_takeWhile c member⟩
      · rw [List.append_assoc, List.takeWhile_append_dropWhile]
      · refine ends.imp_right fun none => ?_
        cases after with
        | nil => rfl
        | cons c later =>
            exact List.takeWhile_cons_of_neg (Bool.eq_false_iff.mp (stops_cons.mp none))
  · rintro ⟨form, rfl, written⟩
    cases written with
    | @some counted more n counts width full digits =>
        have small : n < 10 ^ 9 := by
          rw [← counts.means]
          exact Nat.lt_of_lt_of_le (Decimal.value_lt counted)
            (Nat.pow_le_pow_right (by decide) width.2)
        have ends : counted.length = 9 ∨ Stops (more ++ rest) := by
          rcases full with full | rfl
          · exact .inl full
          · exact .inr stops
        have read : number 1 9 (counted ++ more ++ rest) = .ok (n, more ++ rest) :=
          number_ok_iff.mpr ⟨counted, List.append_assoc _ _ _, counts, width, ends, by omega⟩
        have length : (counted ++ more ++ rest).length - (more ++ rest).length =
            counted.length := by
          simp only [List.length_append]
          omega
        rw [read, Except.bind, length, dropWhile_digits digits stops]

theorem fraction_point (later : List Char) : fraction ('.' :: later) = nanoseconds later := rfl

theorem fraction_none {cs : List Char} (point : ∀ later, cs ≠ '.' :: later) :
    fraction cs = .ok (0, cs) := by
  rw [fraction, get_bind]
  split
  · exact absurd rfl (point _)
  · rfl

theorem fraction_ok_iff {n : Nat} (stops : Stops rest) (point : ∀ later, rest ≠ '.' :: later) :
    fraction cs = .ok (n, rest) ↔ ∃ form, cs = form ++ rest ∧ FractionForm form n := by
  by_cases starts : ∃ later, cs = '.' :: later
  · obtain ⟨later, rfl⟩ := starts
    rw [fraction_point, nanoseconds_ok_iff stops]
    constructor
    · rintro ⟨form, rfl, written⟩
      exact ⟨'.' :: form, rfl, written⟩
    · rintro ⟨form, split, written⟩
      cases written with
      | none => exact absurd split.symm (point later)
      | some counts width full digits =>
          exact ⟨_, (List.cons.inj split).2, .some counts width full digits⟩
  · rw [fraction_none fun later same => starts ⟨later, same⟩]
    constructor
    · rintro ⟨⟩
      exact ⟨[], rfl, .none⟩
    · rintro ⟨form, split, written⟩
      cases written with
      | none => rw [split, List.nil_append]
      | some _ _ _ _ => exact absurd ⟨_, split⟩ starts

def offsetFields (finish : Int → Int) : Scan Int := do
  let hours ← offsetDigits '9'
  char ':'
  let minutes ← offsetDigits '5'
  pure (finish (hours * 3600 + minutes * 60))

theorem offset_utc {c : Char} (letter : c = 'Z' ∨ c = 'z') (later : List Char) :
    offset (char ':') (c :: later) = .ok (0, later) := by
  rcases letter with rfl | rfl <;> rfl

theorem offset_ahead (later : List Char) :
    offset (char ':') ('+' :: later) = offsetFields id later :=
  rfl

theorem offset_behind {c : Char} (sign : c = '-' ∨ c = '\u2212') (later : List Char) :
    offset (char ':') (c :: later) = offsetFields Neg.neg later := by
  rcases sign with rfl | rfl <;> rfl

theorem offset_other {c : Char} (utc : ¬(c = 'Z' ∨ c = 'z')) (ahead : c ≠ '+')
    (behind : ¬(c = '-' ∨ c = '\u2212')) (later : List Char) :
    offset (char ':') (c :: later) = .error .invalid := by
  rw [offset, get_bind]
  dsimp only
  rw [if_neg (by simpa using utc), if_neg (by simpa [ahead] using behind)]
  rfl

theorem offsetFields_ok_iff {finish : Int → Int} {n : Int} :
    offsetFields finish cs = .ok (n, rest) ↔ ∃ hour minute h m,
      cs = hour ++ ':' :: minute ++ rest ∧ Fixed 2 0 99 hour h ∧ Fixed 2 0 59 minute m ∧
        n = finish (h * 3600 + m * 60) := by
  have hours : '9'.toNat * 10 + 9 = 480 + 99 := rfl
  have minutes : '5'.toNat * 10 + 9 = 480 + 59 := rfl
  simp only [offsetFields, bind_ok_iff, char_ok_iff, pure_ok_iff, offsetDigits_ok_iff hours,
    offsetDigits_ok_iff minutes]
  constructor
  · rintro ⟨h, _, ⟨hour, rfl, hours⟩, _, _, rfl, m, _, ⟨minute, rfl, minutes⟩, rfl, rfl⟩
    refine ⟨hour, minute, h, m, ?_, hours, minutes, rfl⟩
    rw [List.append_assoc, List.cons_append]
  · rintro ⟨hour, minute, h, m, rfl, hours, minutes, rfl⟩
    refine ⟨h, _, ⟨hour, ?_, hours⟩, (), _, rfl, m, _, ⟨minute, rfl, minutes⟩, rfl, rfl⟩
    rw [List.append_assoc, List.cons_append]

/-- An offset begins with its letter or its sign. -/
theorem ZoneForm.first {form : List Char} {n : Int} (written : ZoneForm form n) :
    ∃ c later, form = c :: later ∧
      (c = 'Z' ∨ c = 'z' ∨ c = '+' ∨ c = '-' ∨ c = '\u2212') := by
  cases written with
  | @utc c letter => exact ⟨c, [], rfl, letter.elim .inl fun small => .inr (.inl small)⟩
  | ahead _ _ => exact ⟨'+', _, rfl, .inr (.inr (.inl rfl))⟩
  | @behind c _ _ _ _ sign _ _ => exact ⟨c, _, rfl, .inr (.inr (.inr sign))⟩

theorem offset_ok_iff {n : Int} :
    offset (char ':') cs = .ok (n, rest) ↔ ∃ form, cs = form ++ rest ∧ ZoneForm form n := by
  rcases cs with _ | ⟨c, later⟩
  · refine iff_of_false nofun ?_
    rintro ⟨form, none, written⟩
    obtain ⟨rfl, -⟩ := List.append_eq_nil_iff.mp none.symm
    cases written
  by_cases utc : c = 'Z' ∨ c = 'z'
  · rw [offset_utc utc]
    constructor
    · rintro ⟨⟩
      exact ⟨[c], rfl, .utc utc⟩
    · rintro ⟨form, split, written⟩
      cases written with
      | utc _ =>
          cases split
          rfl
      | ahead _ _ =>
          cases split
          exact absurd utc (by decide)
      | behind sign _ _ =>
          cases split
          rcases sign with rfl | rfl <;> exact absurd utc (by decide)
  by_cases behind : c = '-' ∨ c = '\u2212'
  · rw [offset_behind behind, offsetFields_ok_iff]
    constructor
    · rintro ⟨hour, minute, h, m, rfl, hours, minutes, rfl⟩
      exact ⟨c :: (hour ++ ':' :: minute), rfl, .behind behind hours minutes⟩
    · rintro ⟨form, split, written⟩
      cases written with
      | utc letter =>
          cases split
          exact absurd letter utc
      | ahead _ _ =>
          cases split
          exact absurd behind (by decide)
      | behind _ hours minutes =>
          cases split
          exact ⟨_, _, _, _, rfl, hours, minutes, rfl⟩
  by_cases ahead : c = '+'
  · subst ahead
    rw [offset_ahead, offsetFields_ok_iff]
    constructor
    · rintro ⟨hour, minute, h, m, rfl, hours, minutes, rfl⟩
      exact ⟨'+' :: (hour ++ ':' :: minute), rfl, .ahead hours minutes⟩
    · rintro ⟨form, split, written⟩
      cases written with
      | utc letter =>
          cases split
          exact absurd letter utc
      | behind sign _ _ =>
          cases split
          exact absurd sign behind
      | ahead hours minutes =>
          cases split
          exact ⟨_, _, _, _, rfl, hours, minutes, rfl⟩
  · rw [offset_other utc ahead behind]
    refine iff_of_false nofun ?_
    rintro ⟨form, split, written⟩
    obtain ⟨first, others, rfl, allowed⟩ := written.first
    cases split
    rcases allowed with upper | lower | plus | sign
    · exact utc (.inl upper)
    · exact utc (.inr lower)
    · exact ahead plus
    · exact behind sign

/-- What follows a part of a second begins with neither a digit nor a point. -/
theorem ZoneForm.ends {form : List Char} {n : Int} (written : ZoneForm form n)
    (rest : List Char) :
    Stops (form ++ rest) ∧ ∀ later, form ++ rest ≠ '.' :: later := by
  obtain ⟨c, later, rfl, allowed⟩ := written.first
  have solid : Decimal.isDigit c = false ∧ c ≠ '.' := by
    rcases allowed with rfl | rfl | rfl | rfl | rfl <;> decide
  refine ⟨stops_cons.mpr solid.1, fun others same => solid.2 ?_⟩
  exact (List.cons.inj same).1

theorem strictParts_ok_iff {parts : Parts} :
    strictParts cs = .ok (parts, []) ↔ StrictForm cs parts := by
  have narrow : 4 ≤ 18 := by decide
  simp only [strictParts, bind_ok_iff, char_ok_iff, twoDigits_ok_iff, separator_ok_iff,
    offset_ok_iff, number_fixed_ok_iff narrow, unless_ok_iff]
  constructor
  · rintro ⟨y, _, ⟨year, rfl, years, yearWidth⟩, _, _, rfl, m, _, ⟨month, rfl, months⟩,
      _, _, rfl, d, _, ⟨day, rfl, days⟩, _, _, ⟨letter, rfl, separates⟩,
      h, _, ⟨hour, rfl, hours⟩, _, _, rfl, i, _, ⟨minute, rfl, minutes⟩,
      _, _, rfl, s, _, ⟨second, rfl, seconds⟩, n, _, fraction,
      offset, _, ⟨zone, rfl, zones⟩, inside, rfl, rfl⟩
    obtain ⟨stops, point⟩ := zones.ends []
    obtain ⟨tail, rfl, fractions⟩ := (fraction_ok_iff stops point).mp fraction
    have small : y ≤ 9999 := by
      have below := Decimal.value_lt year
      rw [years.means, yearWidth] at below
      omega
    have form := StrictForm.mk ⟨years, yearWidth, Nat.zero_le _, small⟩ months days separates
      hours minutes seconds fractions zones (by omega)
    simpa only [List.append_assoc, List.append_nil, List.cons_append] using form
  · intro form
    cases form with
    | @mk year month day hour minute second tail zone letter y m d h i s n offset years months
        days separates hours minutes seconds fractions zones inside =>
        obtain ⟨stops, point⟩ := zones.ends []
        rw [List.append_nil] at stops point
        have fraction : fraction (tail ++ zone) = .ok (n, zone) :=
          (fraction_ok_iff stops point).mpr ⟨tail, rfl, fractions⟩
        refine ⟨y, _, ⟨year, ?_, years.number, years.width⟩, (), _, rfl, m, _,
          ⟨month, rfl, months⟩, (), _, rfl, d, _, ⟨day, rfl, days⟩, (), _,
          ⟨letter, rfl, separates⟩, h, _, ⟨hour, rfl, hours⟩, (), _, rfl, i, _,
          ⟨minute, rfl, minutes⟩, (), _, rfl, s, _, ⟨second, rfl, seconds⟩, n, zone, fraction,
          offset, [], ⟨zone, (List.append_nil zone).symm, zones⟩, by omega, rfl, rfl⟩
        simp only [List.append_assoc, List.cons_append]

end Strict

end Calendar

end ComposeDesk
