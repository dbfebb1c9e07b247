import ComposeDesk.Proofs.Calendar.Days
import ComposeDesk.Proofs.Calendar.Scanned

/-!
# The forms of dates

The texts that are read as dates: years of four digits at most or with a sign, months and
days of one digit or two, and blanks before each of them.  Few of them are plain.
-/

namespace ComposeDesk

namespace Calendar

/-- How a year may be written: with a sign and any number of digits, or without one and at
most four. -/
inductive YearForm : List Char → Int → Prop
  | plain {digits : List Char} {n : Nat} (number : IsNumber digits n)
      (width : 1 ≤ digits.length ∧ digits.length ≤ 4) : YearForm digits n
  | plus {digits : List Char} {n : Nat} (number : IsNumber digits n)
      (width : 1 ≤ digits.length) : YearForm ('+' :: digits) n
  | minus {digits : List Char} {n : Nat} (number : IsNumber digits n)
      (width : 1 ≤ digits.length) : YearForm ('-' :: digits) (-n)

def yearWithin (year : Int) : Scan Int := do
  if year < -2147483648 ∨ 2147483647 < year then throw .outOfRange
  pure year

def signedYear : Scan Int := do
  match ← get with
  | '-' :: rest =>
      set rest
      yearWithin (-(Int.ofNat (← number 1 rest.length.succ)))
  | '+' :: rest =>
      set rest
      yearWithin (Int.ofNat (← number 1 rest.length.succ))
  | _ => yearWithin (Int.ofNat (← number 1 4))

theorem looseYear_eq : looseYear = blanks >>= fun _ => signedYear := by
  unfold looseYear signedYear
  congr 1

theorem yearWithin_ok_iff {cs rest : List Char} {year other : Int} :
    yearWithin year cs = .ok (other, rest) ↔
      (-2147483648 ≤ year ∧ year ≤ 2147483647) ∧ other = year ∧ rest = cs := by
  rw [yearWithin, unless_ok_iff]
  exact and_congr_left' (by omega)

theorem signedYear_minus (later : List Char) :
    signedYear ('-' :: later) =
      (number 1 later.length.succ >>= fun n => yearWithin (-(Int.ofNat n)) : Scan Int) later :=
  rfl

theorem signedYear_plus (later : List Char) :
    signedYear ('+' :: later) =
      (number 1 later.length.succ >>= fun n => yearWithin (Int.ofNat n) : Scan Int) later :=
  rfl

theorem signedYear_plain {cs : List Char} (minus : ∀ later, cs ≠ '-' :: later)
    (plus : ∀ later, cs ≠ '+' :: later) :
    signedYear cs = (number 1 4 >>= fun n => yearWithin (Int.ofNat n) : Scan Int) cs := by
  rw [signedYear, get_bind]
  split
  · exact absurd rfl (minus _)
  · exact absurd rfl (plus _)
  · rfl

/-- A number that is taken as a year. -/
theorem number_year_ok_iff {cs rest : List Char} {most : Nat} {sign : Nat → Int} {year : Int} :
    (number 1 most >>= fun n => yearWithin (sign n) : Scan Int) cs = .ok (year, rest) ↔
      ∃ n, number 1 most cs = .ok (n, rest) ∧ year = sign n ∧
        -2147483648 ≤ year ∧ year ≤ 2147483647 := by
  rw [bind_ok_iff]
  constructor
  · rintro ⟨n, middle, read, bounded⟩
    obtain ⟨inside, rfl, rfl⟩ := yearWithin_ok_iff.mp bounded
    exact ⟨n, read, rfl, inside⟩
  · rintro ⟨n, read, rfl, inside⟩
    exact ⟨n, rest, read, yearWithin_ok_iff.mpr ⟨inside, rfl, rfl⟩⟩

/-- A year begins with no blank. -/
theorem YearForm.solid_first {form : List Char} {year : Int} (written : YearForm form year) :
    ∃ c later, form = c :: later ∧ Text.isBlank c = false := by
  cases written with
  | plain number width =>
      obtain ⟨c, later, rfl⟩ := List.exists_cons_of_length_pos width.1
      exact ⟨c, later, rfl, isBlank_of_isDigit (number.all c List.mem_cons_self)⟩
  | plus _ _ => exact ⟨'+', _, rfl, by decide⟩
  | minus _ _ => exact ⟨'-', _, rfl, by decide⟩

/-- A number that may have as many digits as there are characters. -/
theorem number_all_ok_iff {cs rest : List Char} {n : Nat} (stops : Stops rest) :
    number 1 cs.length.succ cs = .ok (n, rest) ↔ ∃ digits, cs = digits ++ rest ∧
      IsNumber digits n ∧ 1 ≤ digits.length ∧ n ≤ 9223372036854775807 := by
  rw [number_ok_iff]
  constructor
  · rintro ⟨digits, split, number, width, -, small⟩
    exact ⟨digits, split, number, width.1, small⟩
  · rintro ⟨digits, rfl, number, width, small⟩
    refine ⟨digits, rfl, number, ⟨width, ?_⟩, .inr stops, small⟩
    rw [List.length_append]
    omega

theorem YearForm.of_minus {digits : List Char} {year : Int}
    (written : YearForm ('-' :: digits) year) :
    ∃ n : Nat, year = -n ∧ IsNumber digits n ∧ 1 ≤ digits.length := by
  cases written with
  | plain number _ => exact absurd (number.all '-' List.mem_cons_self) (by decide)
  | minus number width => exact ⟨_, rfl, number, width⟩

theorem YearForm.of_plus {digits : List Char} {year : Int}
    (written : YearForm ('+' :: digits) year) :
    ∃ n : Nat, year = n ∧ IsNumber digits n ∧ 1 ≤ digits.length := by
  cases written with
  | plain number _ => exact absurd (number.all '+' List.mem_cons_self) (by decide)
  | plus number width => exact ⟨_, rfl, number, width⟩

/-- After a sign all digits are taken. -/
theorem signed_ok_iff {sign : Char} {value : Nat → Int} {later rest : List Char} {year : Int}
    (stops : Stops rest)
    (written : ∀ digits n, IsNumber digits n → 1 ≤ digits.length →
      YearForm (sign :: digits) (value n))
    (signed : ∀ digits year, YearForm (sign :: digits) year →
      ∃ n, year = value n ∧ IsNumber digits n ∧ 1 ≤ digits.length)
    (small : ∀ n, -2147483648 ≤ value n ∧ value n ≤ 2147483647 → n ≤ 9223372036854775807) :
    (number 1 later.length.succ >>= fun n => yearWithin (value n) : Scan Int) later =
        .ok (year, rest) ↔ ∃ form, sign :: later = form ++ rest ∧ YearForm form year ∧
      -2147483648 ≤ year ∧ year ≤ 2147483647 := by
  rw [number_year_ok_iff]
  constructor
  · rintro ⟨n, read, rfl, inside⟩
    obtain ⟨digits, rfl, number, width, -⟩ := (number_all_ok_iff stops).mp read
    exact ⟨sign :: digits, rfl, written digits n number width, inside⟩
  · rintro ⟨form, split, known, inside⟩
    obtain ⟨first, digits, rfl, -⟩ := known.solid_first
    obtain ⟨rfl, rfl⟩ := List.cons.inj split
    obtain ⟨n, rfl, number, width⟩ := signed digits year known
    exact ⟨n, (number_all_ok_iff stops).mpr ⟨digits, rfl, number, width, small n inside⟩, rfl,
      inside⟩

theorem signedYear_ok_iff {cs rest : List Char} {year : Int} (stops : Stops rest) :
    signedYear cs = .ok (year, rest) ↔ ∃ form, cs = form ++ rest ∧ YearForm form year ∧
      -2147483648 ≤ year ∧ year ≤ 2147483647 := by
  by_cases minus : ∃ later, cs = '-' :: later
  · obtain ⟨later, rfl⟩ := minus
    rw [signedYear_minus]
    exact signed_ok_iff stops (fun _ _ => .minus) (fun _ _ => YearForm.of_minus)
      fun n inside => by rw [Int.ofNat_eq_natCast] at inside; omega
  by_cases plus : ∃ later, cs = '+' :: later
  · obtain ⟨later, rfl⟩ := plus
    rw [signedYear_plus]
    exact signed_ok_iff stops (fun _ _ => .plus) (fun _ _ => YearForm.of_plus)
      fun n inside => by rw [Int.ofNat_eq_natCast] at inside; omega
  · rw [signedYear_plain (fun later starts => minus ⟨later, starts⟩)
      (fun later starts => plus ⟨later, starts⟩), number_year_ok_iff]
    constructor
    · rintro ⟨n, read, rfl, inside⟩
      obtain ⟨digits, split, number, width, -, -⟩ := number_ok_iff.mp read
      exact ⟨digits, split, .plain number width, inside⟩
    · rintro ⟨form, split, written, inside⟩
      cases written with
      | @plain _ n number width =>
          exact ⟨n, number_ok_iff.mpr ⟨form, split, number, width, .inr stops, by omega⟩, rfl,
            inside⟩
      | plus _ _ => exact absurd ⟨_, split⟩ plus
      | minus _ _ => exact absurd ⟨_, split⟩ minus

/-- A year with blanks in front of it. -/
theorem looseYear_ok_iff {cs rest : List Char} {year : Int} (stops : Stops rest) :
    looseYear cs = .ok (year, rest) ↔ ∃ before form, cs = before ++ form ++ rest ∧
      (∀ c ∈ before, Text.isBlank c = true) ∧ YearForm form year ∧
      -2147483648 ≤ year ∧ year ≤ 2147483647 := by
  rw [looseYear_eq, bind_ok_iff]
  constructor
  · rintro ⟨_, middle, skipped, read⟩
    obtain ⟨before, rfl, all, -⟩ := blanks_ok_iff.mp skipped
    obtain ⟨form, rfl, written, inside⟩ := (signedYear_ok_iff stops).mp read
    exact ⟨before, form, (List.append_assoc _ _ _).symm, all, written, inside⟩
  · rintro ⟨before, form, rfl, all, written, inside⟩
    obtain ⟨c, later, starts, solid⟩ := written.solid_first
    rw [List.append_assoc]
    refine ⟨(), form ++ rest, ?_, (signedYear_ok_iff stops).mpr ⟨form, rfl, written, inside⟩⟩
    rw [starts]
    exact blanks_append all solid

/-- How a plain date may be written: a year, and a month and a day of one or two digits, with
blanks in front of each. -/
inductive DateForm : List Char → Date → Prop
  | mk {before year between month last day : List Char} {y : Int} {m d : Nat} {date : Date}
      (blanksBefore : ∀ c ∈ before, Text.isBlank c = true) (years : YearForm year y)
      (blanksBetween : ∀ c ∈ between, Text.isBlank c = true) (months : IsNumber month m)
      (monthWidth : 1 ≤ month.length ∧ month.length ≤ 2)
      (blanksLast : ∀ c ∈ last, Text.isBlank c = true) (days : IsNumber day d)
      (dayWidth : 1 ≤ day.length ∧ day.length ≤ 2) (proper : Date.of? y m d = some date) :
      DateForm (before ++ year ++ '-' :: (between ++ month) ++ '-' :: (last ++ day)) date

theorem dateParts_ok_iff {cs : List Char} {y : Int} {m d : Nat} :
    dateParts cs = .ok ((y, m, d), []) ↔ ∃ yearRest monthRest,
      looseYear cs = .ok (y, '-' :: yearRest) ∧
      looseDigits 1 12 yearRest = .ok (m, '-' :: monthRest) ∧
      looseDigits 1 31 monthRest = .ok (d, []) := by
  simp only [dateParts, bind_ok_iff, char_ok_iff, pure_ok_iff, Prod.mk.injEq]
  constructor
  · rintro ⟨_, _, years, _, yearRest, rfl, _, _, months, _, monthRest, rfl, _, _, days,
      ⟨rfl, rfl, rfl⟩, rfl⟩
    exact ⟨yearRest, monthRest, years, months, days⟩
  · rintro ⟨yearRest, monthRest, years, months, days⟩
    exact ⟨y, _, years, (), yearRest, rfl, m, _, months, (), monthRest, rfl, d, _, days,
      ⟨rfl, rfl, rfl⟩, rfl⟩

theorem date?_eq_some_iff {text : String} {date : Date} :
    date? text = some date ↔ DateForm text.toList date := by
  have dash (later : List Char) : Stops ('-' :: later) := stops_cons.mpr (by decide)
  constructor
  · intro read
    unfold date? at read
    split at read
    · next y m d parts =>
        obtain ⟨yearRest, monthRest, years, months, days⟩ := dateParts_ok_iff.mp parts
        obtain ⟨before, year, whole, blanksBefore, written, -⟩ :=
          (looseYear_ok_iff (dash _)).mp years
        obtain ⟨between, month, rfl, blanksBetween, monthNumber, monthWidth, -⟩ :=
          (looseDigits_ok_iff (dash _)).mp months
        obtain ⟨last, day, rfl, blanksLast, dayNumber, dayWidth, -⟩ :=
          (looseDigits_ok_iff stops_nil).mp days
        have form := DateForm.mk blanksBefore written blanksBetween monthNumber monthWidth
          blanksLast dayNumber dayWidth read
        rw [whole]
        simpa only [List.append_assoc, List.append_nil, List.cons_append] using form
    · cases read
  · intro form
    generalize same : text.toList = cs at form
    cases form with
    | @mk before year between month last day y m d _ blanksBefore written blanksBetween
        monthNumber monthWidth blanksLast dayNumber dayWidth proper =>
        obtain ⟨rfl, earliest, latest, inYear, inMonth⟩ := Date.of?_eq_some_iff.mp proper
        unfold Date.minYear at earliest
        unfold Date.maxYear at latest
        dsimp only at inYear inMonth
        have longest := Date.monthLength_le y m
        have parts : dateParts text.toList = .ok ((y, m, d), []) := by
          rw [dateParts_ok_iff]
          refine ⟨between ++ month ++ '-' :: (last ++ day), last ++ day, ?_, ?_, ?_⟩
          · refine (looseYear_ok_iff (dash _)).mpr
              ⟨before, year, ?_, blanksBefore, written, by omega, by omega⟩
            rw [same]
            simp only [List.append_assoc, List.cons_append]
          · exact (looseDigits_ok_iff (dash _)).mpr
              ⟨between, month, rfl, blanksBetween, monthNumber, monthWidth, inYear⟩
          · exact (looseDigits_ok_iff stops_nil).mpr ⟨last, day, (List.append_nil _).symm,
              blanksLast, dayNumber, dayWidth, inMonth.1, inMonth.2.trans longest⟩
        simp only [date?, parts]
        exact proper

/-- A date of four digits, two and two. -/
inductive PlainForm : List Char → Date → Prop
  | mk {year month day : List Char} {y m d : Nat} (years : Fixed 4 0 9999 year y)
      (months : Fixed 2 1 12 month m) (days : Fixed 2 1 31 day d)
      (proper : (⟨y, m, d⟩ : Date).Proper) :
      PlainForm (year ++ '-' :: month ++ '-' :: day) ⟨y, m, d⟩

section Plain

variable {cs : List Char} {date : Date}

theorem PlainForm.length (plain : PlainForm cs date) : cs.length = 10 := by
  cases plain with
  | mk years months days _ =>
      simp only [List.length_append, List.length_cons, years.width, months.width, days.width]

theorem PlainForm.digit_or_dash (plain : PlainForm cs date) {c : Char} (member : c ∈ cs) :
    Decimal.isDigit c = true ∨ c = '-' := by
  cases plain with
  | mk years months days _ =>
      simp only [List.mem_append, List.mem_cons] at member
      rcases member with (digit | dash | digit) | dash | digit
      · exact .inl (years.number.all c digit)
      · exact .inr dash
      · exact .inl (months.number.all c digit)
      · exact .inr dash
      · exact .inl (days.number.all c digit)

theorem PlainForm.digit_first (plain : PlainForm cs date) :
    ∃ c later, cs = c :: later ∧ Decimal.isDigit c = true := by
  cases plain with
  | @mk year _ _ _ _ _ years _ _ _ =>
      obtain ⟨c, later, rfl⟩ := List.exists_cons_of_length_pos (years.length_pos (by decide))
      exact ⟨c, _, rfl, years.number.all c List.mem_cons_self⟩

theorem PlainForm.year_inside (plain : PlainForm cs date) :
    0 ≤ date.year ∧ date.year ≤ 9999 := by
  cases plain with
  | mk years _ _ _ =>
      have inside := years.inside
      dsimp only
      omega

theorem PlainForm.dateForm (plain : PlainForm cs date) : DateForm cs date := by
  cases plain with
  | @mk year month day y m d years months days proper =>
      have inside := years.inside
      have found : Date.of? (y : Int) m d = some ⟨y, m, d⟩ := by
        rw [Date.of?_eq_some_iff, Date.minYear, Date.maxYear]
        exact ⟨rfl, by omega, by omega, proper⟩
      have yearWidth : 1 ≤ year.length ∧ year.length ≤ 4 := by
        rw [years.width]
        decide
      have width {least most n : Nat} {digits : List Char} (fixed : Fixed 2 least most digits n) :
          1 ≤ digits.length ∧ digits.length ≤ 2 := by
        rw [fixed.width]
        decide
      have none : ∀ c ∈ ([] : List Char), Text.isBlank c = true := nofun
      exact .mk none (.plain years.number yearWidth) none months.number (width months) none
        days.number (width days) found

/-- A date is written plainly exactly if it takes ten characters, with no sign in front and no
blank. -/
theorem DateForm.plain_iff (form : DateForm cs date) :
    PlainForm cs date ↔ cs.length = 10 ∧ (∀ c ∈ cs, Text.isBlank c = false) ∧
      cs.head? ≠ some '+' ∧ cs.head? ≠ some '-' := by
  constructor
  · intro plain
    obtain ⟨first, later, starts, digit⟩ := plain.digit_first
    refine ⟨plain.length, fun c member => ?_, ?_, ?_⟩
    · rcases plain.digit_or_dash member with digit | rfl
      · exact isBlank_of_isDigit digit
      · decide
    · rw [starts, List.head?_cons]
      rintro ⟨⟩
      exact absurd digit (by decide)
    · rw [starts, List.head?_cons]
      rintro ⟨⟩
      exact absurd digit (by decide)
  · rintro ⟨length, solid, plus, minus⟩
    have none {blanks : List Char} (all : ∀ c ∈ blanks, Text.isBlank c = true)
        (inside : ∀ c ∈ blanks, c ∈ cs) : blanks = [] := by
      refine List.eq_nil_iff_forall_not_mem.mpr fun c member => ?_
      exact Bool.false_ne_true ((solid c (inside c member)).symm.trans (all c member))
    cases form with
    | @mk before year between month last day y m d _ blanksBefore written blanksBetween months
        monthWidth blanksLast days dayWidth found =>
        obtain rfl := none blanksBefore (by simp +contextual)
        obtain rfl := none blanksBetween (by simp +contextual)
        obtain rfl := none blanksLast (by simp +contextual)
        cases written with
        | plus _ _ => exact absurd rfl plus
        | minus _ _ => exact absurd rfl minus
        | @plain _ n number yearWidth =>
            obtain ⟨rfl, -, -, inYear, inMonth⟩ := Date.of?_eq_some_iff.mp found
            have proper : (⟨n, m, d⟩ : Date).Proper := ⟨inYear, inMonth⟩
            have longest := Date.monthLength_le n m
            simp only [List.nil_append, List.length_append, List.length_cons] at length
            obtain ⟨four, two, too⟩ : year.length = 4 ∧ month.length = 2 ∧ day.length = 2 := by
              omega
            have small := Decimal.value_lt year
            rw [number.means, four] at small
            exact .mk ⟨number, four, Nat.zero_le _, by omega⟩ ⟨months, two, inYear⟩
              ⟨days, too, inMonth.1, inMonth.2.trans longest⟩ proper

end Plain

end Calendar

end ComposeDesk
