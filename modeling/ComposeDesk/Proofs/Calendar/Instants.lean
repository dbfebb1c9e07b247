import ComposeDesk.Proofs.Calendar.DateForms
import ComposeDesk.Proofs.Calendar.InstantForms

/-!
# Instants and their texts

The instant that is read in the strict form, and the text of an instant to the second, which
is read back where its year has four digits.
-/

namespace ComposeDesk

namespace Calendar

def Parts.date (parts : Parts) : Date :=
  ⟨parts.year, parts.month, parts.day⟩

/-- The instant of its parts: the seconds of the days before, and of the time of day less the
offset.  Second 60 goes on from second 59. -/
def Parts.instant (parts : Parts) : Timestamp :=
  ⟨parts.date.toDays * 86400 +
      (parts.hour * 3600 + parts.minute * 60 + min parts.second 59 : Nat) - parts.offset,
    if parts.second = 60 then 1000000000 + parts.nanos else parts.nanos⟩

section Strict

variable {cs : List Char} {parts : Parts} {time : Timestamp}

theorem FractionForm.lt {form : List Char} {n : Nat} (written : FractionForm form n) :
    n < 1000000000 := by
  cases written with
  | none => decide
  | @some counted _ n number width _ _ =>
      have small : n < 10 ^ counted.length := by
        rw [← number.means]
        exact Decimal.value_lt counted
      calc n * 10 ^ (9 - counted.length)
          < 10 ^ counted.length * 10 ^ (9 - counted.length) :=
            Nat.mul_lt_mul_of_pos_right small (Nat.pow_pos (by decide))
        _ = 10 ^ 9 := by rw [← Nat.pow_add, Nat.add_sub_cancel' width.2]

/-- An offset is whole minutes. -/
theorem ZoneForm.minutes {form : List Char} {n : Int} (written : ZoneForm form n) :
    n % 60 = 0 := by
  cases written with
  | utc _ => rfl
  | ahead _ _ => omega
  | behind _ _ _ => omega

/-- Parts in the strict form are an instant if they name a proper date. -/
theorem StrictForm.toTimestamp_ok_iff (form : StrictForm cs parts) :
    parts.toTimestamp = .ok time ↔ parts.date.Proper ∧ time = parts.instant := by
  cases form with
  | @mk year month day hour minute second tail zone letter y m d h i s n offset years months
      days separates hours minutes seconds fractions zones inside =>
      have least := years.inside
      have dated : Date.of? y m d = some ⟨y, m, d⟩ ↔ (⟨y, m, d⟩ : Date).Proper := by
        rw [Date.of?_eq_some_iff, Date.minYear, Date.maxYear]
        exact ⟨fun found => found.2.2.2, fun proper => ⟨rfl, by omega, by omega, proper⟩⟩
      by_cases proper : (⟨y, m, d⟩ : Date).Proper
      · have bounds := Date.toDays_bounds proper (by dsimp only; omega)
        have range : (Parts.instant ⟨y, m, d, h, i, s, n, offset⟩).inRange = true := by
          have hour := hours.inside
          have minute := minutes.inside
          rw [Timestamp.inRange_iff]
          simp only [Parts.instant, Parts.date]
          omega
        have made : Parts.toTimestamp ⟨y, m, d, h, i, s, n, offset⟩ =
            .ok (Parts.instant ⟨y, m, d, h, i, s, n, offset⟩) := by
          have bounded := seconds.inside
          have second : (if s = 60 then 59 else s) = min s 59 := by
            split_ifs <;> omega
          have whole : Timestamp.daySeconds = 86400 := rfl
          simp only [Parts.toTimestamp, dated.mpr proper, second, whole]
          rw [if_neg (by omega)]
          exact if_pos range
        rw [made]
        constructor
        · rintro ⟨⟩
          exact ⟨proper, rfl⟩
        · rintro ⟨-, rfl⟩
          rfl
      · refine iff_of_false (fun made => ?_) fun came => proper came.1
        have none : Date.of? y m d = none := by
          cases found : Date.of? y m d with
          | none => rfl
          | some date =>
              obtain ⟨rfl, -, -, has⟩ := Date.of?_eq_some_iff.mp found
              exact absurd has proper
        simp only [Parts.toTimestamp, none] at made
        cases made

theorem strict_ok_iff {text : String} :
    strict text = .ok time ↔
      ∃ parts, StrictForm text.toList parts ∧ parts.date.Proper ∧ time = parts.instant := by
  unfold strict
  constructor
  · intro read
    split at read
    · cases read
    · next parts taken =>
        have form := strictParts_ok_iff.mp taken
        exact ⟨parts, form, form.toTimestamp_ok_iff.mp read⟩
    · cases read
  · rintro ⟨parts, form, meant⟩
    rw [strictParts_ok_iff.mpr form]
    exact form.toTimestamp_ok_iff.mpr meant

/-- Only second 60 goes on beyond a second, and it does so from second 59. -/
theorem StrictForm.leap (form : StrictForm cs parts) :
    1000000000 ≤ parts.instant.nanos → parts.instant.seconds % 60 = 59 := by
  cases form with
  | mk _ _ _ _ _ _ _ fraction zones _ =>
      have small := fraction.lt
      have whole := zones.minutes
      simp only [Parts.instant]
      split_ifs with last
      · omega
      · omega

end Strict

def wholeSecond (time : Timestamp) : Timestamp :=
  ⟨time.seconds, if 1000000000 ≤ time.nanos then 1000000000 else 0⟩

def day (time : Timestamp) : Date :=
  Date.ofDays (time.seconds / 86400)

theorem day_proper (time : Timestamp) : (day time).Proper :=
  Date.ofDays_proper _

section Written

variable {time : Timestamp}

theorem isNumber_padded (width n : Nat) : IsNumber (Decimal.padded width n) n :=
  ⟨fun _ member => Decimal.isDigit_padded member, Decimal.value_padded width n⟩

theorem field_two {least most n : Nat} (inside : least ≤ n ∧ n ≤ most) (fits : n < 100) :
    Fixed 2 least most (Timestamp.two n) n :=
  ⟨isNumber_padded 2 n, Decimal.length_padded (by decide) fits, inside⟩

/-- The seconds that are written: those of the minute, and one more in a leap second. -/
def writtenSecond (time : Timestamp) : Nat :=
  (time.seconds % 86400).toNat % 60 + if 1000000000 ≤ time.nanos then 1 else 0

def writtenParts (time : Timestamp) : Parts :=
  ⟨(day time).year, (day time).month, (day time).day, (time.seconds % 86400).toNat / 3600,
    (time.seconds % 86400).toNat / 60 % 60, writtenSecond time, 0, 0⟩

/-- The parts that are written mean the instant, to the second. -/
theorem instant_writtenParts (leap : 1000000000 ≤ time.nanos → time.seconds % 60 = 59) :
    (writtenParts time).instant = wholeSecond time := by
  have number : (day time).toDays = time.seconds / 86400 := Date.toDays_ofDays _
  simp only [Parts.instant, Parts.date, writtenParts, wholeSecond, writtenSecond, number,
    Timestamp.mk.injEq]
  by_cases late : 1000000000 ≤ time.nanos
  · have last := leap late
    simp only [if_pos late]
    exact ⟨by omega, if_pos (by omega)⟩
  · simp only [if_neg late]
    exact ⟨by omega, if_neg (by omega)⟩

/-- The text of an instant, for a year of four digits, has the strict form. -/
theorem dateTimeText_strict (years : 0 ≤ (day time).year ∧ (day time).year ≤ 9999) :
    StrictForm (time.dateTimeText ++ ['Z']) (writtenParts time) := by
  obtain ⟨year, known⟩ := Int.eq_ofNat_of_zero_le years.1
  obtain ⟨months, days⟩ := day_proper time
  have longest := Date.monthLength_le (day time).year (day time).month
  have yearText : Timestamp.yearText (day time).year = Decimal.padded 4 year := by
    rw [Timestamp.yearText, if_pos years, known]
    rfl
  have yearField : Fixed 4 0 9999 (Timestamp.yearText (day time).year) year := by
    have small : year < 10 ^ 4 := by omega
    rw [yearText]
    exact ⟨isNumber_padded 4 year, Decimal.length_padded (by decide) small, Nat.zero_le _,
      by omega⟩
  have month := field_two months (by omega)
  have date := field_two ⟨days.1, days.2.trans longest⟩ (by omega)
  have hours : (time.seconds % 86400).toNat / 3600 ≤ 23 := by omega
  have hour := field_two ⟨Nat.zero_le _, hours⟩ (by omega)
  have minutes : (time.seconds % 86400).toNat / 60 % 60 ≤ 59 := by omega
  have minute := field_two ⟨Nat.zero_le _, minutes⟩ (by omega)
  have seconds : writtenSecond time ≤ 60 := by
    unfold writtenSecond
    split_ifs <;> omega
  have second := field_two ⟨Nat.zero_le _, seconds⟩ (by omega)
  have form := StrictForm.mk yearField month date (.inr (.inl rfl)) hour minute second .none
    (.utc (.inl rfl)) (by decide)
  rw [List.append_nil] at form
  have parts : writtenParts time = ⟨(year : Int), (day time).month, (day time).day,
      (time.seconds % 86400).toNat / 3600, (time.seconds % 86400).toNat / 60 % 60,
      writtenSecond time, 0, 0⟩ := by
    rw [writtenParts, known]
  rw [parts]
  exact form

/-- An instant whose year has four digits is read back from its text, to the second. -/
theorem strict_toSecondText (years : 0 ≤ (day time).year ∧ (day time).year ≤ 9999)
    (leap : 1000000000 ≤ time.nanos → time.seconds % 60 = 59) :
    strict time.toSecondText = .ok (wholeSecond time) := by
  refine strict_ok_iff.mpr ⟨writtenParts time, ?_, day_proper time, ?_⟩
  · rw [Timestamp.toSecondText, String.toList_ofList]
    exact dateTimeText_strict years
  · exact (instant_writtenParts leap).symm

/-- The strict form begins with a digit. -/
theorem StrictForm.digit_first {cs : List Char} {parts : Parts} (form : StrictForm cs parts) :
    ∃ c later, cs = c :: later ∧ Decimal.isDigit c = true := by
  cases form with
  | @mk year _ _ _ _ _ _ _ _ _ _ _ _ _ _ _ _ years _ _ _ _ _ _ _ _ _ =>
      obtain ⟨c, later, rfl⟩ :=
        List.exists_cons_of_length_pos (Nat.lt_of_lt_of_eq (Nat.zero_lt_succ 3) years.width.symm)
      exact ⟨c, _, rfl, years.number.all c List.mem_cons_self⟩

/-- The strict form has a colon. -/
theorem StrictForm.colon {cs : List Char} {parts : Parts} (form : StrictForm cs parts) :
    ':' ∈ cs := by
  cases form
  simp

/-- The characters of a plain date. -/
theorem DateForm.chars {cs : List Char} {date : Date} (form : DateForm cs date) {c : Char}
    (member : c ∈ cs) :
    Text.isBlank c = true ∨ Decimal.isDigit c = true ∨ c = '+' ∨ c = '-' := by
  have year {form : List Char} {y : Int} (written : YearForm form y) (member : c ∈ form) :
      Decimal.isDigit c = true ∨ c = '+' ∨ c = '-' := by
    cases written with
    | plain number _ => exact .inl (number.all c member)
    | plus number _ =>
        rcases List.mem_cons.mp member with sign | digit
        · exact .inr (.inl sign)
        · exact .inl (number.all c digit)
    | minus number _ =>
        rcases List.mem_cons.mp member with sign | digit
        · exact .inr (.inr sign)
        · exact .inl (number.all c digit)
  cases form with
  | mk before written between months _ last days _ _ =>
      simp only [List.mem_append, List.mem_cons] at member
      rcases member with ((blank | inYear) | dash | blank | digit) | dash | blank | digit
      · exact .inl (before c blank)
      · exact .inr (year written inYear)
      · exact .inr (.inr (.inr dash))
      · exact .inl (between c blank)
      · exact .inr (.inl (months.all c digit))
      · exact .inr (.inr (.inr dash))
      · exact .inl (last c blank)
      · exact .inr (.inl (days.all c digit))

/-- A text is not both. -/
theorem StrictForm.not_dateForm {cs : List Char} {parts : Parts} (form : StrictForm cs parts)
    (date : Date) : ¬ DateForm cs date := by
  intro dated
  exact absurd (dated.chars form.colon) (by decide)

/-- The text of an instant is no plain date. -/
theorem dateTimeText_not_dateForm (time : Timestamp) (date : Date) :
    ¬ DateForm (time.dateTimeText ++ ['Z']) date := by
  intro dated
  have letter : 'Z' ∈ time.dateTimeText ++ ['Z'] := by simp
  exact absurd (dated.chars letter) (by decide)

theorem dateTimeText_starts (time : Timestamp) :
    ∃ later, time.dateTimeText = Timestamp.yearText (day time).year ++ later := by
  simp only [Timestamp.dateTimeText, List.append_assoc]
  exact ⟨_, rfl⟩

/-- The text of an instant begins with a sign where its year has not four digits. -/
theorem dateTimeText_signed (years : ¬(0 ≤ (day time).year ∧ (day time).year ≤ 9999)) :
    ∃ c later, time.dateTimeText = c :: later ∧ Decimal.isDigit c = false := by
  obtain ⟨later, starts⟩ := dateTimeText_starts time
  rw [Timestamp.yearText, if_neg years, List.cons_append] at starts
  refine ⟨_, _, starts, ?_⟩
  split_ifs <;> decide

end Written

end Calendar

end ComposeDesk
