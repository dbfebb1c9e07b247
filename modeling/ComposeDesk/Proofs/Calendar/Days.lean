import ComposeDesk.Calendar.Timestamp
import Mathlib.Tactic.IntervalCases
import Mathlib.Tactic.SplitIfs

/-!
# The numbering of days

Years that begin in March have their leap day at the end, so the length of the months before a
day does not depend on the year.  Counted that way, each day has one date and each date one
day.
-/

namespace ComposeDesk

namespace Date

/-- A date that the calendar has, in any year. -/
structure Proper (date : Date) : Prop where
  month : 1 ≤ date.month ∧ date.month ≤ 12
  day : 1 ≤ date.day ∧ date.day ≤ monthLength date.year date.month

theorem of?_eq_some_iff {year : Int} {month day : Nat} {date : Date} :
    of? year month day = some date ↔
      date = ⟨year, month, day⟩ ∧ minYear ≤ year ∧ year ≤ maxYear ∧ date.Proper := by
  unfold of?
  split_ifs with inside
  · obtain ⟨first, last, month, months, day, days⟩ := inside
    constructor
    · rintro ⟨⟩
      exact ⟨rfl, first, last, ⟨month, months⟩, day, days⟩
    · rintro ⟨rfl, -⟩
      rfl
  · refine iff_of_false nofun ?_
    rintro ⟨rfl, first, last, proper⟩
    exact inside ⟨first, last, proper.month.1, proper.month.2, proper.day.1, proper.day.2⟩

theorem monthLength_le (year : Int) (month : Nat) : monthLength year month ≤ 31 := by
  unfold monthLength
  split_ifs <;> decide

/-- The number of days from the first of March of the year 0 to that of another one. -/
def march (year : Int) : Int :=
  365 * year + year / 4 - year / 100 + year / 400

theorem march_succ (year : Int) :
    march (year + 1) = march year + (if isLeap (year + 1) then 366 else 365) := by
  unfold march isLeap
  by_cases leap : (year + 1) % 4 = 0 ∧ ((year + 1) % 100 ≠ 0 ∨ (year + 1) % 400 = 0)
  · rw [if_pos (by simpa using leap)]
    omega
  · rw [if_neg (by simpa using leap)]
    omega

theorem march_lt {year other : Int} (less : year < other) : march year + 365 ≤ march other := by
  unfold march
  omega

theorem march_le (year other : Int) (least : year ≤ other) : march year ≤ march other := by
  unfold march
  omega

/-- Where each part begins no later than the next, what falls into one part falls into no
other. -/
theorem part_unique {start : Int → Int}
    (mono : ∀ part later, part ≤ later → start part ≤ start later) {part other day : Int}
    (begins : start part ≤ day) (ends : day < start (part + 1)) (starts : start other ≤ day)
    (stops : day < start (other + 1)) : part = other := by
  rcases Int.lt_trichotomy part other with less | same | more
  · have later := mono _ _ (Int.lt_iff_add_one_le.mp less)
    omega
  · exact same
  · have later := mono _ _ (Int.lt_iff_add_one_le.mp more)
    omega

/-- Within 400 years, the centuries before a year and the leap years of its century count. -/
theorem march_split {century four one : Int} (centuries : 0 ≤ century ∧ century ≤ 3)
    (fours : 0 ≤ four ∧ four ≤ 24) (ones : 0 ≤ one ∧ one ≤ 3) :
    march (100 * century + 4 * four + one) = 36524 * century + 1461 * four + 365 * one := by
  have leaps : (100 * century + 4 * four + one) / 4 = 25 * century + four := by omega
  have ends : (100 * century + 4 * four + one) / 100 = century := by omega
  have era : (100 * century + 4 * four + one) / 400 = 0 := by omega
  rw [march, leaps, ends, era]
  omega

theorem march_split_succ (century : Int) {four : Int} (fours : 0 ≤ four ∧ four ≤ 23) :
    march (100 * century + 4 * four + 3 + 1) = march (100 * century + 4 * four + 3) + 366 := by
  have divides : (100 * century + 4 * four + 3 + 1) % 4 = 0 := by omega
  have inside : (100 * century + 4 * four + 3 + 1) % 100 ≠ 0 := by omega
  rw [march_succ, if_pos]
  rw [isLeap, decide_eq_true divides, decide_eq_true inside, Bool.true_or, Bool.and_self]

/-- The year of a day of 400 years, as the calendar computes it. -/
def yearOfEra (day : Int) : Int :=
  (day - day / 1460 + day / 36524 - day / 146096) / 365

theorem yearOfEra_split {century four one rest : Int} (centuries : 0 ≤ century ∧ century ≤ 3)
    (fours : 0 ≤ four ∧ four ≤ 24) (short : 1461 * four + rest < 36524)
    (rests : 0 ≤ rest ∧ rest ≤ 1460) (ones : one = min (rest / 365) 3) :
    yearOfEra (36524 * century + (1461 * four + rest)) = 100 * century + 4 * four + one := by
  have leaps : (36524 * century + (1461 * four + rest)) / 1460 =
      25 * century + four + (24 * century + four + rest) / 1460 := by omega
  have ends : (36524 * century + (1461 * four + rest)) / 36524 = century := by omega
  have era : (36524 * century + (1461 * four + rest)) / 146096 = 0 := by omega
  rw [yearOfEra, leaps, ends, era]
  omega

/-- A day of 400 years falls into the year that is computed for it. -/
theorem yearOfEra_exact {day : Int} (least : 0 ≤ day) (most : day ≤ 146096) :
    (0 ≤ yearOfEra day ∧ yearOfEra day ≤ 399) ∧
      march (yearOfEra day) ≤ day ∧ day < march (yearOfEra day + 1) := by
  rcases Int.lt_or_eq_of_le most with inside | rfl
  · -- the century, the four years in it, the year in these and the day of the four years
    obtain ⟨century, left, rfl, centuries, lefts⟩ : ∃ century left : Int,
        day = 36524 * century + left ∧ (0 ≤ century ∧ century ≤ 3) ∧ 0 ≤ left ∧ left < 36524 :=
      ⟨day / 36524, day % 36524, by omega, by omega, by omega⟩
    obtain ⟨four, rest, rfl, fours, rests⟩ : ∃ four rest : Int,
        left = 1461 * four + rest ∧ (0 ≤ four ∧ four ≤ 24) ∧ 0 ≤ rest ∧ rest ≤ 1460 :=
      ⟨left / 1461, left % 1461, by omega, by omega, by omega⟩
    obtain ⟨one, is, ones⟩ : ∃ one : Int, one = min (rest / 365) 3 ∧ 0 ≤ one ∧ one ≤ 3 :=
      ⟨_, rfl, by omega⟩
    rw [yearOfEra_split centuries fours lefts.2 rests is]
    have begins := march_split centuries fours ones
    have next := march_lt (Int.lt_succ (100 * century + 4 * four + one))
    refine ⟨by omega, by omega, ?_⟩
    by_cases last : rest = 1460
    · -- the leap day
      obtain rfl : one = 3 := by omega
      have leap := march_split_succ century (⟨fours.1, by omega⟩ : 0 ≤ four ∧ four ≤ 23)
      omega
    · omega
  · decide

/-! ## Days and dates -/

/-- The date of a day of a month of a year from March, all counted from 0. -/
def ofMarch (year month day : Int) : Date :=
  ⟨if month < 10 then year else year + 1,
    (if month < 10 then month + 3 else month - 9).toNat, (day + 1).toNat⟩

/-- The number of days before a month of a year from March. -/
def monthStart (month : Int) : Int :=
  (153 * month + 2) / 5

/-- A month is as long as there are days until the next one begins. -/
theorem monthLength_ofMarch (year day : Int) {month : Int} (months : 0 ≤ month ∧ month ≤ 10) :
    (monthLength (ofMarch year month day).year (ofMarch year month day).month : Int) =
      monthStart (month + 1) - monthStart month := by
  obtain ⟨first, last⟩ := months
  interval_cases month <;> rfl

/-- The last month is as long as there are days left of the year. -/
theorem monthLength_february (year day : Int) :
    (monthLength (ofMarch year 11 day).year (ofMarch year 11 day).month : Int) =
      march (year + 1) - march year - monthStart 11 := by
  have length : monthLength (ofMarch year 11 day).year (ofMarch year 11 day).month =
      if isLeap (year + 1) then 29 else 28 := rfl
  have start : monthStart 11 = 337 := rfl
  rw [length, march_succ, start]
  split_ifs <;> omega

/-- A day of a month is one before the next month, and before the next year. -/
theorem day_lt_iff {year month day : Int} (months : 0 ≤ month ∧ month ≤ 11) :
    day < monthLength (ofMarch year month day).year (ofMarch year month day).month ↔
      monthStart month + day < monthStart (month + 1) ∧
        march year + monthStart month + day < march (year + 1) := by
  have next := march_lt (Int.lt_succ year)
  rcases Int.lt_or_eq_of_le months.2 with early | rfl
  · have most : monthStart (month + 1) ≤ 337 := by
      unfold monthStart
      omega
    rw [monthLength_ofMarch year day ⟨months.1, by omega⟩]
    omega
  · have length := monthLength_february year day
    have short :
        (monthLength (ofMarch year 11 day).year (ofMarch year 11 day).month : Int) ≤ 29 := by
      rw [length, march_succ, monthStart]
      split_ifs <;> omega
    have start : monthStart 11 = 337 := rfl
    have ends : monthStart (11 + 1) = 367 := rfl
    omega

/-- A day, counted from 0 in a month of a year from March, that the calendar has. -/
structure Within (year month day : Int) : Prop where
  months : 0 ≤ month ∧ month ≤ 11
  least : 0 ≤ day
  most : day < monthLength (ofMarch year month day).year (ofMarch year month day).month

/-- Every proper date is a day of a month of a year from March. -/
theorem Proper.exists_within {date : Date} (proper : date.Proper) :
    ∃ year month day, date = ofMarch year month day ∧ Within year month day := by
  obtain ⟨year, month, day⟩ := date
  obtain ⟨⟨first, last⟩, least, most⟩ := proper
  dsimp only at first last least most
  have same : (⟨year, month, day⟩ : Date) =
      ofMarch (if month ≤ 2 then year - 1 else year)
        (if month ≤ 2 then (month : Int) + 9 else (month : Int) - 3) ((day : Int) - 1) := by
    simp only [ofMarch, Date.mk.injEq]
    split_ifs <;> omega
  refine ⟨_, _, _, same, ?_, by omega, ?_⟩
  · split_ifs <;> omega
  · rw [← same]
    dsimp only
    omega

theorem Within.proper {year month day : Int} (within : Within year month day) :
    (ofMarch year month day).Proper := by
  obtain ⟨months, least, most⟩ := within
  constructor
  · simp only [ofMarch]
    split_ifs <;> omega
  · have shown : (ofMarch year month day).day = (day + 1).toNat := rfl
    omega

/-- The number of a day is that of the days before its year, before its month and before it. -/
theorem toDays_ofMarch {year month day : Int} (within : Within year month day) :
    (ofMarch year month day).toDays = march year + monthStart month + day - 719468 := by
  obtain ⟨months, least, -⟩ := within
  simp only [toDays, ofMarch, march, monthStart]
  by_cases early : month < 10
  · simp only [if_pos early]
    rw [if_neg (by omega), if_neg (by omega)]
    omega
  · simp only [if_neg early]
    rw [if_pos (by omega), if_pos (by omega)]
    omega

/-- Every 400 years are as long as the others. -/
theorem march_era (year era : Int) : march (year + era * 400) = era * 146097 + march year := by
  unfold march
  omega

/-- The date that is computed for a day is a proper one, of that day. -/
theorem ofDays_eq (days : Int) : ∃ year month day, ofDays days = ofMarch year month day ∧
    Within year month day ∧ march year + monthStart month + day - 719468 = days := by
  obtain ⟨era, eras⟩ : ∃ era, era = (days + 719468) / 146097 := ⟨_, rfl⟩
  obtain ⟨dayOfEra, rest⟩ : ∃ dayOfEra, dayOfEra = days + 719468 - era * 146097 := ⟨_, rfl⟩
  have least : 0 ≤ dayOfEra := by omega
  obtain ⟨years, begins, ends⟩ := yearOfEra_exact least (by omega)
  obtain ⟨year, known⟩ : ∃ year, year = yearOfEra dayOfEra := ⟨_, rfl⟩
  rw [← known] at years begins ends
  obtain ⟨dayOfYear, left⟩ : ∃ dayOfYear, dayOfYear = dayOfEra - march year := ⟨_, rfl⟩
  obtain ⟨month, months⟩ : ∃ month, month = (5 * dayOfYear + 2) / 153 := ⟨_, rfl⟩
  have next := march_succ year
  have short : dayOfYear ≤ 365 := by
    split_ifs at next <;> omega
  have date : ofDays days =
      ofMarch (year + era * 400) month (dayOfYear - monthStart month) := by
    have start : 365 * year + year / 4 - year / 100 = march year := by
      unfold march
      omega
    simp only [ofDays, ← eras, ← rest]
    rw [← yearOfEra, ← known, start, ← left, ← months, ofMarch, monthStart]
    by_cases early : month < 10
    · simp only [if_pos early]
      rw [if_neg (by omega), Int.add_zero]
    · simp only [if_neg early]
      rw [if_pos (by omega)]
  refine ⟨_, _, _, date, ⟨by omega, ?_, ?_⟩, ?_⟩
  · unfold monthStart
    omega
  · have again : march (year + era * 400 + 1) = era * 146097 + march (year + 1) := by
      rw [← march_era, Int.add_right_comm]
    rw [day_lt_iff (by omega), march_era, again]
    constructor
    · unfold monthStart
      omega
    · omega
  · rw [march_era]
    omega

theorem ofDays_proper (days : Int) : (ofDays days).Proper := by
  obtain ⟨year, month, day, date, within, -⟩ := ofDays_eq days
  rw [date]
  exact within.proper

/-- The date of a day is numbered as that day. -/
theorem toDays_ofDays (days : Int) : (ofDays days).toDays = days := by
  obtain ⟨year, month, day, date, within, number⟩ := ofDays_eq days
  rw [date, toDays_ofMarch within, number]

/-- Two days of the calendar that have the same number are the same. -/
theorem Within.unique {year month day other months days : Int} (within : Within year month day)
    (also : Within other months days)
    (same : march year + monthStart month + day = march other + monthStart months + days) :
    year = other ∧ month = months ∧ day = days := by
  have before := (day_lt_iff within.months).mp within.most
  have after := (day_lt_iff also.months).mp also.most
  have front (month : Int) (months : 0 ≤ month ∧ month ≤ 11) : 0 ≤ monthStart month := by
    unfold monthStart
    omega
  have first := front month within.months
  have second := front months also.months
  have least := within.least
  have fewest := also.least
  have begins : march year ≤ march year + monthStart month + day := by omega
  have starts : march other ≤ march year + monthStart month + day := by omega
  obtain rfl := part_unique march_le begins before.2 starts (by omega)
  have rises (month later : Int) (order : month ≤ later) : monthStart month ≤ monthStart later := by
    unfold monthStart
    omega
  have turns : monthStart month ≤ monthStart month + day := by omega
  have comes : monthStart months ≤ monthStart month + day := by omega
  obtain rfl := part_unique rises turns before.1 comes (by omega)
  exact ⟨rfl, rfl, by omega⟩

/-- The number of a proper date leads back to it. -/
theorem ofDays_toDays {date : Date} (proper : date.Proper) : ofDays date.toDays = date := by
  obtain ⟨year, month, day, rfl, within⟩ := proper.exists_within
  obtain ⟨other, months, days, came, also, number⟩ :=
    ofDays_eq (ofMarch year month day).toDays
  rw [toDays_ofMarch within] at number
  obtain ⟨rfl, rfl, rfl⟩ := within.unique also (by omega)
  exact came

/-- The days of the years of four digits are not far from 1970. -/
theorem toDays_bounds {date : Date} (proper : date.Proper)
    (years : 0 ≤ date.year ∧ date.year ≤ 9999) :
    -800000 ≤ date.toDays ∧ date.toDays ≤ 3000000 := by
  obtain ⟨months, days⟩ := proper
  have longest := monthLength_le date.year date.month
  unfold toDays
  by_cases early : date.month ≤ 2
  · simp only [if_pos early]
    omega
  · simp only [if_neg early]
    omega

/-- The days of the years of four digits are those from the first of January 0000 to the last
of December 9999. -/
theorem ofDays_year_iff (days : Int) :
    (0 ≤ (ofDays days).year ∧ (ofDays days).year ≤ 9999) ↔ -719528 ≤ days ∧ days ≤ 2932896 := by
  obtain ⟨year, month, day, date, within, number⟩ := ofDays_eq days
  have before := (day_lt_iff within.months).mp within.most
  have months := within.months
  have least := within.least
  have front : 0 ≤ monthStart month := by
    unfold monthStart
    omega
  have first : march (-1) = -366 := rfl
  have start : march 0 = 0 := rfl
  have turn : march (-1 + 1) = 0 := rfl
  have last : march 9999 = 3652059 := rfl
  have next : march 10000 = 3652425 := rfl
  have january : month < 10 ↔ monthStart month + day < 306 := by
    unfold monthStart at *
    omega
  rw [date]
  simp only [ofMarch]
  rcases Int.lt_trichotomy year (-1) with early | rfl | later
  · have rises := march_le (year + 1) (-1) (by omega)
    split_ifs <;> omega
  · split_ifs <;> omega
  rcases Int.lt_trichotomy year 9999 with inside | rfl | beyond
  · have rises := march_le 0 year (by omega)
    have falls := march_le (year + 1) 9999 (by omega)
    split_ifs <;> omega
  · split_ifs <;> omega
  · have rises := march_le 10000 year (by omega)
    split_ifs <;> omega

end Date

/-- The seconds of the instants that the calendar has. -/
theorem Timestamp.inRange_iff {time : Timestamp} :
    time.inRange = true ↔ -8334601228800 ≤ time.seconds ∧ time.seconds ≤ 8210266876799 := by
  have first : minSeconds = -8334601228800 := rfl
  have last : maxSeconds = 8210266876799 := rfl
  rw [inRange, first, last, Bool.and_eq_true, decide_eq_true_iff, decide_eq_true_iff]

end ComposeDesk
