import ComposeDesk.Proofs.Calendar.Instants
import ComposeDesk.Proofs.Repositories.Pinning
import ComposeDesk.Repositories

/-!
# Snapshot dates

Which texts are snapshot dates, which instants they mean, and what the text means that the
catalog is asked with.
-/

namespace ComposeDesk

open Calendar

def Date.midnight (date : Date) : Timestamp :=
  ⟨date.toDays * 86400, 0⟩

theorem Calendar.DateForm.day_midnight {cs : List Char} {date : Date} (form : DateForm cs date) :
    day date.midnight = date := by
  cases form with
  | mk _ _ _ _ _ _ _ _ found =>
      obtain ⟨rfl, -, -, proper⟩ := Date.of?_eq_some_iff.mp found
      rw [day, Date.midnight, Int.mul_ediv_cancel _ (by decide), Date.ofDays_toDays proper]

/-- An instant of the years of four digits. -/
def FourDigits (time : Timestamp) : Prop :=
  -62167219200 ≤ time.seconds ∧ time.seconds ≤ 253402300799

instance (time : Timestamp) : Decidable (FourDigits time) :=
  inferInstanceAs (Decidable (_ ∧ _))

theorem fourDigits_iff {time : Timestamp} :
    FourDigits time ↔ 0 ≤ (day time).year ∧ (day time).year ≤ 9999 := by
  rw [day, Date.ofDays_year_iff, FourDigits]
  omega

section Snapshot

variable {text : String} {time : Timestamp}

/-- A snapshot date is an instant in the strict form or a plain date. -/
theorem snapshotDate?_eq_some_iff :
    snapshotDate? text = some time ↔ strict text = .ok time ∨
      ∃ date, DateForm text.toList date ∧ time = date.midnight := by
  unfold snapshotDate?
  cases read : strict text with
  | ok other =>
      obtain ⟨parts, form, -⟩ := strict_ok_iff.mp read
      constructor
      · rintro ⟨⟩
        exact .inl rfl
      · rintro (same | ⟨date, dated, -⟩)
        · exact congrArg some (Except.ok.inj same)
        · exact absurd dated (form.not_dateForm date)
  | error fault =>
      simp only [reduceCtorEq, false_or, Option.map_eq_some_iff, date?_eq_some_iff]
      constructor
      · rintro ⟨date, dated, rfl⟩
        exact ⟨date, dated, rfl⟩
      · rintro ⟨date, dated, rfl⟩
        exact ⟨date, dated, rfl⟩

/-- In a snapshot date, only second 59 goes on beyond a second. -/
theorem snapshotDate?_leap (dated : snapshotDate? text = some time)
    (late : 1000000000 ≤ time.nanos) : time.seconds % 60 = 59 := by
  rcases snapshotDate?_eq_some_iff.mp dated with read | ⟨date, -, rfl⟩
  · obtain ⟨parts, form, -, rfl⟩ := strict_ok_iff.mp read
    exact form.leap late
  · exact absurd late (by simp [Date.midnight])

/-- The text of an instant is a snapshot date where its year has four digits, and means that
instant without the part of its second. -/
theorem snapshotDate?_toSecondText (leap : 1000000000 ≤ time.nanos → time.seconds % 60 = 59) :
    snapshotDate? time.toSecondText =
      if FourDigits time then some (wholeSecond time) else none := by
  have chars : time.toSecondText.toList = time.dateTimeText ++ ['Z'] := String.toList_ofList
  split_ifs with years
  · exact snapshotDate?_eq_some_iff.mpr (.inl (strict_toSecondText (fourDigits_iff.mp years) leap))
  · rw [fourDigits_iff] at years
    rw [Option.eq_none_iff_forall_ne_some]
    intro other dated
    rcases snapshotDate?_eq_some_iff.mp dated with read | ⟨date, form, -⟩
    · obtain ⟨parts, form, -⟩ := strict_ok_iff.mp read
      rw [chars] at form
      obtain ⟨c, later, starts, digit⟩ := form.digit_first
      obtain ⟨sign, rest, signed, none⟩ := dateTimeText_signed years
      rw [signed] at starts
      cases starts
      rw [digit] at none
      cases none
    · rw [chars] at form
      exact dateTimeText_not_dateForm time date form

/-- A date of four digits, two and two means its midnight, and so does the text that it is
asked with. -/
theorem Calendar.PlainForm.snapshotDate? {date : Date} (plain : PlainForm text.toList date) :
    ComposeDesk.snapshotDate? text = some date.midnight ∧
      ComposeDesk.snapshotDate? date.midnight.toSecondText = some date.midnight := by
  have form := plain.dateForm
  have years : FourDigits date.midnight := by
    rw [fourDigits_iff, form.day_midnight]
    exact plain.year_inside
  refine ⟨snapshotDate?_eq_some_iff.mpr (.inr ⟨date, form, rfl⟩), ?_⟩
  rw [snapshotDate?_toSecondText (by simp [Date.midnight]), if_pos years]
  rfl

end Snapshot

namespace Repositories

variable {σ : Type}

/-- What is pinned to a date depends on the snapshots for one text only. -/
theorem snapshots_congr {services others : Downstream σ} {caller : Identity}
    {urls ids : List String} {external : Bool} {date : String} {time : Timestamp}
    (dated : snapshotDate? date = some time)
    (catalog : others.repositories = services.repositories)
    (found : others.snapshotsForDate caller time.toSecondText =
      services.snapshotsForDate caller time.toSecondText) :
    snapshots others caller urls ids external date =
      snapshots services caller urls ids external date := by
  simp only [snapshots, dated, catalog, found]

/-- A text is a snapshot date exactly if it has the strict form of an instant or the form of a
plain date, which is more than four digits, two and two.  It means its own instant or the
midnight of its day.  The catalog is asked with the text of that instant only, which is a
snapshot date exactly if its year has four digits, and then means the same second. -/
theorem snapshots_dated (services : Downstream σ) (caller : Identity) (urls ids : List String)
    (external : Bool) (text : String) :
    (∀ time, snapshotDate? text = some time ↔ Calendar.strict text = .ok time ∨
        ∃ date, DateForm text.toList date ∧ time = date.midnight) ∧
      (∀ time, Calendar.strict text = .ok time ↔ ∃ parts, StrictForm text.toList parts ∧
        parts.date.Proper ∧ time = parts.instant) ∧
      (∀ date, DateForm text.toList date → day date.midnight = date ∧
        (PlainForm text.toList date ↔ text.toList.length = 10 ∧
          (∀ c ∈ text.toList, Text.isBlank c = false) ∧
          text.toList.head? ≠ some '+' ∧ text.toList.head? ≠ some '-')) ∧
      (∀ date, PlainForm text.toList date → snapshotDate? text = some date.midnight ∧
        snapshotDate? date.midnight.toSecondText = some date.midnight) ∧
      (snapshotDate? text = none → ∀ world,
        outcome (snapshots services caller urls ids external text) world =
          (.error (.invalidDate text), world)) ∧
      ∀ time, snapshotDate? text = some time →
        (∀ others : Downstream σ, others.repositories = services.repositories →
          others.snapshotsForDate caller time.toSecondText =
            services.snapshotsForDate caller time.toSecondText →
          snapshots others caller urls ids external text =
            snapshots services caller urls ids external text) ∧
        snapshotDate? time.toSecondText =
          if FourDigits time then some (wholeSecond time) else none := by
  refine ⟨fun time => snapshotDate?_eq_some_iff, fun time => strict_ok_iff,
    fun date form => ⟨form.day_midnight, form.plain_iff⟩, fun date plain => plain.snapshotDate?,
    fun undated world => snapshots_undated undated world, fun time dated => ⟨?_, ?_⟩⟩
  · exact fun others catalog found => snapshots_congr dated catalog found
  · exact snapshotDate?_toSecondText (snapshotDate?_leap dated)

/-- A year of two digits is taken for one of the first century, and the last minutes of the year
9999 far in the west are asked for with a text that is no snapshot date. -/
theorem short_year_dated :
    (∀ date, ¬ PlainForm "24-01-02".toList date) ∧
      (∀ time, Calendar.strict "24-01-02" ≠ .ok time) ∧
      snapshotDate? "24-01-02" = some (Date.midnight ⟨24, 1, 2⟩) ∧
      (snapshotDate? "9999-12-31T23:59:59-23:59").map (snapshotDate? ·.toSecondText) =
        some none := by
  refine ⟨fun date plain => ?_, fun time read => ?_, by decide +kernel, by decide +kernel⟩
  · exact absurd plain.length (by decide)
  · have refused : Calendar.strict "24-01-02" = .error .invalid := by decide +kernel
    rw [refused] at read
    cases read

end Repositories

end ComposeDesk
