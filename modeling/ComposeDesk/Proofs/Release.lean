import ComposeDesk.Distribution
import ComposeDesk.Proofs.Decimal
import Mathlib.Data.List.TakeDrop
import Mathlib.Data.List.TakeWhile

/-!
# Releases in names

The name of a distribution tells its release, as two numbers around a point or as a digit
and a number after it.  Every name is of one of four kinds, and only in one of them is it
cut where no character ends.
-/

namespace ComposeDesk

open Decimal

/-- The texts for a major and a minor number of a release, by the texts for a number. -/
inductive Release (spelled : List Char → Nat → Prop) : List Char → UInt32 → UInt32 → Prop where
  | dotted {front back : List Char} {major minor : UInt32} (first : spelled front major.toNat)
      (second : spelled back minor.toNat) : Release spelled (front ++ '.' :: back) major minor
  | joined {c : Char} {back : List Char} {major minor : UInt32} (digit : spelled [c] major.toNat)
      (second : spelled back minor.toNat) : Release spelled (c :: back) major minor

/-- A text that is not ASCII at first and has no point is cut inside its first character. -/
inductive CutInside : List Char → Prop where
  | intro {c : Char} {rest : List Char} (wide : 128 ≤ c.toNat) (undivided : '.' ∉ c :: rest) :
      CutInside (c :: rest)

/-- What comes of a name, whatever it is. -/
inductive Told (name : String) : Except VersionFault (UInt32 × UInt32) → Prop where
  | release {version : List Char} {major minor : UInt32}
      (starts : name.toList = "rhel-".toList ++ version)
      (spells : Release Written version major minor) : Told name (.ok (major, minor))
  | other (starts : ¬ "rhel-".toList <+: name.toList) : Told name (.error (.notRhel name))
  | cut {version : List Char} (starts : name.toList = "rhel-".toList ++ version)
      (inside : CutInside version) : Told name (.error .cutInsideCharacter)
  | unreadable {version : List Char} (starts : name.toList = "rhel-".toList ++ version)
      (outside : ¬ CutInside version)
      (unspelled : ∀ major minor, ¬ Release Written version major minor) :
      Told name (.error (.unreadable name))

theorem Decimal.Written.ne_nil {cs : List Char} {n : Nat} (written : Written cs n) : cs ≠ [] := by
  rintro rfl
  exact not_written_nil written

/-- No number has a point. -/
theorem Decimal.Written.undivided {cs : List Char} {n : Nat} (written : Written cs n) :
    '.' ∉ cs := by
  intro point
  cases written with
  | plain unsigned => exact absurd (unsigned.digital point) (by decide)
  | signed unsigned =>
      rcases List.mem_cons.mp point with sign | later
      · exact absurd sign (by decide)
      · exact absurd (unsigned.digital later) (by decide)

/-- One character is a number only if it is a digit. -/
theorem Decimal.Written.single {c : Char} {n : Nat} (written : Written [c] n) :
    isDigit c = true := by
  rw [written_cons_iff] at written
  split at written
  · exact absurd rfl written.ne_nil
  · exact written.digital (List.mem_singleton_self c)

theorem span_point {front : List Char} (undivided : '.' ∉ front) (back : List Char) :
    (front ++ '.' :: back).span (· ≠ '.') = (front, '.' :: back) := by
  have before : ∀ c ∈ front, decide (c ≠ '.') = true := fun c member =>
    decide_eq_true (ne_of_mem_of_not_mem member undivided)
  rw [List.span_eq_takeWhile_dropWhile, List.takeWhile_append_of_pos before,
    List.dropWhile_append_of_pos before]
  simp

theorem span_undivided {version : List Char} (undivided : '.' ∉ version) :
    version.span (· ≠ '.') = (version, []) := by
  have before : ∀ c ∈ version, decide (c ≠ '.') = true := fun c member =>
    decide_eq_true (ne_of_mem_of_not_mem member undivided)
  rw [List.span_eq_takeWhile_dropWhile, List.takeWhile_eq_self_iff.mpr before,
    List.dropWhile_eq_nil_iff.mpr before]

namespace Release

variable {version front back : List Char} {major minor : UInt32}

/-- Around a point there are two numbers. -/
theorem dotted_iff (undivided : '.' ∉ front) :
    Release Written (front ++ '.' :: back) major minor ↔
      Written front major.toNat ∧ Written back minor.toNat := by
  constructor
  · intro release
    generalize whole : front ++ '.' :: back = version at release
    cases release with
    | dotted first second =>
        have cut := congrArg (List.span (· ≠ '.')) whole
        rw [span_point undivided, span_point first.undivided] at cut
        cases cut
        exact ⟨first, second⟩
    | joined digit second =>
        cases front with
        | nil =>
            cases whole
            exact absurd digit.single (by decide)
        | cons c rest =>
            obtain ⟨rfl, rfl⟩ := List.cons.inj whole
            exact absurd (List.mem_append_right rest List.mem_cons_self) second.undivided
  · rintro ⟨first, second⟩
    exact .dotted first second

/-- In nothing there is no release. -/
theorem ne_nil {spelled : List Char → Nat → Prop} (release : Release spelled version major minor) :
    version ≠ [] := by
  cases release with
  | dotted => exact List.append_ne_nil_of_right_ne_nil _ (List.cons_ne_nil _ _)
  | joined => exact List.cons_ne_nil _ _

/-- Without a point there are a digit and a number. -/
theorem joined_iff {c : Char} (undivided : '.' ∉ c :: back) :
    Release Written (c :: back) major minor ↔
      Written [c] major.toNat ∧ Written back minor.toNat := by
  constructor
  · intro release
    generalize whole : c :: back = version at release
    cases release with
    | dotted first second =>
        rw [whole] at undivided
        exact absurd (List.mem_append_right _ List.mem_cons_self) undivided
    | joined digit second =>
        cases whole
        exact ⟨digit, second⟩
  · rintro ⟨digit, second⟩
    exact .joined digit second

/-- Without plus signs there are digits around the point only. -/
theorem unsigned (release : Release Written version major minor) (unsigned : '+' ∉ version) :
    Release Unsigned version major minor := by
  have bare {cs : List Char} {n : Nat} (written : Written cs n) (none : '+' ∉ cs) :
      Unsigned cs n := by
    cases written with
    | plain digits => exact digits
    | signed => exact absurd List.mem_cons_self none
  cases release with
  | dotted first second =>
      simp only [List.mem_append, List.mem_cons, not_or] at unsigned
      exact .dotted (bare first unsigned.1) (bare second unsigned.2.2)
  | @joined c _ _ _ digit second =>
      simp only [List.mem_cons, not_or] at unsigned
      exact .joined (bare digit (List.mem_singleton.not.mpr unsigned.1)) (bare second unsigned.2)

/-- Digits and a point are all that such a release is made of. -/
theorem digit_or_point (release : Release Unsigned version major minor) {c : Char}
    (member : c ∈ version) : isDigit c = true ∨ c = '.' := by
  cases release with
  | dotted first second =>
      rcases List.mem_append.mp member with before | after
      · exact .inl (first.digital before)
      · rcases List.mem_cons.mp after with point | later
        · exact .inr point
        · exact .inl (second.digital later)
  | joined digit second =>
      rcases List.mem_cons.mp member with rfl | later
      · exact .inl (digit.digital (List.mem_singleton_self c))
      · exact .inl (second.digital later)

end Release

/-! ## Reading a version -/

namespace Distribution

variable {name : String} {version front back : List Char} {major minor : UInt32}

/-- Two texts that are read as the numbers of a release, or as nothing. -/
def readPair (name : String) (front back : List Char) : Except VersionFault (UInt32 × UInt32) :=
  match pair? front back with
  | some release => .ok release
  | none => .error (.unreadable name)

theorem pair?_eq_some_iff : pair? front back = some (major, minor) ↔
    Written front major.toNat ∧ Written back minor.toNat := by
  rw [← uint32?_eq_some_iff, ← uint32?_eq_some_iff]
  unfold pair?
  simp only [Option.bind_eq_bind, Option.bind_eq_some_iff, Option.some.injEq, Prod.mk.injEq]
  constructor
  · rintro ⟨_, first, _, second, rfl, rfl⟩
    exact ⟨first, second⟩
  · rintro ⟨first, second⟩
    exact ⟨major, first, minor, second, rfl, rfl⟩

/-- Two texts are a release if both are numbers, and nothing else is said of them. -/
theorem readPair_cases (name : String) (front back : List Char) :
    (∃ major minor, (Written front major.toNat ∧ Written back minor.toNat) ∧
        readPair name front back = .ok (major, minor)) ∨
      ((∀ major minor : UInt32, ¬ (Written front major.toNat ∧ Written back minor.toNat)) ∧
        readPair name front back = .error (.unreadable name)) := by
  unfold readPair
  cases read : pair? front back with
  | some release => exact .inl ⟨release.1, release.2, pair?_eq_some_iff.mp read, rfl⟩
  | none =>
      refine .inr ⟨fun major minor both => ?_, rfl⟩
      rw [pair?_eq_some_iff.mpr both] at read
      cases read

theorem releaseOf_point (undivided : '.' ∉ front) :
    releaseOf name (front ++ '.' :: back) = readPair name front back := by
  unfold releaseOf
  rw [span_point undivided]
  rfl

/-- Without a point, the first byte is the one number and the rest is the other. -/
theorem releaseOf_undivided {c : Char} (undivided : '.' ∉ c :: back) :
    releaseOf name (c :: back) =
      if 128 ≤ c.toNat then .error .cutInsideCharacter else readPair name [c] back := by
  unfold releaseOf
  rw [span_undivided undivided]
  cases back with
  | nil =>
      have empty : pair? [c] [] = none := by
        rw [Option.eq_none_iff_forall_ne_some]
        rintro ⟨major, minor⟩ read
        exact not_written_nil (pair?_eq_some_iff.mp read).2
      rw [readPair, empty]
      rfl
  | cons => rfl

theorem releaseOf_told (starts : name.toList = "rhel-".toList ++ version) :
    Told name (releaseOf name version) := by
  by_cases point : '.' ∈ version
  · obtain ⟨front, back, rfl, undivided⟩ := List.eq_append_cons_of_mem point
    rw [releaseOf_point undivided]
    rcases readPair_cases name front back with ⟨major, minor, ⟨first, second⟩, read⟩ | ⟨none, read⟩
    · rw [read]
      exact .release starts (.dotted first second)
    · rw [read]
      refine .unreadable starts ?_ fun major minor release =>
        none major minor ((Release.dotted_iff undivided).mp release)
      generalize front ++ '.' :: back = version at point
      rintro ⟨-, whole⟩
      exact whole point
  · cases version with
    | nil => exact .unreadable starts nofun fun _ _ release => release.ne_nil rfl
    | cons c back =>
        rw [releaseOf_undivided point]
        split_ifs with wide
        · exact .cut starts ⟨wide, point⟩
        · rcases readPair_cases name [c] back with ⟨major, minor, ⟨digit, second⟩, read⟩ | ⟨none, read⟩
          · rw [read]
            exact .release starts (.joined digit second)
          · rw [read]
            refine .unreadable starts ?_ fun major minor release =>
              none major minor ((Release.joined_iff point).mp release)
            rintro ⟨beyond, -⟩
            exact wide beyond

theorem releaseOf_of_release (release : Release Written version major minor) :
    releaseOf name version = .ok (major, minor) := by
  cases release with
  | dotted first second =>
      rw [releaseOf_point first.undivided, readPair, pair?_eq_some_iff.mpr ⟨first, second⟩]
  | @joined c back _ _ digit second =>
      have small := (isDigit_iff.mp digit.single).2
      have undivided : '.' ∉ c :: back := by
        rintro (_ | ⟨_, later⟩)
        · exact absurd digit.single (by decide)
        · exact second.undivided later
      rw [releaseOf_undivided undivided, if_neg (by omega), readPair,
        pair?_eq_some_iff.mpr ⟨digit, second⟩]

variable {distribution : Distribution}

theorem rhelVersion_of_starts (starts : distribution.composerName.toList = "rhel-".toList ++ version) :
    distribution.rhelVersion = releaseOf distribution.composerName version := by
  unfold rhelVersion
  simp only [starts]
  rfl

/-- Every name is of one of the four kinds. -/
theorem rhelVersion_told (distribution : Distribution) :
    Told distribution.composerName distribution.rhelVersion := by
  by_cases starts : "rhel-".toList <+: distribution.composerName.toList
  · obtain ⟨version, whole⟩ := starts
    rw [rhelVersion_of_starts whole.symm]
    exact releaseOf_told whole.symm
  · have foreign : "rhel-".toList.isPrefixOf distribution.composerName.toList = false :=
      Bool.eq_false_iff.mpr fun among => starts (List.isPrefixOf_iff_prefix.mp among)
    unfold rhelVersion
    simp only [foreign]
    exact .other starts

theorem rhelVersion_of_release
    (starts : distribution.composerName.toList = "rhel-".toList ++ version)
    (release : Release Written version major minor) :
    distribution.rhelVersion = .ok (major, minor) := by
  rw [rhelVersion_of_starts starts, releaseOf_of_release release]

/-- A name tells a release exactly if it spells one: two numbers around a point, or a digit and
a number.  The digits of the numbers do, and so do zeros and one plus sign before each.  Any
other name is refused, except one that is cut inside its first character after `rhel-`, which
comes to no answer; without a plus sign, all that is told is told by digits. -/
theorem rhelVersion_exact (distribution : Distribution) :
    Told distribution.composerName distribution.rhelVersion ∧
      (∀ major minor : UInt32, distribution.composerName =
          "rhel-" ++ Decimal.ofNat major.toNat ++ "." ++ Decimal.ofNat minor.toNat →
        distribution.rhelVersion = .ok (major, minor)) ∧
      (∀ major minor : UInt32, major.toNat < 10 → distribution.composerName =
          "rhel-" ++ Decimal.ofNat major.toNat ++ Decimal.ofNat minor.toNat →
        distribution.rhelVersion = .ok (major, minor)) ∧
      (∀ version major minor, distribution.composerName.toList = "rhel-".toList ++ version →
        Release Written version major minor → distribution.rhelVersion = .ok (major, minor)) ∧
      (distribution.rhelVersion = .error .cutInsideCharacter ↔
        ∃ version, distribution.composerName.toList = "rhel-".toList ++ version ∧
          CutInside version) ∧
      ('+' ∉ distribution.composerName.toList →
        (∀ version, distribution.composerName.toList = "rhel-".toList ++ version →
          ¬ CutInside version ∧ ∀ major minor, ¬ Release Unsigned version major minor) →
        distribution.rhelVersion = .error (.notRhel distribution.composerName) ∨
          distribution.rhelVersion = .error (.unreadable distribution.composerName)) := by
  have told := rhelVersion_told distribution
  have whole (n : Nat) : Unsigned (digits n) n := ⟨0, rfl⟩
  refine ⟨told, fun major minor named => ?_, fun major minor small named => ?_,
    fun version major minor starts release => rhelVersion_of_release starts release,
    ⟨fun ends => ?_, ?_⟩, fun plain others => ?_⟩
  · have starts : distribution.composerName.toList =
        "rhel-".toList ++ (digits major.toNat ++ '.' :: digits minor.toNat) := by
      rw [named]
      simp [Decimal.ofNat, String.toList_append]
    exact rhelVersion_of_release starts (.dotted (.plain (whole _)) (.plain (whole _)))
  · have single : digits major.toNat = [digitChar major.toNat] := by
      rw [digits, if_pos small]
    have digit := whole major.toNat
    rw [single] at digit
    have starts : distribution.composerName.toList =
        "rhel-".toList ++ (digitChar major.toNat :: digits minor.toNat) := by
      rw [named]
      simp [Decimal.ofNat, String.toList_append, single]
    exact rhelVersion_of_release starts (.joined (.plain digit) (.plain (whole _)))
  · rw [ends] at told
    cases told with
    | cut starts inside => exact ⟨_, starts, inside⟩
  · rintro ⟨version, starts, wide, undivided⟩
    rw [rhelVersion_of_starts starts, releaseOf_undivided undivided, if_pos wide]
  · cases outcome : distribution.rhelVersion with
    | ok release =>
        rw [outcome] at told
        cases told with
        | release starts spells =>
            rw [starts, List.mem_append, not_or] at plain
            exact absurd (spells.unsigned plain.2) ((others _ starts).2 _ _)
    | error fault =>
        rw [outcome] at told
        cases told with
        | other => exact .inl rfl
        | cut starts inside => exact absurd inside (others _ starts).1
        | unreadable => exact .inr rfl

def called (name : String) : Distribution :=
  ⟨none, ⟨name, "", none, false⟩, none, none⟩

/-- A letter with an accent after `rhel-` is cut, and plus signs are taken for parts of numbers,
although neither name is a release in digits. -/
theorem accent_cut :
    (called "rhel-é").rhelVersion = .error .cutInsideCharacter ∧
      (called "rhel-+9.+4").rhelVersion = .ok (9, 4) ∧
      ∀ version ∈ ["é".toList, "+9.+4".toList], ∀ major minor,
        ¬ Release Unsigned version major minor := by
  refine ⟨by decide +kernel, by decide +kernel, ?_⟩
  intro version among major minor release
  rw [List.mem_pair] at among
  rcases among with rfl | rfl
  · exact absurd (release.digit_or_point (c := 'é') (by decide)) (by decide)
  · exact absurd (release.digit_or_point (c := '+') (by decide)) (by decide)

end Distribution

end ComposeDesk
