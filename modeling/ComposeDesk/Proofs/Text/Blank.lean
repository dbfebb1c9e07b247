import ComposeDesk.Proofs.Text.Utf8
import ComposeDesk.Text.Basic
import Mathlib.Data.List.DropRight

/-!
# Text without white space around it

Trimming twice is trimming once, and a text without white space is left as it is.
-/

namespace ComposeDesk

namespace Text

theorem trimBoth_eq (p : Char → Bool) (cs : List Char) :
    trimBoth p cs = (cs.dropWhile p).rdropWhile p :=
  rfl

/-- What is left after trimming starts with a character that stays. -/
theorem dropWhile_trimBoth (p : Char → Bool) (cs : List Char) :
    (trimBoth p cs).dropWhile p = trimBoth p cs := by
  obtain ⟨after, whole⟩ := List.rdropWhile_prefix p (cs.dropWhile p)
  rw [trimBoth_eq]
  cases left : (cs.dropWhile p).rdropWhile p with
  | nil => rfl
  | cons c rest =>
      rw [left, List.cons_append] at whole
      have stays := List.head?_dropWhile_not p cs
      rw [← whole, List.head?_cons] at stays
      exact List.dropWhile_cons_of_neg (Bool.eq_false_iff.mp stays)

theorem trimBoth_trimBoth (p : Char → Bool) (cs : List Char) :
    trimBoth p (trimBoth p cs) = trimBoth p cs := by
  rw [trimBoth_eq p (trimBoth p cs), dropWhile_trimBoth, trimBoth_eq,
    List.rdropWhile_idempotent]

theorem trimBoth_eq_self {p : Char → Bool} {cs : List Char} (stay : ∀ c ∈ cs, p c = false) :
    trimBoth p cs = cs := by
  have front : cs.dropWhile p = cs := by
    refine List.dropWhile_eq_self_iff.mpr fun some => ?_
    exact Bool.eq_false_iff.mp (stay _ (List.getElem_mem some))
  rw [trimBoth_eq, front, List.rdropWhile_eq_self_iff]
  intro some
  exact Bool.eq_false_iff.mp (stay _ (List.getLast_mem some))

theorem trim_trim (text : String) : trim (trim text) = trim text := by
  rw [trim, trim, String.toList_ofList, trimBoth_trimBoth]

theorem trim_eq_self {text : String} (solid : ∀ c ∈ text.toList, isBlank c = false) :
    trim text = text := by
  rw [trim, trimBoth_eq_self solid, String.ofList_toList]

/-- A character of the plain ones that show is no white space. -/
theorem isBlank_of_plain {n : Nat} (above : 0x20 < n) (below : n < 0x80) :
    isBlank (Char.ofNat n) = false := by
  simp only [isBlank, Utf8.code_ofNat below, Bool.or_eq_false_iff, Bool.and_eq_false_iff,
    beq_eq_false_iff_ne, decide_eq_false_iff_not]
  omega

end Text

end ComposeDesk
