import ComposeDesk.Proofs.Json.Codec
import ComposeDesk.Uuid
import Mathlib.Algebra.GroupWithZero.Nat

/-!
# Identifiers as documents

The written form of an identifier is neither short nor wrapped, so it is read by
taking its hyphens out again.  The digits come back one by one.
-/

namespace ComposeDesk.Uuid

theorem hexDigit?_hexChar (digit : Fin 16) : Text.hexDigit? (Text.hexChar digit) = some digit := by
  revert digit
  decide

theorem hexChar_ne_brace (digit : Fin 16) : Text.hexChar digit ≠ Char.ofNat 0x7B := by
  revert digit
  decide

theorem toLower_hexChar_ne (digit : Fin 16) : (Text.hexChar digit).toLower ≠ 'u' := by
  revert digit
  decide

theorem mapM_hexDigit? (digits : List (Fin 16)) :
    (digits.map Text.hexChar).mapM Text.hexDigit? = some digits := by
  induction digits with
  | nil => rfl
  | cons digit rest ih =>
      rw [List.map_cons, List.mapM_cons, hexDigit?_hexChar, ih]
      rfl

theorem ofDigits?_hexChar (id : Uuid) : ofDigits? (id.digits.map Text.hexChar) = some id := by
  unfold ofDigits?
  rw [mapM_hexDigit?]
  exact dif_pos id.size

/-- Groups are taken apart as they were put together. -/
theorem ungroup?_group (size : Nat) (sizes : List Nat) (cs : List Char)
    (fits : (size :: sizes).sum = cs.length) :
    ungroup? (size :: sizes) (group (size :: sizes) cs) = some cs := by
  induction sizes generalizing size cs with
  | nil =>
      rw [List.sum_singleton] at fits
      rw [group, ungroup?, if_pos fits.symm]
  | cons next rest ih =>
      rw [List.sum_cons] at fits
      have long : (cs.take size).length = size := List.length_take_of_le (by omega)
      have others : (next :: rest).sum = (cs.drop size).length := by
        rw [List.length_drop]
        omega
      rw [group, ungroup?, List.drop_left' long]
      · simp only [ih next (cs.drop size) others, Option.map_some, List.take_left' long,
          List.take_append_drop]
      · simp
      · simp

theorem length_group (size : Nat) (sizes : List Nat) (cs : List Char)
    (fits : (size :: sizes).sum = cs.length) :
    (group (size :: sizes) cs).length = cs.length + sizes.length := by
  induction sizes generalizing size cs with
  | nil =>
      rw [group, List.length_nil, Nat.add_zero]
  | cons next rest ih =>
      rw [List.sum_cons] at fits
      have others : (next :: rest).sum = (cs.drop size).length := by
        rw [List.length_drop]
        omega
      rw [group, List.length_append, List.length_cons, ih next (cs.drop size) others,
        List.length_drop, List.length_take, List.length_cons]
      · omega
      · simp

theorem scheme_eq : scheme = ['u', 'r', 'n', ':', 'u', 'u', 'i', 'd', ':'] := by
  decide

theorem wrapped?_hexChar (digit : Fin 16) (rest : List Char) :
    wrapped? (Text.hexChar digit :: rest) = none := by
  have bare : unbraced? (Text.hexChar digit :: rest) = none := by
    simp only [unbraced?, hexChar_ne_brace digit, decide_false, Bool.false_and]
    rfl
  have plain : hasScheme (Text.hexChar digit :: rest) = false := by
    have first := beq_eq_false_iff_ne.mpr (toLower_hexChar_ne digit).symm
    rw [hasScheme, scheme_eq, List.map_cons, List.isPrefixOf_cons_cons, first, Bool.false_and]
  simp only [wrapped?, bare, plain]
  rfl

theorem ofText?_toText (id : Uuid) : ofText? id.toText = some id := by
  have fits : groupSizes.sum = (id.digits.map Text.hexChar).length := by
    rw [List.length_map, id.size]
    rfl
  have long := length_group 8 [4, 4, 4, 12] (id.digits.map Text.hexChar) fits
  have apart := ungroup?_group 8 [4, 4, 4, 12] (id.digits.map Text.hexChar) fits
  obtain ⟨digit, rest, starts⟩ : ∃ digit rest,
      group groupSizes (id.digits.map Text.hexChar) = Text.hexChar digit :: rest := by
    obtain ⟨digit, others, same⟩ := List.exists_cons_of_length_eq_add_one id.size
    rw [same]
    exact ⟨digit, _, rfl⟩
  have body : body? (group groupSizes (id.digits.map Text.hexChar)) =
      some (id.digits.map Text.hexChar) := by
    unfold body?
    rw [if_neg, starts, wrapped?_hexChar, ← starts]
    · exact apart
    · rw [show (group groupSizes (id.digits.map Text.hexChar)).length = _ from long,
        List.length_map, id.size]
      decide
  rw [ofText?, toText, String.toList_ofList, body]
  exact ofDigits?_hexChar id

theorem codec_sound : codec.Sound := by
  refine .of_plain ?_ (fun _ => rfl) (fun _ => rfl) (fun _ => Json.noConfusion)
  intro id
  simp only [codec, ofText, ofText?_toText id]

end ComposeDesk.Uuid
