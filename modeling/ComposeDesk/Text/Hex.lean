/-!
# Hexadecimal digits

The characters of the sixteen digits; either case is read, the lower one is
written.
-/

namespace ComposeDesk

namespace Text

def hexChar (d : Fin 16) : Char :=
  if d.val < 10 then Char.ofNat ('0'.toNat + d.val) else Char.ofNat ('a'.toNat + (d.val - 10))

def hexDigit? (c : Char) : Option (Fin 16) :=
  if h : '0'.toNat ≤ c.toNat ∧ c.toNat ≤ '9'.toNat then
    some ⟨c.toNat - 48, by have := h.2; simp at this; omega⟩
  else if h : 'a'.toNat ≤ c.toNat ∧ c.toNat ≤ 'f'.toNat then
    some ⟨c.toNat - 87, by have := h.2; simp at this; omega⟩
  else if h : 'A'.toNat ≤ c.toNat ∧ c.toNat ≤ 'F'.toNat then
    some ⟨c.toNat - 55, by have := h.2; simp at this; omega⟩
  else none

def lastHexDigit (n : Nat) : Fin 16 :=
  Fin.ofNat 16 n

def hexDigits (n : Nat) : List (Fin 16) :=
  if n < 16 then [lastHexDigit n] else hexDigits (n / 16) ++ [lastHexDigit n]
termination_by n

end Text

end ComposeDesk
