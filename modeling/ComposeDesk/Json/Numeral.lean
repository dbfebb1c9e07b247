import ComposeDesk.Decimal.Digits
import ComposeDesk.Json.Basic

/-!
# Numbers in documents

A numeral without fraction and exponent that fits 64 bits is an integer.  All
others are binary64: as many leading digits as fit 64 bits are collected, the
others are dropped, and the collected number is scaled once by a power of ten.
-/

namespace ComposeDesk

structure Numeral where
  negative : Bool
  whole : List Char
  fraction : List Char
  power : Option Int
deriving Repr

namespace Numeral

/-- Digits collected into a number below `2 ^ 64`: the number, how many digits
were taken, how many were dropped, and whether one was dropped. -/
structure Collected where
  significand : Nat
  taken : Nat
  dropped : Nat
  full : Bool

/-- Take one more digit, unless the number or an earlier digit has grown too
large. -/
def Collected.push (held : Collected) (c : Char) : Collected :=
  let grown := held.significand * 10 + (Decimal.digit? c).getD 0
  if held.full || UInt64.size ≤ grown then
    { held with dropped := held.dropped + 1, full := true }
  else { held with significand := grown, taken := held.taken + 1 }

def collect (start : Nat) (cs : List Char) : Collected :=
  cs.foldl Collected.push ⟨start, 0, 0, false⟩

/-- A number divided by a power of ten, in steps that stay in range. -/
def shrink (x : Float) (power : Nat) : Float :=
  if power ≤ 308 then x / Float.ofScientific 1 false power
  else if x == 0 then x
  else shrink (x / 1e308) (power - 308)
termination_by power

/-- A number scaled by a power of ten, unless the result is too large. -/
def scale? (x : Float) (power : Int) : Option Float :=
  if power < 0 then some (shrink x power.natAbs)
  else if power ≤ 308 then
    let scaled := x * Float.ofScientific 1 false power.natAbs
    if scaled.isInf then none else some scaled
  else if x == 0 then some x
  else none

def float? (numeral : Numeral) : Option Number :=
  let whole := collect 0 numeral.whole
  let all := collect whole.significand numeral.fraction
  let power := (whole.dropped : Int) - all.taken + numeral.power.getD 0
  (scale? all.significand.toUInt64.toFloat power).map fun x =>
    .float (if numeral.negative then -x else x).toBits

/-- The number that a numeral means, unless it is too large. -/
def number? (numeral : Numeral) : Option Number :=
  let plain := numeral.fraction.isEmpty && numeral.power.isNone
  let n := Decimal.value numeral.whole
  if plain && !numeral.negative && n < UInt64.size then some (.int n)
  else if plain && numeral.negative && 0 < n && n ≤ Nat.pow 2 63 then some (.int (-n))
  else numeral.float?

end Numeral

end ComposeDesk
