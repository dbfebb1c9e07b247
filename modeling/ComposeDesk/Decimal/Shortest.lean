import ComposeDesk.Decimal.Digits

/-!
# Shortest decimals

A finite binary64 is written with the fewest digits that read back to it: the
coarsest decimal grid that has a point in the interval of reals rounding to
the number, and of the points on it the nearest one.
-/

namespace ComposeDesk

namespace Decimal

/-- A positive finite binary64: `significand * 2 ^ exponent`. -/
structure Binary where
  significand : Nat
  exponent : Int
  /-- The gap to the next smaller number is half the gap to the next larger. -/
  narrowBelow : Bool
deriving Repr

/-- The magnitude of a binary64 given by its bits, unless it is zero, infinite
or no number. -/
def Binary.ofBits? (bits : UInt64) : Option Binary :=
  let fraction := bits.toNat % Nat.pow 2 52
  let biased : Nat := bits.toNat / Nat.pow 2 52 % 2048
  if biased = 2047 then none
  else if biased = 0 then
    if fraction = 0 then none else some ⟨fraction, -1074, false⟩
  else some ⟨Nat.pow 2 52 + fraction, (biased : Int) - 1075, fraction = 0 && 1 < biased⟩

/-- A point `digits * 10 ^ exponent` of a decimal grid. -/
structure Point where
  digits : Nat
  exponent : Int
deriving Repr

/-- The point of the grid of step `10 ^ k` nearest to the number among those
that read back to it; of two equally near ones the even one. -/
def Binary.onGrid (x : Binary) (k : Int) : Option Point :=
  let step := Nat.pow 10 k.toNat * Nat.pow 2 (2 - x.exponent).toNat
  let unit := Nat.pow 2 (x.exponent - 2).toNat * Nat.pow 10 (-k).toNat
  let middle := 4 * x.significand * unit
  let low := (4 * x.significand - (if x.narrowBelow then 1 else 2)) * unit
  let high := (4 * x.significand + 2) * unit
  let even := x.significand % 2 = 0
  let inside (d : Nat) : Bool :=
    if even then low ≤ d * step && d * step ≤ high
    else low < d * step && d * step < high
  let below := middle / step
  let rest := middle - below * step
  match inside below, inside (below + 1) with
  | false, false => none
  | true, false => some ⟨below, k⟩
  | false, true => some ⟨below + 1, k⟩
  | true, true =>
      if 2 * rest < step then some ⟨below, k⟩
      else if step < 2 * rest then some ⟨below + 1, k⟩
      else some ⟨if below % 2 = 0 then below else below + 1, k⟩

/-- The first grid with a hit, going from step `10 ^ k` to finer ones. -/
def Binary.coarsest (x : Binary) : Nat → Int → Point
  | 0, k => ⟨0, k⟩
  | steps + 1, k =>
      match x.onGrid k with
      | some point => point
      | none => x.coarsest steps (k - 1)

/-- The shortest decimal that reads back to the number. -/
def Binary.shortest (x : Binary) : Point :=
  x.coarsest 660 309

structure Layout where
  /-- The texts that have no exponent are those whose point stands after more
  than `least` and at most `most` digits; without bounds, all. -/
  positional : Option (Int × Int)
  /-- Whole numbers end in `.0`. -/
  pointKept : Bool

/-- Documents and messages: `1.0`, `0.00001`, `1e+17`. -/
def Layout.document : Layout := ⟨some (-5, 16), true⟩

/-- Measurements: never an exponent, whole numbers without a point. -/
def Layout.plain : Layout := ⟨none, false⟩

/-- Digits with a point after the first `point` of them, zeros filled in. -/
def placed (digits : List Char) (point : Int) (pointKept : Bool) : List Char :=
  if point ≤ 0 then
    '0' :: '.' :: (List.replicate (-point).toNat '0' ++ digits)
  else if digits.length ≤ point.toNat then
    digits ++ List.replicate (point.toNat - digits.length) '0' ++
      (if pointKept then ['.', '0'] else [])
  else digits.take point.toNat ++ '.' :: digits.drop point.toNat

def scientific (digits : List Char) (point : Int) : List Char :=
  let head := digits.take 1
  let tail := digits.drop 1
  let mantissa := if tail.isEmpty then head else head ++ '.' :: tail
  let power := point - 1
  mantissa ++ (if power < 0 then "e-".toList else "e+".toList) ++
    Decimal.digits power.natAbs

def Layout.write (layout : Layout) (p : Point) : List Char :=
  let ds := digits p.digits
  let point : Int := ds.length + p.exponent
  match layout.positional with
  | none => placed ds point layout.pointKept
  | some (least, most) =>
      if least < point ∧ point ≤ most then placed ds point layout.pointKept
      else scientific ds point

def ofBits (layout : Layout) (bits : UInt64) : String :=
  let negative := Nat.pow 2 63 ≤ bits.toNat
  let magnitude : List Char :=
    match Binary.ofBits? bits with
    | some x => layout.write x.shortest
    | none =>
        if bits.toNat / Nat.pow 2 52 % 2048 = 2047 then
          if bits.toNat % Nat.pow 2 52 = 0 then "inf".toList else "NaN".toList
        else if layout.pointKept then ['0', '.', '0'] else ['0']
  String.ofList (if negative then '-' :: magnitude else magnitude)

end Decimal

end ComposeDesk
