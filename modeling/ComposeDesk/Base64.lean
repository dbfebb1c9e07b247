import ComposeDesk.Decimal.Digits

/-!
# Base64

Bytes as text over sixty-four symbols, with padding up to a multiple of four.
Reading is strict: it takes exactly what writing produces, and says what is
wrong with anything else.
-/

namespace ComposeDesk

namespace Base64

def pad : UInt8 := 61

def symbol (n : Nat) : UInt8 :=
  if n < 26 then UInt8.ofNat (n + 65)
  else if n < 52 then UInt8.ofNat (n + 71)
  else if n < 62 then UInt8.ofNat (n - 4)
  else if n = 62 then 43
  else 47

def bits? (symbol : UInt8) : Option Nat :=
  let n := symbol.toNat
  if 65 ≤ n ∧ n ≤ 90 then some (n - 65)
  else if 97 ≤ n ∧ n ≤ 122 then some (n - 71)
  else if 48 ≤ n ∧ n ≤ 57 then some (n + 4)
  else if n = 43 then some 62
  else if n = 47 then some 63
  else none

def encode : List UInt8 → List UInt8
  | [] => []
  | [a] =>
      [symbol (a.toNat / 4), symbol (a.toNat % 4 * 16), pad, pad]
  | [a, b] =>
      [symbol (a.toNat / 4), symbol (a.toNat % 4 * 16 + b.toNat / 16),
        symbol (b.toNat % 16 * 4), pad]
  | a :: b :: c :: rest =>
      symbol (a.toNat / 4) :: symbol (a.toNat % 4 * 16 + b.toNat / 16) ::
        symbol (b.toNat % 16 * 4 + c.toNat / 64) :: symbol (c.toNat % 64) :: encode rest

inductive Fault where
  | symbol (place : Nat) (found : UInt8)
  | length (found : Nat)
  | lastSymbol (place : Nat) (found : UInt8)
  | padding
deriving DecidableEq, Repr

def Fault.message : Fault → String
  | .symbol place found =>
      "Invalid symbol " ++ Decimal.ofNat found.toNat ++ ", offset " ++
        Decimal.ofNat place ++ "."
  | .length found => "Invalid input length: " ++ Decimal.ofNat found
  | .lastSymbol place found =>
      "Invalid last symbol " ++ Decimal.ofNat found.toNat ++ ", offset " ++
        Decimal.ofNat place ++ "."
  | .padding => "Invalid padding"

def bytesOf (a b c d : Nat) : List UInt8 :=
  [UInt8.ofNat (a * 4 + b / 16), UInt8.ofNat (b % 16 * 16 + c / 4),
    UInt8.ofNat (c % 4 * 64 + d)]

/-- The bits of symbols, without padding; the first strange one is refused. -/
def readSymbols (place : Nat) : List UInt8 → Except Fault (List Nat)
  | [] => .ok []
  | s :: rest =>
      match bits? s with
      | none => .error (.symbol place s)
      | some n => (readSymbols (place + 1) rest).map (n :: ·)

/-- The bits of symbols that padding may follow, and the amount of padding.
`start` is where the symbols start, `index` how many came before. -/
def readPadded (start : Nat) : Nat → Option Nat → List UInt8 →
    Except Fault (List Nat × Nat)
  | _, _, [] => .ok ([], 0)
  | index, padded, s :: rest =>
      if s = pad then
        if index < 2 then .error (.symbol (start + index) s)
        else
          (readPadded start (index + 1) (some (padded.getD index)) rest).map
            fun (ns, count) => (ns, count + 1)
      else match padded with
        | some first => .error (.symbol (start + first) pad)
        | none =>
            match bits? s with
            | none => .error (.symbol (start + index) s)
            | some n =>
                (readPadded start (index + 1) none rest).map fun (ns, count) => (n :: ns, count)

/-- The bytes of the last symbols, whose unused bits must be zero. -/
def finish (start : Nat) (symbols : List UInt8) : List Nat → Except Fault (List UInt8)
  | [a, b] =>
      if b % 16 = 0 then .ok ((bytesOf a b 0 0).take 1)
      else .error (.lastSymbol (start + 1) (symbols.getD 1 0))
  | [a, b, c] =>
      if c % 4 = 0 then .ok ((bytesOf a b c 0).take 2)
      else .error (.lastSymbol (start + 2) (symbols.getD 2 0))
  | [a, b, c, d] => .ok (bytesOf a b c d)
  | _ => .ok []

/-- The bytes of the symbols after the last full group of four. -/
def decodeLast (start : Nat) (symbols : List UInt8) : Except Fault (List UInt8) := do
  let (ns, padding) ← readPadded start 0 none symbols
  if !symbols.isEmpty && ns.length < 2 then throw (.length (start + ns.length))
  if (padding + ns.length) % 4 ≠ 0 then throw .padding
  finish start symbols ns

/-- The bytes of all symbols from a place on; a group of four that others
follow has no padding. -/
def decodeFrom (start : Nat) : List UInt8 → Except Fault (List UInt8)
  | a :: b :: c :: d :: e :: rest =>
      match readSymbols start [a, b, c, d] with
      | .error fault => .error fault
      | .ok ns =>
          (decodeFrom (start + 4) (e :: rest)).map
            (bytesOf (ns.getD 0 0) (ns.getD 1 0) (ns.getD 2 0) (ns.getD 3 0) ++ ·)
  | symbols => decodeLast start symbols

/-- The bytes of symbols.  A last symbol that stands alone and is strange is
refused before all others. -/
def decode (symbols : List UInt8) : Except Fault (List UInt8) :=
  match symbols.getLast? with
  | some last =>
      if symbols.length % 4 = 1 && last ≠ pad && (bits? last).isNone then
        .error (.symbol (symbols.length - 1) last)
      else decodeFrom 0 symbols
  | none => .ok []

end Base64

end ComposeDesk
