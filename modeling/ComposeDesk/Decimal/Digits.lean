/-!
# Decimal digits

The digits of a natural number in base ten, and the number that digits mean.
-/

namespace ComposeDesk

namespace Decimal

def digit? (c : Char) : Option Nat :=
  if '0' ≤ c ∧ c ≤ '9' then some (c.toNat - '0'.toNat) else none

def isDigit (c : Char) : Bool :=
  (digit? c).isSome

def digitChar (n : Nat) : Char :=
  Char.ofNat ('0'.toNat + n % 10)

/-- The decimal digits of a number, without leading zeros. -/
def digits (n : Nat) : List Char :=
  if n < 10 then [digitChar n] else digits (n / 10) ++ [digitChar (n % 10)]
termination_by n

def padded (width : Nat) (n : Nat) : List Char :=
  List.replicate (width - (digits n).length) '0' ++ digits n

/-- The number that a list of digits continues, digit by digit. -/
def valueFrom (start : Nat) (cs : List Char) : Nat :=
  cs.foldl (fun n c => n * 10 + (digit? c).getD 0) start

def value (cs : List Char) : Nat :=
  valueFrom 0 cs

def ofNat (n : Nat) : String :=
  String.ofList (digits n)

def ofInt : Int → String
  | .ofNat n => ofNat n
  | .negSucc n => "-" ++ ofNat (n + 1)

inductive Fault where
  | empty
  | invalidDigit
  | tooLarge
  | tooSmall
deriving DecidableEq, Repr

def Fault.message : Fault → String
  | .empty => "cannot parse integer from empty string"
  | .invalidDigit => "invalid digit found in string"
  | .tooLarge => "number too large to fit in target type"
  | .tooSmall => "number too small to fit in target type"

/-- Digits as a number of at most `most`; the first character that is no digit
and a number that has grown too large are both faults, whichever comes first. -/
def bounded (most : Nat) (excess : Fault) : Nat → List Char → Except Fault Nat
  | n, [] => .ok n
  | n, c :: rest =>
      match digit? c with
      | none => .error .invalidDigit
      | some d =>
          if most < n * 10 + d then .error excess
          else bounded most excess (n * 10 + d) rest

/-- Read an integer between `-least` and `most`.  A sign may stand in front;
`-` only where negative numbers exist. -/
def integer (least most : Nat) (text : String) : Except Fault Int :=
  match text.toList with
  | [] => .error .empty
  | ['+'] => .error .invalidDigit
  | ['-'] => .error .invalidDigit
  | '+' :: rest => (bounded most .tooLarge 0 rest).map Int.ofNat
  | '-' :: rest =>
      if least = 0 then .error .invalidDigit
      else (bounded least .tooSmall 0 rest).map (fun n => -Int.ofNat n)
  | cs => (bounded most .tooLarge 0 cs).map Int.ofNat

def uint32? (text : String) : Option UInt32 :=
  match integer 0 4294967295 text with
  | .ok n => some (UInt32.ofNat n.toNat)
  | .error _ => none

end Decimal

end ComposeDesk
