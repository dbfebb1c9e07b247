import ComposeDesk.Calendar.Date
import ComposeDesk.Decimal.Digits

/-!
# Instants

An instant is a number of whole seconds from the start of 1970 and a part of a
second.  Within a leap second the part goes on beyond one second.
-/

namespace ComposeDesk

structure Timestamp where
  seconds : Int
  nanos : Nat
deriving DecidableEq, Repr, Inhabited

namespace Timestamp

def daySeconds : Int := 86400

def minSeconds : Int := (Date.toDays ⟨Date.minYear, 1, 1⟩) * daySeconds

def maxSeconds : Int := (Date.toDays ⟨Date.maxYear, 12, 31⟩) * daySeconds + 86399

def inRange (time : Timestamp) : Bool :=
  minSeconds ≤ time.seconds && time.seconds ≤ maxSeconds

def before (a b : Timestamp) : Bool :=
  a.seconds < b.seconds || (a.seconds == b.seconds && a.nanos < b.nanos)

def addSeconds (time : Timestamp) (seconds : Int) : Timestamp :=
  { time with seconds := time.seconds + seconds }

def two (n : Nat) : List Char := Decimal.padded 2 n

/-- A year: four digits, or a sign and at least four beyond them. -/
def yearText (year : Int) : List Char :=
  if 0 ≤ year ∧ year ≤ 9999 then Decimal.padded 4 year.natAbs
  else (if year < 0 then '-' else '+') :: Decimal.padded 4 year.natAbs

/-- The part of a second with three, six or nine digits, none if it is zero. -/
def fractionText (nanos : Nat) : List Char :=
  if nanos = 0 then []
  else if nanos % 1000000 = 0 then '.' :: Decimal.padded 3 (nanos / 1000000)
  else if nanos % 1000 = 0 then '.' :: Decimal.padded 6 (nanos / 1000)
  else '.' :: Decimal.padded 9 nanos

def dateTimeText (time : Timestamp) : List Char :=
  let date := Date.ofDays (time.seconds / daySeconds)
  let second := (time.seconds % daySeconds).toNat
  let leap := if 1000000000 ≤ time.nanos then 1 else 0
  yearText date.year ++ '-' :: two date.month ++ '-' :: two date.day ++
    'T' :: two (second / 3600) ++ ':' :: two (second / 60 % 60) ++
    ':' :: two (second % 60 + leap)

def toSecondText (time : Timestamp) : String :=
  String.ofList (time.dateTimeText ++ ['Z'])

def toText (time : Timestamp) : String :=
  String.ofList (time.dateTimeText ++ fractionText (time.nanos % 1000000000) ++ ['Z'])

end Timestamp

end ComposeDesk
