import ComposeDesk.Calendar.Timestamp
import ComposeDesk.Json.Codec
import ComposeDesk.Text.Basic

/-!
# Reading dates and instants

There are three readers: a strict one for instants, a relaxed one that also
takes blanks between the parts, and one for plain dates.
-/

namespace ComposeDesk

namespace Calendar

inductive Fault where
  | tooShort
  | invalid
  | outOfRange
  | tooLong
  | impossible
deriving DecidableEq, Repr

def Fault.message : Fault → String
  | .tooShort => "premature end of input"
  | .invalid => "input contains invalid characters"
  | .outOfRange => "input is out of range"
  | .tooLong => "trailing input"
  | .impossible => "no possible date and time matching input"

/-- A reader takes a part of the text away from its front. -/
abbrev Scan (α : Type) := StateT (List Char) (Except Fault) α

def char (c : Char) : Scan Unit := fun
  | [] => .error .tooShort
  | d :: rest => if c = d then .ok ((), rest) else .error .invalid

/-- The digits in front, at most `most`, and the text after them. -/
def digitsUpTo : Nat → List Char → List Char × List Char
  | 0, cs => ([], cs)
  | _, [] => ([], [])
  | most + 1, c :: rest =>
      if Decimal.isDigit c then
        let (ds, after) := digitsUpTo most rest
        (c :: ds, after)
      else ([], c :: rest)

/-- Take a number of at least `least` and at most `most` digits. -/
def number (least most : Nat) : Scan Nat := fun cs =>
  let (ds, rest) := digitsUpTo most cs
  if ds.length < least then
    .error (if cs.length < least then .tooShort else .invalid)
  else if 9223372036854775807 < Decimal.value ds then .error .outOfRange
  else .ok (Decimal.value ds, rest)

def blanks : Scan Unit := fun cs =>
  .ok ((), cs.dropWhile Text.isBlank)

def within (least most : Nat) (n : Nat) : Scan Nat :=
  if least ≤ n ∧ n ≤ most then pure n else throw .outOfRange

def twoDigits (least most : Nat) : Scan Nat := do
  within least most (← number 2 2)

/-- Take a number of one or two digits within bounds, blanks in front allowed. -/
def looseDigits (least most : Nat) : Scan Nat := do
  blanks
  within least most (← number 1 2)

/-- Take the digits of a part of a second, of which nine count. -/
def nanoseconds : Scan Nat := do
  let before ← get
  let n ← number 1 9
  let after ← get
  set (after.dropWhile Decimal.isDigit)
  pure (n * Nat.pow 10 (9 - (before.length - after.length)))

def fraction : Scan Nat := do
  match ← get with
  | '.' :: rest =>
      set rest
      nanoseconds
  | _ => pure 0

def separator : Scan Unit := fun
  | [] => .error .tooShort
  | c :: rest =>
      if c = 't' || c = 'T' || c = ' ' then .ok ((), rest) else .error .invalid

/-- Take two digits of an offset; `high` is the largest first digit that is not
out of range. -/
def offsetDigits (high : Char) : Scan Nat := fun
  | [] => .error .tooShort
  | [c] => .error (if c.toNat < 0x80 then .tooShort else .invalid)
  | a :: b :: rest =>
      if Decimal.isDigit a && Decimal.isDigit b then
        if high < a then .error .outOfRange
        else .ok (Decimal.value [a, b], rest)
      else .error .invalid

/-- Take an offset from Coordinated Universal Time, in seconds. -/
def offset (separate : Scan Unit) : Scan Int := do
  match ← get with
  | [] => throw .tooShort
  | c :: rest =>
      if c = 'Z' || c = 'z' then
        set rest
        pure 0
      else if c = '+' || c = '-' || c = '\u2212' then
        set rest
        let hours ← offsetDigits '9'
        separate
        let minutes ← offsetDigits '5'
        let seconds : Int := hours * 3600 + minutes * 60
        pure (if c = '+' then seconds else -seconds)
      else throw .invalid

def colonsOrBlanks : Scan Unit := fun cs =>
  .ok ((), cs.dropWhile fun c => c == ':' || Text.isBlank c)

structure Parts where
  year : Int
  month : Nat
  day : Nat
  hour : Nat
  minute : Nat
  second : Nat
  nanos : Nat
  offset : Int
deriving Repr

/-- The instant of its parts.  Second 60 goes on from second 59. -/
def Parts.toTimestamp (parts : Parts) : Except Fault Timestamp :=
  match Date.of? parts.year parts.month parts.day with
  | none => .error .outOfRange
  | some date =>
      if parts.offset ≤ -86400 ∨ 86400 ≤ parts.offset then .error .outOfRange
      else
        let leap := parts.second = 60
        let second := if leap then 59 else parts.second
        let nanos := if leap then 1000000000 + parts.nanos else parts.nanos
        let time : Timestamp :=
          ⟨date.toDays * Timestamp.daySeconds +
              (parts.hour * 3600 + parts.minute * 60 + second : Nat) - parts.offset,
            nanos⟩
        if time.inRange then .ok time else .error .impossible

/-- The strict form: fixed widths, and an offset below a day. -/
def strictParts : Scan Parts := do
  let year ← number 4 4
  char '-'
  let month ← twoDigits 1 12
  char '-'
  let day ← twoDigits 1 31
  separator
  let hour ← twoDigits 0 23
  char ':'
  let minute ← twoDigits 0 59
  char ':'
  let second ← twoDigits 0 60
  let nanos ← fraction
  let offset ← offset (char ':')
  if offset < -86340 ∨ 86340 < offset then throw .outOfRange
  pure ⟨year, month, day, hour, minute, second, nanos, offset⟩

/-- A year, with a sign and any number of digits or without one and at most
four, blanks in front allowed. -/
def looseYear : Scan Int := do
  blanks
  let year : Int ← do
    match ← get with
    | '-' :: rest =>
        set rest
        pure (-(Int.ofNat (← number 1 rest.length.succ)))
    | '+' :: rest =>
        set rest
        pure (Int.ofNat (← number 1 rest.length.succ))
    | _ => pure (Int.ofNat (← number 1 4))
  if year < -2147483648 ∨ 2147483647 < year then throw .outOfRange
  pure year

/-- Take `UTC` in any case, or an offset. -/
def zone : Scan Int := do
  match ← get with
  | u :: t :: c :: rest =>
      if u.toUpper = 'U' && t.toUpper = 'T' && c.toUpper = 'C' then
        set rest
        pure 0
      else offset colonsOrBlanks
  | _ => offset colonsOrBlanks

def relaxedParts : Scan Parts := do
  let year ← looseYear
  blanks
  char '-'
  let month ← looseDigits 1 12
  blanks
  char '-'
  let day ← looseDigits 1 31
  separator
  let hour ← looseDigits 0 23
  blanks
  char ':'
  let minute ← looseDigits 0 59
  blanks
  char ':'
  let second ← looseDigits 0 60
  let nanos ← fraction
  blanks
  let offset ← zone
  pure ⟨year, month, day, hour, minute, second, nanos, offset⟩

def strict (text : String) : Except Fault Timestamp :=
  match strictParts text.toList with
  | .error fault => .error fault
  | .ok (parts, []) => parts.toTimestamp
  | .ok (_, _) => .error .tooLong

def relaxed (text : String) : Except Fault Timestamp :=
  match relaxedParts text.toList with
  | .error fault => .error fault
  | .ok (parts, rest) =>
      if (rest.dropWhile Text.isBlank).isEmpty then parts.toTimestamp
      else .error .tooLong

def dateParts : Scan (Int × Nat × Nat) := do
  let year ← looseYear
  char '-'
  let month ← looseDigits 1 12
  char '-'
  let day ← looseDigits 1 31
  pure (year, month, day)

def date? (text : String) : Option Date :=
  match dateParts text.toList with
  | .ok ((year, month, day), []) => Date.of? year month day
  | _ => none

end Calendar

def Timestamp.codec : Codec Timestamp where
  read
    | .str s =>
        match Calendar.relaxed s with
        | .ok time => .ok time
        | .error fault => .error (.here (.rule fault.message))
    | other =>
        .error (Json.refuse "an RFC 3339 formatted date and time string" other)
  write time := .str time.toText

end ComposeDesk
