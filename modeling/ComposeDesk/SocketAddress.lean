import ComposeDesk.Decimal.Digits
import ComposeDesk.Text.Hex

/-!
# Socket addresses

An address of a host and a port, as in `127.0.0.1:80` and `[::1]:80`.  The
written form of eight groups leaves out the longest run of zeros.
-/

namespace ComposeDesk

structure Ipv4 where
  a : UInt8
  b : UInt8
  c : UInt8
  d : UInt8
deriving DecidableEq, Repr

structure Ipv6 where
  groups : Vector UInt16 8
deriving DecidableEq, Repr

inductive SocketAddress where
  | v4 (host : Ipv4) (port : UInt16)
  | v6 (host : Ipv6) (scope : UInt32) (port : UInt16)
deriving DecidableEq, Repr

def SocketAddress.port : SocketAddress → UInt16
  | .v4 _ port => port
  | .v6 _ _ port => port

def Ipv6.groupText (group : UInt16) : String :=
  String.ofList ((Text.hexDigits group.toNat).map Text.hexChar)

def Ipv6.groupsText (groups : List UInt16) : String :=
  ":".intercalate (groups.map groupText)

def Ipv4.toText (host : Ipv4) : String :=
  ".".intercalate ([host.a, host.b, host.c, host.d].map fun n => Decimal.ofNat n.toNat)

namespace Ipv6

structure Run where
  start : Nat
  length : Nat
deriving DecidableEq, Repr

/-- The longest run of zeros, the first one of equal length, among the groups
from an index on and what was found before. -/
def longestRun : List UInt16 → (index : Nat) → (current longest : Run) → Run
  | [], _, _, longest => longest
  | group :: rest, index, current, longest =>
      if group = 0 then
        let current : Run :=
          if current.length = 0 then ⟨index, 1⟩ else ⟨current.start, current.length + 1⟩
        longestRun rest (index + 1) current
          (if longest.length < current.length then current else longest)
      else longestRun rest (index + 1) ⟨0, 0⟩ longest

/-- The written form: four numbers at the end if the groups before them say so,
else two colons in the place of the longest run of at least two zeros. -/
def toText (host : Ipv6) : String :=
  match host.groups.toList with
  | [0, 0, 0, 0, 0, 65535, high, low] =>
      "::ffff:" ++ (Ipv4.mk (high >>> 8).toUInt8 high.toUInt8 (low >>> 8).toUInt8
        low.toUInt8).toText
  | groups =>
      let run := longestRun groups 0 ⟨0, 0⟩ ⟨0, 0⟩
      if 1 < run.length then
        groupsText (groups.take run.start) ++ "::" ++
          groupsText (groups.drop (run.start + run.length))
      else groupsText groups

end Ipv6

/-- The written form; the scope is left out if it is zero. -/
def SocketAddress.toText : SocketAddress → String
  | .v4 host port => host.toText ++ ":" ++ Decimal.ofNat port.toNat
  | .v6 host scope port =>
      "[" ++ host.toText ++
        (if scope = 0 then "" else "%" ++ Decimal.ofNat scope.toNat) ++
        "]:" ++ Decimal.ofNat port.toNat

namespace SocketAddress

def after? (mark : Char) : List Char → Option (List Char)
  | c :: rest => if c = mark then some rest else none
  | [] => none

def digits (digit? : Char → Option Nat) : List Char → List Nat × List Char
  | [] => ([], [])
  | c :: rest =>
      match digit? c with
      | some d => (d :: (digits digit? rest).1, (digits digit? rest).2)
      | none => ([], c :: rest)

def value (base : Nat) (ds : List Nat) : Nat :=
  ds.foldl (fun n d => n * base + d) 0

def decimal? (most : Nat) (cs : List Char) : Option (Nat × List Char) :=
  match digits Decimal.digit? cs with
  | ([], _) => none
  | (ds, rest) => if value 10 ds ≤ most then some (value 10 ds, rest) else none

/-- One of four numbers: no zero in front of other digits. -/
def octet? (cs : List Char) : Option (UInt8 × List Char) :=
  match digits Decimal.digit? cs with
  | ([], _) => none
  | (0 :: _ :: _, _) => none
  | (ds, rest) =>
      if value 10 ds ≤ 255 then some (UInt8.ofNat (value 10 ds), rest) else none

/-- One of eight groups: up to four hexadecimal digits. -/
def group? (cs : List Char) : Option (UInt16 × List Char) :=
  match digits (fun c => (Text.hexDigit? c).map (·.val)) cs with
  | ([], _) => none
  | (ds, rest) =>
      if ds.length ≤ 4 then some (UInt16.ofNat (value 16 ds), rest) else none

def ipv4? (cs : List Char) : Option (Ipv4 × List Char) := do
  let (a, cs) ← octet? cs
  let (b, cs) ← octet? (← after? '.' cs)
  let (c, cs) ← octet? (← after? '.' cs)
  let (d, cs) ← octet? (← after? '.' cs)
  some (⟨a, b, c, d⟩, cs)

def Ipv4.groups (host : Ipv4) : List UInt16 :=
  [host.a.toUInt16 <<< 8 ||| host.b.toUInt16, host.c.toUInt16 <<< 8 ||| host.d.toUInt16]

/-- Up to `limit` groups in front of a text, with colons between them; four
numbers may stand for the last two.  The flag says whether they do. -/
def groups : (limit : Nat) → (first : Bool) → List Char → List UInt16 × Bool × List Char
  | 0, _, cs => ([], false, cs)
  | limit + 1, first, cs =>
      match if first then some cs else after? ':' cs with
      | none => ([], false, cs)
      | some inner =>
          match if limit = 0 then none else ipv4? inner with
          | some (host, rest) => (Ipv4.groups host, true, rest)
          | none =>
              match group? inner with
              | none => ([], false, cs)
              | some (group, rest) =>
                  let (others, mixed, rest) := groups limit false rest
                  (group :: others, mixed, rest)

/-- Eight groups in front of a text; two colons stand for at least one zero. -/
def ipv6? (cs : List Char) : Option (Ipv6 × List Char) := do
  let (head, mixed, rest) := groups 8 true cs
  let host (found : List UInt16) : Ipv6 := ⟨Vector.ofFn fun i => found.getD i.val 0⟩
  if head.length = 8 then some (host head, rest)
  else if mixed then none
  else
    let rest ← after? ':' (← after? ':' rest)
    let (tail, _, rest) := groups (7 - head.length) true rest
    some (host (head ++ List.replicate (8 - head.length - tail.length) 0 ++ tail), rest)

def port? (cs : List Char) : Option (UInt16 × List Char) := do
  let (port, rest) ← decimal? 65535 (← after? ':' cs)
  some (UInt16.ofNat port, rest)

/-- A percent sign and a scope in front of a text; without them the scope is
zero. -/
def scope (cs : List Char) : UInt32 × List Char :=
  match after? '%' cs with
  | some inner =>
      match decimal? 4294967295 inner with
      | some (scope, rest) => (UInt32.ofNat scope, rest)
      | none => (0, cs)
  | none => (0, cs)

def readV4? (cs : List Char) : Option SocketAddress := do
  let (host, cs) ← ipv4? cs
  let (port, cs) ← port? cs
  if cs.isEmpty then some (.v4 host port) else none

def readV6? (cs : List Char) : Option SocketAddress := do
  let (host, cs) ← ipv6? (← after? '[' cs)
  let (scope, cs) := scope cs
  let (port, cs) ← port? (← after? ']' cs)
  if cs.isEmpty then some (.v6 host scope port) else none

def ofText? (text : String) : Option SocketAddress :=
  readV4? text.toList <|> readV6? text.toList

end SocketAddress

end ComposeDesk
