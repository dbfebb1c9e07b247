import ComposeDesk.Json.Numeral
import ComposeDesk.Text.Hex
import ComposeDesk.Text.Utf8

/-!
# Reading documents

The text is a list of positions, each with a character or without one where
the bytes are not Unicode.  Reading never fails: it yields a tree in which the
place where the text stops being a document is marked.  Each reader returns
what it read and the text that follows, or no text after such a place.
-/

namespace ComposeDesk

namespace Json

/-- Positions of a text. -/
abbrev Source := List (Option Char)

def Source.ofString (text : String) : Source :=
  text.toList.map some

def Source.ofBytes (bytes : List UInt8) : Source :=
  Utf8.chars bytes

def isSpace : Option Char → Bool
  | some c => c == ' ' || c == '\n' || c == '\t' || c == '\r'
  | none => false

def skipSpace (source : Source) : Source :=
  source.dropWhile isSpace

def hex4? : Source → Option (Nat × Source)
  | some a :: some b :: some c :: some d :: rest => do
      let a ← Text.hexDigit? a
      let b ← Text.hexDigit? b
      let c ← Text.hexDigit? c
      let d ← Text.hexDigit? d
      some (((a.val * 16 + b.val) * 16 + c.val) * 16 + d.val, rest)
  | _ => none

def escaped? : Char → Option Char
  | '"' => some '"'
  | '\\' => some '\\'
  | '/' => some '/'
  | 'b' => some '\x08'
  | 'f' => some '\x0c'
  | 'n' => some '\n'
  | 'r' => some '\r'
  | 't' => some '\t'
  | _ => none

inductive Quoted where
  /-- The text up to the closing quote. -/
  | text (chars : List Char) (rest : Source)
  /-- A closing quote follows, but the text before it has no meaning. -/
  | senseless (rest : Source)
  /-- No string of a document stands here. -/
  | broken

/-- Put a character, or a position without one, before a string. -/
def Quoted.cons (c : Option Char) : Quoted → Quoted
  | .text chars rest =>
      match c with
      | some c => .text (c :: chars) rest
      | none => .senseless rest
  | .senseless rest => .senseless rest
  | .broken => .broken

/-- Read a string after its opening quote.  Halves of surrogate pairs must
come in pairs for the string to have a meaning. -/
def quoted : Nat → Source → Quoted
  | 0, _ => .broken
  | _, [] => .broken
  | steps + 1, none :: rest => (quoted steps rest).cons none
  | steps + 1, some '\\' :: some 'u' :: rest =>
      match hex4? rest with
      | none => .broken
      | some (code, rest) =>
          if code < 0xD800 || 0xDFFF < code then
            (quoted steps rest).cons (some (Char.ofNat code))
          else if 0xDC00 ≤ code then (quoted steps rest).cons none
          else match rest with
            | some '\\' :: some 'u' :: after =>
                match hex4? after with
                | some (low, after) =>
                    if 0xDC00 ≤ low && low ≤ 0xDFFF then
                      (quoted steps after).cons
                        (some (Char.ofNat
                          (0x10000 + (code - 0xD800) * 0x400 + (low - 0xDC00))))
                    else (quoted steps rest).cons none
                | none => .broken
            | _ => (quoted steps rest).cons none
  | steps + 1, some '\\' :: some c :: rest =>
      match escaped? c with
      | some c => (quoted steps rest).cons (some c)
      | none => .broken
  | steps + 1, some c :: rest =>
      if c = '"' then .text [] rest
      else if c = '\\' || c.toNat < 0x20 then .broken
      else (quoted steps rest).cons (some c)

def digitsOf : Source → List Char × Source
  | some c :: rest =>
      if Decimal.isDigit c then
        let (cs, after) := digitsOf rest
        (c :: cs, after)
      else ([], some c :: rest)
  | source => ([], source)

/-- Read the exponent that may follow a numeral; the inner option is `none`
when there is no exponent, the outer one when it is spoilt. -/
def exponent? : Source → Option (Option Int × Source)
  | some c :: rest =>
      if c = 'e' || c = 'E' then
        let (negative, rest) : Bool × Source :=
          match rest with
          | some '+' :: after => (false, after)
          | some '-' :: after => (true, after)
          | other => (false, other)
        match digitsOf rest with
        | ([], _) => none
        | (cs, after) =>
            let n : Int := Decimal.value cs
            some (some (if negative then -n else n), after)
      else some (none, some c :: rest)
  | source => some (none, source)

/-- Read the fraction that may follow a whole number; empty if there is none. -/
def fraction? : Source → Option (List Char × Source)
  | some '.' :: rest =>
      match digitsOf rest with
      | ([], _) => none
      | (cs, after) => some (cs, after)
  | source => some ([], source)

def numeral? (source : Source) : Option (Numeral × Source) := do
  let (negative, source) : Bool × Source :=
    match source with
    | some '-' :: rest => (true, rest)
    | other => (false, other)
  match digitsOf source with
  | ([], _) => none
  | ('0' :: _ :: _, _) => none
  | (whole, source) =>
      let (fraction, source) ← fraction? source
      let (power, source) ← exponent? source
      some (⟨negative, whole, fraction, power⟩, source)

/-- What a reader found: a part of the tree, and the text after it unless the
text stopped being a document. -/
abbrev Found (α : Type) := α × Option Source

def after? (word : List Char) (source : Source) : Option Source :=
  match word, source with
  | [], rest => some rest
  | w :: word, some c :: rest => if w = c then after? word rest else none
  | _ :: _, _ => none

def word (letters : String) (value : Json) (source : Source) : Found Json :=
  match after? letters.toList source with
  | some rest => (value, some rest)
  | none => (.defect .broken, none)

/-- A container as it appears at a nesting depth: beyond the limit it can only
be passed over. -/
def atDepth (depth : Nat) (container : Json) : Json :=
  if depth < maxDepth then container
  else if container.skippable then .defect .unreadable
  else .defect .broken

mutual

/-- Read a value nested in `depth` containers. -/
def value : Nat → Nat → Source → Found Json
  | 0, _, _ => (.defect .broken, none)
  | steps + 1, depth, source =>
      match skipSpace source with
      | some '{' :: rest =>
          let (members, rest) :=
            match skipSpace rest with
            | some '}' :: rest => ([], some rest)
            | rest => members steps (depth + 1) rest
          (atDepth depth (.obj members), rest)
      | some '[' :: rest =>
          let (items, rest) :=
            match skipSpace rest with
            | some ']' :: rest => ([], some rest)
            | rest => items steps (depth + 1) rest
          (atDepth depth (.arr items), rest)
      | some '"' :: rest =>
          match quoted (rest.length + 1) rest with
          | .text chars rest => (.str (String.ofList chars), some rest)
          | .senseless rest => (.defect .unreadable, some rest)
          | .broken => (.defect .broken, none)
      | some 'n' :: rest => word "ull" .null rest
      | some 't' :: rest => word "rue" (.bool true) rest
      | some 'f' :: rest => word "alse" (.bool false) rest
      | source =>
          match numeral? source with
          | some (numeral, rest) =>
              match numeral.number? with
              | some n => (.num n, some rest)
              | none => (.defect .unreadable, some rest)
          | none => (.defect .broken, none)

/-- Read the items of an array, at least one, and its closing bracket. -/
def items : Nat → Nat → Source → Found (List Json)
  | 0, _, _ => ([.defect .broken], none)
  | steps + 1, depth, source =>
      match value steps depth source with
      | (item, none) => ([item], none)
      | (item, some rest) =>
          match skipSpace rest with
          | some ']' :: rest => ([item], some rest)
          | some ',' :: rest =>
              let (others, rest) := items steps depth rest
              (item :: others, rest)
          | _ => ([item, .defect .broken], none)

/-- Read the members of an object, at least one, and its closing brace. -/
def members : Nat → Nat → Source → Found (List (String × Json))
  | 0, _, _ => ([("", .defect .broken)], none)
  | steps + 1, depth, source =>
      match skipSpace source with
      | some '"' :: rest =>
          let (name, rest) : Option String × Option Source :=
            match quoted (rest.length + 1) rest with
            | .text chars rest => (some (String.ofList chars), some rest)
            | .senseless rest => (none, some rest)
            | .broken => (none, none)
          match name, rest with
          | _, none => ([("", .defect .broken)], none)
          | name, some rest =>
              match skipSpace rest with
              | some ':' :: rest =>
                  let (held, rest) := value steps depth rest
                  let member : String × Json :=
                    match name with
                    | some name => (name, held)
                    | none =>
                        ("", .defect (if held.skippable then .nameless else .broken))
                  match rest with
                  | none => ([member], none)
                  | some rest =>
                      match skipSpace rest with
                      | some '}' :: rest => ([member], some rest)
                      | some ',' :: rest =>
                          let (others, rest) := members steps depth rest
                          (member :: others, rest)
                      | _ => ([member, ("", .defect .broken)], none)
              | _ => ([(name.getD "", .defect .broken)], none)
      | _ => ([("", .defect .broken)], none)

end

/-- A document read from a text, and whether nothing but white space follows. -/
structure Text where
  json : Json
  ended : Bool

def read (source : Source) : Text :=
  match value (2 * source.length + 2) 0 source with
  | (json, some rest) => ⟨json, (skipSpace rest).isEmpty⟩
  | (json, none) => ⟨json, false⟩

def ofText? (source : Source) : Option Json :=
  let text := read source
  if text.ended && text.json.readable then some text.json else none

end Json

end ComposeDesk
