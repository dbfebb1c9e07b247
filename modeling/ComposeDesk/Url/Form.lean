import ComposeDesk.Text.Basic
import ComposeDesk.Url.Percent

/-!
# Forms

Names and values joined by `=`, pairs joined by `&`.  A blank is written `+`.
-/

namespace ComposeDesk

namespace Form

def keeps (c : Char) : Bool :=
  c.isAlphanum || c == '*' || c == '-' || c == '.' || c == '_'

def encodeText (text : String) : List Char :=
  text.toList.flatMap fun c => if c = ' ' then ['+'] else Percent.encodeChar keeps c

def encodePair (pair : String × String) : List Char :=
  encodeText pair.1 ++ '=' :: encodeText pair.2

def append (before : List Char) (pairs : List (String × String)) : List Char :=
  pairs.foldl
    (fun text pair =>
      (if text.isEmpty then [] else text ++ ['&']) ++ encodePair pair)
    before

def decodeText (cs : List Char) : String :=
  let spaced := cs.map fun c => if c = '+' then ' ' else c
  Utf8.lossy (Percent.decode (Utf8.encode (String.ofList spaced)))

/-- A pair; without `=` the value is empty. -/
def decodePair (cs : List Char) : String × String :=
  match cs.span (· ≠ '=') with
  | (name, _ :: value) => (decodeText name, decodeText value)
  | (name, []) => (decodeText name, "")

/-- The pairs of a text; empty parts are none. -/
def decode (text : String) : List (String × String) :=
  ((Text.split (· == '&') text.toList).filter (!·.isEmpty)).map decodePair

end Form

end ComposeDesk
