import ComposeDesk.Decimal.Shortest
import ComposeDesk.Json.Basic
import ComposeDesk.Text.Quoted

/-!
# Faults of documents

Why a document is not a value of a type, where in the document this shows, and
how it is said.
-/

namespace ComposeDesk

namespace Json

inductive Kind where
  | null
  | bool (value : Bool)
  | int (value : Int)
  | float (bits : UInt64)
  | str (value : String)
  | sequence
  | map
deriving DecidableEq, Repr

def Kind.message : Kind → String
  | .null => "null"
  | .bool true => "boolean `true`"
  | .bool false => "boolean `false`"
  | .int n => "integer `" ++ Decimal.ofInt n ++ "`"
  | .float bits => "floating point `" ++ Decimal.ofBits .document bits ++ "`"
  | .str s => "string " ++ Text.quoted s
  | .sequence => "sequence"
  | .map => "map"

/-- The kind of a value; a defect has none. -/
def kind? : Json → Option Kind
  | .null => some .null
  | .bool b => some (.bool b)
  | .num (.int n) => some (.int n)
  | .num (.float bits) => some (.float bits)
  | .str s => some (.str s)
  | .arr _ => some .sequence
  | .obj _ => some .map
  | .defect _ => none

inductive Cause where
  /-- A required field is absent. -/
  | missing (field : String)
  /-- A known field comes twice. -/
  | duplicate (field : String)
  /-- A value of another kind stands in the place. -/
  | wrongKind (found : Kind) (expected : String)
  /-- An integer does not fit its type. -/
  | outOfRange (found : Int) (expected : String)
  /-- An array has another number of items. -/
  | wrongLength (found : Nat) (expected : String)
  /-- A name is not one of those that are known. -/
  | unknownVariant (found : String) (known : List String)
  /-- None of the shapes of a type fits. -/
  | noVariant (type : String)
  /-- A rule of the type is broken, as the text says. -/
  | rule (text : String)
deriving DecidableEq, Repr

def quotedNames (names : List String) : String :=
  ", ".intercalate (names.map fun name => "`" ++ name ++ "`")

def expectedNames : List String → String
  | [] => "there are no variants"
  | [name] => "expected `" ++ name ++ "`"
  | [one, two] => "expected `" ++ one ++ "` or `" ++ two ++ "`"
  | names => "expected one of " ++ quotedNames names

def Cause.message : Cause → String
  | .missing field => "missing field `" ++ field ++ "`"
  | .duplicate field => "duplicate field `" ++ field ++ "`"
  | .wrongKind found expected =>
      "invalid type: " ++ found.message ++ ", expected " ++ expected
  | .outOfRange found expected =>
      "invalid value: integer `" ++ Decimal.ofInt found ++ "`, expected " ++ expected
  | .wrongLength found expected =>
      "invalid length " ++ Decimal.ofNat found ++ ", expected " ++ expected
  | .unknownVariant found known =>
      "unknown variant `" ++ found ++ "`, " ++ expectedNames known
  | .noVariant type => "data did not match any variant of untagged enum " ++ type
  | .rule text => text

inductive Step where
  | member (name : String)
  | item (index : Nat)
deriving DecidableEq, Repr

def pathText : List Step → String
  | [] => ""
  | .member name :: rest => name ++ continued rest
  | .item index :: rest => "[" ++ Decimal.ofNat index ++ "]" ++ continued rest
where
  /-- The steps after the first one. -/
  continued : List Step → String
    | [] => ""
    | .member name :: rest => "." ++ name ++ continued rest
    | .item index :: rest => "[" ++ Decimal.ofNat index ++ "]" ++ continued rest

inductive Fault where
  /-- The text is no document. -/
  | malformed
  /-- An array goes on after the last field of a record. -/
  | surplus (length : Nat)
  /-- A part of the document is refused. -/
  | refused (path : List Step) (cause : Cause)
deriving DecidableEq, Repr

namespace Fault

def here (cause : Cause) : Fault :=
  .refused [] cause

/-- The fault as seen from the container. -/
def under (step : Step) : Fault → Fault
  | .refused path cause => .refused (step :: path) cause
  | other => other

/-- The fault as it shows in a text: an array that goes on too long is not
well formed there. -/
def inText : Fault → Fault
  | .surplus _ => .malformed
  | other => other

def message : Fault → String
  | .malformed => "<json syntax>"
  | .surplus length =>
      "invalid length " ++ Decimal.ofNat length ++ ", expected fewer elements in array"
  | .refused _ cause => cause.message

/-- The wording with the place in front, except at the root. -/
def placed : Fault → String
  | .refused (step :: path) cause => pathText (step :: path) ++ ": " ++ cause.message
  | other => other.message

end Fault

def refuse (expected : String) (json : Json) : Fault :=
  match json.kind? with
  | some found => .here (.wrongKind found expected)
  | none => .malformed

end Json

end ComposeDesk
