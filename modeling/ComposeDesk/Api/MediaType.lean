/-!
# Media types

The type of a body: a type, a subtype that may end in a suffix, and parameters,
as in `application/vnd.api+json; charset=utf-8`.
-/

namespace ComposeDesk

/-- A type and a subtype in lower case. -/
structure MediaType where
  type : String
  subtype : String
  /-- What follows the last `+` of the subtype. -/
  suffix : Option String
deriving DecidableEq, Repr

namespace MediaType

def isToken (c : Char) : Bool :=
  c.isAlphanum || "!#$%&'*+-.^_`|~".toList.contains c

def isQuotable (c : Char) : Bool :=
  31 < c.toNat && c.toNat ≠ 127

inductive Progress where
  /-- Before the name of a parameter. -/
  | before
  | name
  /-- After the sign between name and value. -/
  | sign
  | value
  /-- After the opening quote of a value. -/
  | opened
  | quoted
  /-- After a backslash in a quoted value. -/
  | escaped
  /-- After the closing quote of a value. -/
  | closed
deriving DecidableEq, Repr

namespace Progress

def step (progress : Progress) (c : Char) : Option Progress :=
  match progress with
  | .before => if c = ' ' then some .before else if isToken c then some .name else none
  | .name => if isToken c then some .name else if c = '=' then some .sign else none
  | .sign => if c = '"' then some .opened else if isToken c then some .value else none
  | .value => if isToken c then some .value else if c = ';' then some .before else none
  | .opened =>
      if c = '\\' then some .escaped else if isQuotable c then some .quoted else none
  | .quoted =>
      if c = '"' then some .closed
      else if c = '\\' then some .escaped
      else if isQuotable c then some .quoted
      else none
  | .escaped => if isQuotable c then some .quoted else none
  | .closed => if c = ';' then some .before else if c = ' ' then some .closed else none

def mayEnd : Progress → Bool
  | .before | .sign | .value | .closed => true
  | .name | .opened | .quoted | .escaped => false

end Progress

def areParameters (cs : List Char) : Bool :=
  match cs.foldlM Progress.step .before with
  | some progress => progress.mayEnd
  | none => false

/-- The parts before and after the last `+`, if it does not stand in front. -/
def cutSuffix (subtype : List Char) : List Char × Option (List Char) :=
  let suffix := (subtype.reverse.takeWhile (· ≠ '+')).reverse
  let front := subtype.take (subtype.length - suffix.length - 1)
  if suffix.length < subtype.length && !front.isEmpty then (front, some suffix)
  else (subtype, none)

def lower (cs : List Char) : String := String.ofList (cs.map Char.toLower)

def ofText? (text : String) : Option MediaType :=
  let type := text.toList.takeWhile isToken
  match text.toList.dropWhile isToken with
  | '/' :: rest =>
      let (subtype, suffix) := cutSuffix (rest.takeWhile isToken)
      let read := MediaType.mk (lower type) (lower subtype) (suffix.map lower)
      if type.isEmpty || subtype.isEmpty then none
      else match rest.dropWhile isToken with
        | [] => some read
        | mark :: parameters =>
            if mark = ';' && areParameters parameters then some read else none
  | _ => none

def isJson (type : MediaType) : Bool :=
  type.type = "application" && (type.subtype = "json" || type.suffix = some "json")

end MediaType

end ComposeDesk
