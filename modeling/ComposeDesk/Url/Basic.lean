import ComposeDesk.Url.Form

/-!
# URLs

The addresses of services.  Reading one resolves the steps `.` and `..` of its
path and encodes what cannot stand in a URL.
-/

namespace ComposeDesk

structure Url where
  /-- The scheme, and the part up to the path. -/
  origin : String
  /-- The path, encoded. -/
  path : String
  /-- What follows the question mark, if there is one, encoded. -/
  query : Option String
deriving DecidableEq, Repr

namespace Url

def isEdge (c : Char) : Bool := c.toNat ≤ 0x20

/-- Characters that are passed over wherever they stand. -/
def isIgnored (c : Char) : Bool := c == '\t' || c == '\n' || c == '\r'

def pathKeeps (c : Char) : Bool :=
  0x20 < c.toNat && c.toNat < 0x7F &&
    !(c == '"' || c == '<' || c == '>' || c == '`' || c == '#' || c == '?' ||
      c.toNat == 0x7B || c.toNat == 0x7D)

def queryKeeps (c : Char) : Bool :=
  0x20 < c.toNat && c.toNat < 0x7F &&
    !(c == '"' || c == '<' || c == '>' || c == '#' || c.toNat == 0x27)

/-- The two slashes of a path; a backslash counts as one. -/
def isSlash (c : Char) : Bool := c == '/' || c == '\\'

/-- A text with its dots written as dots. -/
def dotted : List Char → List Char
  | '%' :: '2' :: e :: rest =>
      if e = 'e' || e = 'E' then '.' :: dotted rest else '%' :: dotted ('2' :: e :: rest)
  | c :: rest => c :: dotted rest
  | [] => []

def isHere (segment : List Char) : Bool := dotted segment == ['.']

def isUp (segment : List Char) : Bool := dotted segment == ['.', '.']

/-- A letter and a colon or a bar; no step goes up from such a segment. -/
def isDrive (segment : List Char) : Bool :=
  match segment with
  | [letter, mark] => letter.isAlpha && (mark == ':' || mark == '|')
  | _ => false

def up (segments : List (List Char)) : List (List Char) :=
  match segments.getLast? with
  | some last => if isDrive last then segments else segments.dropLast
  | none => []

def resolve : List (List Char) → List (List Char) → List (List Char)
  | path, [] => path
  | path, [last] =>
      if isUp last then up path ++ [[]]
      else if isHere last then path ++ [[]]
      else path ++ [last]
  | path, segment :: rest =>
      if isUp segment then resolve (up path) rest
      else if isHere segment then resolve path rest
      else resolve (path ++ [segment]) rest

def readPath (cs : List Char) : String :=
  let given := match cs with
    | c :: rest => if isSlash c then rest else c :: rest
    | [] => []
  String.ofList
    ((resolve [] (Text.split isSlash given)).flatMap fun segment =>
      '/' :: Percent.encode pathKeeps segment)

def afterScheme? (cs : List Char) : Option (String × List Char) :=
  let scheme := (cs.takeWhile (· ≠ ':')).map Char.toLower
  let rest := (cs.dropWhile (· ≠ ':')).drop 1
  if scheme = "http".toList || scheme = "https".toList then
    if cs.contains ':' then
      some (String.ofList (scheme ++ "://".toList), rest.dropWhile isSlash)
    else none
  else none

def ofText? (text : String) : Option Url := do
  let trimmed := (((text.toList.dropWhile isEdge).reverse.dropWhile isEdge).reverse)
  let (scheme, cs) ← afterScheme? (trimmed.filter (!isIgnored ·))
  let ends (c : Char) : Bool := isSlash c || c == '?' || c == '#'
  let host := cs.takeWhile (!ends ·)
  if host.isEmpty then none
  let rest := cs.dropWhile (!ends ·)
  let beforeFragment := rest.takeWhile (· ≠ '#')
  let path := beforeFragment.takeWhile (· ≠ '?')
  let query :=
    match beforeFragment.dropWhile (· ≠ '?') with
    | _ :: query => some (String.ofList (Percent.encode queryKeeps query))
    | [] => none
  some ⟨scheme ++ String.ofList host, readPath path, query⟩

def withPairs (url : Url) (pairs : List (String × String)) : Url :=
  let query := Form.append (url.query.getD "").toList pairs
  { url with query := if query.isEmpty then none else some (String.ofList query) }

/-- The address of a service and a path below it, joined by one slash. -/
def join (base path : String) : String :=
  String.ofList (((base.toList.reverse.dropWhile (· == '/')).reverse) ++
    '/' :: path.toList.dropWhile (· == '/'))

end Url

end ComposeDesk
