import ComposeDesk.Decimal.Digits
import ComposeDesk.Store.Basic
import ComposeDesk.Url.Form

/-!
# Queries

What a query asks for.  Each resource knows some of the parameters and ignores
all others; a parameter that is known must not come twice.
-/

namespace ComposeDesk.Api

open ComposeDesk

inductive Parameter where
  | limit
  | offset
  | version
  | name
  | search
deriving DecidableEq, Repr

def Parameter.key : Parameter → String
  | .limit => "limit"
  | .offset => "offset"
  | .version => "version"
  | .name => "name"
  | .search => "search"

inductive QueryFault where
  | duplicate (parameter : Parameter)
  | number (parameter : Parameter) (fault : Decimal.Fault)
deriving DecidableEq, Repr

def QueryFault.message : QueryFault → String
  | .duplicate parameter =>
      "Failed to deserialize query string: duplicate field `" ++ parameter.key ++ "`"
  | .number parameter fault =>
      "Failed to deserialize query string: " ++ parameter.key ++ ": " ++ fault.message

structure Query where
  limit : Option Int
  offset : Option Int
  version : Option Int
  name : Option String
  search : Option String
deriving DecidableEq, Repr

namespace Query

def empty : Query := ⟨none, none, none, none, none⟩

def holds (query : Query) : Parameter → Bool
  | .limit => query.limit.isSome
  | .offset => query.offset.isSome
  | .version => query.version.isSome
  | .name => query.name.isSome
  | .search => query.search.isSome

/-- A number of 64 bits. -/
def long (parameter : Parameter) (value : String) : Except QueryFault Int :=
  (Decimal.integer 9223372036854775808 9223372036854775807 value).mapError (.number parameter)

/-- A number of 32 bits. -/
def short (parameter : Parameter) (value : String) : Except QueryFault Int :=
  (Decimal.integer 2147483648 2147483647 value).mapError (.number parameter)

def put (query : Query) (parameter : Parameter) (value : String) : Except QueryFault Query :=
  match parameter with
  | .limit => (long .limit value).map fun n => { query with limit := some n }
  | .offset => (long .offset value).map fun n => { query with offset := some n }
  | .version => (short .version value).map fun n => { query with version := some n }
  | .name => .ok { query with name := some value }
  | .search => .ok { query with search := some value }

def take (known : List Parameter) (query : Query) (pair : String × String) :
    Except QueryFault Query :=
  match known.find? (·.key = pair.1) with
  | none => .ok query
  | some parameter =>
      if query.holds parameter then .error (.duplicate parameter)
      else query.put parameter pair.2

def ofText (known : List Parameter) (text : String) : Except QueryFault Query :=
  (Form.decode text).foldlM (take known) empty

def defaultLimit : Int := 100

/-- The part of a list that is asked for; none if it has a negative number. -/
def range? (query : Query) : Option Range :=
  let limit := query.limit.getD defaultLimit
  let offset := query.offset.getD 0
  if limit < 0 ∨ offset < 0 then none else some ⟨limit, offset⟩

end Query

end ComposeDesk.Api
