import ComposeDesk.Calendar.Timestamp
import ComposeDesk.Downstream.Basic
import ComposeDesk.Url.Basic

/-!
# Requests over the network

The network answers a request or fails to.  What it answers may depend on all
that went over it before, so a link reads and changes a state.
-/

namespace ComposeDesk

inductive Method where
  | get
  | post
deriving DecidableEq, Repr

def Method.name : Method → String
  | .get => "GET"
  | .post => "POST"

inductive Body where
  | none
  | json (document : Json)
  | form (pairs : List (String × String))
deriving Repr

structure HttpRequest where
  method : Method
  url : Url
  /-- The header that says for whom the request is made. -/
  identity : Option String
  /-- The header that says who makes the request. -/
  authorization : Option String
  body : Body
deriving Repr

/-- A network and a clock, in a world of states `ν`. -/
structure Link (ν : Type) where
  send : HttpRequest → StateM ν (Option Reply)
  now : StateM ν Timestamp

namespace Link

variable {ν : Type}

def isHeaderValue (text : String) : Bool :=
  text.toList.all fun c => (32 ≤ c.toNat && c.toNat ≠ 127) || c = '\t'

/-- Send a request to an address given as text.  Nothing is sent if that is no
address or a header has a value that no header can have. -/
def request (link : Link ν) (method : Method) (address : String)
    (query : List (String × String)) (identity authorization : Option String) (body : Body) :
    Act ν ServiceFault Reply := do
  match Url.ofText? address with
  | none => throw .http
  | some url =>
      if identity.all isHeaderValue && authorization.all isHeaderValue then
        let url := if query.isEmpty then url else url.withPairs query
        match ← link.send ⟨method, url, identity, authorization, body⟩ with
        | some reply => return reply
        | none => throw .http
      else throw .http

/-- Ask for a document on behalf of a caller; a status without success is a
fault. -/
def fetch {α : Type} (link : Link ν) (method : Method) (address : String)
    (query : List (String × String)) (caller : Identity) (body : Body) (codec : Codec α) :
    Act ν ServiceFault α := do
  let reply ← link.request method address query (some caller.raw) none body
  if reply.isSuccess then reply.decode codec
  else throw (.status reply.status reply.text)

end Link

end ComposeDesk
