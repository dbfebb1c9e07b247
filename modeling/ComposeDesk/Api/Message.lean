import ComposeDesk.Api.MediaType
import ComposeDesk.Error
import ComposeDesk.Identity
import ComposeDesk.Url.Form
import ComposeDesk.Uuid

/-!
# Requests and responses

What callers send over HTTP and what they are answered.  The parts of a request
are read one by one; the first that cannot be read decides the response.
-/

namespace ComposeDesk.Api

open ComposeDesk

inductive Verb where
  | get
  /-- Like `get`, but the body of the response is left out. -/
  | head
  | post
  | put
  | delete
  /-- What a browser asks before it lets a page of another origin ask more. -/
  | options
  | other
deriving DecidableEq, Repr

def Verb.ofName (name : String) : Verb :=
  if name = "GET" then .get
  else if name = "HEAD" then .head
  else if name = "POST" then .post
  else if name = "PUT" then .put
  else if name = "DELETE" then .delete
  else if name = "OPTIONS" then .options
  else .other

structure Request where
  verb : Verb
  /-- The path, and the query after a question mark. -/
  target : String
  /-- The header that names the caller. -/
  identity : Option String
  contentType : Option String
  body : List UInt8
deriving DecidableEq, Repr

inductive Content where
  | empty
  | json (document : Json)
  | text (text : String)
deriving Repr

structure Response where
  status : Nat
  content : Content
deriving Repr

namespace Response

def document {α : Type} (status : Nat) (codec : Codec α) (value : α) : Response :=
  ⟨status, .json (codec.write value)⟩

def bare (status : Nat) : Response := ⟨status, .empty⟩

def refusal (status : Nat) (message : String) : Response :=
  ⟨status, .json (.obj [("error", .str message)])⟩

/-- What is told of an error of the desk; an aborted request is not answered, for
which the status is zero. -/
def ofError : Error → Response
  | .aborted => bare 0
  | error => refusal error.answerStatus error.publicMessage

end Response

namespace Request

def path (request : Request) : String :=
  String.ofList (request.target.toList.takeWhile fun c => c ≠ '?' && c ≠ '#')

def query (request : Request) : String :=
  String.ofList
    (((request.target.toList.takeWhile (· ≠ '#')).dropWhile (· ≠ '?')).drop 1)

/-- Whether a header can be read as text. -/
def isVisible (header : String) : Bool :=
  header.toList.all fun c => (32 ≤ c.toNat && c.toNat < 127) || c = '\t'

def callerOf (request : Request) : Except IdentityFault Identity :=
  match request.identity with
  | none => .error .absent
  | some header =>
      if isVisible header then Identity.ofHeader header
      else .error (.malformed "failed to convert header to a str")

def faultStatus : IdentityFault → Nat
  | .associate => 400
  | _ => 401

def caller (request : Request) : Except Response Identity :=
  match request.callerOf with
  | .ok caller => .ok caller
  | .error fault => .error (.refusal (faultStatus fault) fault.message)

/-- How many bytes of a body are read: a longer one is refused unread. -/
def bodyLimit : Nat := 2097152

inductive BodyFault where
  /-- Its type is not that of a document. -/
  | type
  /-- It goes past the limit. -/
  | oversized
  /-- It is not the document that is expected. -/
  | document (fault : Json.Fault)
deriving DecidableEq, Repr

def BodyFault.message : BodyFault → String
  | .type => "Expected request with `Content-Type: application/json`"
  | .oversized => "Failed to buffer the request body: length limit exceeded"
  | .document (.refused path cause) =>
      "Failed to deserialize the JSON body into the target type: " ++
        (Json.Fault.refused path cause).placed
  | .document fault => "Failed to parse the request body as JSON: " ++ fault.message

def BodyFault.status : BodyFault → Nat
  | .type => 415
  | .oversized => 413
  | .document (.refused _ _) => 422
  | .document _ => 400

def isJson (request : Request) : Bool :=
  match request.contentType with
  | some type => isVisible type && (MediaType.ofText? type).any MediaType.isJson
  | none => false

/-- Read the body as a document.  Its type is looked at first, then its size. -/
def readBody {α : Type} (request : Request) (codec : Codec α) : Except BodyFault α :=
  if request.isJson then
    if bodyLimit < request.body.length then .error .oversized
    else (codec.readText (Json.Source.ofBytes request.body)).mapError .document
  else .error .type

def document {α : Type} (request : Request) (codec : Codec α) : Except Response α :=
  match request.readBody codec with
  | .ok value => .ok value
  | .error fault => .error (.refusal 400 fault.message)

/-- The body, if the request has one: one without a type has none.  A fault is
told as plain text. -/
def document? {α : Type} (request : Request) (codec : Codec α) :
    Except Response (Option α) :=
  if request.contentType.isNone then .ok none
  else match request.readBody codec with
    | .ok value => .ok (some value)
    | .error fault => .error ⟨fault.status, .text fault.message⟩

def part (name segment : String) : Except Response String :=
  match Utf8.decode? (Percent.decode (Utf8.encode segment)) with
  | some text => .ok text
  | none => .error ⟨400, .text ("Invalid URL: Invalid UTF-8 in `" ++ name ++ "`")⟩

def identifier (segment : String) : Except Response Uuid := do
  let text ← part "id" segment
  match Uuid.ofText? text with
  | some id => .ok id
  | none => .error (.refusal 400 ("Invalid id: " ++ text))

end Request

end ComposeDesk.Api
