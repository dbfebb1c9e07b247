import ComposeDesk.Json.Codec

/-!
# Replies

What a service that is asked over the network answers, and how asking fails.
-/

namespace ComposeDesk

/-- A reply as it came; what a status means is for the caller to say. -/
structure Reply where
  status : Nat
  body : List UInt8
deriving DecidableEq, Repr

namespace Reply

def isSuccess (reply : Reply) : Bool :=
  200 ≤ reply.status && reply.status < 300

def text (reply : Reply) : String :=
  Utf8.lossy reply.body

def read {α : Type} (reply : Reply) (codec : Codec α) : Except Json.Fault α :=
  codec.readText (Json.Source.ofBytes reply.body)

end Reply

inductive ServiceFault where
  /-- The request could not be sent, or no reply came. -/
  | http
  /-- The reply has a status that the request cannot use. -/
  | status (code : Nat) (body : String)
  /-- The body is not what was asked for. -/
  | decode (fault : Json.Fault)
  /-- No token could be had. -/
  | token (text : String)
  /-- The work cannot go on, and nothing is answered. -/
  | aborted
deriving DecidableEq, Repr

def ServiceFault.message : ServiceFault → String
  | .http => "request failed"
  | .status code body =>
      "unexpected status " ++ Decimal.ofNat code ++ ": " ++ body
  | .decode fault => "unable to decode response: " ++ fault.message
  | .token text => "token refresh failed: " ++ text
  | .aborted => ""

def Reply.decode {α : Type} (reply : Reply) (codec : Codec α) : Except ServiceFault α :=
  (reply.read codec).mapError .decode

end ComposeDesk
