import ComposeDesk.Json.Fault

/-!
# Errors of the desk

Whatever goes wrong below the desk becomes one of these errors; only what
callers may know of it is told to them.
-/

namespace ComposeDesk

inductive Error where
  /-- The thing is not there, or belongs to another organization. -/
  | notFound (text : String)
  | validation (text : String)
  | quotaExceeded
  | forbidden (text : String)
  /-- A name is taken within the organization. -/
  | conflict (text : String)
  /-- The build service refused; `detail` is not for callers. -/
  | downstream (status : Nat) (text detail : String)
  | internal (text : String)
  /-- A stored document or an answer does not have its form. -/
  | document (fault : Json.Fault)
  | other (text : String)
  /-- The work cannot go on, and nothing is answered. -/
  | aborted
deriving DecidableEq, Repr

namespace Error

/-- The HTTP status; an aborted request has none. -/
def status : Error → Nat
  | .notFound _ => 404
  | .validation _ => 400
  | .quotaExceeded => 403
  | .forbidden _ => 403
  | .conflict _ => 422
  | .downstream status _ _ => status
  | .internal _ => 500
  | .document _ => 500
  | .other _ => 500
  | .aborted => 0

def message : Error → String
  | .notFound text => text
  | .validation text => text
  | .quotaExceeded => "Quota exceeded for user"
  | .forbidden text => text
  | .conflict text => text
  | .downstream _ text _ => text
  | .internal text => "Internal error: " ++ text
  | .document fault => "JSON serialization error: " ++ fault.message
  | .other text => text
  | .aborted => ""

/-- What callers are told. -/
def publicMessage : Error → String
  | .internal _ => "Internal server error"
  | .document _ => "Internal server error"
  | .other _ => "Internal server error"
  | error => error.message

/-- The status of the answer: one that no answer can have becomes 500. -/
def answerStatus (error : Error) : Nat :=
  if 100 ≤ error.status ∧ error.status ≤ 999 then error.status else 500

end Error

end ComposeDesk
