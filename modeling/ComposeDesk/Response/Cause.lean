import ComposeDesk.Response.Status

/-!
# Causes

Some build errors only say that another one was the cause, which their details
hold.  Callers are shown the error at the root.
-/

namespace ComposeDesk

namespace BuildError

/-- The identifiers of errors that have another error as their cause. -/
def dependencyIds : List Int64 := [5, 9, 26, 28]

def cause? (error : BuildError) : Option BuildError :=
  if dependencyIds.contains error.id then
    error.details.bind fun details => (BuildError.reported.read details).toOption
  else none

def weight (error : BuildError) : Nat :=
  match error.details with
  | some details => details.size
  | none => 0

/-- The error that no other error was the cause of.  The details of a cause are
part of the details that hold it, so they are smaller. -/
def root (error : BuildError) : BuildError :=
  match error.cause? with
  | some cause => if cause.weight < error.weight then cause.root else cause
  | none => error
termination_by error.weight

end BuildError

end ComposeDesk
