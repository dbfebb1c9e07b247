import ComposeDesk.Desk.Clone

/-!
# Refusals

An order or a copy that the build service does not take is one of three refusals.
One of them is told with its reason, the others in fixed words.
-/

namespace ComposeDesk

/-- What it comes to that the build service does not take what it is asked for. -/
inductive Refusal where
  /-- A repository of commits could not be resolved. -/
  | unresolved
  /-- The reason is for callers. -/
  | reasoned
  /-- It was not expected. -/
  | unexpected
deriving DecidableEq, Repr

def Build.ErrorBody.orderRefusal (body : Build.ErrorBody) : Refusal :=
  if body.id = "10" then .unresolved
  else if body.id = "24" ∨ body.id = "29" then .reasoned
  else .unexpected

def Build.ErrorBody.cloneRefusal (body : Build.ErrorBody) : Refusal :=
  if body.code = "IMAGE-BUILDER-COMPOSER-31" then .reasoned else .unexpected

theorem Build.ErrorBody.id_of_reasoned {body : Build.ErrorBody}
    (reasoned : body.orderRefusal = .reasoned) : body.id = "24" ∨ body.id = "29" := by
  unfold orderRefusal at reasoned
  split at reasoned
  · cases reasoned
  · split at reasoned
    · assumption
    · cases reasoned

theorem Build.ErrorBody.code_of_reasoned {body : Build.ErrorBody}
    (reasoned : body.cloneRefusal = .reasoned) : body.code = "IMAGE-BUILDER-COMPOSER-31" := by
  unfold cloneRefusal at reasoned
  split at reasoned
  · assumption
  · cases reasoned

def Refusal.error (words : String) (reply : Reply) : Refusal → Error
  | .unresolved => .downstream 400 "Error resolving OSTree repo" reply.text
  | .reasoned => .downstream 400 (Build.ErrorBody.ofReply reply).reason reply.text
  | .unexpected => reply.unexpected words

namespace Desk

def orderWords : String := "Failed posting compose request to osbuild-composer"

def cloneWords : String := "Failed posting clone request to osbuild-composer"

theorem refusedOrder_eq (reply : Reply) :
    refusedOrder reply =
      (Build.ErrorBody.ofReply reply).orderRefusal.error orderWords reply := by
  unfold refusedOrder Build.ErrorBody.orderRefusal
  simp only
  split
  · rfl
  · split <;> rfl

theorem refusedClone_eq (reply : Reply) :
    refusedClone reply =
      (Build.ErrorBody.ofReply reply).cloneRefusal.error cloneWords reply := by
  unfold refusedClone Build.ErrorBody.cloneRefusal
  simp only
  split <;> rfl

end Desk

end ComposeDesk
