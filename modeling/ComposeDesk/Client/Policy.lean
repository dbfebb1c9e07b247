import ComposeDesk.Client.Http

/-!
# The client of the compliance service

A policy is put together from three documents: the policy, its tailorings, and
the tailoring file for a minor release.
-/

namespace ComposeDesk

namespace PolicyClient

variable {ν : Type}

structure Policy where
  id : String
  profile : String
  major : UInt32
deriving DecidableEq, Repr

def Policy.record : Record Policy Policy :=
  Record.start Policy.mk
    |>.required "id" .text (·.id)
    |>.required "ref_id" .text (·.profile)
    |>.required "os_major_version" .uint32 (·.major)

structure Tailoring where
  id : String
  minor : UInt32
deriving DecidableEq, Repr

def Tailoring.record : Record Tailoring Tailoring :=
  Record.start Tailoring.mk
    |>.required "id" .text (·.id)
    |>.required "os_minor_version" .uint32 (·.minor)

def policyCodec : Codec Policy :=
  (Record.start id |>.required "data" (Policy.record.codec "Policy") id).codec "PolicyResponse"

def tailoringsCodec : Codec (List Tailoring) :=
  (Record.start id |>.required "data" (.list (Tailoring.record.codec "Tailoring")) id).codec
    "TailoringsResponse"

/-- Ask for a document below an address.  The reply has a body, or says that
there is none. -/
def get (link : Link ν) (base : String) (caller : Identity) (path : String) :
    Act ν PolicyFault Reply := do
  let reply ←
    (link.request .get (Url.join base path) [] (some caller.raw) none .none).adapt
      fun _ => .http
  if reply.status = 401 ∨ reply.status = 403 then throw .unauthorized
  if reply.status = 404 then throw .notFound
  if reply.status ≠ 200 ∧ reply.status ≠ 204 then throw (.unexpected reply.status)
  return reply

def decode {α : Type} (reply : Reply) (codec : Codec α) : Except PolicyFault α :=
  (reply.read codec).mapError .decode

def policyData (link : Link ν) (base : String) (caller : Identity) (major minor : UInt32)
    (policy : String) : Act ν PolicyFault PolicyData := do
  let reply ← get link base caller ("policies/" ++ policy)
  let found ← decode reply policyCodec
  if found.major ≠ major then throw .majorVersion
  let reply ← get link base caller ("policies/" ++ policy ++ "/tailorings")
  let tailorings ← decode reply tailoringsCodec
  match tailorings.find? (·.minor = minor) with
  | none => throw .minorVersion
  | some tailoring =>
      let reply ← get link base caller
        ("policies/" ++ policy ++ "/tailorings/" ++ tailoring.id ++ "/tailoring_file.json")
      let file :=
        if reply.status = 204 ∨ reply.body.isEmpty then none else some reply.text
      return ⟨found.id, found.profile, tailoring.id, file⟩

end PolicyClient

end ComposeDesk
