import ComposeDesk.Downstream.Reply

/-!
# Compliance policies

What the compliance service knows of a policy, and how asking it fails.
-/

namespace ComposeDesk

structure PolicyData where
  policyId : String
  profileId : String
  tailoringId : String
  /-- The tailoring file, if the policy has one. -/
  tailoring : Option String
deriving DecidableEq, Repr

inductive PolicyFault where
  | unauthorized
  | majorVersion
  | minorVersion
  | notFound
  | unexpected (status : Nat)
  | http
  | decode (fault : Json.Fault)
deriving DecidableEq, Repr

def PolicyFault.message : PolicyFault → String
  | .unauthorized => "User is not authorized"
  | .majorVersion => "Major version of policy doesn't match requested major version"
  | .minorVersion => "No minor version of tailoring found in the requested policy"
  | .notFound => "Policy or its tailorings are missing"
  | .unexpected status => "Unexpected http status " ++ Decimal.ofNat status
  | .http => "compliance request failed"
  | .decode fault => "unable to decode compliance response: " ++ fault.message

end ComposeDesk
