import ComposeDesk.Base64
import ComposeDesk.Json.Record
import ComposeDesk.Json.Writer
import ComposeDesk.Text.Basic

/-!
# Callers

The identity of a caller is a document that the gateway in front of the
service puts into a header, encoded as Base64.  It is trusted as it is.
-/

namespace ComposeDesk

open Json

structure Identity where
  org : String
  account : String
  email : String
  kind : String
  /-- Entitlements by name; of equal names the last one counts. -/
  entitlements : List (String × Bool)
  /-- The header as it came, without blanks around it; it is sent on to
  services that act for the caller. -/
  raw : String
deriving DecidableEq, Repr

inductive IdentityFault where
  | absent
  | malformed (text : String)
  | noOrganization
  | associate
deriving DecidableEq, Repr

def IdentityFault.message : IdentityFault → String
  | .absent => "missing identity header"
  | .malformed text => "invalid identity header: " ++ text
  | .noOrganization => "identity header has no organization id"
  | .associate => "unsupported account type: 'Associate'"

namespace Identity

structure Claims where
  account : String
  org : String
  internalOrg : String
  email : String
  kind : String

def internalCodec : Codec String :=
  (Record.start id |>.defaulted "org_id" .text "" id).codec "Internal"

def userCodec : Codec String :=
  (Record.start id |>.defaulted "email" .text "" id).codec "User"

def entitlementCodec : Codec Bool :=
  (Record.start id |>.defaulted "is_entitled" .bool false id).codec "Entitlement"

def Claims.record : Record Claims Claims :=
  Record.start Claims.mk
    |>.defaulted "account_number" .text "" (·.account)
    |>.defaulted "org_id" .text "" (·.org)
    |>.defaulted "internal" internalCodec "" (·.internalOrg)
    |>.defaulted "user" userCodec "" (·.email)
    |>.defaulted "type" .text "" (·.kind)

def envelope : Codec (Claims × List (String × Bool)) :=
  Record.codec
    (Record.start Prod.mk
      |>.required "identity" (Claims.record.codec "Inner") Prod.fst
      |>.defaulted "entitlements" (.table entitlementCodec) [] Prod.snd)
    "Envelope"

/-- The caller that a document names.  Employees are refused; of the two places
for the organization the outer one counts unless it is empty. -/
def ofClaims (raw : String) (claims : Claims) (entitlements : List (String × Bool)) :
    Except IdentityFault Identity :=
  if claims.kind = "Associate" then .error .associate
  else
    let org := if claims.org = "" then claims.internalOrg else claims.org
    if org = "" then .error .noOrganization
    else .ok ⟨org, claims.account, claims.email, claims.kind, entitlements, raw⟩

def ofHeader (value : String) : Except IdentityFault Identity :=
  let value := Text.trim value
  if value = "" then .error .absent
  else match Base64.decode (Utf8.encode value) with
    | .error fault => .error (.malformed fault.message)
    | .ok bytes =>
        match envelope.readText (Source.ofBytes bytes) with
        | .error fault => .error (.malformed fault.message)
        | .ok (claims, entitlements) => ofClaims value claims entitlements

/-- Whether the caller's organization holds an entitlement.  One that does not
say holds it if it has an account. -/
def isEntitled (identity : Identity) (name : String) : Bool :=
  match identity.entitlements.reverse.find? (·.1 == name) with
  | some (_, entitled) => entitled
  | none => identity.account ≠ ""

def document (org account email : String) : Json :=
  .obj
    [("entitlements", .obj [("rhel", .obj [("is_entitled", .bool true)])]),
      ("identity", .obj
        [("account_number", .str account),
          ("internal", .obj [("org_id", .str org)]),
          ("type", .str "User"),
          ("user", .obj [("email", .str email)])])]

def headerOf (document : Json) : String :=
  Utf8.lossy (Base64.encode (Utf8.encode document.compact))

def encode (org account email : String) : String :=
  headerOf (document org account email)

end Identity

end ComposeDesk
