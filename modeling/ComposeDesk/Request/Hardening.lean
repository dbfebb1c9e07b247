import ComposeDesk.Json.Record
import ComposeDesk.Uuid

/-!
# Hardening

What is done to make an image safer.
-/

namespace ComposeDesk

/-- Hardening: a compliance policy whose tailoring is fetched when the image is
built, or a plain profile. -/
inductive OpenScap where
  | policy (id : Uuid)
  | profile (id : String) (name description : Option String)
deriving DecidableEq, Repr

def OpenScap.policyRecord : Record Uuid OpenScap :=
  Record.start OpenScap.policy
    |>.required "policy_id" Uuid.codec id

def OpenScap.profileRecord : Record (String × Option String × Option String) OpenScap :=
  Record.start OpenScap.profile
    |>.required "profile_id" .text (·.1)
    |>.optional "profile_name" .text (·.2.1)
    |>.optional "profile_description" .text (·.2.2)

/-- Hardening as a document: a policy if it names one, else a profile. -/
def OpenScap.codec : Codec OpenScap :=
  .anyOf "OpenScap" [OpenScap.policyRecord.shape, OpenScap.profileRecord.shape]
    fun
    | .policy id => .obj (OpenScap.policyRecord.write id)
    | .profile id name description =>
        .obj (OpenScap.profileRecord.write (id, name, description))

structure FirewallServices where
  enabled : Option (List String)
  disabled : Option (List String)
deriving DecidableEq, Repr

def FirewallServices.record : Record FirewallServices FirewallServices :=
  Record.start FirewallServices.mk
    |>.optional "enabled" (.list .text) (·.enabled)
    |>.optional "disabled" (.list .text) (·.disabled)

def FirewallServices.codec : Codec FirewallServices :=
  FirewallServices.record.codec "FirewallServices"

structure Firewall where
  ports : Option (List String)
  services : Option FirewallServices
deriving DecidableEq, Repr

def Firewall.record : Record Firewall Firewall :=
  Record.start Firewall.mk
    |>.optional "ports" (.list .text) (·.ports)
    |>.optional "services" FirewallServices.codec (·.services)

def Firewall.codec : Codec Firewall :=
  Firewall.record.codec "Firewall"

/-- Whether only approved cryptography is used. -/
structure Fips where
  enabled : Option Bool
deriving DecidableEq, Repr

def Fips.record : Record Fips Fips :=
  Record.start Fips.mk
    |>.optional "enabled" .bool (·.enabled)

def Fips.codec : Codec Fips :=
  Fips.record.codec "Fips"

structure CaCertificates where
  pemCerts : List String
deriving DecidableEq, Repr

def CaCertificates.record : Record CaCertificates CaCertificates :=
  Record.start CaCertificates.mk
    |>.required "pem_certs" (.list .text) (·.pemCerts)

def CaCertificates.codec : Codec CaCertificates :=
  CaCertificates.record.codec "CaCertificates"

end ComposeDesk
