import ComposeDesk.Customize
import ComposeDesk.Error
import ComposeDesk.Metrics
import ComposeDesk.Quota
import ComposeDesk.Registry
import ComposeDesk.Repositories
import ComposeDesk.Store.Blueprint
import ComposeDesk.Upload

/-!
# The desk

The desk takes requests of callers, has images built by the services behind
it, and remembers what was built for whom.  Its work changes the store and the
metrics step by step, and the world outside: the services, the clock, and the
identifiers that are drawn.  What was done before an error stays done.
-/

namespace ComposeDesk

/-- What the desk is set up with. -/
structure Desk (σ : Type) where
  services : Downstream σ
  registry : Registry
  quotas : QuotaGuard
  uploads : UploadSettings
  /-- The clock. -/
  now : StateM σ Timestamp
  /-- Draw an identifier that was never drawn. -/
  drawId : StateM σ Uuid
  /-- The hash of a password, under a salt that is drawn. -/
  crypt : String → StateM σ String

/-- What changes while the desk works. -/
structure DeskState (σ : Type) where
  store : Store
  metrics : Metrics
  world : σ

abbrev Work (σ α : Type) := ExceptT Error (StateM (DeskState σ)) α

namespace Work

variable {σ ε α : Type}

def outside (act : StateM σ α) : Work σ α :=
  ExceptT.mk fun state =>
    let (value, world) := act state.world
    (.ok value, { state with world })

def ask (tell : ε → Error) (act : Act σ ε α) : Work σ α :=
  ExceptT.mk fun state =>
    let (result, world) := act.run state.world
    (result.mapError tell, { state with world })

def check (tell : ε → Error) (result : Except ε α) : Work σ α :=
  ExceptT.mk fun state => (result.mapError tell, state)

def of (result : Except Error α) : Work σ α :=
  ExceptT.mk fun state => (result, state)

def look (find : Store → α) : Work σ α :=
  ExceptT.mk fun state => (.ok (find state.store), state)

def change (tell : ε → Error) (write : Store → Except ε (Store × α)) : Work σ α :=
  ExceptT.mk fun state =>
    match write state.store with
    | .ok (store, value) => (.ok value, { state with store })
    | .error fault => (.error (tell fault), state)

def measure (update : Metrics → Metrics) : Work σ Unit :=
  ExceptT.mk fun state => (.ok (), { state with metrics := update state.metrics })

end Work

def StoreFault.error (fault : StoreFault) : Error :=
  match fault with
  | .notFound _ => .notFound fault.message
  | .composeExists _ | .nameTaken _ => .conflict fault.message

def QuotaFault.error (fault : QuotaFault) : Error :=
  .internal fault.message

def ServiceFault.error : ServiceFault → Error
  | .aborted => .aborted
  | fault => .internal fault.message

def RepositoryFault.error (fault : RepositoryFault) : Error :=
  match fault with
  | .invalidDate _ | .snapshotDisabled _ _ | .unresolved _ => .validation fault.message
  | .catalog inner => match inner with
      | .aborted => .aborted
      | _ => .internal fault.message
  | .missingSnapshots _ _ | .unexpected _ => .internal fault.message

def UploadFault.error (fault : UploadFault) : Error :=
  match fault with
  | .sourceDecode _ => .internal fault.message
  | _ => .validation fault.message

def PolicyFault.error (policy : Uuid) (major : UInt32) (fault : PolicyFault) : Error :=
  match fault with
  | .unauthorized =>
      .forbidden ("User is not authorized to get compliance data for given policy ID (" ++
        policy.toText ++ ")")
  | .majorVersion =>
      .validation ("Compliance policy (" ++ policy.toText ++
        ") does not support requested major version " ++ Decimal.ofNat major.toNat)
  | .notFound | .minorVersion =>
      .validation ("Compliance policy (" ++ policy.toText ++
        ") or its tailorings weren't found")
  | .unexpected _ | .http | .decode _ =>
      .internal ("Unable to get compliance data for policy " ++ policy.toText ++ ": " ++
        fault.message)

def CustomizationFault.error (fault : CustomizationFault) : Error :=
  match fault with
  | .repository inner => inner.error
  | .policy id major _ inner => inner.error id major
  | .aborted => .aborted
  | _ => .validation fault.message

/-- An unexpected reply of the build service; its body is not for callers. -/
def Reply.unexpected (reply : Reply) (text : String) : Error :=
  .downstream 500 text reply.text

namespace Desk

variable {σ : Type}

def entitlement : String := "rhel"

/-- How far back lists go: fourteen days, in nanoseconds. -/
def listingWindow : Int := 14 * 86400 * 1000000000

def distributionFor (desk : Desk σ) (caller : Identity) (name : String) :
    Except Error Distribution :=
  match desk.registry.get? name (caller.isEntitled entitlement) with
  | some distribution => .ok distribution
  | none => .error (.validation ("Distribution " ++ name ++ " not available"))

end Desk

end ComposeDesk
