import ComposeDesk.Build.Order
import ComposeDesk.Downstream.Catalog
import ComposeDesk.Downstream.Policy
import ComposeDesk.Downstream.Source
import ComposeDesk.Identity

/-!
# The services behind the desk

The desk asks four services.  What they answer may depend on all that was
asked before: an act reads and changes the state of a world, and may fail.
What was done before a failure stays done.
-/

namespace ComposeDesk

/-- Something done in a world of states `σ`. -/
abbrev Act (σ ε α : Type) := ExceptT ε (StateM σ) α

structure BuildService (σ : Type) where
  compose : Build.Order → Act σ ServiceFault Reply
  composeStatus : Uuid → Act σ ServiceFault Reply
  composeMetadata : Uuid → Act σ ServiceFault Reply
  cloneCompose : Uuid → Build.CloneOrder → Act σ ServiceFault Reply
  cloneStatus : Uuid → Act σ ServiceFault Reply
  /-- Asked to see whether the service is there. -/
  openapi : Act σ ServiceFault Reply

structure Downstream (σ : Type) where
  build : BuildService σ
  /-- The accounts of a source. -/
  uploadInfo : Identity → String → Act σ ServiceFault UploadInfo
  /-- The repositories of some URLs and identifiers; the flag selects those of
  callers. -/
  repositories :
    Identity → (urls ids : List String) → (external : Bool) → Act σ ServiceFault Catalog
  /-- The snapshots of some repositories for a date. -/
  snapshotsForDate :
    Identity → (date : String) → (uuids : List String) →
      Act σ ServiceFault (List SnapshotForDate)
  /-- A policy for a major and a minor release. -/
  policyData :
    Identity → (major minor : UInt32) → (policy : String) → Act σ PolicyFault PolicyData

end ComposeDesk
