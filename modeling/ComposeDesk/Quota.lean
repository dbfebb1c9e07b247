import ComposeDesk.Json.Record
import ComposeDesk.Store.Compose

/-!
# Quotas

How many composes an organization may have.  Quotas stand in a file that names
organizations, and has a default for all others.
-/

namespace ComposeDesk

/-- How many composes an organization may have within a window of time, in
nanoseconds. -/
structure Quota where
  limit : Int64
  window : Int64
deriving DecidableEq, Repr

def Quota.record : Record Quota Quota :=
  Record.start Quota.mk
    |>.required "quota" .int64 (·.limit)
    |>.required "slidingWindow" .int64 (·.window)

def Quota.codec : Codec Quota :=
  Quota.record.codec "Quota"

inductive FileText where
  | absent
  | unreadable (reason : String)
  | text (text : String)
deriving DecidableEq, Repr

structure QuotaFile where
  path : String
  content : FileText
deriving DecidableEq, Repr

inductive QuotaFault where
  | absentFile (path : String)
  | unreadable (path reason : String)
  | noDefault (path : String)
deriving DecidableEq, Repr

def QuotaFault.message : QuotaFault → String
  | .absentFile path => "No config file for quotas found at " ++ path
  | .unreadable path reason => "Failed to read quota file " ++ path ++ ": " ++ reason
  | .noDefault path => "No default values in the quotas' file " ++ path

namespace QuotaFile

def quotas (file : QuotaFile) : Except QuotaFault (List (String × Quota)) :=
  match file.content with
  | .absent => .error (.absentFile file.path)
  | .unreadable reason => .error (.unreadable file.path reason)
  | .text text =>
      ((Codec.table Quota.codec).readText (Json.Source.ofString text)).mapError fun fault =>
        .unreadable file.path fault.message

/-- The last entry of a name. -/
def entry? (quotas : List (String × Quota)) (name : String) : Option Quota :=
  (quotas.reverse.find? (·.1 == name)).map (·.2)

/-- The quota of an organization: its own one, or the one for all others. -/
def quotaFor (file : QuotaFile) (org : String) : Except QuotaFault Quota := do
  let quotas ← file.quotas
  match entry? quotas org <|> entry? quotas "default" with
  | some quota => return quota
  | none => throw (.noDefault file.path)

end QuotaFile

/-- The file that the desk goes by, read anew for each request.  Without a file
there are no quotas. -/
structure QuotaGuard where
  file : Option QuotaFile
deriving DecidableEq, Repr

namespace QuotaGuard

/-- The guard of a file; one without a path stands for none. -/
def ofFile (file : QuotaFile) : QuotaGuard :=
  ⟨if file.path = "" then none else some file⟩

def disabled : QuotaGuard := ⟨none⟩

def quotaFor (guard : QuotaGuard) (org : String) : Except QuotaFault (Option Quota) :=
  match guard.file with
  | none => .ok none
  | some file => (file.quotaFor org).map some

def allows (guard : QuotaGuard) (org : String) (store : Store) (now : Timestamp) :
    Except QuotaFault Bool := do
  match ← guard.quotaFor org with
  | none => return true
  | some quota =>
      let count : Int := store.countComposes org now quota.window.toInt
      return decide (count < quota.limit.toInt)

end QuotaGuard

end ComposeDesk
