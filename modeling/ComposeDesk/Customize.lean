import ComposeDesk.Repositories

/-!
# Customizations for the build service

The customizations of a request are checked, completed from the catalog and
the compliance service, and put into the form that the build service takes.
-/

namespace ComposeDesk

inductive CustomizationFault where
  | imageTooLarge (provider : String)
  | installerNotSupported (type : ImageType)
  | policy (id : Uuid) (major minor : UInt32) (fault : PolicyFault)
  | invalidFileData (path : String)
  | invalidDistribution (text : String)
  | repository (fault : RepositoryFault)
  | aborted
deriving DecidableEq, Repr

/-- The size in bytes that EC2 and Azure images must not exceed. -/
def maxImageSize : UInt64 := 68719476736

def CustomizationFault.message : CustomizationFault → String
  | .imageTooLarge provider =>
      "Total " ++ provider ++ " image size cannot exceed " ++
        Decimal.ofNat maxImageSize.toNat ++ " bytes"
  | .installerNotSupported type =>
      "Installer customizations are not supported for image type " ++ type.name
  | .policy id _ _ fault => "compliance policy " ++ id.toText ++ ": " ++ fault.message
  | .invalidFileData path => "Unable to decode base64 data of file " ++ path
  | .invalidDistribution text => text
  | .repository fault => fault.message
  | .aborted => ""

/-- The sum of two sizes, or the largest size if they exceed it. -/
def addSizes (a b : UInt64) : UInt64 :=
  if a.toNat + b.toNat < UInt64.size then a + b else UInt64.ofNat (UInt64.size - 1)

namespace ComposeRequest

def filesystemSize (request : ComposeRequest) : UInt64 :=
  (((request.customizations.bind (·.filesystem)).getD []).map (·.minSize)).foldl addSizes 0

/-- The size of the image: what is asked for, or what its mount points need. -/
def totalSize (request : ComposeRequest) (image : ImageRequest) : UInt64 :=
  max request.filesystemSize (image.size.getD 0)

def checkSize (request : ComposeRequest) : Except CustomizationFault Unit :=
  match request.imageRequests with
  | [] => .ok ()
  | image :: _ =>
      if request.totalSize image ≤ maxImageSize then .ok ()
      else if image.imageType.isAws then .error (.imageTooLarge "AWS")
      else if image.imageType.isAzure then .error (.imageTooLarge "Azure")
      else .ok ()

/-- Refuse installer settings for images that do not install. -/
def checkInstaller (request : ComposeRequest) : Except CustomizationFault Unit :=
  match request.imageRequests with
  | [] => .ok ()
  | image :: _ =>
      if (request.customizations.bind (·.installer)).isSome && !image.imageType.isInstaller then
        .error (.installerNotSupported image.imageType)
      else .ok ()

end ComposeRequest

namespace Customize

def adminGroup : String := "wheel"

def insightsService : String := "rhcd"

def tailoringFolder : String := "/etc/osbuild"

def tailoringPath : String := "/etc/osbuild/openscap-tailoring.json"

def withElement (name : String) (names : List String) : List String :=
  if names.contains name then names else names ++ [name]

def user (user : User) : Build.User :=
  ⟨user.name, some (withElement adminGroup (user.groups.getD [])), user.sshKey,
    user.password⟩

def fileData (file : File) : Except CustomizationFault (Option String) :=
  match file.data, file.dataEncoding with
  | some data, some encoding =>
      if encoding = "base64" then
        match Base64.decode (Utf8.encode data) with
        | .ok bytes => .ok (some (Utf8.lossy bytes))
        | .error _ => .error (.invalidFileData file.path)
      else .ok (some data)
  | data, _ => .ok data

def file (file : File) : Except CustomizationFault Build.File :=
  match fileData file with
  | .ok data =>
      .ok ⟨file.path, file.mode, file.user, file.group, data, file.ensureParents⟩
  | .error fault => .error fault

def subscription (subscription : Subscription) : Build.Subscription :=
  ⟨Decimal.ofInt subscription.organization.toInt, subscription.activationKey,
    subscription.serverUrl, subscription.baseUrl, subscription.insights, subscription.rhc⟩

/-- Services with the one that Insights needs, if the subscription asks for
Insights. -/
def services (customizations : Customizations) : Option Services :=
  match customizations.subscription with
  | some subscription =>
      if subscription.insights then
        let held := customizations.services.getD ⟨none, none, none⟩
        some { held with enabled := some (withElement insightsService (held.enabled.getD [])) }
      else customizations.services
  | none => customizations.services

variable {σ : Type}

def ask {α : Type} (act : Act σ RepositoryFault α) : Act σ CustomizationFault α :=
  act.adapt .repository

/-- The build-time repositories: snapshots if there is a date, else filled in
from the catalog. -/
def payload (services : Downstream σ) (caller : Identity) (date : Option String) :
    Option (List Repository) → Act σ CustomizationFault (Option (List Build.Repository))
  | none => pure none
  | some repositories =>
      match date with
      | some date => do
          let urls := repositories.filterMap (·.baseurl)
          let ids := repositories.filterMap fun repository =>
            if repository.baseurl.isSome then none else repository.id
          let pinned ← ask (Repositories.snapshots services caller urls ids true date)
          return some pinned.build
      | none =>
          if repositories.isEmpty then pure none
          else do
            let filled ← ask (Repositories.payload services caller repositories)
            return some filled

/-- The configured repositories: snapshots if there is a date, else filled in
from the catalog. -/
def custom (services : Downstream σ) (caller : Identity) (date : Option String) :
    Option (List CustomRepository) →
      Act σ CustomizationFault (Option (List CustomRepository))
  | none => pure none
  | some repositories =>
      match date with
      | some date => do
          let first (repository : CustomRepository) : Option String :=
            (repository.baseurl.getD []).head?
          let urls := repositories.filterMap first
          let ids := repositories.filterMap fun repository =>
            if (first repository).isSome || repository.id = "" then none
            else some repository.id
          let pinned ← ask (Repositories.snapshots services caller urls ids true date)
          return some pinned.configured
      | none =>
          if repositories.isEmpty then pure none
          else do
            let filled ← ask (Repositories.custom services caller repositories)
            return some filled

structure Hardening where
  openscap : Option Build.OpenScap
  tailoring : Option String
deriving DecidableEq, Repr

def release (distribution : Distribution) : Except CustomizationFault (UInt32 × UInt32) :=
  match distribution.rhelVersion with
  | .ok release => .ok release
  | .error .cutInsideCharacter => .error .aborted
  | .error fault => .error (.invalidDistribution fault.message)

def hardening (services : Downstream σ) (caller : Identity) (distribution : Distribution) :
    Option OpenScap → Act σ CustomizationFault Hardening
  | none => pure ⟨none, none⟩
  | some (.profile id _ _) =>
      if id = "" then pure ⟨none, none⟩ else pure ⟨some ⟨id, none, none⟩, none⟩
  | some (.policy id) => do
      let (major, minor) ← release distribution
      let policy ← (services.policyData caller major minor id.toText).adapt
        (.policy id major minor)
      match policy.tailoring with
      | none => return ⟨some ⟨policy.profileId, some id, none⟩, none⟩
      | some tailoring =>
          return ⟨some ⟨policy.profileId, some id, some ⟨policy.profileId, tailoringPath⟩⟩,
            some tailoring⟩

def joined {α : Type} : Option (List α) → Option (List α) → Option (List α)
  | none, given => given
  | some first, given => some (first ++ given.getD [])

/-- The directories: the folder of the tailoring file before all others. -/
def directories (hardening : Hardening) (given : Option (List Directory)) :
    Option (List Directory) :=
  joined (hardening.tailoring.map fun _ => [⟨tailoringFolder, none, none, none, none⟩]) given

/-- The files: the tailoring file before all others. -/
def files (hardening : Hardening) (given : Option (List Build.File)) :
    Option (List Build.File) :=
  joined
    (hardening.tailoring.map fun text => [⟨tailoringPath, none, none, none, some text, none⟩])
    given

def givenFiles : Option (List File) → Except CustomizationFault (Option (List Build.File))
  | none => .ok none
  | some given => (given.mapM file).map some

/-- The customizations of an image, pinned to a date if there is one. -/
def prepare (services : Downstream σ) (caller : Identity) (distribution : Distribution)
    (date : Option String) (customizations : Customizations) :
    Act σ CustomizationFault Build.Customizations := do
  let payload ← payload services caller date customizations.payloadRepositories
  let custom ← custom services caller date customizations.customRepositories
  let hardening ← hardening services caller distribution customizations.openscap
  let given ← givenFiles customizations.files
  return {
    subscription := customizations.subscription.map subscription
    packages := customizations.packages
    payloadRepositories := payload
    customRepositories := custom
    openscap := hardening.openscap
    filesystem := customizations.filesystem.filter (!·.isEmpty)
    users := customizations.users.map (·.map user)
    groups := customizations.groups
    partitioningMode := customizations.partitioningMode
    containers := customizations.containers
    directories := directories hardening customizations.directories
    files := files hardening given
    locale := customizations.locale
    kernel := customizations.kernel
    services := Customize.services customizations
    firewall := customizations.firewall
    timezone := customizations.timezone
    installationDevice := customizations.installationDevice
    fdo := customizations.fdo
    ignition := customizations.ignition
    fips := customizations.fips
    installer := customizations.installer
    cacerts := customizations.cacerts
    hostname := customizations.hostname }

def ofRequest (services : Downstream σ) (caller : Identity) (distribution : Distribution)
    (request : ComposeRequest) : Act σ CustomizationFault (Option Build.Customizations) := do
  match request.customizations with
  | none => return none
  | some customizations =>
      let date := request.imageRequests.head?.bind (·.snapshotDate)
      let prepared ← prepare services caller distribution date customizations
      return some prepared

end Customize

end ComposeDesk
