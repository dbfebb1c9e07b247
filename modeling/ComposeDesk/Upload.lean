import ComposeDesk.Downstream.Basic

/-!
# Upload targets

The upload target of a request is paired with the image type, and sources that
stand for accounts are looked up.
-/

namespace ComposeDesk

inductive UploadFault where
  | invalidImageType
  | missingShareTarget
  | azureTarget
  | sourceRequest (source : String)
  | sourceDecode (source : String)
  | awsSourceUnresolved (source : String)
  | azureSourceUnresolved (source : String)
deriving DecidableEq, Repr

def UploadFault.message : UploadFault → String
  | .invalidImageType => "Invalid image type for upload target"
  | .missingShareTarget => "Expected at least one source or account to share the image with"
  | .azureTarget =>
      "Request must contain either (1) a source id, and no tenant or subscription ids or " ++
        "(2) tenant and subscription ids, and no source id."
  | .sourceRequest source => "Unable to request source: " ++ source
  | .sourceDecode source => "Unable to resolve source: " ++ source
  | .awsSourceUnresolved source =>
      "Unable to resolve source " ++ source ++ " to an aws account id"
  | .azureSourceUnresolved source =>
      "Unable to resolve source " ++ source ++
        " to an Azure tenant id or subscription id."

/-- Settings of the desk that callers cannot choose. -/
structure UploadSettings where
  awsRegion : String
  gcpRegion : String
  gcpBucket : Option String
deriving DecidableEq, Repr

namespace UploadTarget

def s3Kind? : ImageType → Option Build.ImageKind
  | .edgeCommit | .rhelEdgeCommit => some .edgeCommit
  | .edgeInstaller | .rhelEdgeInstaller => some .edgeInstaller
  | .guestImage => some .guestImage
  | .imageInstaller => some .imageInstaller
  | .vsphere => some .vsphere
  | .vsphereOva => some .vsphereOva
  | .wsl => some .wsl
  | _ => none

variable {σ : Type}

def lookUp (services : Downstream σ) (caller : Identity) (source : String) :
    Act σ UploadFault UploadInfo :=
  (services.uploadInfo caller source).adapt fun
    | .decode _ => .sourceDecode source
    | _ => .sourceRequest source

/-- The EC2 account of a source; account identifiers take twelve bytes. -/
def awsAccount (services : Downstream σ) (caller : Identity) (source : String) :
    Act σ UploadFault String := do
  let info ← lookUp services caller source
  match info.aws.bind (·.accountId) with
  | some account =>
      if account.utf8ByteSize = 12 then return account
      else throw (.awsSourceUnresolved source)
  | none => throw (.awsSourceUnresolved source)

def awsAccounts (services : Downstream σ) (caller : Identity)
    (accounts sources : Option (List String)) : Act σ UploadFault (List String) := do
  let accounts := accounts.getD []
  let sources := sources.getD []
  if accounts.isEmpty && sources.isEmpty then throw .missingShareTarget
  let found ← sources.mapM (awsAccount services caller)
  return accounts ++ found

/-- The tenant and the subscription of an Azure target: both named, or those of
a source. -/
def azurePlace (services : Downstream σ) (caller : Identity) (target : AzureTarget) :
    Act σ UploadFault (String × String) := do
  match target.sourceId, target.tenantId, target.subscriptionId with
  | none, some tenant, some subscription => return (tenant, subscription)
  | some source, none, none =>
      let info ← lookUp services caller source
      match info.azure.bind (·.tenantId), info.azure.bind (·.subscriptionId) with
      | some tenant, some subscription => return (tenant, subscription)
      | _, _ => throw (.azureSourceUnresolved source)
  | _, _, _ => throw .azureTarget

def resolve (services : Downstream σ) (caller : Identity) (settings : UploadSettings)
    (type : ImageType) : UploadTarget → Act σ UploadFault (Build.Upload × Build.ImageKind)
  | .aws target => do
      if !type.isAws then throw .invalidImageType
      let accounts ← awsAccounts services caller target.shareWithAccounts
        target.shareWithSources
      return (.aws ⟨settings.awsRegion, accounts⟩, .aws)
  | .awsS3 =>
      match s3Kind? type with
      | some kind => pure (.awsS3 settings.awsRegion, kind)
      | none => throw .invalidImageType
  | .gcp target =>
      if type = .gcp then
        pure (.gcp ⟨settings.gcpRegion, settings.gcpBucket, target.shareWithAccounts⟩, .gcp)
      else throw .invalidImageType
  | .azure target => do
      if !type.isAzure then throw .invalidImageType
      let (tenant, subscription) ← azurePlace services caller target
      return (.azure ⟨tenant, subscription, target.resourceGroup, target.imageName,
        target.hyperVGeneration⟩, .azure)
  | .oci => if type = .oci then pure (.oci, .oci) else throw .invalidImageType

end UploadTarget

end ComposeDesk
