import ComposeDesk.Json.Record

/-!
# Uploads

What the build service makes and where it uploads it.
-/

namespace ComposeDesk.Build

open ComposeDesk

inductive ImageKind where
  | aws
  | azure
  | gcp
  | guestImage
  | imageInstaller
  | edgeCommit
  | edgeInstaller
  | vsphere
  | vsphereOva
  | wsl
  | oci
deriving DecidableEq, Repr

namespace ImageKind

def all : List ImageKind :=
  [.aws, .azure, .gcp, .guestImage, .imageInstaller, .edgeCommit, .edgeInstaller, .vsphere,
    .vsphereOva, .wsl, .oci]

def name : ImageKind → String
  | .aws => "aws"
  | .azure => "azure"
  | .gcp => "gcp"
  | .guestImage => "guest-image"
  | .imageInstaller => "image-installer"
  | .edgeCommit => "edge-commit"
  | .edgeInstaller => "edge-installer"
  | .vsphere => "vsphere"
  | .vsphereOva => "vsphere-ova"
  | .wsl => "wsl"
  | .oci => "oci"

def codec : Codec ImageKind :=
  .oneOf (all.map fun kind => (kind.name, kind)) name

def toJson (kind : ImageKind) : Json := .str kind.name

end ImageKind

structure AwsUpload where
  region : String
  shareWithAccounts : List String
deriving DecidableEq, Repr

def AwsUpload.toJson (x : AwsUpload) : Json :=
  Json.object
    [("region", some (Codec.text.write x.region)),
      ("share_with_accounts", some ((Codec.list .text).write x.shareWithAccounts))]

structure GcpUpload where
  region : String
  bucket : Option String
  shareWithAccounts : Option (List String)
deriving DecidableEq, Repr

def GcpUpload.toJson (x : GcpUpload) : Json :=
  Json.object
    [("region", some (Codec.text.write x.region)),
      ("bucket", x.bucket.map Codec.text.write),
      ("share_with_accounts", x.shareWithAccounts.map (Codec.list .text).write)]

structure AzureUpload where
  tenantId : String
  subscriptionId : String
  resourceGroup : String
  imageName : Option String
  hyperVGeneration : Option String
deriving DecidableEq, Repr

def AzureUpload.toJson (x : AzureUpload) : Json :=
  Json.object
    [("tenant_id", some (Codec.text.write x.tenantId)),
      ("subscription_id", some (Codec.text.write x.subscriptionId)),
      ("resource_group", some (Codec.text.write x.resourceGroup)),
      ("image_name", x.imageName.map Codec.text.write),
      ("hyper_v_generation", x.hyperVGeneration.map Codec.text.write)]

inductive Upload where
  | aws (options : AwsUpload)
  | awsS3 (region : String)
  | gcp (options : GcpUpload)
  | azure (options : AzureUpload)
  | oci
deriving DecidableEq, Repr

def Upload.toJson : Upload → Json
  | .aws options => options.toJson
  | .awsS3 region => .obj [("region", .str region)]
  | .gcp options => options.toJson
  | .azure options => options.toJson
  | .oci => .obj []

end ComposeDesk.Build
