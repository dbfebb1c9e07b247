import ComposeDesk.Json.Record

/-!
# Where an image goes

The upload target of an image request: a provider and the options that the
provider takes.
-/

namespace ComposeDesk

open Json

/-- Whom an EC2 image is shared with: accounts, and sources that stand for
accounts. -/
structure AwsTarget where
  shareWithAccounts : Option (List String)
  shareWithSources : Option (List String)
deriving DecidableEq, Repr

structure GcpTarget where
  shareWithAccounts : Option (List String)
deriving DecidableEq, Repr

/-- The place of an Azure image: a source, or a tenant and a subscription. -/
structure AzureTarget where
  sourceId : Option String
  tenantId : Option String
  subscriptionId : Option String
  resourceGroup : String
  imageName : Option String
  hyperVGeneration : Option String
deriving DecidableEq, Repr

inductive UploadTarget where
  | aws (target : AwsTarget)
  | awsS3
  | gcp (target : GcpTarget)
  | azure (target : AzureTarget)
  | oci
deriving DecidableEq, Repr

def AwsTarget.record : Record AwsTarget AwsTarget :=
  Record.start AwsTarget.mk
    |>.optional "share_with_accounts" (.list .text) (·.shareWithAccounts)
    |>.optional "share_with_sources" (.list .text) (·.shareWithSources)

def AwsTarget.codec : Codec AwsTarget :=
  AwsTarget.record.codec "AwsUploadRequestOptions"

def GcpTarget.record : Record GcpTarget GcpTarget :=
  Record.start GcpTarget.mk
    |>.optional "share_with_accounts" (.list .text) (·.shareWithAccounts)

def GcpTarget.codec : Codec GcpTarget :=
  GcpTarget.record.codec "GcpUploadRequestOptions"

def AzureTarget.record : Record AzureTarget AzureTarget :=
  Record.start AzureTarget.mk
    |>.optional "source_id" .text (·.sourceId)
    |>.optional "tenant_id" .text (·.tenantId)
    |>.optional "subscription_id" .text (·.subscriptionId)
    |>.required "resource_group" .text (·.resourceGroup)
    |>.optional "image_name" .text (·.imageName)
    |>.optional "hyper_v_generation" .text (·.hyperVGeneration)

def AzureTarget.codec : Codec AzureTarget :=
  AzureTarget.record.codec "AzureUploadRequestOptions"

/-- Options of a provider that takes none. -/
def noOptions (type : String) : Codec Unit :=
  Record.codec (Record.start ()) type

namespace UploadTarget

def typeName : UploadTarget → String
  | .aws _ => "aws"
  | .awsS3 => "aws.s3"
  | .gcp _ => "gcp"
  | .azure _ => "azure"
  | .oci => "oci.objectstorage"

def options : UploadTarget → Json
  | .aws target => AwsTarget.codec.write target
  | .awsS3 => .obj []
  | .gcp target => GcpTarget.codec.write target
  | .azure target => AzureTarget.codec.write target
  | .oci => .obj []

/-- Read options; null stands for no option. -/
def readOptions {α : Type} (codec : Codec α) (provider : String) (options : Json) :
    Except String α :=
  let given : Json :=
    match options with
    | .null => .obj []
    | other => other
  match codec.read given with
  | .ok a => .ok a
  | .error fault =>
      .error ("Unable to parse upload request options as " ++ provider ++ " options: " ++
        fault.message)

def ofParts (type : String) (options : Json) : Except String UploadTarget :=
  if type = "" then .error "Exactly one upload request should be included"
  else if type = "aws" then (readOptions AwsTarget.codec "aws" options).map .aws
  else if type = "aws.s3" ∨ type = "aws-s3" then
    (readOptions (noOptions "AwsS3UploadRequestOptions") "aws.s3" options).map fun _ => .awsS3
  else if type = "gcp" then (readOptions GcpTarget.codec "GCP" options).map .gcp
  else if type = "azure" then (readOptions AzureTarget.codec "Azure" options).map .azure
  else if type = "oci.objectstorage" ∨ type = "oci-objectstorage" then
    (readOptions (noOptions "OciUploadRequestOptions") "OCI" options).map fun _ => .oci
  else .error ("Unknown UploadRequest type " ++ type)

def parts : Codec (String × Json) :=
  Record.codec
    (Record.start Prod.mk
      |>.defaulted "type" .text "" Prod.fst
      |>.defaulted "options" .value .null Prod.snd)
    "RawUploadRequest"

def codec : Codec UploadTarget :=
  parts.via (fun (type, options) => ofParts type options)
    (fun target => (target.typeName, target.options))

end UploadTarget

end ComposeDesk
