import ComposeDesk.Request.Blueprint
import ComposeDesk.Response.Blueprint
import ComposeDesk.Response.Listing
import ComposeDesk.Response.Metadata
import ComposeDesk.Response.Status

/-!
# Schemas

The types of documents by their names.  A document of a type has one
normal form, the one in which the type is written.
-/

namespace ComposeDesk

structure Schema where
  name : String
  /-- The normal form of a document. -/
  normalize : Json.Source → Except Json.Fault Json

namespace Schema

def ofCodec {α : Type} (name : String) (codec : Codec α) : Schema where
  name
  normalize text := (codec.readText text).map codec.write

def requests : List Schema :=
  [ofCodec "ImageType" ImageType.codec,
    ofCodec "UploadRequest" UploadTarget.codec,
    ofCodec "AwsUploadRequestOptions" AwsTarget.codec,
    ofCodec "AwsS3UploadRequestOptions" (noOptions "AwsS3UploadRequestOptions"),
    ofCodec "GcpUploadRequestOptions" GcpTarget.codec,
    ofCodec "AzureUploadRequestOptions" AzureTarget.codec,
    ofCodec "OciUploadRequestOptions" (noOptions "OciUploadRequestOptions"),
    ofCodec "Repository" Repository.codec,
    ofCodec "CustomRepository" CustomRepository.codec,
    ofCodec "Owner" Owner.codec,
    ofCodec "Filesystem" Filesystem.codec,
    ofCodec "File" File.codec,
    ofCodec "Directory" Directory.codec,
    ofCodec "OpenScap" OpenScap.codec,
    ofCodec "FirewallServices" FirewallServices.codec,
    ofCodec "Firewall" Firewall.codec,
    ofCodec "Fips" Fips.codec,
    ofCodec "CaCertificates" CaCertificates.codec,
    ofCodec "Container" Container.codec,
    ofCodec "Services" Services.codec,
    ofCodec "Locale" Locale.codec,
    ofCodec "Timezone" Timezone.codec,
    ofCodec "Kernel" Kernel.codec,
    ofCodec "Subscription" Subscription.codec,
    ofCodec "Fdo" Fdo.codec,
    ofCodec "IgnitionEmbedded" IgnitionEmbedded.codec,
    ofCodec "IgnitionFirstboot" IgnitionFirstboot.codec,
    ofCodec "Ignition" Ignition.codec,
    ofCodec "Installer" Installer.codec,
    ofCodec "PartitioningMode" PartitioningMode.codec,
    ofCodec "User" User.codec,
    ofCodec "Group" Group.codec,
    ofCodec "Customizations" Customizations.codec,
    ofCodec "OsTree" OsTree.codec,
    ofCodec "ImageRequest" ImageRequest.codec,
    ofCodec "ComposeRequest" ComposeRequest.codec,
    ofCodec "CloneRequest" CloneRequest.codec,
    ofCodec "BlueprintRequest" BlueprintRequest.codec,
    ofCodec "BlueprintBody" BlueprintBody.codec,
    ofCodec "ComposeBlueprintRequest" ImageSelection.codec]

def responses : List Schema :=
  [ofCodec "UploadStatusOptions" UploadResult.codec,
    ofCodec "UploadStatus" UploadStatus.codec,
    ofCodec "ComposeStatusError" BuildError.codec,
    ofCodec "ImageStatus" ImageStatus.codec,
    ofCodec "ComposeStatus" ComposeStatus.codec,
    ofCodec "CloneStatusResponse" CloneStatus.codec,
    ofCodec "PackageMetadata" Package.codec,
    ofCodec "ComposeMetadata" ComposeMetadata.codec,
    ofCodec "ComposeResponse" (Created.codec "ComposeResponse"),
    ofCodec "CloneResponse" (Created.codec "CloneResponse"),
    ofCodec "CreateBlueprintResponse" (Created.codec "CreateBlueprintResponse"),
    ofCodec "ListMeta" ListMeta.codec,
    ofCodec "Links" Links.codec,
    ofCodec "ComposesResponseItem" ComposeItem.codec,
    ofCodec "ComposesResponse" (Page.codec "ComposesResponse" ComposeItem.codec),
    ofCodec "ClonesResponseItem" CloneItem.codec,
    ofCodec "ClonesResponse" (Page.codec "ClonesResponse" CloneItem.codec),
    ofCodec "BlueprintItem" BlueprintItem.codec,
    ofCodec "BlueprintsResponse" (Page.codec "BlueprintsResponse" BlueprintItem.codec),
    ofCodec "DistributionItem" DistributionItem.codec,
    ofCodec "ArchitectureItem" ArchitectureItem.codec,
    ofCodec "BlueprintResponse" BlueprintView.codec,
    ofCodec "BlueprintMetadata" ExportMetadata.codec,
    ofCodec "BlueprintExportResponse" BlueprintExport.codec]

def ofName? (name : String) : Option Schema :=
  (requests ++ responses).find? (·.name = name)

end Schema

end ComposeDesk
