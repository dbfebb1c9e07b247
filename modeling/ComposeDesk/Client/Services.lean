import ComposeDesk.Client.Build
import ComposeDesk.Client.Catalog
import ComposeDesk.Client.Policy

/-!
# All services over one network
-/

namespace ComposeDesk

def Link.uploadInfo {ν : Type} (link : Link ν) (base : String) (caller : Identity)
    (source : String) : Act ν ServiceFault UploadInfo :=
  link.fetch .get (Url.join base ("sources/" ++ source ++ "/upload_info")) [] caller .none
    UploadInfo.codec

structure Addresses where
  build : String
  provisioning : String
  content : String
  compliance : String
  credentials : Option Credentials
deriving Repr

def Link.services {ν : Type} (link : Link ν) (addresses : Addresses) :
    Downstream (Session ν) where
  build := BuildClient.service link addresses.build addresses.credentials
  uploadInfo caller source :=
    Session.lift (link.uploadInfo addresses.provisioning caller source)
  repositories caller urls ids external :=
    Session.lift (CatalogClient.repositories link addresses.content caller urls ids external)
  snapshotsForDate caller date uuids :=
    Session.lift (CatalogClient.snapshotsForDate link addresses.content caller date uuids)
  policyData caller major minor policy :=
    Session.lift (PolicyClient.policyData link addresses.compliance caller major minor policy)

end ComposeDesk
