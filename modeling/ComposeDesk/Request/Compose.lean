import ComposeDesk.ImageType
import ComposeDesk.Request.Customizations
import ComposeDesk.Request.Upload

/-!
# Compose requests

Requests to build an image, and to copy one that was built.
-/

namespace ComposeDesk

/-- The commit that an image is built on or from. -/
structure OsTree where
  reference : Option String
  url : Option String
  contentUrl : Option String
  parent : Option String
  rhsm : Option Bool
deriving DecidableEq, Repr

def OsTree.record : Record OsTree OsTree :=
  Record.start OsTree.mk
    |>.optional "ref" .text (·.reference)
    |>.optional "url" .text (·.url)
    |>.optional "contenturl" .text (·.contentUrl)
    |>.optional "parent" .text (·.parent)
    |>.optional "rhsm" .bool (·.rhsm)

def OsTree.codec : Codec OsTree :=
  OsTree.record.codec "OsTree"

structure ImageRequest where
  architecture : String
  imageType : ImageType
  target : UploadTarget
  /-- The size of the image in bytes. -/
  size : Option UInt64
  /-- The date to which the content of repositories is pinned. -/
  snapshotDate : Option String
  ostree : Option OsTree
deriving DecidableEq, Repr

def ImageRequest.record : Record ImageRequest ImageRequest :=
  Record.start ImageRequest.mk
    |>.required "architecture" .text (·.architecture)
    |>.required "image_type" ImageType.codec (·.imageType)
    |>.required "upload_request" UploadTarget.codec (·.target)
    |>.optional "size" .uint64 (·.size)
    |>.optional "snapshot_date" .text (·.snapshotDate)
    |>.optional "ostree" OsTree.codec (·.ostree)

def ImageRequest.codec : Codec ImageRequest :=
  ImageRequest.record.codec "ImageRequest"

structure ComposeRequest where
  distribution : String
  /-- Exactly one is accepted. -/
  imageRequests : List ImageRequest
  customizations : Option Customizations
  /-- The program that sent the request. -/
  clientId : Option String
  imageName : Option String
  imageDescription : Option String
deriving DecidableEq, Repr

def ComposeRequest.record : Record ComposeRequest ComposeRequest :=
  Record.start ComposeRequest.mk
    |>.required "distribution" .text (·.distribution)
    |>.required "image_requests" (.list ImageRequest.codec) (·.imageRequests)
    |>.optional "customizations" Customizations.codec (·.customizations)
    |>.optional "client_id" .text (·.clientId)
    |>.optional "image_name" .text (·.imageName)
    |>.optional "image_description" .text (·.imageDescription)

def ComposeRequest.codec : Codec ComposeRequest :=
  ComposeRequest.record.codec "ComposeRequest"

def ComposeRequest.redacted (request : ComposeRequest) : ComposeRequest :=
  { request with customizations := request.customizations.map Customizations.redacted }

structure CloneRequest where
  region : String
  shareWithAccounts : Option (List String)
  shareWithSources : Option (List String)
deriving DecidableEq, Repr

def CloneRequest.record : Record CloneRequest CloneRequest :=
  Record.start CloneRequest.mk
    |>.required "region" .text (·.region)
    |>.optional "share_with_accounts" (.list .text) (·.shareWithAccounts)
    |>.optional "share_with_sources" (.list .text) (·.shareWithSources)

def CloneRequest.codec : Codec CloneRequest :=
  CloneRequest.record.codec "CloneRequest"

end ComposeDesk
