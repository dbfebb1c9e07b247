import ComposeDesk.Response.Metadata
import ComposeDesk.Response.Status

/-!
# Answers of the build service

The documents that the build service answers with.
-/

namespace ComposeDesk.Build

open ComposeDesk

structure ComposeId where
  id : Uuid
deriving DecidableEq, Repr

def ComposeId.record : Record ComposeId ComposeId :=
  Record.start ComposeId.mk
    |>.required "id" Uuid.codec (·.id)

def ComposeId.codec : Codec ComposeId :=
  ComposeId.record.codec "ComposeId"

structure ErrorBody where
  id : String
  code : String
  reason : String
deriving DecidableEq, Repr

def ErrorBody.record : Record ErrorBody ErrorBody :=
  Record.start ErrorBody.mk
    |>.defaulted "id" .text "" (·.id)
    |>.defaulted "code" .text "" (·.code)
    |>.defaulted "reason" .text "" (·.reason)

def ErrorBody.codec : Codec ErrorBody :=
  ErrorBody.record.codec "ErrorBody"

/-- The state of an upload, with options in any form. -/
structure UploadStatus where
  status : String
  provider : String
  options : Json
deriving Repr

def UploadStatus.record : Record UploadStatus UploadStatus :=
  Record.start UploadStatus.mk
    |>.required "status" .text (·.status)
    |>.required "type" .text (·.provider)
    |>.defaulted "options" .value .null (·.options)

def UploadStatus.codec : Codec UploadStatus :=
  UploadStatus.record.codec "UploadStatus"

structure ImageStatus where
  status : String
  upload : Option UploadStatus
  error : Option BuildError
deriving Repr

def ImageStatus.record : Record ImageStatus ImageStatus :=
  Record.start ImageStatus.mk
    |>.required "status" .text (·.status)
    |>.optional "upload_status" UploadStatus.codec (·.upload)
    |>.optional "error" BuildError.reported (·.error)

def ImageStatus.codec : Codec ImageStatus :=
  ImageStatus.record.codec "ImageStatus"

structure ComposeStatus where
  image : ImageStatus
deriving Repr

def ComposeStatus.record : Record ComposeStatus ComposeStatus :=
  Record.start ComposeStatus.mk
    |>.required "image_status" ImageStatus.codec (·.image)

def ComposeStatus.codec : Codec ComposeStatus :=
  ComposeStatus.record.codec "ComposeStatus"

structure ComposeMetadata where
  ostreeCommit : Option String
  packages : Option (List Package)
deriving DecidableEq, Repr

def ComposeMetadata.record : Record ComposeMetadata ComposeMetadata :=
  Record.start ComposeMetadata.mk
    |>.optional "ostree_commit" .text (·.ostreeCommit)
    |>.optional "packages" (.list Package.codec) (·.packages)

def ComposeMetadata.codec : Codec ComposeMetadata :=
  ComposeMetadata.record.codec "ComposeMetadata"

structure CloneStatus where
  status : String
  provider : String
  options : Json
deriving Repr

def CloneStatus.record : Record CloneStatus CloneStatus :=
  Record.start CloneStatus.mk
    |>.required "status" .text (·.status)
    |>.required "type" .text (·.provider)
    |>.defaulted "options" .value .null (·.options)

def CloneStatus.codec : Codec CloneStatus :=
  CloneStatus.record.codec "CloneStatus"

end ComposeDesk.Build
