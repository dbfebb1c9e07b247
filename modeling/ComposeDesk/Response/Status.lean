import ComposeDesk.Request.Compose
import ComposeDesk.Uuid

/-!
# Status

How far builds, uploads and clones have come.
-/

namespace ComposeDesk

inductive UploadResult where
  | aws (ami region : String)
  | gcp (imageName projectId : String)
  | azure (imageName : String)
  | url (address : String)
deriving DecidableEq, Repr

namespace UploadResult

def awsRecord : Record (String × String) UploadResult :=
  Record.start UploadResult.aws
    |>.required "ami" .text (·.1)
    |>.required "region" .text (·.2)

def gcpRecord : Record (String × String) UploadResult :=
  Record.start UploadResult.gcp
    |>.required "image_name" .text (·.1)
    |>.required "project_id" .text (·.2)

def azureRecord : Record String UploadResult :=
  Record.start UploadResult.azure
    |>.required "image_name" .text id

def urlRecord : Record String UploadResult :=
  Record.start UploadResult.url
    |>.required "url" .text id

def write : UploadResult → Json
  | .aws ami region => .obj (awsRecord.write (ami, region))
  | .gcp imageName projectId => .obj (gcpRecord.write (imageName, projectId))
  | .azure imageName => .obj (azureRecord.write imageName)
  | .url address => .obj (urlRecord.write address)

/-- Upload results as documents: the first form whose fields are there. -/
def codec : Codec UploadResult :=
  .anyOf "UploadStatusOptions"
    [awsRecord.shape, gcpRecord.shape, azureRecord.shape, urlRecord.shape] write

end UploadResult

structure UploadStatus where
  status : String
  provider : String
  result : UploadResult
deriving DecidableEq, Repr

def UploadStatus.record : Record UploadStatus UploadStatus :=
  Record.start UploadStatus.mk
    |>.required "status" .text (·.status)
    |>.required "type" .text (·.provider)
    |>.required "options" UploadResult.codec (·.result)

def UploadStatus.codec : Codec UploadStatus :=
  UploadStatus.record.codec "UploadStatus"

structure BuildError where
  id : Int64
  reason : String
  details : Option Json
deriving Repr

def BuildError.record : Record BuildError BuildError :=
  Record.start BuildError.mk
    |>.required "id" .int64 (·.id)
    |>.required "reason" .text (·.reason)
    |>.optional "details" .value (·.details)

def BuildError.codec : Codec BuildError :=
  BuildError.record.codec "ComposeStatusError"

/-- The fields of a build error as the build service reports it. -/
def BuildError.reportedRecord : Record BuildError BuildError :=
  Record.start BuildError.mk
    |>.required "id" .int64 (·.id)
    |>.defaulted "reason" .text "" (·.reason)
    |>.nullable "details" .value (·.details)

def BuildError.reported : Codec BuildError :=
  BuildError.reportedRecord.codec "ComposeStatusError"

structure ImageStatus where
  status : String
  upload : Option UploadStatus
  error : Option BuildError
deriving Repr

def ImageStatus.record : Record ImageStatus ImageStatus :=
  Record.start ImageStatus.mk
    |>.required "status" .text (·.status)
    |>.optional "upload_status" UploadStatus.codec (·.upload)
    |>.optional "error" BuildError.codec (·.error)

def ImageStatus.codec : Codec ImageStatus :=
  ImageStatus.record.codec "ImageStatus"

structure ComposeStatus where
  image : ImageStatus
  request : ComposeRequest
deriving Repr

def ComposeStatus.record : Record ComposeStatus ComposeStatus :=
  Record.start ComposeStatus.mk
    |>.required "image_status" ImageStatus.codec (·.image)
    |>.required "request" ComposeRequest.codec (·.request)

def ComposeStatus.codec : Codec ComposeStatus :=
  ComposeStatus.record.codec "ComposeStatus"

structure CloneStatus where
  composeId : Uuid
  status : String
  provider : String
  result : UploadResult
deriving DecidableEq, Repr

def CloneStatus.record : Record CloneStatus CloneStatus :=
  Record.start CloneStatus.mk
    |>.required "compose_id" Uuid.codec (·.composeId)
    |>.required "status" .text (·.status)
    |>.required "type" .text (·.provider)
    |>.required "options" UploadResult.codec (·.result)

def CloneStatus.codec : Codec CloneStatus :=
  CloneStatus.record.codec "CloneStatusResponse"

end ComposeDesk
