import ComposeDesk.Request.Compose

/-!
# Blueprints

Saved requests with a name, kept in versions.
-/

namespace ComposeDesk

structure BlueprintRequest where
  name : String
  description : String
  distribution : String
  imageRequests : List ImageRequest
  customizations : Customizations
deriving DecidableEq, Repr

def BlueprintRequest.record : Record BlueprintRequest BlueprintRequest :=
  Record.start BlueprintRequest.mk
    |>.required "name" .text (·.name)
    |>.defaulted "description" .text "" (·.description)
    |>.required "distribution" .text (·.distribution)
    |>.required "image_requests" (.list ImageRequest.codec) (·.imageRequests)
    |>.defaulted "customizations" Customizations.codec Customizations.empty (·.customizations)

def BlueprintRequest.codec : Codec BlueprintRequest :=
  BlueprintRequest.record.codec "BlueprintRequest"

/-- The stored body of one version of a blueprint. -/
structure BlueprintBody where
  distribution : String
  imageRequests : List ImageRequest
  customizations : Customizations
deriving DecidableEq, Repr

def BlueprintBody.record : Record BlueprintBody BlueprintBody :=
  Record.start BlueprintBody.mk
    |>.required "distribution" .text (·.distribution)
    |>.required "image_requests" (.list ImageRequest.codec) (·.imageRequests)
    |>.defaulted "customizations" Customizations.codec Customizations.empty (·.customizations)

def BlueprintBody.codec : Codec BlueprintBody :=
  BlueprintBody.record.codec "BlueprintBody"

def BlueprintBody.redacted (body : BlueprintBody) : BlueprintBody :=
  { body with customizations := body.customizations.redacted }

def BlueprintRequest.body (request : BlueprintRequest) : BlueprintBody :=
  ⟨request.distribution, request.imageRequests, request.customizations⟩

/-- Which image requests of a blueprint are to be built; all without types. -/
structure ImageSelection where
  imageTypes : Option (List ImageType)
deriving DecidableEq, Repr

def ImageSelection.record : Record ImageSelection ImageSelection :=
  Record.start ImageSelection.mk
    |>.optional "image_types" (.list ImageType.codec) (·.imageTypes)

def ImageSelection.codec : Codec ImageSelection :=
  ImageSelection.record.codec "ComposeBlueprintRequest"

end ComposeDesk
