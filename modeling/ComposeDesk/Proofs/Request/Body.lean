import ComposeDesk.Proofs.Request.Customizations
import ComposeDesk.Proofs.Request.Upload
import ComposeDesk.Request.Blueprint

/-!
# Requests come back

The documents that are stored: requests for composes and clones, and the bodies
of blueprints.  Taking the passwords of users out twice takes nothing more out.
-/

namespace ComposeDesk

open Codec

theorem ImageType.codec_sound : ImageType.codec.Sound := by
  apply Sound.oneOf
  intro type
  cases type <;> decide

theorem OsTree.codec_sound : OsTree.codec.Sound :=
  Record.Sound.start OsTree.mk
    |>.optional .text
    |>.optional .text
    |>.optional .text
    |>.optional .text
    |>.optional .bool
    |>.codec (by decide) "OsTree"

theorem ImageRequest.codec_sound : ImageRequest.codec.Sound :=
  Record.Sound.start ImageRequest.mk
    |>.required .text
    |>.required ImageType.codec_sound
    |>.required UploadTarget.codec_sound
    |>.optional .uint64
    |>.optional .text
    |>.optional OsTree.codec_sound
    |>.codec (by decide) "ImageRequest"

theorem ComposeRequest.codec_sound : ComposeRequest.codec.Sound :=
  Record.Sound.start ComposeRequest.mk
    |>.required .text
    |>.required (.list ImageRequest.codec_sound)
    |>.optional Customizations.codec_sound
    |>.optional .text
    |>.optional .text
    |>.optional .text
    |>.codec (by decide) "ComposeRequest"

theorem CloneRequest.codec_sound : CloneRequest.codec.Sound :=
  Record.Sound.start CloneRequest.mk
    |>.required .text
    |>.optional (.list .text)
    |>.optional (.list .text)
    |>.codec (by decide) "CloneRequest"

theorem BlueprintBody.codec_sound : BlueprintBody.codec.Sound :=
  Record.Sound.start BlueprintBody.mk
    |>.required .text
    |>.required (.list ImageRequest.codec_sound)
    |>.defaulted Customizations.codec_sound
    |>.codec (by decide) "BlueprintBody"

theorem BlueprintRequest.codec_sound : BlueprintRequest.codec.Sound :=
  Record.Sound.start BlueprintRequest.mk
    |>.required .text
    |>.defaulted .text
    |>.required .text
    |>.required (.list ImageRequest.codec_sound)
    |>.defaulted Customizations.codec_sound
    |>.codec (by decide) "BlueprintRequest"

theorem Customizations.redacted_redacted (customizations : Customizations) :
    customizations.redacted.redacted = customizations.redacted := by
  unfold redacted
  cases customizations.users with
  | none => rfl
  | some users =>
      simp only [Option.map_some, List.map_map]
      rfl

@[simp] theorem ComposeRequest.redacted_redacted (request : ComposeRequest) :
    request.redacted.redacted = request.redacted := by
  unfold redacted
  cases request.customizations with
  | none => rfl
  | some customizations =>
      simp only [Option.map_some, Customizations.redacted_redacted]

end ComposeDesk
