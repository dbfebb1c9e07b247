import ComposeDesk.Proofs.Json.Record
import ComposeDesk.Request.Upload

/-!
# Upload targets come back

A target is read in two steps: first the name of the provider with the options
as a document of any form, which is sorted on the way, then the options as those
of the provider.
-/

namespace ComposeDesk

open Json Codec

theorem AwsTarget.codec_sound : AwsTarget.codec.Sound :=
  Record.Sound.start AwsTarget.mk
    |>.optional (.list .text)
    |>.optional (.list .text)
    |>.codec (by decide) "AwsUploadRequestOptions"

theorem GcpTarget.codec_sound : GcpTarget.codec.Sound :=
  Record.Sound.start GcpTarget.mk
    |>.optional (.list .text)
    |>.codec (by decide) "GcpUploadRequestOptions"

theorem AzureTarget.codec_sound : AzureTarget.codec.Sound :=
  Record.Sound.start AzureTarget.mk
    |>.optional .text
    |>.optional .text
    |>.optional .text
    |>.required .text
    |>.optional .text
    |>.optional .text
    |>.codec (by decide) "AzureUploadRequestOptions"

theorem noOptions_sound (type : String) : (noOptions type).Sound :=
  (Record.Sound.start ()).codec List.nodup_nil type

namespace UploadTarget

theorem readOptions_ok {α : Type} {codec : Codec α} (sound : codec.Sound) (provider : String)
    {a : α} {options : Json} (reordered : (codec.write a).Reordered options) :
    readOptions codec provider options = .ok a := by
  have there := reordered.ne_null (sound.present a)
  have held := sound.reads a options reordered
  unfold readOptions
  cases options with
  | null => exact absurd rfl there
  | _ => simp only [held]

theorem options_readable (target : UploadTarget) : target.options.readable = true := by
  cases target with
  | aws target => exact AwsTarget.codec_sound.readable target
  | gcp target => exact GcpTarget.codec_sound.readable target
  | azure target => exact AzureTarget.codec_sound.readable target
  | awsS3 | oci => rfl

/-- The options of a target are understood under the name of its provider. -/
theorem ofParts_ok (target : UploadTarget) {options : Json}
    (reordered : target.options.Reordered options) :
    ofParts target.typeName options = .ok target := by
  cases target with
  | aws target =>
      have read := readOptions_ok AwsTarget.codec_sound "aws" reordered
      simp [ofParts, typeName, read, Except.map]
  | awsS3 =>
      have read := readOptions_ok (a := ()) (noOptions_sound "AwsS3UploadRequestOptions")
        "aws.s3" reordered
      simp [ofParts, typeName, read, Except.map]
  | gcp target =>
      have read := readOptions_ok GcpTarget.codec_sound "GCP" reordered
      simp [ofParts, typeName, read, Except.map]
  | azure target =>
      have read := readOptions_ok AzureTarget.codec_sound "Azure" reordered
      simp [ofParts, typeName, read, Except.map]
  | oci =>
      have read := readOptions_ok (a := ()) (noOptions_sound "OciUploadRequestOptions")
        "OCI" reordered
      simp [ofParts, typeName, read, Except.map]

/-- The name comes back as it was, the options in another order. -/
theorem parts_read {type : String} {options doc : Json} (clean : options.readable = true)
    (reordered : (parts.write (type, options)).Reordered doc) :
    ∃ found, options.Reordered found ∧ parts.read doc = .ok (type, found) := by
  have written : parts.write (type, options) =
      .obj [("type", .str type), ("options", options)] := rfl
  rw [written] at reordered
  obtain ⟨members, rfl, returned⟩ := reordered.obj (by simp)
  obtain ⟨name, named, same⟩ := (returned.filter ["type"].contains).eq_singleton
  obtain ⟨held, given, moved⟩ := (returned.filter ["options"].contains).eq_singleton
  have stops : Record.stop [["type"], ["options"]] 0 members = .found () := by
    refine Record.Sound.stop_found 0 ?_ ?_
    · intro member among
      obtain ⟨value, listed, -⟩ := returned.mem among
      rcases List.mem_pair.mp listed with first | second
      · rw [(Prod.mk.inj first).1]
        decide
      · rw [(Prod.mk.inj second).1]
        decide
    · intro member among
      obtain ⟨value, listed, back⟩ := returned.mem among
      refine back.readable ?_
      rcases List.mem_pair.mp listed with first | second
      · rw [(Prod.mk.inj first).2]
        rfl
      · rw [(Prod.mk.inj second).2]
        exact clean
  have kept : Codec.text.read name = .ok type := Sound.text.reads type name same
  have sorted : Codec.value.read held = .ok held.sorted := if_pos (moved.readable clean)
  refine ⟨held.sorted, moved.sorted, ?_⟩
  have first (expected : String) : Field.look ⟨"type", [], Codec.text.read, .value "",
      fun p : String × Json => some (Codec.text.write p.1)⟩ 0 expected (.members members) =
        .found type :=
    Field.look_single 0 expected named kept
  have second (expected : String) : Field.look ⟨"options", [], Codec.value.read, .value .null,
      fun p : String × Json => some (Codec.value.write p.2)⟩ 1 expected (.members members) =
        .found held.sorted :=
    Field.look_single 1 expected given sorted
  simp only [parts, Record.codec, Record.readMembers, Record.defaulted, Record.field,
    Record.start, Field.names, List.nil_append, List.cons_append, List.length_nil,
    List.length_singleton, first, second, stops, Reading.checked, Reading.both, Reading.toExcept]

theorem codec_sound : codec.Sound where
  reads target doc reordered := by
    obtain ⟨options, moved, read⟩ := parts_read target.options_readable reordered
    simp only [codec, Codec.via, read, ofParts_ok target moved]
  readable target := by
    have clean := target.options_readable
    show readableMembers [("type", .str target.typeName), ("options", target.options)] = true
    simp [readableMembers, readable, clean]
  present _ := Json.noConfusion

end UploadTarget

end ComposeDesk
