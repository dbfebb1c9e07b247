import ComposeDesk.Proofs.Json.Record
import ComposeDesk.Proofs.Uuid
import ComposeDesk.Request.Customizations

/-!
# Customizations come back

Every part of customizations is written as a record with names of its own, as
one of some names, or as one of two shapes that cannot be taken for each other.
So each comes back as it was, passwords included.
-/

namespace ComposeDesk

open Json Codec

theorem Container.codec_sound : Container.codec.Sound :=
  Record.Sound.start Container.mk
    |>.required .text
    |>.optional .text
    |>.optional .bool
    |>.codec (by decide) "Container"

theorem Services.codec_sound : Services.codec.Sound :=
  Record.Sound.start Services.mk
    |>.optional (.list .text)
    |>.optional (.list .text)
    |>.optional (.list .text)
    |>.codec (by decide) "Services"

theorem Locale.codec_sound : Locale.codec.Sound :=
  Record.Sound.start Locale.mk
    |>.optional (.list .text)
    |>.optional .text
    |>.codec (by decide) "Locale"

theorem Timezone.codec_sound : Timezone.codec.Sound :=
  Record.Sound.start Timezone.mk
    |>.optional .text
    |>.optional (.list .text)
    |>.codec (by decide) "Timezone"

theorem Kernel.codec_sound : Kernel.codec.Sound :=
  Record.Sound.start Kernel.mk
    |>.optional .text
    |>.optional .text
    |>.codec (by decide) "Kernel"

theorem Subscription.codec_sound : Subscription.codec.Sound :=
  Record.Sound.start Subscription.mk
    |>.required .int64
    |>.required .text
    |>.required .text
    |>.required .text
    |>.required .bool
    |>.optional .bool
    |>.codec (by decide) "Subscription"

theorem Fdo.codec_sound : Fdo.codec.Sound :=
  Record.Sound.start Fdo.mk
    |>.optional .text
    |>.optional .text
    |>.optional .text
    |>.optional .text
    |>.codec (by decide) "Fdo"

theorem IgnitionEmbedded.codec_sound : IgnitionEmbedded.codec.Sound :=
  Record.Sound.start IgnitionEmbedded.mk
    |>.required .text
    |>.codec (by decide) "IgnitionEmbedded"

theorem IgnitionFirstboot.codec_sound : IgnitionFirstboot.codec.Sound :=
  Record.Sound.start IgnitionFirstboot.mk
    |>.required .text
    |>.codec (by decide) "IgnitionFirstboot"

theorem Ignition.codec_sound : Ignition.codec.Sound :=
  Record.Sound.start Ignition.mk
    |>.optional IgnitionEmbedded.codec_sound
    |>.optional IgnitionFirstboot.codec_sound
    |>.codec (by decide) "Ignition"

theorem Installer.codec_sound : Installer.codec.Sound :=
  Record.Sound.start Installer.mk
    |>.optional .bool
    |>.optional (.list .text)
    |>.codec (by decide) "Installer"

theorem PartitioningMode.codec_sound : PartitioningMode.codec.Sound := by
  apply Sound.oneOf
  intro mode
  cases mode <;> decide

theorem User.codec_sound : User.codec.Sound :=
  Record.Sound.start User.mk
    |>.required .text
    |>.optional (.list .text)
    |>.optional .text
    |>.optional .text
    |>.codec (by decide) "User"

theorem Group.codec_sound : Group.codec.Sound :=
  Record.Sound.start Group.mk
    |>.required .text
    |>.optional .int64
    |>.codec (by decide) "Group"

theorem Repository.codec_sound : Repository.codec.Sound :=
  Record.Sound.start Repository.mk
    |>.optional .text
    |>.optional .text
    |>.optional .text
    |>.optional .text
    |>.optional .text
    |>.optional .bool
    |>.optional .bool
    |>.optional .bool
    |>.optional .bool
    |>.defaulted .bool
    |>.codec (by decide) "Repository"

theorem CustomRepository.codec_sound : CustomRepository.codec.Sound :=
  Record.Sound.start CustomRepository.mk
    |>.required .text
    |>.optional .text
    |>.optional .text
    |>.optional (.list .text)
    |>.optional .text
    |>.optional .text
    |>.optional (.list .text)
    |>.optional .bool
    |>.optional .bool
    |>.optional .bool
    |>.optional .int32
    |>.optional .bool
    |>.optional .bool
    |>.codec (by decide) "CustomRepository"

/-- A number is not taken for a name, nor a name of digits for a number. -/
theorem Owner.codec_sound : Owner.codec.Sound := by
  refine .anyOf ?_ ?_ ?_
  · intro owner doc reordered
    cases owner with
    | numbered id =>
        rw [reordered.eq_of_sorted rfl]
        simp only [List.findSome?, Sound.int64.faithful id]
        rfl
    | named name =>
        rw [reordered.eq_of_sorted rfl]
        rfl
  · intro owner
    cases owner <;> rfl
  · intro owner
    cases owner <;> exact Json.noConfusion

theorem Filesystem.codec_sound : Filesystem.codec.Sound :=
  Record.Sound.start Filesystem.mk
    |>.required .text
    |>.required .uint64
    |>.codec (by decide) "Filesystem"

theorem File.codec_sound : File.codec.Sound :=
  Record.Sound.start File.mk
    |>.required .text
    |>.optional .text
    |>.optional Owner.codec_sound
    |>.optional Owner.codec_sound
    |>.optional .text
    |>.optional .text
    |>.optional .bool
    |>.codec (by decide) "File"

theorem Directory.codec_sound : Directory.codec.Sound :=
  Record.Sound.start Directory.mk
    |>.required .text
    |>.optional .text
    |>.optional Owner.codec_sound
    |>.optional Owner.codec_sound
    |>.optional .bool
    |>.codec (by decide) "Directory"

theorem OpenScap.policyRecord_sound : OpenScap.policyRecord.Sound fun id => .policy id :=
  Record.Sound.start OpenScap.policy
    |>.required Uuid.codec_sound

theorem OpenScap.profileRecord_sound :
    OpenScap.profileRecord.Sound fun profile => .profile profile.1 profile.2.1 profile.2.2 :=
  Record.Sound.start OpenScap.profile
    |>.required .text
    |>.optional .text
    |>.optional .text

/-- A profile is not taken for a policy, because it names none. -/
theorem OpenScap.codec_sound : OpenScap.codec.Sound := by
  have policyOnce : OpenScap.policyRecord.names.flatten.Nodup := by decide
  have profileOnce : OpenScap.profileRecord.names.flatten.Nodup := by decide
  refine .anyOf ?_ ?_ ?_
  · intro openscap doc reordered
    cases openscap with
    | policy id =>
        obtain ⟨found, rfl, returned⟩ := reordered.obj (policyRecord_sound.once policyOnce id)
        have first : OpenScap.policyRecord.shape (.obj found) = .ok (.policy id) :=
          policyRecord_sound.readMembers_ok policyOnce id "" returned
        simp only [List.findSome?, first]
        rfl
    | profile id name description =>
        obtain ⟨found, rfl, returned⟩ :=
          reordered.obj (profileRecord_sound.once profileOnce (id, name, description))
        have lacks : ∀ member ∈ found, member.1 ≠ "policy_id" := by
          intro member held same
          obtain ⟨value, among, -⟩ := returned.mem held
          have known := profileRecord_sound.known (id, name, description) _ among
          rw [same] at known
          revert known
          decide
        have first : (OpenScap.policyRecord.shape (.obj found)).toOption = none :=
          Record.readMembers_missing _ _ _ "" lacks
        have second : OpenScap.profileRecord.shape (.obj found) =
            .ok (.profile id name description) :=
          profileRecord_sound.readMembers_ok profileOnce (id, name, description) "" returned
        simp only [List.findSome?, first, second]
        rfl
  · intro openscap
    cases openscap with
    | policy id => exact readableMembers_iff.mpr (policyRecord_sound.readable id)
    | profile id name description =>
        exact readableMembers_iff.mpr (profileRecord_sound.readable (id, name, description))
  · intro openscap
    cases openscap <;> exact Json.noConfusion

theorem FirewallServices.codec_sound : FirewallServices.codec.Sound :=
  Record.Sound.start FirewallServices.mk
    |>.optional (.list .text)
    |>.optional (.list .text)
    |>.codec (by decide) "FirewallServices"

theorem Firewall.codec_sound : Firewall.codec.Sound :=
  Record.Sound.start Firewall.mk
    |>.optional (.list .text)
    |>.optional FirewallServices.codec_sound
    |>.codec (by decide) "Firewall"

theorem Fips.codec_sound : Fips.codec.Sound :=
  Record.Sound.start Fips.mk
    |>.optional .bool
    |>.codec (by decide) "Fips"

theorem CaCertificates.codec_sound : CaCertificates.codec.Sound :=
  Record.Sound.start CaCertificates.mk
    |>.required (.list .text)
    |>.codec (by decide) "CaCertificates"

theorem Customizations.codec_sound : Customizations.codec.Sound :=
  Record.Sound.start Customizations.mk
    |>.optional (.list .text)
    |>.optional (.list Repository.codec_sound)
    |>.optional (.list CustomRepository.codec_sound)
    |>.optional (.list Filesystem.codec_sound)
    |>.optional (.list User.codec_sound)
    |>.optional (.list Group.codec_sound)
    |>.optional (.list File.codec_sound)
    |>.optional (.list Directory.codec_sound)
    |>.optional (.list Container.codec_sound)
    |>.optional OpenScap.codec_sound
    |>.optional Firewall.codec_sound
    |>.optional Services.codec_sound
    |>.optional Locale.codec_sound
    |>.optional Timezone.codec_sound
    |>.optional Kernel.codec_sound
    |>.optional Subscription.codec_sound
    |>.optional Fdo.codec_sound
    |>.optional Ignition.codec_sound
    |>.optional Fips.codec_sound
    |>.optional Installer.codec_sound
    |>.optional CaCertificates.codec_sound
    |>.optional PartitioningMode.codec_sound
    |>.optional .text
    |>.optional .text
    |>.codec (by decide) "Customizations"

end ComposeDesk
