import ComposeDesk.Customize
import Mathlib.Algebra.BigOperators.Group.List.Basic
import Mathlib.Data.UInt

/-!
# Sizes of images

The smallest sizes of mount points are added with a bound: a sum that does not fit is the
largest size there is.  That size is far beyond what any provider accepts, so whether an
image is too large is told as it would be by numbers without a bound.
-/

namespace ComposeDesk

def largestSize : Nat := 18446744073709551615

/-- A sum is exact, or the largest size where it does not fit. -/
theorem toNat_addSizes (a b : UInt64) :
    (addSizes a b).toNat = min (a.toNat + b.toNat) largestSize := by
  unfold addSizes largestSize
  split
  · rename_i fits
    have exact_sum : (a + b).toNat = a.toNat + b.toNat := by
      rw [UInt64.toNat_add]
      exact Nat.mod_eq_of_lt fits
    rw [exact_sum]
    exact (Nat.min_eq_left (Nat.le_of_lt_succ fits)).symm
  · rename_i beyond
    have bound : UInt64.size ≤ a.toNat + b.toNat := Nat.not_lt.mp beyond
    exact (Nat.min_eq_right (Nat.le_trans (Nat.sub_le _ 1) bound)).symm

/-- Once a sum does not fit, no later one does, so the bound is met at most once. -/
theorem toNat_foldl_addSizes (sizes : List UInt64) (start : UInt64) :
    (sizes.foldl addSizes start).toNat =
      min (start.toNat + (sizes.map UInt64.toNat).sum) largestSize := by
  induction sizes generalizing start with
  | nil =>
      have bound : start.toNat ≤ largestSize := Nat.le_of_lt_succ start.toNat_lt
      exact (Nat.min_eq_left bound).symm
  | cons size rest ih =>
      rw [List.foldl_cons, ih, toNat_addSizes, List.map_cons, List.sum_cons]
      omega

/-- Images that a provider limits in size. -/
inductive ImageType.LimitedBy : ImageType → String → Prop where
  | aws : LimitedBy .aws "AWS"
  | ami : LimitedBy .ami "AWS"
  | azure : LimitedBy .azure "Azure"
  | vhd : LimitedBy .vhd "Azure"

namespace ComposeRequest

variable {request other : ComposeRequest} {image : ImageRequest}

def mounts (request : ComposeRequest) : List Filesystem :=
  (request.customizations.bind (·.filesystem)).getD []

/-- The exact sum of the smallest sizes of some mount points. -/
def exactSum (mounts : List Filesystem) : Nat :=
  (mounts.map (·.minSize.toNat)).sum

/-- The exact size of an image: what its mount points need, or what is asked for if that
is larger. -/
def exactSize (request : ComposeRequest) (image : ImageRequest) : Nat :=
  max (exactSum request.mounts) (image.size.getD 0).toNat

/-- The running total of some mount points is their exact sum, up to the largest size. -/
theorem toNat_runningTotal (mounts : List Filesystem) :
    ((mounts.map (·.minSize)).foldl addSizes 0).toNat = min (exactSum mounts) largestSize := by
  rw [toNat_foldl_addSizes, List.map_map]
  exact congrArg (min · largestSize) (Nat.zero_add _)

theorem toNat_totalSize (request : ComposeRequest) (image : ImageRequest) :
    (request.totalSize image).toNat = min (request.exactSize image) largestSize := by
  have declared : request.filesystemSize.toNat = min (exactSum request.mounts) largestSize :=
    toNat_runningTotal request.mounts
  have asked : (image.size.getD 0).toNat ≤ largestSize := Nat.le_of_lt_succ (UInt64.toNat_lt _)
  rw [totalSize, UInt64.toNat_max, declared, exactSize]
  omega

/-- The bound of the sum is beyond the ceiling, so it does not decide. -/
theorem totalSize_le_iff :
    request.totalSize image ≤ maxImageSize ↔ request.exactSize image ≤ 68719476736 := by
  have ceiling : maxImageSize.toNat = 68719476736 := rfl
  rw [UInt64.le_iff_toNat_le, toNat_totalSize, ceiling, largestSize]
  omega

/-- The order of the mount points has no say in their sum. -/
theorem exactSize_perm (same : other.mounts.Perm request.mounts) :
    other.exactSize image = request.exactSize image := by
  have sums : exactSum other.mounts = exactSum request.mounts := (same.map _).sum_eq
  rw [exactSize, exactSize, sums]

/-- What an image that is too large is refused with, if its provider limits it. -/
theorem limitedBy_iff {type : ImageType} {fault : CustomizationFault} :
    (if type.isAws then .error (.imageTooLarge "AWS")
      else if type.isAzure then .error (.imageTooLarge "Azure")
      else .ok () : Except CustomizationFault Unit) = .error fault ↔
      ∃ provider, type.LimitedBy provider ∧ fault = .imageTooLarge provider := by
  constructor
  · intro refused
    cases type with
    | aws =>
        cases refused
        exact ⟨"AWS", .aws, rfl⟩
    | ami =>
        cases refused
        exact ⟨"AWS", .ami, rfl⟩
    | azure =>
        cases refused
        exact ⟨"Azure", .azure, rfl⟩
    | vhd =>
        cases refused
        exact ⟨"Azure", .vhd, rfl⟩
    | gcp | guestImage | imageInstaller | edgeCommit | edgeInstaller | rhelEdgeCommit
      | rhelEdgeInstaller | vsphere | vsphereOva | wsl | oci => cases refused
  · rintro ⟨provider, limited, rfl⟩
    cases limited with
    | aws | ami | azure | vhd => rfl

/-- A request is refused for the exact size of its first image, and for nothing else. -/
theorem checkSize_error_iff {fault : CustomizationFault} :
    request.checkSize = .error fault ↔
      ∃ image rest provider, request.imageRequests = image :: rest ∧
        68719476736 < request.exactSize image ∧ image.imageType.LimitedBy provider ∧
        fault = .imageTooLarge provider := by
  unfold checkSize
  cases request.imageRequests with
  | nil =>
      constructor
      · exact nofun
      · rintro ⟨image, rest, provider, none, -⟩
        cases none
  | cons image rest =>
      by_cases small : request.exactSize image ≤ 68719476736
      · simp only [if_pos (totalSize_le_iff.mpr small)]
        constructor
        · exact nofun
        · rintro ⟨_, _, provider, same, large, -⟩
          cases same
          exact absurd large (Nat.not_lt.mpr small)
      · simp only [if_neg fun fits => small (totalSize_le_iff.mp fits)]
        rw [limitedBy_iff]
        constructor
        · rintro ⟨provider, limited, told⟩
          exact ⟨image, rest, provider, rfl, Nat.not_le.mp small, limited, told⟩
        · rintro ⟨_, _, provider, same, -, limited, told⟩
          cases same
          exact ⟨provider, limited, told⟩

/-- The ceiling is exact.  A request is refused exactly if its first image is one that a
provider limits and the exact sum of its mount points, or the size that is asked for, is
above the ceiling; the running total of the sum never wraps; and requests whose mount
points are in another order are told the same. -/
theorem checkSize_exact (request : ComposeRequest) :
    (∀ fault, request.checkSize = .error fault ↔
        ∃ image rest provider, request.imageRequests = image :: rest ∧
          68719476736 < request.exactSize image ∧ image.imageType.LimitedBy provider ∧
          fault = .imageTooLarge provider) ∧
      (∀ count, (((request.mounts.take count).map (·.minSize)).foldl addSizes 0).toNat =
        min (exactSum (request.mounts.take count)) largestSize) ∧
      ∀ other : ComposeRequest, other.imageRequests = request.imageRequests →
        other.mounts.Perm request.mounts → other.checkSize = request.checkSize := by
  refine ⟨fun _ => checkSize_error_iff, fun _ => toNat_runningTotal _, ?_⟩
  intro other images same
  have refusals (fault : CustomizationFault) :
      other.checkSize = .error fault ↔ request.checkSize = .error fault := by
    rw [checkSize_error_iff, checkSize_error_iff, images]
    simp only [exactSize_perm same]
  rcases told : request.checkSize with fault | ⟨⟩
  · exact (refusals fault).mpr told
  · rcases answered : other.checkSize with fault | ⟨⟩
    · have refused := (refusals fault).mp answered
      rw [told] at refused
      cases refused
    · rfl

/-- Two halves of all that fits are too large for EC2, though they would wrap to nothing. -/
example :
    checkSize ⟨"rhel-9", [⟨"x86_64", .ami, .awsS3, none, none, none⟩],
      some { Customizations.empty with
        filesystem := some [⟨"/", 9223372036854775808⟩, ⟨"/var", 9223372036854775808⟩] },
      none, none, none⟩ = .error (.imageTooLarge "AWS") := by
  decide

end ComposeRequest

end ComposeDesk
