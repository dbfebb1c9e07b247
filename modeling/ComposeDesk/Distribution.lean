import ComposeDesk.ImageType
import ComposeDesk.Json.Record

/-!
# Distributions

The operating systems of which images can be built: their architectures, image
types and repositories.
-/

namespace ComposeDesk

structure DistributionRepository where
  id : String
  baseurl : Option String
  metalink : Option String
  /-- Only with an entitlement. -/
  rhsm : Bool
  gpgkey : Option String
  checkGpg : Option Bool
  /-- The image types it is for; all if there are none. -/
  tags : List String
deriving DecidableEq, Repr

def DistributionRepository.record : Record DistributionRepository DistributionRepository :=
  Record.start DistributionRepository.mk
    |>.required "id" .text (·.id)
    |>.optional "baseurl" .text (·.baseurl)
    |>.optional "metalink" .text (·.metalink)
    |>.defaulted "rhsm" .bool false (·.rhsm)
    |>.optional "gpgkey" .text (·.gpgkey)
    |>.optional "check_gpg" .bool (·.checkGpg)
    |>.defaulted "image_type_tags" (.list .text) [] (·.tags)

def DistributionRepository.codec : Codec DistributionRepository :=
  DistributionRepository.record.codec "DistributionRepository"

namespace DistributionRepository

def isTaggedFor (repository : DistributionRepository) (type : ImageType) : Bool :=
  repository.tags.contains type.name

def appliesTo (repository : DistributionRepository) (type : ImageType) : Bool :=
  repository.tags.isEmpty || repository.isTaggedFor type

end DistributionRepository

structure Architecture where
  imageTypes : List String
  repositories : List DistributionRepository
deriving DecidableEq, Repr

def Architecture.record : Record Architecture Architecture :=
  Record.start Architecture.mk
    |>.required "image_types" (.list .text) (·.imageTypes)
    |>.required "repositories" (.list DistributionRepository.codec) (·.repositories)

def Architecture.codec : Codec Architecture :=
  Architecture.record.codec "Architecture"

structure DistributionInfo where
  name : String
  description : String
  /-- The name that the build service uses, if it is another one. -/
  composerName : Option String
  /-- Never shown to callers. -/
  restricted : Bool
deriving DecidableEq, Repr

def DistributionInfo.record : Record DistributionInfo DistributionInfo :=
  Record.start DistributionInfo.mk
    |>.required "name" .text (·.name)
    |>.defaulted "description" .text "" (·.description)
    |>.optional "composer_name" .text (·.composerName)
    |>.defaulted "restricted_access" .bool false (·.restricted) ["restrictedAccess"]

def DistributionInfo.codec : Codec DistributionInfo :=
  DistributionInfo.record.codec "DistributionInfo"

structure Distribution where
  modulePlatformId : Option String
  info : DistributionInfo
  x86 : Option Architecture
  arm : Option Architecture
deriving DecidableEq, Repr

def Distribution.record : Record Distribution Distribution :=
  Record.start Distribution.mk
    |>.optional "module_platform_id" .text (·.modulePlatformId)
    |>.required "distribution" DistributionInfo.codec (·.info)
    |>.optional "x86_64" Architecture.codec (·.x86)
    |>.optional "aarch64" Architecture.codec (·.arm)

def Distribution.codec : Codec Distribution :=
  Distribution.record.codec "DistributionFile"

inductive VersionFault where
  | notRhel (name : String)
  | unreadable (name : String)
  /-- The text is to be cut after its first byte, inside a character. -/
  | cutInsideCharacter
deriving DecidableEq, Repr

def VersionFault.message : VersionFault → String
  | .notRhel name => name ++ " is not a RHEL distribution"
  | .unreadable name => "Unable to parse RHEL version from " ++ name
  | .cutInsideCharacter => ""

namespace Distribution

def name (distribution : Distribution) : String :=
  distribution.info.name

/-- The name that the build service knows the distribution by. -/
def composerName (distribution : Distribution) : String :=
  distribution.info.composerName.getD distribution.info.name

def architecture? (distribution : Distribution) (name : String) : Option Architecture :=
  if name = "x86_64" then distribution.x86
  else if name = "aarch64" then distribution.arm
  else none

def architectures (distribution : Distribution) : List (String × Architecture) :=
  (distribution.x86.map ("x86_64", ·)).toList ++ (distribution.arm.map ("aarch64", ·)).toList

def needsEntitlement (distribution : Distribution) : Bool :=
  distribution.architectures.any fun (_, offer) => offer.repositories.any (·.rhsm)

def pair? (major minor : List Char) : Option (UInt32 × UInt32) := do
  let major ← Decimal.uint32? (String.ofList major)
  let minor ← Decimal.uint32? (String.ofList minor)
  some (major, minor)

/-- The major and minor number of a release as the part of a name after
`rhel-` gives them: around the first point, or without a point the first byte
and the rest. -/
def releaseOf (name : String) (version : List Char) : Except VersionFault (UInt32 × UInt32) :=
  let read (major minor : List Char) : Except VersionFault (UInt32 × UInt32) :=
    match pair? major minor with
    | some release => .ok release
    | none => .error (.unreadable name)
  match version.span (· ≠ '.') with
  | (major, _ :: minor) => read major minor
  | (whole, []) =>
      match whole with
      | [] => .error (.unreadable name)
      | first :: rest =>
          if 0x80 ≤ first.toNat then .error .cutInsideCharacter
          else if rest.isEmpty then .error (.unreadable name)
          else read [first] rest

def rhelVersion (distribution : Distribution) : Except VersionFault (UInt32 × UInt32) :=
  let name := distribution.composerName
  match "rhel-".toList.isPrefixOf name.toList with
  | true => releaseOf name (name.toList.drop 5)
  | false => .error (.notRhel name)

def isVisible (distribution : Distribution) (entitled : Bool) : Bool :=
  !distribution.info.restricted && (entitled || !distribution.needsEntitlement)

end Distribution

end ComposeDesk
