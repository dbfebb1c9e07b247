import ComposeDesk.Request.File
import ComposeDesk.Request.Hardening
import ComposeDesk.Request.Repository
import ComposeDesk.Request.System
import ComposeDesk.Request.User

/-!
# Customizations

All that a caller can change in an image.
-/

namespace ComposeDesk

/-- What a caller wants to be different in an image. -/
structure Customizations where
  packages : Option (List String)
  /-- Repositories used at build time only. -/
  payloadRepositories : Option (List Repository)
  /-- Repositories written into the image. -/
  customRepositories : Option (List CustomRepository)
  filesystem : Option (List Filesystem)
  users : Option (List User)
  groups : Option (List Group)
  files : Option (List File)
  directories : Option (List Directory)
  containers : Option (List Container)
  openscap : Option OpenScap
  firewall : Option Firewall
  services : Option Services
  locale : Option Locale
  timezone : Option Timezone
  kernel : Option Kernel
  subscription : Option Subscription
  fdo : Option Fdo
  ignition : Option Ignition
  fips : Option Fips
  installer : Option Installer
  cacerts : Option CaCertificates
  partitioningMode : Option PartitioningMode
  hostname : Option String
  installationDevice : Option String
deriving DecidableEq, Repr

def Customizations.record : Record Customizations Customizations :=
  Record.start Customizations.mk
    |>.optional "packages" (.list .text) (·.packages)
    |>.optional "payload_repositories" (.list Repository.codec) (·.payloadRepositories)
    |>.optional "custom_repositories" (.list CustomRepository.codec) (·.customRepositories)
    |>.optional "filesystem" (.list Filesystem.codec) (·.filesystem)
    |>.optional "users" (.list User.codec) (·.users)
    |>.optional "groups" (.list Group.codec) (·.groups)
    |>.optional "files" (.list File.codec) (·.files)
    |>.optional "directories" (.list Directory.codec) (·.directories)
    |>.optional "containers" (.list Container.codec) (·.containers)
    |>.optional "openscap" OpenScap.codec (·.openscap)
    |>.optional "firewall" Firewall.codec (·.firewall)
    |>.optional "services" Services.codec (·.services)
    |>.optional "locale" Locale.codec (·.locale)
    |>.optional "timezone" Timezone.codec (·.timezone)
    |>.optional "kernel" Kernel.codec (·.kernel)
    |>.optional "subscription" Subscription.codec (·.subscription)
    |>.optional "fdo" Fdo.codec (·.fdo)
    |>.optional "ignition" Ignition.codec (·.ignition)
    |>.optional "fips" Fips.codec (·.fips)
    |>.optional "installer" Installer.codec (·.installer)
    |>.optional "cacerts" CaCertificates.codec (·.cacerts)
    |>.optional "partitioning_mode" PartitioningMode.codec (·.partitioningMode)
    |>.optional "hostname" .text (·.hostname)
    |>.optional "installation_device" .text (·.installationDevice)

def Customizations.codec : Codec Customizations :=
  Customizations.record.codec "Customizations"

namespace Customizations

def empty : Customizations :=
  ⟨none, none, none, none, none, none, none, none, none, none, none, none, none, none, none,
    none, none, none, none, none, none, none, none, none⟩

def redacted (customizations : Customizations) : Customizations :=
  { customizations with users := customizations.users.map (·.map User.redacted) }

end Customizations

end ComposeDesk
