import ComposeDesk.Request.Customizations

/-!
# Customizations for the build service

The customizations of an image in the form that the build service takes.
-/

namespace ComposeDesk.Build

open ComposeDesk

structure Repository where
  baseurl : Option String
  metalink : Option String
  mirrorlist : Option String
  rhsm : Option Bool
  gpgkey : Option String
  checkGpg : Option Bool
  checkRepoGpg : Option Bool
  ignoreSsl : Option Bool
  moduleHotfixes : Option Bool
deriving DecidableEq, Repr

def Repository.toJson (x : Repository) : Json :=
  Json.object
    [("baseurl", x.baseurl.map Codec.text.write),
      ("metalink", x.metalink.map Codec.text.write),
      ("mirrorlist", x.mirrorlist.map Codec.text.write),
      ("rhsm", x.rhsm.map Codec.bool.write),
      ("gpgkey", x.gpgkey.map Codec.text.write),
      ("check_gpg", x.checkGpg.map Codec.bool.write),
      ("check_repo_gpg", x.checkRepoGpg.map Codec.bool.write),
      ("ignore_ssl", x.ignoreSsl.map Codec.bool.write),
      ("module_hotfixes", x.moduleHotfixes.map Codec.bool.write)]

def Repository.empty : Repository :=
  ⟨none, none, none, none, none, none, none, none, none⟩

structure Subscription where
  organization : String
  activationKey : String
  serverUrl : String
  baseUrl : String
  insights : Bool
  rhc : Option Bool
deriving DecidableEq, Repr

def Subscription.toJson (x : Subscription) : Json :=
  Json.object
    [("organization", some (Codec.text.write x.organization)),
      ("activation_key", some (Codec.text.write x.activationKey)),
      ("server_url", some (Codec.text.write x.serverUrl)),
      ("base_url", some (Codec.text.write x.baseUrl)),
      ("insights", some (Codec.bool.write x.insights)),
      ("rhc", x.rhc.map Codec.bool.write)]

structure Tailoring where
  profileId : String
  filepath : String
deriving DecidableEq, Repr

def Tailoring.toJson (x : Tailoring) : Json :=
  Json.object
    [("profile_id", some (Codec.text.write x.profileId)),
      ("filepath", some (Codec.text.write x.filepath))]

structure OpenScap where
  profileId : String
  policyId : Option Uuid
  tailoring : Option Tailoring
deriving DecidableEq, Repr

def OpenScap.toJson (x : OpenScap) : Json :=
  Json.object
    [("profile_id", some (Codec.text.write x.profileId)),
      ("policy_id", x.policyId.map Uuid.codec.write),
      ("json_tailoring", x.tailoring.map Tailoring.toJson)]

structure User where
  name : String
  groups : Option (List String)
  key : Option String
  password : Option String
deriving DecidableEq, Repr

def User.toJson (x : User) : Json :=
  Json.object
    [("name", some (Codec.text.write x.name)),
      ("groups", x.groups.map (Codec.list .text).write),
      ("key", x.key.map Codec.text.write),
      ("password", x.password.map Codec.text.write)]

/-- A file with its content as text. -/
structure File where
  path : String
  mode : Option String
  user : Option Owner
  group : Option Owner
  data : Option String
  ensureParents : Option Bool
deriving DecidableEq, Repr

def File.toJson (x : File) : Json :=
  Json.object
    [("path", some (Codec.text.write x.path)),
      ("mode", x.mode.map Codec.text.write),
      ("user", x.user.map Owner.codec.write),
      ("group", x.group.map Owner.codec.write),
      ("data", x.data.map Codec.text.write),
      ("ensure_parents", x.ensureParents.map Codec.bool.write)]

structure Customizations where
  subscription : Option Subscription
  packages : Option (List String)
  payloadRepositories : Option (List Repository)
  customRepositories : Option (List CustomRepository)
  openscap : Option OpenScap
  filesystem : Option (List Filesystem)
  users : Option (List User)
  groups : Option (List Group)
  partitioningMode : Option PartitioningMode
  containers : Option (List Container)
  directories : Option (List Directory)
  files : Option (List File)
  locale : Option Locale
  kernel : Option Kernel
  services : Option Services
  firewall : Option Firewall
  timezone : Option Timezone
  installationDevice : Option String
  fdo : Option Fdo
  ignition : Option Ignition
  fips : Option Fips
  installer : Option Installer
  cacerts : Option CaCertificates
  hostname : Option String
deriving DecidableEq, Repr

def Customizations.toJson (x : Customizations) : Json :=
  Json.object
    [("subscription", x.subscription.map Subscription.toJson),
      ("packages", x.packages.map (Codec.list .text).write),
      ("payload_repositories",
        x.payloadRepositories.map fun items => .arr (items.map Repository.toJson)),
      ("custom_repositories", x.customRepositories.map (Codec.list CustomRepository.codec).write),
      ("openscap", x.openscap.map OpenScap.toJson),
      ("filesystem", x.filesystem.map (Codec.list Filesystem.codec).write),
      ("users", x.users.map (fun items => .arr (items.map User.toJson))),
      ("groups", x.groups.map (Codec.list Group.codec).write),
      ("partitioning_mode", x.partitioningMode.map PartitioningMode.codec.write),
      ("containers", x.containers.map (Codec.list Container.codec).write),
      ("directories", x.directories.map (Codec.list Directory.codec).write),
      ("files", x.files.map (fun items => .arr (items.map File.toJson))),
      ("locale", x.locale.map Locale.codec.write),
      ("kernel", x.kernel.map Kernel.codec.write),
      ("services", x.services.map Services.codec.write),
      ("firewall", x.firewall.map Firewall.codec.write),
      ("timezone", x.timezone.map Timezone.codec.write),
      ("installation_device", x.installationDevice.map Codec.text.write),
      ("fdo", x.fdo.map Fdo.codec.write),
      ("ignition", x.ignition.map Ignition.codec.write),
      ("fips", x.fips.map Fips.codec.write),
      ("installer", x.installer.map Installer.codec.write),
      ("cacerts", x.cacerts.map CaCertificates.codec.write),
      ("hostname", x.hostname.map Codec.text.write)]

end ComposeDesk.Build
