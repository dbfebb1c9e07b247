import ComposeDesk.Json.Record

/-!
# System settings

Settings of the installed system, of its installation and of its first start.
-/

namespace ComposeDesk

structure Container where
  source : String
  name : Option String
  tlsVerify : Option Bool
deriving DecidableEq, Repr

def Container.record : Record Container Container :=
  Record.start Container.mk
    |>.required "source" .text (·.source)
    |>.optional "name" .text (·.name)
    |>.optional "tls_verify" .bool (·.tlsVerify)

def Container.codec : Codec Container :=
  Container.record.codec "Container"

structure Services where
  enabled : Option (List String)
  disabled : Option (List String)
  masked : Option (List String)
deriving DecidableEq, Repr

def Services.record : Record Services Services :=
  Record.start Services.mk
    |>.optional "enabled" (.list .text) (·.enabled)
    |>.optional "disabled" (.list .text) (·.disabled)
    |>.optional "masked" (.list .text) (·.masked)

def Services.codec : Codec Services :=
  Services.record.codec "Services"

structure Locale where
  languages : Option (List String)
  keyboard : Option String
deriving DecidableEq, Repr

def Locale.record : Record Locale Locale :=
  Record.start Locale.mk
    |>.optional "languages" (.list .text) (·.languages)
    |>.optional "keyboard" .text (·.keyboard)

def Locale.codec : Codec Locale :=
  Locale.record.codec "Locale"

structure Timezone where
  timezone : Option String
  ntpservers : Option (List String)
deriving DecidableEq, Repr

def Timezone.record : Record Timezone Timezone :=
  Record.start Timezone.mk
    |>.optional "timezone" .text (·.timezone)
    |>.optional "ntpservers" (.list .text) (·.ntpservers)

def Timezone.codec : Codec Timezone :=
  Timezone.record.codec "Timezone"

structure Kernel where
  name : Option String
  append : Option String
deriving DecidableEq, Repr

def Kernel.record : Record Kernel Kernel :=
  Record.start Kernel.mk
    |>.optional "name" .text (·.name)
    |>.optional "append" .text (·.append)

def Kernel.codec : Codec Kernel :=
  Kernel.record.codec "Kernel"

structure Subscription where
  organization : Int64
  activationKey : String
  serverUrl : String
  baseUrl : String
  insights : Bool
  rhc : Option Bool
deriving DecidableEq, Repr

def Subscription.record : Record Subscription Subscription :=
  Record.start Subscription.mk
    |>.required "organization" .int64 (·.organization)
    |>.required "activation_key" .text (·.activationKey)
    |>.required "server_url" .text (·.serverUrl)
    |>.required "base_url" .text (·.baseUrl)
    |>.required "insights" .bool (·.insights)
    |>.optional "rhc" .bool (·.rhc)

def Subscription.codec : Codec Subscription :=
  Subscription.record.codec "Subscription"

/-- Device onboarding. -/
structure Fdo where
  manufacturingServerUrl : Option String
  diunPubKeyInsecure : Option String
  diunPubKeyHash : Option String
  diunPubKeyRootCerts : Option String
deriving DecidableEq, Repr

def Fdo.record : Record Fdo Fdo :=
  Record.start Fdo.mk
    |>.optional "manufacturing_server_url" .text (·.manufacturingServerUrl)
    |>.optional "diun_pub_key_insecure" .text (·.diunPubKeyInsecure)
    |>.optional "diun_pub_key_hash" .text (·.diunPubKeyHash)
    |>.optional "diun_pub_key_root_certs" .text (·.diunPubKeyRootCerts)

def Fdo.codec : Codec Fdo :=
  Fdo.record.codec "Fdo"

/-- A configuration of the first start inside the image. -/
structure IgnitionEmbedded where
  config : String
deriving DecidableEq, Repr

def IgnitionEmbedded.record : Record IgnitionEmbedded IgnitionEmbedded :=
  Record.start IgnitionEmbedded.mk
    |>.required "config" .text (·.config)

def IgnitionEmbedded.codec : Codec IgnitionEmbedded :=
  IgnitionEmbedded.record.codec "IgnitionEmbedded"

/-- The place of a configuration of the first start. -/
structure IgnitionFirstboot where
  url : String
deriving DecidableEq, Repr

def IgnitionFirstboot.record : Record IgnitionFirstboot IgnitionFirstboot :=
  Record.start IgnitionFirstboot.mk
    |>.required "url" .text (·.url)

def IgnitionFirstboot.codec : Codec IgnitionFirstboot :=
  IgnitionFirstboot.record.codec "IgnitionFirstboot"

structure Ignition where
  embedded : Option IgnitionEmbedded
  firstboot : Option IgnitionFirstboot
deriving DecidableEq, Repr

def Ignition.record : Record Ignition Ignition :=
  Record.start Ignition.mk
    |>.optional "embedded" IgnitionEmbedded.codec (·.embedded)
    |>.optional "firstboot" IgnitionFirstboot.codec (·.firstboot)

def Ignition.codec : Codec Ignition :=
  Ignition.record.codec "Ignition"

structure Installer where
  unattended : Option Bool
  sudoNopasswd : Option (List String)
deriving DecidableEq, Repr

def Installer.record : Record Installer Installer :=
  Record.start Installer.mk
    |>.optional "unattended" .bool (·.unattended)
    |>.optional "sudo_nopasswd" (.list .text) (·.sudoNopasswd)

def Installer.codec : Codec Installer :=
  Installer.record.codec "Installer"

inductive PartitioningMode where
  | autoLvm
  | lvm
  | raw
deriving DecidableEq, Repr

def PartitioningMode.name : PartitioningMode → String
  | .autoLvm => "auto-lvm"
  | .lvm => "lvm"
  | .raw => "raw"

def PartitioningMode.codec : Codec PartitioningMode :=
  .oneOf ([.autoLvm, .lvm, .raw].map fun mode => (mode.name, mode)) PartitioningMode.name

end ComposeDesk
