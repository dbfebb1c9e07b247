import ComposeDesk.Json.Codec

/-!
# Image types

The kinds of images that callers can ask for.
-/

namespace ComposeDesk

inductive ImageType where
  | aws
  | ami
  | azure
  | vhd
  | gcp
  | guestImage
  | imageInstaller
  | edgeCommit
  | edgeInstaller
  | rhelEdgeCommit
  | rhelEdgeInstaller
  | vsphere
  | vsphereOva
  | wsl
  | oci
deriving DecidableEq, Repr

namespace ImageType

/-- All kinds, in the order in which messages list them. -/
def all : List ImageType :=
  [.aws, .ami, .azure, .vhd, .gcp, .guestImage, .imageInstaller, .edgeCommit,
    .edgeInstaller, .rhelEdgeCommit, .rhelEdgeInstaller, .vsphere, .vsphereOva, .wsl, .oci]

def name : ImageType → String
  | .aws => "aws"
  | .ami => "ami"
  | .azure => "azure"
  | .vhd => "vhd"
  | .gcp => "gcp"
  | .guestImage => "guest-image"
  | .imageInstaller => "image-installer"
  | .edgeCommit => "edge-commit"
  | .edgeInstaller => "edge-installer"
  | .rhelEdgeCommit => "rhel-edge-commit"
  | .rhelEdgeInstaller => "rhel-edge-installer"
  | .vsphere => "vsphere"
  | .vsphereOva => "vsphere-ova"
  | .wsl => "wsl"
  | .oci => "oci"

/-- Images for EC2, the only ones that can be cloned. -/
def isAws (type : ImageType) : Bool :=
  type = .aws || type = .ami

def isAzure (type : ImageType) : Bool :=
  type = .azure || type = .vhd

def isInstaller (type : ImageType) : Bool :=
  type = .imageInstaller || type = .edgeInstaller || type = .rhelEdgeInstaller

def codec : Codec ImageType :=
  .oneOf (all.map fun type => (type.name, type)) name

end ImageType

end ComposeDesk
