import ComposeDesk.Json.Record

/-!
# Metadata

The content of images that were built.
-/

namespace ComposeDesk

structure Package where
  format : String
  name : String
  version : String
  release : String
  epoch : Option String
  arch : String
  sigmd5 : String
  signature : Option String
deriving DecidableEq, Repr

def Package.record : Record Package Package :=
  Record.start Package.mk
    |>.required "type" .text (·.format)
    |>.required "name" .text (·.name)
    |>.required "version" .text (·.version)
    |>.required "release" .text (·.release)
    |>.optional "epoch" .text (·.epoch)
    |>.required "arch" .text (·.arch)
    |>.required "sigmd5" .text (·.sigmd5)
    |>.optional "signature" .text (·.signature)

def Package.codec : Codec Package :=
  Package.record.codec "PackageMetadata"

structure ComposeMetadata where
  ostreeCommit : Option String
  packages : List Package
deriving DecidableEq, Repr

def ComposeMetadata.record : Record ComposeMetadata ComposeMetadata :=
  Record.start ComposeMetadata.mk
    |>.optional "ostree_commit" .text (·.ostreeCommit)
    |>.defaulted "packages" (.list Package.codec) [] (·.packages)

def ComposeMetadata.codec : Codec ComposeMetadata :=
  ComposeMetadata.record.codec "ComposeMetadata"

end ComposeDesk
