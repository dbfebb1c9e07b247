import ComposeDesk.Build.Customizations
import ComposeDesk.Build.Upload
import ComposeDesk.Request.Compose

/-!
# Orders

What the build service is asked for.
-/

namespace ComposeDesk.Build

open ComposeDesk

structure ImageOrder where
  architecture : String
  kind : ImageKind
  repositories : List Repository
  upload : Upload
  size : Option UInt64
  ostree : Option OsTree
deriving DecidableEq, Repr

def ImageOrder.toJson (x : ImageOrder) : Json :=
  Json.object
    [("architecture", some (Codec.text.write x.architecture)),
      ("image_type", some (ImageKind.toJson x.kind)),
      ("repositories", some (.arr (x.repositories.map Repository.toJson))),
      ("upload_options", some (Upload.toJson x.upload)),
      ("size", x.size.map Codec.uint64.write),
      ("ostree", x.ostree.map OsTree.codec.write)]

structure Order where
  distribution : String
  image : ImageOrder
  customizations : Option Customizations
deriving DecidableEq, Repr

def Order.toJson (x : Order) : Json :=
  Json.object
    [("distribution", some (Codec.text.write x.distribution)),
      ("image_request", some (ImageOrder.toJson x.image)),
      ("customizations", x.customizations.map Customizations.toJson)]

structure CloneOrder where
  region : String
  shareWithAccounts : List String
deriving DecidableEq, Repr

def CloneOrder.toJson (x : CloneOrder) : Json :=
  Json.object
    [("region", some (Codec.text.write x.region)),
      ("share_with_accounts", some ((Codec.list .text).write x.shareWithAccounts))]

end ComposeDesk.Build
