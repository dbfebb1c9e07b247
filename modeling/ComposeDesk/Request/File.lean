import ComposeDesk.Json.Record

/-!
# Files of an image

Files, directories and mount points that callers ask for.
-/

namespace ComposeDesk

/-- An owner, by number or by name. -/
inductive Owner where
  | numbered (id : Int64)
  | named (name : String)
deriving DecidableEq, Repr

/-- An owner as a document: a number if it is one, else a name. -/
def Owner.codec : Codec Owner :=
  .anyOf "Owner"
    [fun json => (Codec.int64.read json).map .numbered,
      fun json => (Codec.text.read json).map .named]
    fun
    | .numbered id => Codec.int64.write id
    | .named name => .str name

structure Filesystem where
  mountpoint : String
  minSize : UInt64
deriving DecidableEq, Repr

def Filesystem.record : Record Filesystem Filesystem :=
  Record.start Filesystem.mk
    |>.required "mountpoint" .text (·.mountpoint)
    |>.required "min_size" .uint64 (·.minSize)

def Filesystem.codec : Codec Filesystem :=
  Filesystem.record.codec "Filesystem"

structure File where
  path : String
  mode : Option String
  user : Option Owner
  group : Option Owner
  data : Option String
  /-- `plain`, which is what is meant without it, or `base64`. -/
  dataEncoding : Option String
  ensureParents : Option Bool
deriving DecidableEq, Repr

def File.record : Record File File :=
  Record.start File.mk
    |>.required "path" .text (·.path)
    |>.optional "mode" .text (·.mode)
    |>.optional "user" Owner.codec (·.user)
    |>.optional "group" Owner.codec (·.group)
    |>.optional "data" .text (·.data)
    |>.optional "data_encoding" .text (·.dataEncoding)
    |>.optional "ensure_parents" .bool (·.ensureParents)

def File.codec : Codec File :=
  File.record.codec "File"

structure Directory where
  path : String
  mode : Option String
  user : Option Owner
  group : Option Owner
  ensureParents : Option Bool
deriving DecidableEq, Repr

def Directory.record : Record Directory Directory :=
  Record.start Directory.mk
    |>.required "path" .text (·.path)
    |>.optional "mode" .text (·.mode)
    |>.optional "user" Owner.codec (·.user)
    |>.optional "group" Owner.codec (·.group)
    |>.optional "ensure_parents" .bool (·.ensureParents)

def Directory.codec : Codec Directory :=
  Directory.record.codec "Directory"

end ComposeDesk
