import ComposeDesk.Distribution

/-!
# The registry of distributions

Each folder of a directory describes the distribution of its name in a file of
its name.  The registry lists them by name.
-/

namespace ComposeDesk

/-- A folder of the directory of distributions, with the text of the file of
its name if that can be read. -/
structure DistributionFolder where
  name : String
  text : Option String

/-- Why distributions cannot be loaded; paths are relative to the directory. -/
inductive RegistryFault where
  | noDirectory
  | unreadable (path : String)
  | malformed (path : String)
deriving DecidableEq, Repr

def RegistryFault.message (directory : String) : RegistryFault → String
  | .noDirectory => "Failed to read distributions directory " ++ directory
  | .unreadable path => "Failed to read " ++ directory ++ "/" ++ path
  | .malformed path => "Failed to parse " ++ directory ++ "/" ++ path

/-- Distributions by name, in the order of their names. -/
structure Registry where
  entries : List (String × Distribution)
deriving Repr

namespace Registry

def insert (name : String) (distribution : Distribution) :
    List (String × Distribution) → List (String × Distribution)
  | [] => [(name, distribution)]
  | (other, held) :: rest =>
      if name < other then (name, distribution) :: (other, held) :: rest
      else if name = other then (name, distribution) :: rest
      else (other, held) :: insert name distribution rest

def ofList (distributions : List (String × Distribution)) : Registry :=
  ⟨distributions.foldl (fun held (name, distribution) => insert name distribution held) []⟩

def readFolder (folder : DistributionFolder) :
    Except RegistryFault (String × Distribution) :=
  let path := folder.name ++ "/" ++ folder.name ++ ".json"
  match folder.text with
  | none => .error (.unreadable path)
  | some text =>
      match Distribution.codec.readText (Json.Source.ofString text) with
      | .ok distribution => .ok (folder.name, distribution)
      | .error _ => .error (.malformed path)

def load : Option (List DistributionFolder) → Except RegistryFault Registry
  | none => .error .noDirectory
  | some folders => (folders.mapM readFolder).map ofList

def available (registry : Registry) (entitled : Bool) : List (String × Distribution) :=
  registry.entries.filter fun (_, distribution) => distribution.isVisible entitled

def get? (registry : Registry) (name : String) (entitled : Bool) : Option Distribution :=
  match registry.entries.find? (·.1 == name) with
  | some (_, distribution) =>
      if distribution.isVisible entitled then some distribution else none
  | none => none

end Registry

end ComposeDesk
