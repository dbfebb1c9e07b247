import ComposeDesk.Text.Basic

/-!
# Routes

The paths that are answered.  Parts in braces stand for any text without a
slash that is not empty; they are kept as they were sent.
-/

namespace ComposeDesk.Api

inductive Resource where
  | version
  | ready
  | distributions
  | architectures (distribution : String)
  | compose
  | composes
  | composeOf (id : String)
  | metadataOf (id : String)
  | cloneOf (id : String)
  | clonesOf (id : String)
  | clone (id : String)
  | blueprints
  | blueprint (id : String)
  | exportOf (id : String)
  | blueprintCompose (id : String)
  | blueprintComposes (id : String)
deriving DecidableEq, Repr

namespace Resource

def ofParts? : List String → Option Resource
  | ["version"] => some .version
  | ["ready"] => some .ready
  | ["distributions"] => some .distributions
  | ["architectures", name] => if name = "" then none else some (.architectures name)
  | ["compose"] => some .compose
  | ["composes"] => some .composes
  | ["blueprints"] => some .blueprints
  | ["composes", id] => if id = "" then none else some (.composeOf id)
  | ["clones", id] => if id = "" then none else some (.clone id)
  | ["blueprints", id] => if id = "" then none else some (.blueprint id)
  | ["composes", id, action] =>
      if id = "" then none
      else if action = "metadata" then some (.metadataOf id)
      else if action = "clone" then some (.cloneOf id)
      else if action = "clones" then some (.clonesOf id)
      else none
  | ["blueprints", id, action] =>
      if id = "" then none
      else if action = "export" then some (.exportOf id)
      else if action = "compose" then some (.blueprintCompose id)
      else if action = "composes" then some (.blueprintComposes id)
      else none
  | _ => none

/-- A part of a path that stands for any text. -/
def anyText (name : String) : String := "\x7b" ++ name ++ "\x7d"

/-- The path of the resource with parts that stand for any text. -/
def template : Resource → String
  | .version => "/version"
  | .ready => "/ready"
  | .distributions => "/distributions"
  | .architectures _ => "/architectures/" ++ anyText "distribution"
  | .compose => "/compose"
  | .composes => "/composes"
  | .composeOf _ => "/composes/" ++ anyText "id"
  | .metadataOf _ => "/composes/" ++ anyText "id" ++ "/metadata"
  | .cloneOf _ => "/composes/" ++ anyText "id" ++ "/clone"
  | .clonesOf _ => "/composes/" ++ anyText "id" ++ "/clones"
  | .clone _ => "/clones/" ++ anyText "id"
  | .blueprints => "/blueprints"
  | .blueprint _ => "/blueprints/" ++ anyText "id"
  | .exportOf _ => "/blueprints/" ++ anyText "id" ++ "/export"
  | .blueprintCompose _ => "/blueprints/" ++ anyText "id" ++ "/compose"
  | .blueprintComposes _ => "/blueprints/" ++ anyText "id" ++ "/composes"

end Resource

/-- The name under which a version of the interface is served; both are served
alike. -/
def versionNames : List String := ["v1", "v1.0"]

def root : String := "/api/image-builder/"

inductive Route where
  | health
  | metrics
  | resource (version : String) (resource : Resource)
deriving DecidableEq, Repr

namespace Route

def parts (path : String) : List String :=
  (Text.split (· == '/') path.toList).map String.ofList

def ofPath? (path : String) : Option Route :=
  match parts path with
  | ["", "health"] => some .health
  | ["", "metrics"] => some .metrics
  | "" :: "api" :: "image-builder" :: version :: rest =>
      if versionNames.contains version then
        (Resource.ofParts? rest).map (.resource version)
      else none
  | _ => none

end Route

end ComposeDesk.Api
