import ComposeDesk.Json.Record
import ComposeDesk.Text.Basic

/-!
# Users of an image

Users and groups that callers ask for, and the rule on the credentials of a user.
-/

namespace ComposeDesk

structure User where
  name : String
  groups : Option (List String)
  sshKey : Option String
  password : Option String
deriving DecidableEq, Repr

def User.record : Record User User :=
  Record.start User.mk
    |>.required "name" .text (·.name)
    |>.optional "groups" (.list .text) (·.groups)
    |>.optional "ssh_key" .text (·.sshKey)
    |>.optional "password" .text (·.password)

def User.codec : Codec User :=
  User.record.codec "User"

structure Group where
  name : String
  gid : Option Int64
deriving DecidableEq, Repr

def Group.record : Record Group Group :=
  Record.start Group.mk
    |>.required "name" .text (·.name)
    |>.optional "gid" .int64 (·.gid)

def Group.codec : Codec Group :=
  Group.record.codec "Group"

namespace User

def hasPassword (user : User) : Bool :=
  match user.password with
  | some password => password ≠ ""
  | none => false

def hasSshKey (user : User) : Bool :=
  match user.sshKey with
  | some key => key ≠ ""
  | none => false

/-- Whether the name has a character that is not blank. -/
def isNamed (user : User) : Bool :=
  user.name.toList.any fun c => !Text.isBlank c

/-- A user needs a name and at least one credential. -/
def isValid (user : User) : Bool :=
  user.isNamed && (user.hasPassword || user.hasSshKey)

def complaint (user : User) : String :=
  "User ('" ++ user.name ++ "') must have a name and either a password or an SSH key set."

def validate (user : User) : Except String User :=
  if user.isValid then .ok user else .error user.complaint

/-- The user with credentials that are not given taken from a stored user. -/
def inherit (user stored : User) : User :=
  { user with
    password := user.password <|> stored.password
    sshKey := user.sshKey <|> stored.sshKey }

/-- The user without credentials that are empty. -/
def withoutEmpty (user : User) : User :=
  { user with
    password := if user.password = some "" then none else user.password
    sshKey := if user.sshKey = some "" then none else user.sshKey }

/-- A user of an update, against the stored users.  A credential that is not
given is that of the first stored user of the name, and an empty one is taken
away. -/
def mergeForUpdate (user : User) (stored : List User) : Except String User :=
  if user.hasPassword && user.hasSshKey then user.withoutEmpty.validate
  else match stored.find? (·.name = user.name) with
    | some existing => (user.inherit existing).withoutEmpty.validate
    | none =>
        match user.validate with
        | .ok user => user.withoutEmpty.validate
        | .error text => .error text

def redacted (user : User) : User :=
  { user with password := none }

end User

end ComposeDesk
