import ComposeDesk.SocketAddress
import ComposeDesk.Text.Basic
import ComposeDesk.Upload

/-!
# Configuration

What the desk is told by its environment.  A variable that is blank counts as
unset; a value is taken as it stands.
-/

namespace ComposeDesk

abbrev Environment := List (String × String)

/-- The value of a variable, unless it is blank. -/
def Environment.get? (environment : Environment) (name : String) : Option String :=
  ((environment.find? (·.1 == name)).map (·.2)).filter fun value => Text.trim value ≠ ""

structure Config where
  listenAddress : SocketAddress
  /-- The database; without one all is held in memory. -/
  databaseUrl : Option String
  runMigrations : Bool
  distributionsDir : String
  /-- The file of quotas; without one there are none. -/
  quotaFile : Option String
  composerUrl : String
  composerTokenUrl : Option String
  composerClientId : String
  composerClientSecret : String
  provisioningUrl : String
  contentSourcesUrl : String
  complianceUrl : String
  uploads : UploadSettings
deriving Repr

inductive ConfigFault where
  | listenAddress
  | runMigrations
  | port
  | credentials
deriving DecidableEq, Repr

def ConfigFault.message : ConfigFault → String
  | .listenAddress => "Invalid LISTEN_ADDRESS: invalid socket address syntax"
  | .runMigrations =>
      "Invalid RUN_MIGRATIONS, expected true or false: " ++
        "provided string was not `true` or `false`"
  | .port => "LISTEN_ADDRESS must use a port greater than 0"
  | .credentials =>
      "COMPOSER_CLIENT_ID and COMPOSER_CLIENT_SECRET are required when " ++
        "COMPOSER_TOKEN_URL is set"

namespace Config

def flag? (text : String) : Option Bool :=
  if text = "true" then some true
  else if text = "false" then some false
  else none

def check (config : Config) : Except ConfigFault Unit :=
  if config.listenAddress.port = 0 then .error .port
  else if config.composerTokenUrl.isSome &&
      (config.composerClientId = "" || config.composerClientSecret = "") then
    .error .credentials
  else .ok ()

def ofEnvironment (environment : Environment) : Except ConfigFault Config := do
  let text (name default : String) : String := (environment.get? name).getD default
  let some listenAddress := SocketAddress.ofText? (text "LISTEN_ADDRESS" "0.0.0.0:8086")
    | throw .listenAddress
  let some runMigrations := flag? (text "RUN_MIGRATIONS" "true")
    | throw .runMigrations
  let config : Config :=
    { listenAddress, runMigrations
      databaseUrl := environment.get? "DATABASE_URL"
      distributionsDir := text "DISTRIBUTIONS_DIR" "./distributions"
      quotaFile := environment.get? "QUOTA_FILE"
      composerUrl := text "COMPOSER_URL" ""
      composerTokenUrl := environment.get? "COMPOSER_TOKEN_URL"
      composerClientId := text "COMPOSER_CLIENT_ID" ""
      composerClientSecret := text "COMPOSER_CLIENT_SECRET" ""
      provisioningUrl := text "PROVISIONING_URL" ""
      contentSourcesUrl := text "CONTENT_SOURCES_URL" ""
      complianceUrl := text "COMPLIANCE_URL" ""
      uploads :=
        ⟨text "OSBUILD_AWS_REGION" "us-east-1", text "OSBUILD_GCP_REGION" "us-east4",
          environment.get? "OSBUILD_GCP_BUCKET"⟩ }
  config.check
  return config

end Config

end ComposeDesk
