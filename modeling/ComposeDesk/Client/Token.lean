import ComposeDesk.Client.Http
import ComposeDesk.Text.Sniffed

/-!
# Tokens for the build service

A token is fetched when it is first needed and used again until shortly before
it expires.
-/

namespace ComposeDesk

structure Credentials where
  url : String
  clientId : String
  clientSecret : String
deriving DecidableEq, Repr

/-- The token that was fetched last, and when it expires. -/
structure TokenCache where
  token : String
  expires : Option Timestamp
deriving DecidableEq, Repr

def TokenCache.empty : TokenCache := ⟨"", none⟩

structure Session (ν : Type) where
  net : ν
  cache : TokenCache

namespace Session

variable {ν α : Type}

def lift {ε : Type} (act : Act ν ε α) : Act (Session ν) ε α := fun session =>
  let (result, net) := act.run session.net
  (result, { session with net })

def now (link : Link ν) : Act (Session ν) ServiceFault Timestamp :=
  lift (ExceptT.lift link.now)

end Session

namespace Token

variable {ν : Type}

/-- A token is fetched anew this long before it expires, in seconds. -/
def margin : Int := 60

structure Grant where
  token : String
  lifetime : Int64
deriving DecidableEq, Repr

def Grant.record : Record Grant Grant :=
  Record.start Grant.mk
    |>.required "access_token" .text (·.token)
    |>.required "expires_in" .int64 (·.lifetime)

def Grant.codec : Codec Grant :=
  Grant.record.codec "TokenResponse"

/-- The largest number of seconds that a span of time has. -/
def maxSpan : Int := 9223372036854775

/-- The instant some seconds later, if that span and that instant exist. -/
def later? (time : Timestamp) (seconds : Int) : Option Timestamp :=
  if -maxSpan ≤ seconds ∧ seconds ≤ maxSpan then
    let sum := time.addSeconds seconds
    if sum.inRange then some sum else none
  else none

def isStale (now expires : Timestamp) : Option Bool :=
  (later? now margin).map fun soon => expires.before soon

def form (credentials : Credentials) : List (String × String) :=
  [("client_id", credentials.clientId), ("client_secret", credentials.clientSecret),
    ("grant_type", "client_credentials")]

def fetch (link : Link ν) (credentials : Credentials) : Act ν ServiceFault Grant := do
  if credentials.clientSecret = "" then
    throw (.token "client id and client secret must be set")
  let reply ←
    link.request .post credentials.url [] none none (.form (form credentials))
  if reply.isSuccess then reply.decode Grant.codec
  else
    throw (.token ("request failed with status code " ++ Decimal.ofNat reply.status ++
      ": " ++ Text.sniffed reply.body))

def needsFetch (link : Link ν) (force : Bool) : Act (Session ν) ServiceFault Bool := do
  let session ← get
  match session.cache.expires with
  | none => return true
  | some expires =>
      let now ← Session.now link
      match isStale now expires with
      | none => throw .aborted
      | some stale => return force || stale || session.cache.token = ""

def renew (link : Link ν) (credentials : Credentials) :
    Act (Session ν) ServiceFault String := do
  let grant ← Session.lift (fetch link credentials)
  let now ← Session.now link
  match later? now grant.lifetime.toInt with
  | none => throw .aborted
  | some expires =>
      modify fun session => { session with cache := ⟨grant.token, some expires⟩ }
      return grant.token

/-- The held token, fetched anew if that is forced or it is not there, empty or
about to expire. -/
def acquire (link : Link ν) (credentials : Credentials) (force : Bool) :
    Act (Session ν) ServiceFault String := do
  if ← needsFetch link force then renew link credentials
  else return (← get).cache.token

end Token

end ComposeDesk
