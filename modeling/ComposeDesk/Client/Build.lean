import ComposeDesk.Client.Token

/-!
# The client of the build service

Every request carries the held token, if tokens are used.  A request that is
refused for its token is sent once more with a fresh one.
-/

namespace ComposeDesk

namespace BuildClient

variable {ν : Type}

def root (url : String) : String :=
  String.ofList ((url.toList.reverse.dropWhile (· == '/')).reverse) ++
    "/api/image-builder-composer/v2"

def send (link : Link ν) (base : String) (method : Method) (path : String) (body : Body)
    (token : Option String) : Act (Session ν) ServiceFault Reply :=
  Session.lift
    (link.request method (base ++ path) [] none (token.map ("Bearer " ++ ·)) body)

def refusesToken (reply : Reply) : Bool :=
  reply.status = 401 || reply.status = 403

/-- Send a request, with a token if there are credentials, and a second time if
the token is refused. -/
def request (link : Link ν) (base : String) (credentials : Option Credentials)
    (method : Method) (path : String) (body : Body) : Act (Session ν) ServiceFault Reply := do
  match credentials with
  | none => send link base method path body none
  | some credentials =>
      let token ← Token.acquire link credentials false
      let reply ← send link base method path body (some token)
      if refusesToken reply then
        let token ← Token.acquire link credentials true
        send link base method path body (some token)
      else return reply

def service (link : Link ν) (url : String) (credentials : Option Credentials) :
    BuildService (Session ν) :=
  let ask := request link (root url) credentials
  { compose := fun order => ask .post "/compose" (.json order.toJson)
    composeStatus := fun id => ask .get ("/composes/" ++ id.toText) .none
    composeMetadata := fun id => ask .get ("/composes/" ++ id.toText ++ "/metadata") .none
    cloneCompose := fun id order =>
      ask .post ("/composes/" ++ id.toText ++ "/clone") (.json order.toJson)
    cloneStatus := fun id => ask .get ("/clones/" ++ id.toText) .none
    openapi := ask .get "/openapi" .none }

end BuildClient

end ComposeDesk
