import ComposeDesk.Client.Http

/-!
# Scripted networks

A network whose replies are laid down in a script, and which remembers what was
sent.  It shows what the clients do without any network.
-/

namespace ComposeDesk

structure ScriptRule where
  method : String
  /-- The path, encoded. -/
  path : String
  /-- The pairs of the query; without them the query does not matter. -/
  query : Option (List (String × String))
  /-- The replies in their order; the last one is repeated. -/
  replies : List Reply
deriving DecidableEq, Repr

/-- What is answered at an address; no other address can be reached. -/
structure Script where
  origin : String
  rules : List ScriptRule
deriving DecidableEq, Repr

structure ScriptState where
  /-- How often each rule was used. -/
  hits : List Nat
  /-- The requests, the last one first. -/
  sent : List HttpRequest
  /-- How often the clock was read. -/
  ticks : Nat
deriving Repr

namespace ScriptState

def start : ScriptState := ⟨[], [], 0⟩

/-- The instant after a number of readings of the clock: it moves on by a
microsecond each time. -/
def clockAt (ticks : Nat) : Timestamp := ⟨1760000000, ticks * 1000⟩

def now : StateM ScriptState Timestamp := fun state =>
  (clockAt (state.ticks + 1), { state with ticks := state.ticks + 1 })

def hit (index : Nat) (hits : List Nat) : List Nat :=
  let padded := hits ++ List.replicate (index + 1 - hits.length) 0
  padded.set index (padded.getD index 0 + 1)

end ScriptState

/-- A header without the blanks around its value, which are not part of it. -/
def headerValue (text : String) : String :=
  String.ofList (Text.trimBoth (fun c => c == ' ' || c == '\t') text.toList)

def HttpRequest.arrived (request : HttpRequest) : HttpRequest :=
  { request with
    identity := request.identity.map headerValue
    authorization := request.authorization.map headerValue }

def ScriptRule.fits (rule : ScriptRule) (request : HttpRequest) : Bool :=
  rule.method = request.method.name && rule.path = request.url.path &&
    (match rule.query with
      | some pairs => pairs = ((request.url.query.map Form.decode).getD [])
      | none => true)

namespace Script

def noRule : Reply := ⟨404, Utf8.encode "no rule"⟩

def replyOf (replies : List Reply) (before : Nat) : Reply :=
  (replies[before]? <|> replies.getLast?).getD noRule

/-- Send a request: the first rule that is for it answers it. -/
def send (script : Script) (request : HttpRequest) :
    StateM ScriptState (Option Reply) := fun state =>
  if request.url.origin ≠ script.origin then (none, state)
  else
    let state := { state with sent := request.arrived :: state.sent }
    match script.rules.findIdx? (·.fits request) with
    | none => (some noRule, state)
    | some index =>
        let replies := ((script.rules[index]?).map (·.replies)).getD []
        (some (replyOf replies (state.hits.getD index 0)),
          { state with hits := ScriptState.hit index state.hits })

def link (script : Script) : Link ScriptState where
  send := script.send
  now := ScriptState.now

def noLink : Link ScriptState where
  send _ := pure none
  now := ScriptState.now

end Script

end ComposeDesk
