import ComposeDesk.Proofs.Client.Exchanges

/-!
# The timeline of a network

A network with a timeline beside it: each reading of the clock and each exchange is written
down as it comes.  What an act comes to is said of the moments that it adds, and acts that
follow one another add the moments of the first and then those of the rest.
-/

namespace ComposeDesk

/-- What happens at a moment: the clock is read, or something is exchanged. -/
inductive Moment where
  | read (time : Timestamp)
  | exchanged (exchange : Exchange)

namespace Moment

def exchanges (moments : List Moment) : List Exchange :=
  moments.filterMap fun
    | .read _ => none
    | .exchanged exchange => some exchange

@[simp] theorem exchanges_nil : exchanges [] = [] := rfl

@[simp] theorem exchanges_read (time : Timestamp) (rest : List Moment) :
    exchanges (.read time :: rest) = exchanges rest := rfl

@[simp] theorem exchanges_exchanged (exchange : Exchange) (rest : List Moment) :
    exchanges (.exchanged exchange :: rest) = exchange :: exchanges rest := rfl

@[simp] theorem exchanges_append (moments more : List Moment) :
    exchanges (moments ++ more) = exchanges moments ++ exchanges more :=
  List.filterMap_append

def requests (moments : List Moment) : List HttpRequest :=
  (exchanges moments).map (·.request)

/-- A test of the time that is read, or of the reply that came. -/
def passes (times : Timestamp → Bool) (replies : Option Reply → Bool) : Moment → Bool
  | .read time => times time
  | .exchanged exchange => replies exchange.reply

end Moment

/-- A state of the network and what happened on it so far. -/
structure Timed (ν : Type) where
  world : ν
  moments : List Moment

namespace Link

variable {ν : Type} (link : Link ν)

def timed : Link (Timed ν) where
  send request := fun state =>
    let (reply, world) := (link.send request).run state.world
    (reply, ⟨world, state.moments ++ [.exchanged ⟨request, reply⟩]⟩)
  now := fun state =>
    let (time, world) := link.now.run state.world
    (time, ⟨world, state.moments ++ [.read time]⟩)

/-- A request that cannot be sent: its address is none, or its header has a value that no
header can have. -/
def Unsendable (address : String) (authorization : Option String) : Prop :=
  Url.ofText? address = none ∨ authorization.all isHeaderValue = false

/-- What trying to send a request comes to: nothing is sent, or it goes over the network
once. -/
inductive Tried (method : Method) (address : String) (authorization : Option String)
    (body : Body) : List Moment → Except ServiceFault Reply → Prop
  | unsent (unsendable : Unsendable address authorization) :
      Tried method address authorization body [] (.error .http)
  | sent {url : Url} {reply : Option Reply} (parsed : Url.ofText? address = some url)
      (header : authorization.all isHeaderValue = true) :
      Tried method address authorization body
        [.exchanged ⟨⟨method, url, none, authorization, body⟩, reply⟩] (received reply)

/-- Trying to send a request adds at most one exchange. -/
theorem request_tried (method : Method) (address : String) (authorization : Option String)
    (body : Body) (state : Timed ν) :
    ∃ moments,
      (outcome (link.timed.request method address [] none authorization body) state).2.moments =
          state.moments ++ moments ∧
        Tried method address authorization body moments
          (outcome (link.timed.request method address [] none authorization body) state).1 := by
  have identity : (none : Option String).all isHeaderValue = true := rfl
  have sent (request : HttpRequest) :
      outcome (link.timed.send request : Act (Timed ν) ServiceFault (Option Reply)) state =
        (.ok ((link.send request).run state.world).1,
          ⟨((link.send request).run state.world).2, state.moments ++
            [.exchanged ⟨request, ((link.send request).run state.world).1⟩]⟩) := rfl
  cases parsed : Url.ofText? address with
  | none =>
      simp only [request, parsed]
      exact ⟨[], (List.append_nil _).symm, .unsent (.inl parsed)⟩
  | some url =>
      simp only [request, parsed, identity, Bool.true_and]
      cases header : authorization.all isHeaderValue with
      | false => exact ⟨[], (List.append_nil _).symm, .unsent (.inr header)⟩
      | true =>
          simp only [if_true, List.isEmpty_nil, outcome_bind, sent]
          generalize (link.send ⟨method, url, none, authorization, body⟩).run state.world = came
          rcases came with ⟨_ | reply, world⟩
          · exact ⟨_, rfl, .sent parsed header⟩
          · exact ⟨_, rfl, .sent parsed header⟩

end Link

namespace Session

variable {ν ε α β : Type}

/-- An outcome adds moments to those before, which go with the answer and the token that is
held then. -/
def Adds (session : Session (Timed ν)) (ran : Except ε α × Session (Timed ν))
    (comes : List Moment → Except ε α → TokenCache → Prop) : Prop :=
  ∃ moments, ran.2.net.moments = session.net.moments ++ moments ∧
    comes moments ran.1 ran.2.cache

/-- What acts in turn come to is what the first comes to if it fails, and otherwise what
the rest comes to after it. -/
theorem adds_bind {act : Act (Session (Timed ν)) ε α} {next : α → Act (Session (Timed ν)) ε β}
    {session : Session (Timed ν)} {first : List Moment → Except ε α → TokenCache → Prop}
    {comes : List Moment → Except ε β → TokenCache → Prop}
    (starts : session.Adds (outcome act session) first)
    (failed : ∀ moments fault cache, first moments (.error fault) cache →
      comes moments (.error fault) cache)
    (rest : ∀ moments a (middle : Session (Timed ν)), first moments (.ok a) middle.cache →
      middle.Adds (outcome (next a) middle) fun more => comes (moments ++ more)) :
    session.Adds (outcome (act >>= next) session) comes := by
  obtain ⟨moments, added, came⟩ := starts
  rcases ran : outcome act session with ⟨fault | a, middle⟩
  · rw [ran] at added came
    rw [outcome_bind_error ran]
    exact ⟨moments, added, failed moments fault middle.cache came⟩
  · rw [ran] at added came
    rw [outcome_bind_ok ran]
    obtain ⟨more, later, goes⟩ := rest moments a middle came
    refine ⟨moments ++ more, ?_, goes⟩
    rw [later, added, List.append_assoc]

theorem Adds.imp {session : Session (Timed ν)} {ran : Except ε α × Session (Timed ν)}
    {comes goes : List Moment → Except ε α → TokenCache → Prop} (adds : session.Adds ran comes)
    (more : ∀ moments answer cache, comes moments answer cache → goes moments answer cache) :
    session.Adds ran goes := by
  obtain ⟨moments, added, came⟩ := adds
  exact ⟨moments, added, more _ _ _ came⟩

/-- Reading the state adds no moments. -/
theorem outcome_get (session : Session ν) :
    outcome (get : Act (Session ν) ε (Session ν)) session = (.ok session, session) := rfl

/-- An act that is done at once adds no moments. -/
theorem adds_pure (a : α) (session : Session (Timed ν)) :
    session.Adds (outcome (pure a : Act (Session (Timed ν)) ε α) session)
      fun moments answer cache => moments = [] ∧ answer = .ok a ∧ cache = session.cache :=
  ⟨[], (List.append_nil _).symm, rfl, rfl, rfl⟩

/-- Reading the clock adds the reading. -/
theorem adds_now (link : Link ν) (session : Session (Timed ν)) :
    session.Adds (outcome (now link.timed) session) fun moments answer cache =>
      ∃ time, moments = [.read time] ∧ answer = .ok time ∧ cache = session.cache :=
  ⟨_, rfl, _, rfl, rfl, rfl⟩

/-- Trying to send a request adds at most one exchange, and leaves the token. -/
theorem adds_request (link : Link ν) (method : Method) (address : String)
    (authorization : Option String) (body : Body) (session : Session (Timed ν)) :
    session.Adds
      (outcome (lift (link.timed.request method address [] none authorization body)) session)
      fun moments answer cache =>
        Link.Tried method address authorization body moments answer ∧
          cache = session.cache := by
  obtain ⟨moments, added, tried⟩ :=
    link.request_tried method address authorization body session.net
  exact ⟨moments, added, tried, rfl⟩

end Session

def Timed.Over {ν : Type} (world : ν) (state : Timed ν) : Prop :=
  world = state.world

def Session.Alongside {ν : Type} (session : Session ν) (timed : Session (Timed ν)) : Prop :=
  Timed.Over session.net timed.net ∧ session.cache = timed.cache

section Over

variable {ν : Type} (link : Link ν)

theorem Link.send_alongside {ε : Type} (request : HttpRequest) :
    Agree Timed.Over (link.send request : Act ν ε (Option Reply)) (link.timed.send request) := by
  rintro world state rfl
  exact ⟨rfl, rfl⟩

theorem Link.request_alongside (method : Method) (address : String)
    (query : List (String × String)) (identity authorization : Option String) (body : Body) :
    Agree Timed.Over (link.request method address query identity authorization body)
      (link.timed.request method address query identity authorization body) := by
  unfold request
  cases Url.ofText? address with
  | none => exact .throw _
  | some url =>
      refine .ite (.bind (link.send_alongside _) fun reply => ?_) (.throw _)
      cases reply with
      | none => exact .throw _
      | some reply => exact .pure _

theorem Session.lift_alongside {ε α : Type} {act : Act ν ε α} {other : Act (Timed ν) ε α}
    (agree : Agree Timed.Over act other) :
    Agree Session.Alongside (lift act) (lift other) := by
  rintro session timed ⟨begins, cache⟩
  obtain ⟨same, kept⟩ := agree session.net timed.net begins
  exact ⟨same, kept, cache⟩

/-- What follows a look at the state depends on the token that is held only. -/
theorem Session.get_alongside {ε α : Type} {next : Session ν → Act (Session ν) ε α}
    {other : Session (Timed ν) → Act (Session (Timed ν)) ε α}
    (rest : ∀ session timed, session.cache = timed.cache →
      Agree Session.Alongside (next session) (other timed)) :
    Agree Session.Alongside (get >>= next) (get >>= other) :=
  fun session timed alongside => rest session timed alongside.2 session timed alongside

theorem Session.now_alongside :
    Agree Session.Alongside (Session.now link) (Session.now link.timed) := by
  refine Session.lift_alongside ?_
  rintro world state rfl
  exact ⟨rfl, rfl⟩

end Over

end ComposeDesk
