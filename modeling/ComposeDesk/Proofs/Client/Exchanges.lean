import ComposeDesk.Client.Services
import ComposeDesk.Proofs.Lookup

/-!
# Exchanges with services

A network with a book beside it: every request is written down with what came of it.
Services over the network answer as they do without the book, and the book only grows, so
what it says of a run is said of any network.
-/

namespace ComposeDesk

/-- A request that went over the network, and the reply if there was one. -/
structure Exchange where
  request : HttpRequest
  reply : Option Reply

/-- A state of the network and what went over it so far. -/
structure Booked (ν : Type) where
  world : ν
  book : List Exchange

namespace Link

variable {ν : Type} (link : Link ν)

def booked : Link (Booked ν) where
  send request := fun state =>
    let (reply, world) := (link.send request).run state.world
    (reply, ⟨world, state.book ++ [⟨request, reply⟩]⟩)
  now := fun state =>
    let (time, world) := link.now.run state.world
    (time, ⟨world, state.book⟩)

variable {link} {state : Booked ν} {method : Method} {address : String}
  {identity authorization : Option String} {body : Body}

/-- On behalf of a caller, and with no other header, a request can be sent exactly if the
identity can. -/
theorem headers_of_caller (caller : Identity) :
    ((some caller.raw).all isHeaderValue && (none : Option String).all isHeaderValue) =
      isHeaderValue caller.raw := by
  rw [Option.all_some, Option.all_none, Bool.and_true]

def received : Option Reply → Except ServiceFault Reply
  | some reply => .ok reply
  | none => .error .http

/-- A request to an address goes over the network once. -/
theorem outcome_request {url : Url} {reply : Option Reply} {world : ν}
    (parsed : Url.ofText? address = some url)
    (headers : (identity.all isHeaderValue && authorization.all isHeaderValue) = true)
    (answered : (link.send ⟨method, url, identity, authorization, body⟩).run state.world =
      (reply, world)) :
    outcome (link.booked.request method address [] identity authorization body) state =
      (received reply,
        ⟨world, state.book ++ [⟨⟨method, url, identity, authorization, body⟩, reply⟩]⟩) := by
  have sent (request : HttpRequest) :
      outcome (link.booked.send request : Act (Booked ν) ServiceFault (Option Reply)) state =
        (.ok ((link.send request).run state.world).1,
          ⟨((link.send request).run state.world).2,
            state.book ++ [⟨request, ((link.send request).run state.world).1⟩]⟩) := rfl
  simp only [request, parsed, headers, if_true, List.isEmpty_nil, outcome_bind, sent, answered]
  cases reply <;> rfl

/-- A request to what is no address, or with a header that cannot be sent, does not. -/
theorem outcome_request_unsent
    (unsent : Url.ofText? address = none ∨
      (identity.all isHeaderValue && authorization.all isHeaderValue) = false) :
    outcome (link.booked.request method address [] identity authorization body) state =
      (.error .http, state) := by
  rw [request]
  rcases unsent with none | refused
  · rw [none]
    rfl
  · split
    · rfl
    · rw [if_neg (by rw [refused]; exact Bool.false_ne_true)]
      rfl

end Link

/-- A state of the network, and the same with a book that begins with some exchanges. -/
def Booked.Over {ν : Type} (start : List Exchange) (world : ν) (state : Booked ν) : Prop :=
  world = state.world ∧ start <+: state.book

def Session.Over {ν : Type} (start : List Exchange) (session : Session ν)
    (booked : Session (Booked ν)) : Prop :=
  Booked.Over start session.net booked.net ∧ session.cache = booked.cache

section Over

variable {ν : Type} (link : Link ν) (start : List Exchange)

theorem Link.send_agree {ε : Type} (request : HttpRequest) :
    Agree (Booked.Over start) (link.send request : Act ν ε (Option Reply))
      (link.booked.send request) := by
  rintro world state ⟨rfl, begins⟩
  exact ⟨rfl, rfl, begins.trans (List.prefix_append _ _)⟩

theorem Link.request_agree (method : Method) (address : String)
    (query : List (String × String)) (identity authorization : Option String) (body : Body) :
    Agree (Booked.Over start) (link.request method address query identity authorization body)
      (link.booked.request method address query identity authorization body) := by
  unfold request
  cases Url.ofText? address with
  | none => exact .throw _
  | some url =>
      refine .ite (.bind (link.send_agree start _) fun reply => ?_) (.throw _)
      cases reply with
      | none => exact .throw _
      | some reply => exact .pure _

theorem Link.fetch_agree {α : Type} (method : Method) (address : String)
    (query : List (String × String)) (caller : Identity) (body : Body) (codec : Codec α) :
    Agree (Booked.Over start) (link.fetch method address query caller body codec)
      (link.booked.fetch method address query caller body codec) :=
  .bind (link.request_agree start _ _ _ _ _ _) fun _ => .ite (.lift _) (.throw _)

theorem Link.uploadInfo_agree (base : String) (caller : Identity) (source : String) :
    Agree (Booked.Over start) (link.uploadInfo base caller source)
      (link.booked.uploadInfo base caller source) :=
  link.fetch_agree start _ _ _ _ _ _

theorem CatalogClient.snapshotsForDate_agree (base : String) (caller : Identity)
    (date : String) (uuids : List String) :
    Agree (Booked.Over start) (snapshotsForDate link base caller date uuids)
      (snapshotsForDate link.booked base caller date uuids) :=
  link.fetch_agree start _ _ _ _ _ _

theorem CatalogClient.repositories_agree (base : String) (caller : Identity)
    (urls ids : List String) (external : Bool) :
    Agree (Booked.Over start) (repositories link base caller urls ids external)
      (repositories link.booked base caller urls ids external) :=
  .ite (.pure _) (.bind (link.fetch_agree start _ _ _ _ _ _) fun _ => .pure _)

theorem Session.outcome_lift {ε α : Type} (act : Act ν ε α) (session : Session ν) :
    outcome (lift act) session =
      ((outcome act session.net).1, { session with net := (outcome act session.net).2 }) :=
  rfl

theorem Session.lift_agree {ε α : Type} {act : Act ν ε α} {other : Act (Booked ν) ε α}
    (agree : Agree (Booked.Over start) act other) :
    Agree (Session.Over start) (lift act) (lift other) := by
  rintro session booked ⟨begins, cache⟩
  obtain ⟨same, kept⟩ := agree session.net booked.net begins
  exact ⟨same, kept, cache⟩

/-- What acts as it does without the book only adds to it. -/
theorem Session.book_prefix {ε α : Type} {act : Act (Session ν) ε α}
    {other : Act (Session (Booked ν)) ε α} {session left : Session (Booked ν)}
    {answer : Except ε α} (agree : ∀ start, Agree (Session.Over start) act other)
    (done : outcome other session = (answer, left)) : session.net.book <+: left.net.book := by
  have kept := agree session.net.book ⟨session.net.world, session.cache⟩ session
    ⟨⟨rfl, List.prefix_refl _⟩, rfl⟩
  rw [done] at kept
  exact kept.2.1.2

end Over

end ComposeDesk
