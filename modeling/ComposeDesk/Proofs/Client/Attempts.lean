import ComposeDesk.Client.Build
import ComposeDesk.Proofs.Client.Moments

/-!
# Attempts to reach the build service

A call of the build service is tried once, and once more with a fresh token if the first reply
refuses the token.  What goes over the network in between is for tokens only, and whatever
fails is the last that happens.
-/

namespace ComposeDesk

namespace BuildClient

open Token (Called LastGrant)

inductive Call where
  | compose (order : Build.Order)
  | composeStatus (id : Uuid)
  | composeMetadata (id : Uuid)
  | cloneCompose (id : Uuid) (order : Build.CloneOrder)
  | cloneStatus (id : Uuid)
  | openapi

namespace Call

def ask {σ : Type} (service : BuildService σ) : Call → Act σ ServiceFault Reply
  | compose order => service.compose order
  | composeStatus id => service.composeStatus id
  | composeMetadata id => service.composeMetadata id
  | cloneCompose id order => service.cloneCompose id order
  | cloneStatus id => service.cloneStatus id
  | openapi => service.openapi

def method : Call → Method
  | compose _ | cloneCompose _ _ => .post
  | composeStatus _ | composeMetadata _ | cloneStatus _ | openapi => .get

def path : Call → String
  | compose _ => "/compose"
  | composeStatus id => "/composes/" ++ id.toText
  | composeMetadata id => "/composes/" ++ id.toText ++ "/metadata"
  | cloneCompose id _ => "/composes/" ++ id.toText ++ "/clone"
  | cloneStatus id => "/clones/" ++ id.toText
  | openapi => "/openapi"

def body : Call → Body
  | compose order => .json order.toJson
  | cloneCompose _ order => .json order.toJson
  | composeStatus _ | composeMetadata _ | cloneStatus _ | openapi => .none

variable {ν : Type}

/-- Every call is a request with its own method, path and body. -/
theorem ask_service (link : Link ν) (url : String) (credentials : Option Credentials)
    (call : Call) :
    call.ask (service link url credentials) =
      request link (root url) credentials call.method call.path call.body := by
  cases call <;> rfl

theorem body_plain (call : Call) (pairs : List (String × String)) : call.body ≠ .form pairs := by
  cases call <;> exact nofun

end Call

/-! ## The course of a call -/

section Course

variable (credentials : Option Credentials) (method : Method) (address : String) (body : Body)

def bearer (token : String) : String := "Bearer " ++ token

/-- What a request comes to, with the token that is held before and after: one try without
credentials; otherwise a token first, then a try with it, and after a refusal a fresh token
and a second try with that.  Whatever fails comes last. -/
inductive Course (cache : TokenCache) :
    List Moment → Except ServiceFault Reply → TokenCache → Prop
  | bare {moments : List Moment} {answer : Except ServiceFault Reply}
      (unknown : credentials = none) (tried : Link.Tried method address none body moments answer) :
      Course cache moments answer cache
  | tokenless {client : Credentials} {asked : List Moment} {fault : ServiceFault}
      {held : TokenCache} (known : credentials = some client)
      (failed : Called client false cache asked (.error fault) held) :
      Course cache asked (.error fault) held
  | single {client : Credentials} {asked sent : List Moment} {token : String}
      {held : TokenCache} {answer : Except ServiceFault Reply} (known : credentials = some client)
      (called : Called client false cache asked (.ok token) held)
      (tried : Link.Tried method address (some (bearer token)) body sent answer)
      (final : ∀ reply, answer = .ok reply → refusesToken reply = false) :
      Course cache (asked ++ sent) answer held
  | unrenewed {client : Credentials} {asked sent again : List Moment} {token : String}
      {held left : TokenCache} {reply : Reply} {fault : ServiceFault}
      (known : credentials = some client)
      (called : Called client false cache asked (.ok token) held)
      (tried : Link.Tried method address (some (bearer token)) body sent (.ok reply))
      (refused : refusesToken reply = true)
      (failed : Called client true held again (.error fault) left) :
      Course cache (asked ++ sent ++ again) (.error fault) left
  | repeated {client : Credentials} {asked sent again resent : List Moment}
      {token fresh : String} {held left : TokenCache} {reply : Reply}
      {answer : Except ServiceFault Reply} (known : credentials = some client)
      (called : Called client false cache asked (.ok token) held)
      (tried : Link.Tried method address (some (bearer token)) body sent (.ok reply))
      (refused : refusesToken reply = true)
      (renewed : Called client true held again (.ok fresh) left)
      (second : Link.Tried method address (some (bearer fresh)) body resent answer) :
      Course cache (asked ++ sent ++ again ++ resent) answer left

end Course

section Step

variable {ν : Type} (link : Link ν) (base : String) (method : Method) (path : String)
  (body : Body)

theorem send_tried (token : Option String) (session : Session (Timed ν)) :
    session.Adds (outcome (send link.timed base method path body token) session)
      fun moments answer cache =>
        Link.Tried method (base ++ path) (token.map bearer) body moments answer ∧
          cache = session.cache :=
  Session.adds_request link method (base ++ path) (token.map bearer) body session

/-- A request comes to its course. -/
theorem request_course (credentials : Option Credentials) (session : Session (Timed ν)) :
    session.Adds
      (outcome (request link.timed base credentials method path body) session)
      (Course credentials method (base ++ path) body session.cache) := by
  cases known : credentials with
  | none =>
      refine (send_tried link base method path body none session).imp ?_
      rintro moments answer _ ⟨tried, rfl⟩
      exact .bare rfl tried
  | some client =>
      refine Session.adds_bind (Token.acquire_called link client false session) ?_ ?_
      · exact fun moments fault cache failed => .tokenless rfl failed
      rintro asked token middle called
      refine Session.adds_bind (send_tried link base method path body (some token) middle) ?_ ?_
      · rintro sent fault _ ⟨tried, rfl⟩
        exact .single rfl called tried nofun
      rintro sent reply later ⟨tried, held⟩
      rw [← held] at called
      cases refused : refusesToken reply with
      | false =>
          refine ⟨[], (List.append_nil _).symm, ?_⟩
          show Course (some client) method (base ++ path) body session.cache
            (asked ++ (sent ++ [])) (.ok reply) later.cache
          rw [List.append_nil]
          refine .single rfl called tried ?_
          rintro _ ⟨⟩
          exact refused
      | true =>
          rw [if_pos rfl]
          refine Session.adds_bind (Token.acquire_called link client true later) ?_ ?_
          · intro again fault left failed
            rw [← List.append_assoc]
            exact .unrenewed rfl called tried refused failed
          rintro again fresh last renewed
          refine (send_tried link base method path body (some fresh) last).imp ?_
          rintro resent answer _ ⟨second, rfl⟩
          rw [← List.append_assoc, ← List.append_assoc]
          exact .repeated rfl called tried refused renewed second

theorem request_alongside (credentials : Option Credentials) :
    Agree Session.Alongside (request link base credentials method path body)
      (request link.timed base credentials method path body) := by
  have sent (token : Option String) :
      Agree Session.Alongside (send link base method path body token)
        (send link.timed base method path body token) :=
    Session.lift_alongside (link.request_alongside method _ _ _ _ body)
  cases credentials with
  | none => exact sent none
  | some client =>
      refine .bind (Token.acquire_alongside link client false) fun token => ?_
      refine .bind (sent (some token)) fun reply => ?_
      refine .ite ?_ (.pure reply)
      exact .bind (Token.acquire_alongside link client true) fun fresh => sent (some fresh)

end Step

/-! ## What goes over the network -/

/-- A request of a call: the same each time, with a token exactly if there are credentials. -/
def Carried (credentials : Option Credentials) (method : Method) (address : String) (body : Body)
    (request : HttpRequest) : Prop :=
  ∃ url token, Url.ofText? address = some url ∧ request = ⟨method, url, none, token, body⟩ ∧
    (credentials = none ∧ token = none ∨
      credentials ≠ none ∧ ∃ text, token = some (bearer text))

section Bounded

variable {credentials : Option Credentials} {method : Method} {address : String} {body : Body}
  {cache left : TokenCache} {moments : List Moment} {answer : Except ServiceFault Reply}

theorem Course.carried
    (course : Course credentials method address body cache moments answer left)
    (plain : ∀ pairs, body ≠ .form pairs) :
    ∀ exchange ∈ Moment.sends moments,
      Carried credentials method address body exchange.request := by
  have signed {client : Credentials} (known : credentials = some client) {sent : List Moment}
      {token : String} {came : Except ServiceFault Reply}
      (tried : Link.Tried method address (some (bearer token)) body sent came)
      (exchange : Exchange) (member : exchange ∈ Moment.sends sent) :
      Carried credentials method address body exchange.request := by
    rw [(tried.exchanges plain).2] at member
    obtain ⟨url, parsed, same⟩ := tried.request member
    exact ⟨url, _, parsed, same, .inr ⟨by rw [known]; exact nofun, token, rfl⟩⟩
  intro exchange member
  cases course with
  | bare unknown tried =>
      rw [(tried.exchanges plain).2] at member
      obtain ⟨url, parsed, same⟩ := tried.request member
      exact ⟨url, none, parsed, same, .inl ⟨unknown, rfl⟩⟩
  | tokenless _ failed =>
      rw [failed.sends] at member
      cases member
  | single known called tried _ =>
      simp only [Moment.sends_append, called.sends, List.nil_append] at member
      exact signed known tried exchange member
  | unrenewed known called tried _ failed =>
      simp only [Moment.sends_append, called.sends, failed.sends, List.nil_append,
        List.append_nil] at member
      exact signed known tried exchange member
  | repeated known called tried _ renewed second =>
      simp only [Moment.sends_append, called.sends, renewed.sends, List.nil_append,
        List.append_nil] at member
      rcases List.mem_append.mp member with first | again
      · exact signed known tried exchange first
      · exact signed known second exchange again

/-- A request is sent at most twice, and at most two others ask for tokens. -/
theorem Course.length_le
    (course : Course credentials method address body cache moments answer left)
    (plain : ∀ pairs, body ≠ .form pairs) :
    (Moment.sends moments).length ≤ 2 ∧ (Moment.asks moments).length ≤ 2 := by
  have once {token : Option String} {sent : List Moment} {came : Except ServiceFault Reply}
      (tried : Link.Tried method address token body sent came) :
      (Moment.sends sent).length ≤ 1 ∧ (Moment.asks sent).length = 0 := by
    obtain ⟨asks, sends⟩ := tried.exchanges plain
    rw [asks, sends]
    exact ⟨tried.length_exchanges, rfl⟩
  cases course with
  | bare _ tried =>
      have sent := once tried
      omega
  | tokenless _ failed =>
      have asked := failed.asks_length
      simp only [failed.sends, List.length_nil]
      omega
  | single _ called tried _ =>
      have asked := called.asks_length
      have sent := once tried
      simp only [Moment.sends_append, Moment.asks_append, called.sends, List.length_append,
        List.length_nil]
      omega
  | unrenewed _ called tried _ failed =>
      have asked := called.asks_length
      have again := failed.asks_length
      have sent := once tried
      simp only [Moment.sends_append, Moment.asks_append, called.sends, failed.sends,
        List.length_append, List.length_nil]
      omega
  | repeated _ called tried _ renewed second =>
      have asked := called.asks_length
      have again := renewed.asks_length
      have sent := once tried
      have resent := once second
      simp only [Moment.sends_append, Moment.asks_append, called.sends, renewed.sends,
        List.length_append, List.length_nil]
      omega

/-- Whatever fails is the last that happens. -/
theorem Course.failsLast
    (course : Course credentials method address body cache moments answer left)
    (plain : ∀ pairs, body ≠ .form pairs) : Moment.FailsLast moments := by
  cases course with
  | bare _ tried => exact tried.failsLast
  | tokenless _ failed => exact failed.failsLast
  | single _ called tried _ => exact .append called.unfailing tried.failsLast
  | unrenewed _ called tried _ failed =>
      exact .append (called.unfailing.append (tried.unfailing plain)) failed.failsLast
  | repeated _ called tried _ renewed second =>
      exact .append ((called.unfailing.append (tried.unfailing plain)).append renewed.unfailing)
        second.failsLast

/-- A reply is given after no failure, and it is the reply to the last request. -/
theorem Course.answered {reply : Reply}
    (course : Course credentials method address body cache moments (.ok reply) left)
    (plain : ∀ pairs, body ≠ .form pairs) :
    Moment.Unfailing moments ∧ ∃ exchange,
      (Moment.sends moments).getLast? = some exchange ∧ exchange.reply = some reply := by
  have last {token : Option String} {sent : List Moment} (front : List Exchange)
      (tried : Link.Tried method address token body sent (.ok reply)) :
      ∃ exchange, (front ++ Moment.sends sent).getLast? = some exchange ∧
        exchange.reply = some reply := by
    obtain ⟨exchange, rfl, replied⟩ := tried.answered
    rw [(tried.exchanges plain).2]
    exact ⟨exchange, List.getLast?_concat, replied⟩
  cases course with
  | bare _ tried => exact ⟨tried.unfailing plain, last [] tried⟩
  | single _ called tried _ =>
      rw [Moment.sends_append]
      exact ⟨called.unfailing.append (tried.unfailing plain), last _ tried⟩
  | repeated _ called tried _ renewed second =>
      rw [Moment.sends_append]
      exact ⟨((called.unfailing.append (tried.unfailing plain)).append renewed.unfailing).append
        (second.unfailing plain), last _ second⟩

/-- A second request went out: the first one was refused, and the second one has the token
that was granted in between. -/
def Resent (moments : List Moment) (first second : Exchange) : Prop :=
  ∃ before between reply grant time,
    moments = before ++ .exchanged first :: between ++ [.exchanged second] ∧
      first.reply = some reply ∧ refusesToken reply = true ∧ LastGrant between grant time ∧
      second.request.authorization = some (bearer grant.token)

theorem Course.resent {first second : Exchange}
    (course : Course credentials method address body cache moments answer left)
    (plain : ∀ pairs, body ≠ .form pairs) (sends : Moment.sends moments = [first, second]) :
    Resent moments first second := by
  have once {token : Option String} {sent : List Moment} {came : Except ServiceFault Reply}
      (tried : Link.Tried method address token body sent came)
      (two : Moment.sends sent = [first, second]) : False := by
    have short := tried.length_exchanges
    rw [← (tried.exchanges plain).2, two] at short
    exact Nat.not_succ_le_self 1 short
  cases course with
  | bare _ tried => exact (once tried sends).elim
  | tokenless _ failed =>
      rw [failed.sends] at sends
      cases sends
  | single _ called tried _ =>
      simp only [Moment.sends_append, called.sends, List.nil_append] at sends
      exact (once tried sends).elim
  | unrenewed _ called tried _ failed =>
      simp only [Moment.sends_append, called.sends, failed.sends, List.nil_append,
        List.append_nil] at sends
      exact (once tried sends).elim
  | @repeated _ asked sent again resent _ fresh _ _ reply _ _ called tried refused renewed other =>
      simp only [Moment.sends_append, called.sends, renewed.sends, List.nil_append,
        List.append_nil, (tried.exchanges plain).2, (other.exchanges plain).2] at sends
      obtain ⟨exchange, rfl, replied⟩ := tried.answered
      obtain ⟨grant, time, last, rfl⟩ := renewed.lastGrant
      cases other with
      | unsent _ => cases sends
      | @sent url back _ _ =>
          cases sends
          refine ⟨asked, again, reply, grant, time, ?_, replied, refused, last, rfl⟩
          rw [List.append_assoc asked, List.singleton_append]

/-- The token that was refused could not be renewed, or the fresh one can be in no header. -/
inductive Unrenewable (client : Credentials) (again : List Moment) : ServiceFault → Prop
  | failed {held left : TokenCache} {fault : ServiceFault}
      (failed : Called client true held again (.error fault) left) :
      Unrenewable client again fault
  | unsendable {held left : TokenCache} {fresh : String}
      (renewed : Called client true held again (.ok fresh) left)
      (header : Link.isHeaderValue (bearer fresh) = false) : Unrenewable client again .http

/-- A request that went out only once, with a token, was refused only if there was no way to
send it again. -/
theorem Course.once {client : Credentials} {exchange : Exchange} {reply : Reply}
    (course : Course credentials method address body cache moments answer left)
    (plain : ∀ pairs, body ≠ .form pairs) (known : credentials = some client)
    (sends : Moment.sends moments = [exchange]) (replied : exchange.reply = some reply) :
    refusesToken reply = false ∧ answer = .ok reply ∨
      refusesToken reply = true ∧ ∃ before again fault,
        moments = before ++ .exchanged exchange :: again ∧ answer = .error fault ∧
          Unrenewable client again fault := by
  -- a try that is answered is the one exchange
  have only {token : Option String} {sent : List Moment} {other : Reply}
      (tried : Link.Tried method address token body sent (.ok other))
      (one : Moment.sends sent = [exchange]) :
      sent = [.exchanged exchange] ∧ other = reply := by
    obtain ⟨found, rfl, told⟩ := tried.answered
    rw [(tried.exchanges plain).2] at one
    cases one
    exact ⟨rfl, Option.some.inj (told.symm.trans replied)⟩
  cases course with
  | bare unknown _ =>
      rw [unknown] at known
      cases known
  | tokenless _ failed =>
      rw [failed.sends] at sends
      cases sends
  | @single _ _ _ _ _ answer _ called tried final =>
      simp only [Moment.sends_append, called.sends, List.nil_append,
        (tried.exchanges plain).2] at sends
      cases tried with
      | unsent _ => cases sends
      | sent _ _ =>
          cases sends
          dsimp only at replied
          rw [replied] at final ⊢
          exact .inl ⟨final reply rfl, rfl⟩
  | @unrenewed _ asked _ again _ _ _ _ _ same called tried refused failed =>
      rw [known] at same
      cases same
      simp only [Moment.sends_append, called.sends, failed.sends, List.nil_append,
        List.append_nil] at sends
      obtain ⟨rfl, rfl⟩ := only tried sends
      refine .inr ⟨refused, asked, again, _, ?_, rfl, .failed failed⟩
      rw [List.append_assoc, List.singleton_append]
  | @repeated _ asked _ again _ _ _ _ _ _ _ same called tried refused renewed second =>
      rw [known] at same
      cases same
      simp only [Moment.sends_append, called.sends, renewed.sends, List.nil_append,
        List.append_nil, (second.exchanges plain).2] at sends
      cases second with
      | unsent unsendable =>
          obtain ⟨rfl, rfl⟩ := only tried ((List.append_nil _).symm.trans sends)
          obtain ⟨url, parsed, -⟩ := tried.request (List.mem_singleton_self exchange)
          have header := unsendable.resolve_left (by rw [parsed]; exact Option.some_ne_none url)
          refine .inr ⟨refused, asked, again, .http, ?_, rfl, .unsendable renewed header⟩
          rw [List.append_nil, List.append_assoc, List.singleton_append]
      | sent _ _ =>
          obtain ⟨found, rfl, -⟩ := tried.answered
          rw [(tried.exchanges plain).2] at sends
          cases sends

/-- Without credentials, what can be sent is sent once, and nothing else. -/
theorem Course.sent_once {url : Url}
    (course : Course none method address body cache moments answer left)
    (parsed : Url.ofText? address = some url) : ∃ reply,
      moments = [.exchanged ⟨⟨method, url, none, none, body⟩, reply⟩] ∧
        answer = Link.received reply := by
  cases course with
  | bare _ tried =>
      cases tried with
      | unsent unsendable =>
          rcases unsendable with none | header
          · rw [parsed] at none
            cases none
          · cases header
      | @sent other reply found _ =>
          rw [parsed] at found
          cases found
          exact ⟨reply, rfl, rfl⟩
  | tokenless known _ | single known _ _ _ | unrenewed known _ _ _ _ | repeated known _ _ _ _ _ =>
      cases known

end Bounded

/-- How often a call is tried, and what comes of it. -/
structure Bounded (credentials : Option Credentials) (call : Call) (address : String)
    (moments : List Moment) (answer : Except ServiceFault Reply) : Prop where
  carried : ∀ exchange ∈ Moment.sends moments,
    Carried credentials call.method address call.body exchange.request
  twice : (Moment.sends moments).length ≤ 2 ∧ (Moment.asks moments).length ≤ 2
  bare : credentials = none → ∀ url, Url.ofText? address = some url → ∃ reply,
    moments = [.exchanged ⟨⟨call.method, url, none, none, call.body⟩, reply⟩] ∧
      answer = Link.received reply
  once : ∀ client exchange reply, credentials = some client →
    Moment.sends moments = [exchange] → exchange.reply = some reply →
      refusesToken reply = false ∧ answer = .ok reply ∨
        refusesToken reply = true ∧ ∃ before again fault,
          moments = before ++ .exchanged exchange :: again ∧ answer = .error fault ∧
            Unrenewable client again fault
  again : ∀ first second, Moment.sends moments = [first, second] → Resent moments first second
  answered : ∀ reply, answer = .ok reply → Moment.Unfailing moments ∧ ∃ exchange,
    (Moment.sends moments).getLast? = some exchange ∧ exchange.reply = some reply
  failsLast : Moment.FailsLast moments

theorem Course.bounded {credentials : Option Credentials} {call : Call} {address : String}
    {cache left : TokenCache} {moments : List Moment} {answer : Except ServiceFault Reply}
    (course : Course credentials call.method address call.body cache moments answer left) :
    Bounded credentials call address moments answer where
  carried := course.carried call.body_plain
  twice := course.length_le call.body_plain
  bare unknown url parsed := by
    rw [unknown] at course
    exact course.sent_once parsed
  once client exchange reply known sends replied :=
    course.once call.body_plain known sends replied
  again first second sends := course.resent call.body_plain sends
  answered reply told := by
    rw [told] at course
    exact course.answered call.body_plain
  failsLast := course.failsLast call.body_plain

/-- Whatever token is held, and however the network behaves, a call comes to its course: it is
sent once without credentials, and otherwise at most twice, the second time exactly if the
token was refused and could be renewed; what fails comes last, and the reply to the last
request is the answer. -/
theorem ask_bounded {ν : Type} (link : Link ν) (url : String)
    (credentials : Option Credentials) (call : Call) (world : ν) (cache : TokenCache) :
    let ran := outcome (call.ask (service link.timed url credentials)) ⟨⟨world, []⟩, cache⟩
    (outcome (call.ask (service link url credentials)) ⟨world, cache⟩).1 = ran.1 ∧
      Course credentials call.method (root url ++ call.path) call.body cache
        ran.2.net.moments ran.1 ran.2.cache ∧
      Bounded credentials call (root url ++ call.path) ran.2.net.moments ran.1 := by
  intro ran
  have begins : Session.Alongside ⟨world, cache⟩ ⟨⟨world, []⟩, cache⟩ := ⟨rfl, rfl⟩
  have same := (request_alongside link (root url) call.method call.path call.body credentials
    _ _ begins).1
  obtain ⟨moments, added, course⟩ := request_course link (root url) call.method call.path
    call.body credentials ⟨⟨world, []⟩, cache⟩
  rw [← call.ask_service link.timed url credentials] at same added course
  rw [← call.ask_service link url credentials] at same
  rw [List.nil_append] at added
  rw [← added] at course
  exact ⟨same, course, course.bounded⟩

end BuildClient

end ComposeDesk
