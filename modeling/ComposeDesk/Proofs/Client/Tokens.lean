import ComposeDesk.Client.Token
import ComposeDesk.Proofs.Calendar.Days
import ComposeDesk.Proofs.Client.Timeline

/-!
# Tokens that are held

A token that is held is given out until shortly before it expires.  Otherwise it is asked for
once, and only a reply that grants one changes what is held.
-/

namespace ComposeDesk

def Exchange.Grants (exchange : Exchange) (grant : Token.Grant) : Prop :=
  ∃ reply, exchange.reply = some reply ∧ reply.isSuccess = true ∧
    reply.read Token.Grant.codec = .ok grant

theorem Exchange.Grants.unique {exchange : Exchange} {grant other : Token.Grant}
    (grants : exchange.Grants grant) (also : exchange.Grants other) : grant = other := by
  obtain ⟨reply, replied, -, read⟩ := grants
  obtain ⟨same, told, -, also⟩ := also
  rw [replied] at told
  cases told
  rw [read] at also
  exact Except.ok.inj also

namespace Token

theorem eq_of_later? {time sum : Timestamp} {seconds : Int}
    (later : later? time seconds = some sum) : sum = time.addSeconds seconds := by
  simp only [later?] at later
  split_ifs at later
  exact (Option.some.inj later).symm

/-- From an instant of the calendar a span that is too large leads out of the calendar, so
that only its end matters. -/
theorem later?_of_inRange {time : Timestamp} (ordinary : time.inRange = true) (seconds : Int) :
    later? time seconds =
      if (time.addSeconds seconds).inRange then some (time.addSeconds seconds) else none := by
  simp only [later?]
  by_cases span : -maxSpan ≤ seconds ∧ seconds ≤ maxSpan
  · rw [if_pos span]
  · rw [if_neg span, if_neg]
    intro range
    have sum := Timestamp.inRange_iff.mp range
    rw [Timestamp.inRange_iff] at ordinary
    unfold maxSpan at span
    simp only [Timestamp.addSeconds] at sum
    omega

section Calls

variable (credentials : Credentials) (forced : Bool) (cache : TokenCache)

/-- A token has to be fetched: that is forced, none was fetched before, the one that is held
is empty, or it expires before the margin has passed. -/
def Due (now : Timestamp) : Prop :=
  forced = true ∨ cache.expires = none ∨ cache.token = "" ∨
    ∃ expires, cache.expires = some expires ∧ expires.before (now.addSeconds margin) = true

/-- What looking at the token that is held comes to. -/
inductive Judged : List Moment → Except ServiceFault Bool → Prop
  | never (none : cache.expires = none) : Judged [] (.ok true)
  | late {expires now : Timestamp} (held : cache.expires = some expires)
      (late : later? now margin = none) : Judged [.read now] (.error .aborted)
  | due {expires now soon : Timestamp} (held : cache.expires = some expires)
      (soon : later? now margin = some soon) (due : Due forced cache now) :
      Judged [.read now] (.ok true)
  | current {expires now soon : Timestamp} (held : cache.expires = some expires)
      (soon : later? now margin = some soon) (current : ¬ Due forced cache now) :
      Judged [.read now] (.ok false)

def Asks (request : HttpRequest) : Prop :=
  credentials.clientSecret ≠ "" ∧ ∃ url, Url.ofText? credentials.url = some url ∧
    request = ⟨.post, url, none, none, .form (form credentials)⟩

/-- No request for a token can be sent. -/
inductive Unasked : ServiceFault → Prop
  | secret (missing : credentials.clientSecret = "") :
      Unasked (.token "client id and client secret must be set")
  | address (secret : credentials.clientSecret ≠ "") (none : Url.ofText? credentials.url = none) :
      Unasked .http

/-- No token comes of a request: there is no reply, or its status or its body is none of a
grant. -/
inductive Refused : Option Reply → ServiceFault → Prop
  | unanswered : Refused none .http
  | status {reply : Reply} (failure : reply.isSuccess = false) :
      Refused (some reply) (.token ("request failed with status code " ++
        Decimal.ofNat reply.status ++ ": " ++ Text.sniffed reply.body))
  | unread {reply : Reply} {fault : Json.Fault} (success : reply.isSuccess = true)
      (unread : reply.read Grant.codec = .error fault) : Refused (some reply) (.decode fault)

/-- What fetching a token comes to: at most one exchange, which grants it or does not. -/
inductive Fetched : List Moment → Except ServiceFault Grant → Prop
  | unasked {fault : ServiceFault} (unasked : Unasked credentials fault) :
      Fetched [] (.error fault)
  | refused {exchange : Exchange} {fault : ServiceFault}
      (asked : Asks credentials exchange.request) (refused : Refused exchange.reply fault) :
      Fetched [.exchanged exchange] (.error fault)
  | granted {exchange : Exchange} {grant : Grant} (asked : Asks credentials exchange.request)
      (grants : exchange.Grants grant) : Fetched [.exchanged exchange] (.ok grant)

/-- What renewing the token that is held comes to: it stays unless another one is granted and
its expiry is an instant of the calendar. -/
inductive Renewed : List Moment → Except ServiceFault String → TokenCache → Prop
  | unfetched {moments : List Moment} {fault : ServiceFault}
      (fetched : Fetched credentials moments (.error fault)) :
      Renewed moments (.error fault) cache
  | endless {moments : List Moment} {grant : Grant} {time : Timestamp}
      (fetched : Fetched credentials moments (.ok grant))
      (endless : later? time grant.lifetime.toInt = none) :
      Renewed (moments ++ [.read time]) (.error .aborted) cache
  | held {moments : List Moment} {grant : Grant} {time expires : Timestamp}
      (fetched : Fetched credentials moments (.ok grant))
      (ends : later? time grant.lifetime.toInt = some expires) :
      Renewed (moments ++ [.read time]) (.ok grant.token) ⟨grant.token, some expires⟩

/-- What a call comes to: the token that is held is given out, or the clock has come to its
end, or the token is renewed. -/
inductive Called : List Moment → Except ServiceFault String → TokenCache → Prop
  | kept {moments : List Moment} (current : Judged forced cache moments (.ok false)) :
      Called moments (.ok cache.token) cache
  | late {moments : List Moment} {fault : ServiceFault}
      (late : Judged forced cache moments (.error fault)) : Called moments (.error fault) cache
  | renewed {moments more : List Moment} {answer : Except ServiceFault String}
      {left : TokenCache} (due : Judged forced cache moments (.ok true))
      (renewed : Renewed credentials cache more answer left) :
      Called (moments ++ more) answer left

end Calls

section Calls

variable {ν : Type} (link : Link ν) (credentials : Credentials) (forced : Bool)
  (session : Session (Timed ν))

theorem due_iff {expires now soon : Timestamp} (cache : TokenCache)
    (held : cache.expires = some expires) (later : later? now margin = some soon) :
    Due forced cache now ↔
      (forced || expires.before soon || decide (cache.token = "")) = true := by
  rw [eq_of_later? later]
  simp only [Due, held, Bool.or_eq_true, decide_eq_true_iff, reduceCtorEq, false_or,
    Option.some.injEq, exists_eq_left']
  tauto

theorem needsFetch_judged :
    session.Adds (outcome (needsFetch link.timed forced) session) fun moments answer left =>
      Judged forced session.cache moments answer ∧ left = session.cache := by
  rw [needsFetch, outcome_bind, Session.outcome_get]
  dsimp only
  cases held : session.cache.expires with
  | none => exact ⟨[], (List.append_nil _).symm, .never held, rfl⟩
  | some expires =>
      refine Session.adds_bind (Session.adds_now link session) ?_ ?_
      · rintro moments fault cache ⟨time, -, failed, -⟩
        cases failed
      · rintro _ now middle ⟨time, rfl, read, cache⟩
        cases read
        cases later : later? now margin with
        | none =>
            simp only [isStale, later, Option.map_none]
            exact ⟨[], (List.append_nil _).symm, .late held later, cache⟩
        | some soon =>
            simp only [isStale, later, Option.map_some]
            refine (Session.adds_pure _ middle).imp ?_
            rintro _ _ left ⟨rfl, rfl, rfl⟩
            have judged := due_iff forced session.cache held later
            refine ⟨?_, cache⟩
            cases due : forced || expires.before soon || decide (session.cache.token = "") with
            | true => exact .due held later (judged.mpr due)
            | false =>
                rw [due] at judged
                exact .current held later fun wanted => Bool.false_ne_true (judged.mp wanted)

def grantOf (reply : Reply) : Except ServiceFault Grant :=
  if reply.isSuccess then reply.decode Grant.codec
  else .error (.token ("request failed with status code " ++ Decimal.ofNat reply.status ++
    ": " ++ Text.sniffed reply.body))

theorem outcome_fetch (secret : credentials.clientSecret ≠ "") (state : Timed ν) :
    outcome (fetch link.timed credentials) state =
      ((outcome (link.timed.request .post credentials.url [] none none
          (.form (form credentials))) state).1.bind grantOf,
        (outcome (link.timed.request .post credentials.url [] none none
          (.form (form credentials))) state).2) := by
  simp only [fetch, if_neg secret, outcome_bind]
  rcases outcome (link.timed.request .post credentials.url [] none none
    (.form (form credentials))) state with ⟨fault | reply, left⟩
  · rfl
  · simp only [grantOf, Except.bind]
    split_ifs <;> rfl

theorem fetched_of_reply {exchange : Exchange} {reply : Reply}
    (asked : Asks credentials exchange.request) (replied : exchange.reply = some reply) :
    Fetched credentials [.exchanged exchange] (grantOf reply) := by
  unfold grantOf
  split_ifs with success
  · rw [Reply.decode]
    cases read : reply.read Grant.codec with
    | error fault =>
        have refused := Refused.unread success read
        rw [← replied] at refused
        exact .refused asked refused
    | ok grant => exact .granted asked ⟨reply, replied, success, read⟩
  · have refused := Refused.status (Bool.eq_false_iff.mpr success)
    rw [← replied] at refused
    exact .refused asked refused

theorem fetch_fetched :
    session.Adds (outcome (Session.lift (fetch link.timed credentials)) session)
      fun moments answer left => Fetched credentials moments answer ∧ left = session.cache := by
  rw [Session.outcome_lift]
  by_cases missing : credentials.clientSecret = ""
  · rw [fetch, if_pos missing]
    exact ⟨[], (List.append_nil _).symm, .unasked (.secret missing), rfl⟩
  · obtain ⟨moments, added, tried⟩ :=
      link.request_tried .post credentials.url none (.form (form credentials)) session.net
    rw [outcome_fetch link credentials missing]
    refine ⟨moments, added, ?_, rfl⟩
    generalize (outcome (link.timed.request .post credentials.url [] none none
      (.form (form credentials))) session.net).1 = answer at tried
    cases tried with
    | unsent unsendable =>
        have none := unsendable.resolve_right fun header => Bool.noConfusion header
        exact .unasked (.address missing none)
    | @sent url reply parsed header =>
        have asked : Asks credentials ⟨.post, url, none, none, .form (form credentials)⟩ :=
          ⟨missing, url, parsed, rfl⟩
        cases reply with
        | none => exact .refused asked .unanswered
        | some reply => exact fetched_of_reply credentials asked rfl

theorem renew_renewed :
    session.Adds (outcome (renew link.timed credentials) session)
      (Renewed credentials session.cache) := by
  refine Session.adds_bind (fetch_fetched link credentials session) ?_ ?_
  · rintro moments fault _ ⟨fetched, rfl⟩
    exact .unfetched fetched
  · rintro moments grant middle ⟨fetched, cache⟩
    refine Session.adds_bind (Session.adds_now link middle) ?_ ?_
    · rintro _ fault _ ⟨time, -, failed, -⟩
      cases failed
    · rintro _ time last ⟨_, rfl, read, same⟩
      cases read
      cases ends : later? time grant.lifetime.toInt with
      | none =>
          refine ⟨[], (List.append_nil _).symm, ?_⟩
          show Renewed credentials session.cache (moments ++ [.read time]) (.error .aborted)
            last.cache
          rw [same, cache]
          exact .endless fetched ends
      | some expires =>
          have held : Renewed credentials session.cache (moments ++ [.read time])
              (.ok grant.token) ⟨grant.token, some expires⟩ := .held fetched ends
          exact ⟨[], (List.append_nil _).symm, held⟩

/-- A call adds what it comes to. -/
theorem acquire_called :
    session.Adds (outcome (acquire link.timed credentials forced) session)
      (Called credentials forced session.cache) := by
  refine Session.adds_bind (needsFetch_judged link forced session) ?_ ?_
  · rintro moments fault _ ⟨late, rfl⟩
    exact .late late
  · rintro moments due middle ⟨judged, cache⟩
    cases due with
    | true =>
        rw [if_pos rfl]
        refine (renew_renewed link credentials middle).imp ?_
        intro more answer left renewed
        rw [cache] at renewed
        exact .renewed judged renewed
    | false =>
        refine ⟨[], (List.append_nil _).symm, ?_⟩
        show Called credentials forced session.cache (moments ++ []) (.ok middle.cache.token)
          middle.cache
        rw [List.append_nil, cache]
        exact .kept judged

end Calls

section Alongside

variable {ν : Type} (link : Link ν) (credentials : Credentials)

theorem fetch_alongside :
    Agree Timed.Over (fetch link credentials) (fetch link.timed credentials) := by
  refine .ite (.bind (.throw _) fun _ => ?_) ?_
  all_goals
    exact .bind (link.request_alongside .post credentials.url [] none none _) fun reply =>
      .ite (.lift (reply.decode Grant.codec)) (.throw _)

theorem needsFetch_alongside (forced : Bool) :
    Agree Session.Alongside (needsFetch link forced) (needsFetch link.timed forced) := by
  refine Session.get_alongside fun session timed same => ?_
  rw [same]
  cases timed.cache.expires with
  | none => exact .pure _
  | some expires =>
      refine .bind (Session.now_alongside link) fun now => ?_
      cases isStale now expires with
      | none => exact .throw _
      | some stale => exact .pure _

theorem renew_alongside :
    Agree Session.Alongside (renew link credentials) (renew link.timed credentials) := by
  refine .bind (Session.lift_alongside (fetch_alongside link credentials)) fun grant => ?_
  refine .bind (Session.now_alongside link) fun now => ?_
  cases later? now grant.lifetime.toInt with
  | none => exact .throw _
  | some expires => exact fun session timed alongside => ⟨rfl, alongside.1, rfl⟩

theorem acquire_alongside (forced : Bool) :
    Agree Session.Alongside (acquire link credentials forced)
      (acquire link.timed credentials forced) := by
  refine .bind (needsFetch_alongside link forced) fun due => ?_
  refine .ite (renew_alongside link credentials) ?_
  refine Session.get_alongside fun session timed same => ?_
  rw [same]
  exact .pure _

end Alongside

end Token

end ComposeDesk
