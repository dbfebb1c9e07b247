import ComposeDesk.Proofs.Client.Tokens
import Mathlib.Data.List.Induction

/-!
# Runs of calls for tokens

Of a run of calls from the start, the timeline says what is held: the last token that was
granted, and the instant that its lifetime leads to from the reading of the clock after the
reply.
-/

namespace ComposeDesk

namespace Token

section Runs

variable {ν : Type}

/-- The state after some calls, each forced or not. -/
def after (link : Link ν) (credentials : Credentials) (session : Session ν)
    (calls : List Bool) : Session ν :=
  calls.foldl (fun session forced => (outcome (acquire link credentials forced) session).2) session

theorem after_alongside (link : Link ν) (credentials : Credentials) {session : Session ν}
    {timed : Session (Timed ν)} (alongside : session.Alongside timed) (calls : List Bool) :
    (after link credentials session calls).Alongside
      (after link.timed credentials timed calls) := by
  induction calls generalizing session timed with
  | nil => exact alongside
  | cons forced rest ih =>
      exact ih (acquire_alongside link credentials forced session timed alongside).2

def Grantless (moments : List Moment) : Prop :=
  ∀ exchange, .exchanged exchange ∈ moments → ∀ grant, ¬ exchange.Grants grant

/-- The last token that is granted in some moments, and the reading of the clock after it. -/
def LastGrant (moments : List Moment) (grant : Grant) (time : Timestamp) : Prop :=
  ∃ before exchange rest, moments = before ++ .exchanged exchange :: .read time :: rest ∧
    exchange.Grants grant ∧ Grantless rest

/-- What some moments leave to be held: the last token that was granted, until its lifetime
has passed, and nothing before the first. -/
inductive Leaves (moments : List Moment) : TokenCache → Prop
  | nothing (grantless : Grantless moments) : Leaves moments .empty
  | token {grant : Grant} {time : Timestamp} (last : LastGrant moments grant time) :
      Leaves moments ⟨grant.token, some (time.addSeconds grant.lifetime.toInt)⟩

/-- The instants of some moments are in the calendar: the readings of the clock, and the
margin after them, and the expiry of each token that is granted. -/
structure Representable (moments : List Moment) : Prop where
  clock : ∀ now, .read now ∈ moments →
    now.inRange = true ∧ (now.addSeconds margin).inRange = true
  expiry : ∀ before exchange time rest grant,
    moments = before ++ .exchanged exchange :: .read time :: rest → exchange.Grants grant →
      (time.addSeconds grant.lifetime.toInt).inRange = true

theorem Representable.front {moments more : List Moment}
    (representable : Representable (moments ++ more)) : Representable moments where
  clock now member := representable.clock now (List.mem_append_left more member)
  expiry before exchange time rest grant split grants := by
    refine representable.expiry before exchange time (rest ++ more) grant ?_ grants
    rw [split, List.append_assoc, List.cons_append, List.cons_append]

theorem Representable.back {moments more : List Moment}
    (representable : Representable (moments ++ more)) : Representable more where
  clock now member := representable.clock now (List.mem_append_right moments member)
  expiry before exchange time rest grant split grants := by
    refine representable.expiry (moments ++ before) exchange time rest grant ?_ grants
    rw [split, List.append_assoc]

/-- Times that are ordinary lead to instants of the calendar: readings in the years from 1970
to 9999, and lifetimes of up to a trillion seconds. -/
theorem Representable.of_ordinary {moments : List Moment}
    (clock : ∀ now, .read now ∈ moments → 0 ≤ now.seconds ∧ now.seconds ≤ 253402300799)
    (lifetimes : ∀ exchange, .exchanged exchange ∈ moments → ∀ grant, exchange.Grants grant →
      -1000000000000 ≤ grant.lifetime.toInt ∧ grant.lifetime.toInt ≤ 1000000000000) :
    Representable moments where
  clock now member := by
    have year := clock now member
    constructor
    · rw [Timestamp.inRange_iff]
      omega
    · rw [Timestamp.inRange_iff]
      simp only [Timestamp.addSeconds, margin]
      omega
  expiry before exchange time rest grant split grants := by
    subst split
    have year := clock time (by simp)
    have span := lifetimes exchange (by simp) grant grants
    rw [Timestamp.inRange_iff]
    simp only [Timestamp.addSeconds]
    omega

theorem Refused.grantless {exchange : Exchange} {fault : ServiceFault}
    (refused : Refused exchange.reply fault) (grant : Grant) : ¬ exchange.Grants grant := by
  rintro ⟨reply, replied, success, read⟩
  rw [replied] at refused
  cases refused with
  | status failure =>
      rw [success] at failure
      cases failure
  | unread _ unread =>
      rw [read] at unread
      cases unread

theorem later?_of_representable {time : Timestamp} {seconds : Int}
    (ordinary : time.inRange = true) (range : (time.addSeconds seconds).inRange = true) :
    later? time seconds = some (time.addSeconds seconds) := by
  rw [later?_of_inRange ordinary, if_pos range]

/-- What looking at the token comes to where there are instants enough: it is due or not. -/
theorem Judged.of_representable {forced : Bool} {cache : TokenCache} {moments : List Moment}
    {answer : Except ServiceFault Bool} (judged : Judged forced cache moments answer)
    (representable : Representable moments) :
    ∃ now, (answer = .ok true ∧ Due forced cache now ∨
        answer = .ok false ∧ ¬ Due forced cache now) ∧
      (cache.expires = none ∧ moments = [] ∨ moments = [.read now]) := by
  cases judged with
  | never none => exact ⟨⟨0, 0⟩, .inl ⟨rfl, .inr (.inl none)⟩, .inl ⟨none, rfl⟩⟩
  | @late expires now held late =>
      obtain ⟨ordinary, range⟩ := representable.clock now List.mem_cons_self
      rw [later?_of_representable ordinary range] at late
      cases late
  | @due expires now soon held later due => exact ⟨now, .inl ⟨rfl, due⟩, .inr rfl⟩
  | @current expires now soon held later current => exact ⟨now, .inr ⟨rfl, current⟩, .inr rfl⟩

section Fetched

variable {credentials : Credentials} {moments : List Moment} {answer : Except ServiceFault Grant}

theorem Fetched.asked (fetched : Fetched credentials moments answer) {url : Url}
    (secret : credentials.clientSecret ≠ "") (parsed : Url.ofText? credentials.url = some url) :
    Moment.requests moments = [⟨.post, url, none, none, .form (form credentials)⟩] := by
  have told (exchange : Exchange) (asked : Asks credentials exchange.request) :
      Moment.requests [.exchanged exchange] =
        [⟨.post, url, none, none, .form (form credentials)⟩] := by
    obtain ⟨-, other, found, asked⟩ := asked
    rw [parsed] at found
    cases found
    exact congrArg (fun request => [request]) asked
  cases fetched with
  | unasked unasked =>
      cases unasked with
      | secret missing => exact absurd missing secret
      | address _ none =>
          rw [parsed] at none
          cases none
  | refused asked _ => exact told _ asked
  | granted asked _ => exact told _ asked

theorem Fetched.unasked_of (fetched : Fetched credentials moments answer)
    (unable : credentials.clientSecret = "" ∨ Url.ofText? credentials.url = none) :
    moments = [] ∧ ∃ fault, answer = .error fault := by
  have told (exchange : Exchange) (asked : Asks credentials exchange.request) : False := by
    obtain ⟨secret, url, parsed, -⟩ := asked
    rcases unable with missing | none
    · exact secret missing
    · rw [parsed] at none
      cases none
  cases fetched with
  | unasked _ => exact ⟨rfl, _, rfl⟩
  | refused asked _ => exact (told _ asked).elim
  | granted asked _ => exact (told _ asked).elim

theorem Fetched.grantless {fault : ServiceFault}
    (fetched : Fetched credentials moments (.error fault)) : Grantless moments := by
  cases fetched with
  | unasked _ => exact fun exchange member => absurd member List.not_mem_nil
  | refused _ refused =>
      intro other member grant
      cases List.mem_singleton.mp member
      exact refused.grantless grant

theorem Fetched.fault_ne_aborted {fault : ServiceFault}
    (fetched : Fetched credentials moments (.error fault)) : fault ≠ .aborted := by
  cases fetched with
  | unasked unasked => cases unasked <;> exact nofun
  | @refused exchange _ _ refused =>
      generalize exchange.reply = reply at refused
      cases refused <;> exact nofun

theorem Fetched.grants {grant : Grant} (fetched : Fetched credentials moments (.ok grant)) :
    ∃ exchange, moments = [.exchanged exchange] ∧ exchange.Grants grant := by
  cases fetched with
  | granted _ grants => exact ⟨_, rfl, grants⟩

end Fetched

/-- What renewing a token comes to where there are instants enough: nothing is granted and
nothing changes, or the token that is granted is held. -/
theorem Renewed.of_representable {credentials : Credentials} {cache left : TokenCache}
    {moments : List Moment} {answer : Except ServiceFault String}
    (renewed : Renewed credentials cache moments answer left)
    (representable : Representable moments) :
    (∃ fault, answer = .error fault ∧ left = cache ∧
        Fetched credentials moments (.error fault)) ∨
      ∃ exchange grant time, moments = [.exchanged exchange, .read time] ∧
        Fetched credentials [.exchanged exchange] (.ok grant) ∧ exchange.Grants grant ∧
        answer = .ok grant.token ∧
        left = ⟨grant.token, some (time.addSeconds grant.lifetime.toInt)⟩ := by
  cases renewed with
  | unfetched fetched => exact .inl ⟨_, rfl, rfl, fetched⟩
  | @endless front grant time fetched endless =>
      obtain ⟨exchange, rfl, grants⟩ := fetched.grants
      obtain ⟨ordinary, -⟩ := representable.clock time (by simp)
      have range := representable.expiry [] exchange time [] grant rfl grants
      rw [later?_of_representable ordinary range] at endless
      cases endless
  | @held front grant time expires fetched ends =>
      obtain ⟨exchange, rfl, grants⟩ := fetched.grants
      rw [eq_of_later? ends]
      exact .inr ⟨exchange, grant, time, rfl, fetched, grants, rfl, rfl⟩

/-- How a call goes at a reading of the clock: what is sent in its moments, what it answers,
and what is held then. -/
structure Served (credentials : Credentials) (forced : Bool) (cache left : TokenCache)
    (now : Timestamp) (moments : List Moment) (answer : Except ServiceFault String) : Prop where
  read : cache.expires ≠ none → moments.head? = some (.read now)
  asked : ∀ url, Due forced cache now → credentials.clientSecret ≠ "" →
    Url.ofText? credentials.url = some url →
    Moment.requests moments = [⟨.post, url, none, none, .form (form credentials)⟩]
  unasked : ¬ Due forced cache now ∨ credentials.clientSecret = "" ∨
    Url.ofText? credentials.url = none → Moment.requests moments = []
  kept : ¬ Due forced cache now → answer = .ok cache.token ∧ left = cache
  renewed : Due forced cache now → ((∃ token, answer = .ok token) ↔ ¬ Grantless moments)
  failed : ∀ fault, answer = .error fault → left = cache ∧ fault ≠ .aborted

theorem grantless_read (now : Timestamp) (moments : List Moment) :
    Grantless (.read now :: moments) ↔ Grantless moments := by
  constructor
  · exact fun grantless exchange member => grantless exchange (List.mem_cons_of_mem _ member)
  · intro grantless exchange member
    rcases List.mem_cons.mp member with same | later
    · cases same
    · exact grantless exchange later

/-- A token that is due is asked for once, where that can be done. -/
theorem Renewed.served {credentials : Credentials} {forced : Bool} {cache left : TokenCache}
    {now : Timestamp} {moments : List Moment} {answer : Except ServiceFault String}
    (due : Due forced cache now) (renewed : Renewed credentials cache moments answer left)
    (representable : Representable moments) :
    (∀ url, credentials.clientSecret ≠ "" → Url.ofText? credentials.url = some url →
        Moment.requests moments = [⟨.post, url, none, none, .form (form credentials)⟩]) ∧
      (credentials.clientSecret = "" ∨ Url.ofText? credentials.url = none →
        Moment.requests moments = []) ∧
      ((∃ token, answer = .ok token) ↔ ¬ Grantless moments) ∧
      ∀ fault, answer = .error fault → left = cache ∧ fault ≠ .aborted := by
  rcases renewed.of_representable representable with
    ⟨fault, rfl, rfl, fetched⟩ | ⟨exchange, grant, time, rfl, fetched, grants, rfl, rfl⟩
  · refine ⟨fun url => fetched.asked, fun unable => ?_, ?_, ?_⟩
    · rw [(fetched.unasked_of unable).1]
      rfl
    · exact iff_of_false nofun (not_not_intro fetched.grantless)
    · rintro _ ⟨⟩
      exact ⟨rfl, fetched.fault_ne_aborted⟩
  · refine ⟨fun url => fetched.asked, fun unable => ?_, ?_, nofun⟩
    · cases (fetched.unasked_of unable).1
    · refine iff_of_true ⟨grant.token, rfl⟩ fun grantless => ?_
      exact grantless exchange List.mem_cons_self grant grants

theorem Called.served {credentials : Credentials} {forced : Bool} {cache left : TokenCache}
    {moments : List Moment} {answer : Except ServiceFault String}
    (called : Called credentials forced cache moments answer left)
    (representable : Representable moments) :
    ∃ now, Served credentials forced cache left now moments answer := by
  cases called with
  | kept current =>
      obtain ⟨now, ⟨told, -⟩ | ⟨-, fresh⟩, shape⟩ := current.of_representable representable
      · cases told
      · rcases shape with ⟨none, rfl⟩ | rfl
        · exact (fresh (.inr (.inl none))).elim
        · exact ⟨now, fun _ => rfl, fun _ due => absurd due fresh, fun _ => rfl,
            fun _ => ⟨rfl, rfl⟩, fun due => absurd due fresh, nofun⟩
  | late late =>
      obtain ⟨now, ⟨told, -⟩ | ⟨told, -⟩, -⟩ := late.of_representable representable
      · cases told
      · cases told
  | @renewed front more answer left judged renewed =>
      obtain ⟨now, ⟨-, due⟩ | ⟨told, -⟩, shape⟩ := judged.of_representable representable.front
      · obtain ⟨asked, unasked, answered, failed⟩ := renewed.served due representable.back
        have wanted : ¬ ¬ Due forced cache now := not_not_intro due
        rcases shape with ⟨none, rfl⟩ | rfl
        · exact ⟨now, fun held => absurd none held, fun url _ => asked url,
            fun unable => unasked (unable.resolve_left wanted), fun current => absurd due current,
            fun _ => answered, failed⟩
        · refine ⟨now, fun _ => rfl, fun url _ => asked url,
            fun unable => unasked (unable.resolve_left wanted), fun current => absurd due current,
            fun _ => ?_, failed⟩
          rw [answered, List.singleton_append, grantless_read]
      · cases told

theorem Grantless.append {moments more : List Moment} (grantless : Grantless moments)
    (later : Grantless more) : Grantless (moments ++ more) := by
  intro exchange member
  rcases List.mem_append.mp member with before | after
  · exact grantless exchange before
  · exact later exchange after

/-- Moments without a grant change nothing. -/
theorem Leaves.append {moments more : List Moment} {cache : TokenCache}
    (leaves : Leaves moments cache) (grantless : Grantless more) :
    Leaves (moments ++ more) cache := by
  cases leaves with
  | nothing before => exact .nothing (before.append grantless)
  | token last =>
      obtain ⟨before, exchange, rest, rfl, grants, quiet⟩ := last
      refine .token ⟨before, exchange, rest ++ more, ?_, grants, quiet.append grantless⟩
      rw [List.append_assoc, List.cons_append, List.cons_append]

theorem Judged.grantless {forced : Bool} {cache : TokenCache} {moments : List Moment}
    {answer : Except ServiceFault Bool} (judged : Judged forced cache moments answer) :
    Grantless moments := by
  have nothing : Grantless [] := fun exchange member => absurd member List.not_mem_nil
  cases judged with
  | never _ => exact nothing
  | late _ _ | due _ _ _ | current _ _ _ => exact (grantless_read _ []).mpr nothing

theorem Leaves.granted {moments : List Moment} {cache : TokenCache}
    (leaves : Leaves moments cache) (held : cache.expires ≠ none) :
    ∃ grant time, LastGrant moments grant time ∧
      cache = ⟨grant.token, some (time.addSeconds grant.lifetime.toInt)⟩ := by
  cases leaves with
  | nothing _ => exact absurd rfl held
  | token last => exact ⟨_, _, last, rfl⟩

/-- What a call leaves is what its moments leave after those before. -/
theorem Called.leaves {credentials : Credentials} {forced : Bool} {cache left : TokenCache}
    {moments more : List Moment} {answer : Except ServiceFault String}
    (held : Leaves moments cache) (called : Called credentials forced cache more answer left)
    (representable : Representable more) : Leaves (moments ++ more) left := by
  cases called with
  | kept current => exact held.append current.grantless
  | late late => exact held.append late.grantless
  | @renewed front more answer left judged renewed =>
      rw [← List.append_assoc]
      rcases renewed.of_representable representable.back with
        ⟨fault, -, rfl, fetched⟩ | ⟨exchange, grant, time, rfl, -, grants, -, rfl⟩
      · exact (held.append judged.grantless).append fetched.grantless
      · exact .token ⟨moments ++ front, exchange, [], rfl, grants, fun other member =>
          absurd member List.not_mem_nil⟩

/-- A token that is given out is the one that is held then. -/
theorem Called.token_held {credentials : Credentials} {forced : Bool} {cache left : TokenCache}
    {moments : List Moment} {token : String}
    (called : Called credentials forced cache moments (.ok token) left) :
    left.token = token ∧ left.expires ≠ none := by
  cases called with
  | kept current =>
      cases current with
      | current held _ _ => exact ⟨rfl, by rw [held]; exact Option.some_ne_none _⟩
  | renewed _ renewed =>
      cases renewed with
      | held _ _ => exact ⟨rfl, Option.some_ne_none _⟩

theorem after_concat (link : Link ν) (credentials : Credentials) (session : Session ν)
    (calls : List Bool) (forced : Bool) :
    after link credentials session (calls ++ [forced]) =
      (outcome (acquire link credentials forced) (after link credentials session calls)).2 := by
  rw [after, List.foldl_append]
  rfl

def start (world : ν) : Session (Timed ν) :=
  ⟨⟨world, []⟩, .empty⟩

/-- After any calls, what is held is what the timeline leaves. -/
theorem after_leaves (link : Link ν) (credentials : Credentials) (world : ν)
    (calls : List Bool)
    (representable :
      Representable (after link.timed credentials (start world) calls).net.moments) :
    Leaves (after link.timed credentials (start world) calls).net.moments
      (after link.timed credentials (start world) calls).cache := by
  induction calls using List.reverseRecOn with
  | nil => exact .nothing fun exchange member => absurd member List.not_mem_nil
  | append_singleton calls forced ih =>
      rw [after_concat] at representable ⊢
      obtain ⟨moments, added, called⟩ := acquire_called link credentials forced
        (after link.timed credentials (start world) calls)
      rw [added] at representable ⊢
      exact called.leaves (ih representable.front) representable.back

/-- In every run of calls, each call gives out the last token that was granted, with the
expiry that its lifetime leads to, and asks for another one exactly if that is due.  A call
that fails changes nothing. -/
theorem cache_served (link : Link ν) (credentials : Credentials) (world : ν)
    (calls : List Bool) (forced : Bool)
    (representable :
      Representable (after link.timed credentials (start world) (calls ++ [forced])).net.moments) :
    let before := after link.timed credentials (start world) calls
    let ran := outcome (acquire link.timed credentials forced) before
    (outcome (acquire link credentials forced) (after link credentials ⟨world, .empty⟩ calls)).1 =
        ran.1 ∧
      Leaves before.net.moments before.cache ∧
      (∃ now moments, ran.2.net.moments = before.net.moments ++ moments ∧
        Served credentials forced before.cache ran.2.cache now moments ran.1) ∧
      ∀ token, ran.1 = .ok token → ∃ grant time, LastGrant ran.2.net.moments grant time ∧
        token = grant.token ∧
        ran.2.cache = ⟨grant.token, some (time.addSeconds grant.lifetime.toInt)⟩ := by
  intro before ran
  rw [after_concat] at representable
  obtain ⟨moments, added, called⟩ := acquire_called link credentials forced before
  rw [added] at representable
  have leaves := after_leaves link credentials world calls representable.front
  have left := called.leaves leaves representable.back
  rw [← added] at left
  refine ⟨?_, leaves, ?_, ?_⟩
  · have begins : Session.Alongside ⟨world, .empty⟩ (start world) := ⟨rfl, rfl⟩
    have alongside := after_alongside link credentials begins calls
    exact (acquire_alongside link credentials forced _ _ alongside).1
  · obtain ⟨now, served⟩ := called.served representable.back
    exact ⟨now, moments, added, served⟩
  · intro token told
    rw [told] at called
    obtain ⟨rfl, held⟩ := called.token_held
    obtain ⟨grant, time, last, same⟩ := left.granted held
    exact ⟨grant, time, last, congrArg TokenCache.token same, same⟩

end Runs

/-- A network that answers the first request with a text and no other one, and a clock that
stands still. -/
def onceAnswering (text : String) : Link Bool where
  send _ := fun answered => (if answered then none else some ⟨200, Utf8.encode text⟩, true)
  now := fun answered => (⟨1760000000, 0⟩, answered)

def someone : Credentials := ⟨"http://sso/token", "id", "secret"⟩

def hourly : String := "\x7b\"access_token\":\"a\",\"expires_in\":3600\x7d"

theorem hourly_read :
    Reply.read ⟨200, Utf8.encode hourly⟩ Grant.codec = .ok ⟨"a", 3600⟩ := by
  decide +kernel

theorem hourly_representable :
    Representable (after (onceAnswering hourly).timed someone (start false)
      [false, true, false]).net.moments := by
  have steady : (after (onceAnswering hourly).timed someone (start false)
      [false, true, false]).net.moments.all
      (Moment.passes (fun now => decide (now = ⟨1760000000, 0⟩)) fun reply =>
        decide (reply = none ∨ reply = some ⟨200, Utf8.encode hourly⟩)) = true := by
    decide +kernel
  refine .of_ordinary (fun now member => ?_) fun exchange member grant grants => ?_
  · have same := of_decide_eq_true (List.all_eq_true.mp steady _ member)
    rw [same]
    exact ⟨by decide, by decide⟩
  · obtain ⟨reply, replied, -, read⟩ := grants
    rcases of_decide_eq_true (List.all_eq_true.mp steady _ member) with none | hour
    · rw [replied] at none
      cases none
    · rw [replied] at hour
      cases hour
      rw [hourly_read] at read
      cases read
      exact ⟨by decide, by decide⟩

/-- A token that was granted for an hour is given out again after a forced call that is not
answered. -/
theorem cache_served_unanswered :
    let before := after (onceAnswering hourly).timed someone (start false) [false, true]
    let ran := outcome (acquire (onceAnswering hourly).timed someone false) before
    Representable (after (onceAnswering hourly).timed someone (start false)
        ([false, true] ++ [false])).net.moments ∧
      (outcome (acquire (onceAnswering hourly) someone false)
        (after (onceAnswering hourly) someone ⟨false, .empty⟩ [false, true])).1 = .ok "a" ∧
      ∃ grant time, LastGrant ran.2.net.moments grant time ∧ "a" = grant.token ∧
        ran.2.cache = ⟨grant.token, some (time.addSeconds grant.lifetime.toInt)⟩ := by
  intro before ran
  have told : ran.1 = .ok "a" := by decide +kernel
  obtain ⟨same, -, -, last⟩ :=
    cache_served (onceAnswering hourly) someone false [false, true] false hourly_representable
  exact ⟨hourly_representable, same.trans told, last "a" told⟩

end Token

end ComposeDesk
