import ComposeDesk.Proofs.Client.Exchanges
import ComposeDesk.Proofs.Itemwise

/-!
# Three documents for a policy

A policy is put together in three exchanges: the policy, its tailorings, and the file of
the tailoring for a minor release.  Each is asked for only if the one before was served,
and whatever else comes of a request ends the work.
-/

namespace ComposeDesk

/-- Replies that have no content by their status have an empty body. -/
def Link.Bodiless {ν : Type} (link : Link ν) : Prop :=
  ∀ request world reply, ((link.send request).run world).1 = some reply →
    reply.status = 204 → reply.body = []

namespace PolicyClient

def policyPath (policy : String) : String := "policies/" ++ policy

def tailoringsPath (policy : String) : String := "policies/" ++ policy ++ "/tailorings"

def filePath (policy tailoring : String) : String :=
  "policies/" ++ policy ++ "/tailorings/" ++ tailoring ++ "/tailoring_file.json"

def Asks (base : String) (caller : Identity) (path : String) (request : HttpRequest) : Prop :=
  ∃ url, Url.ofText? (Url.join base path) = some url ∧
    request = ⟨.get, url, some caller.raw, none, .none⟩

def Unsendable (base : String) (caller : Identity) (path : String) : Prop :=
  Url.ofText? (Url.join base path) = none ∨ Link.isHeaderValue caller.raw = false

/-- What came of a request is turned away, whatever was asked for. -/
inductive Turned : Option Reply → PolicyFault → Prop
  | unanswered : Turned none .http
  | unauthorized {reply : Reply} (status : reply.status = 401 ∨ reply.status = 403) :
      Turned (some reply) .unauthorized
  | missing {reply : Reply} (status : reply.status = 404) : Turned (some reply) .notFound
  | unexpected {reply : Reply} (status : reply.status ∉ [200, 204, 401, 403, 404]) :
      Turned (some reply) (.unexpected reply.status)

variable {ν : Type} (link : Link ν) (base : String) (caller : Identity)

/-- What asking for a document comes to: nothing is sent, what came is turned away, or a
reply is accepted. -/
inductive Got (path : String) (state : Booked ν) : Except PolicyFault Reply × Booked ν → Prop
  | unsent (unsendable : Unsendable base caller path) : Got path state (.error .http, state)
  | turned {exchange : Exchange} {world : ν} {fault : PolicyFault}
      (asked : Asks base caller path exchange.request)
      (answered : (link.send exchange.request).run state.world = (exchange.reply, world))
      (turned : Turned exchange.reply fault) :
      Got path state (.error fault, ⟨world, state.book ++ [exchange]⟩)
  | accepted {exchange : Exchange} {reply : Reply} {world : ν}
      (asked : Asks base caller path exchange.request)
      (answered : (link.send exchange.request).run state.world = (exchange.reply, world))
      (replied : exchange.reply = some reply)
      (status : reply.status = 200 ∨ reply.status = 204) :
      Got path state (.ok reply, ⟨world, state.book ++ [exchange]⟩)

/-- Asking for a document takes at most one exchange. -/
theorem got (path : String) (state : Booked ν) :
    Got link base caller path state (outcome (get link.booked base caller path) state) := by
  have headers := Link.headers_of_caller caller
  rw [get, outcome_bind, outcome_adapt]
  cases parsed : Url.ofText? (Url.join base path) with
  | none =>
      rw [Link.outcome_request_unsent (Or.inl parsed)]
      exact .unsent (Or.inl parsed)
  | some url =>
      cases valid : Link.isHeaderValue caller.raw with
      | false =>
          rw [Link.outcome_request_unsent (Or.inr (headers.trans valid))]
          exact .unsent (Or.inr valid)
      | true =>
          rcases answered : (link.send ⟨.get, url, some caller.raw, none, .none⟩).run state.world
            with ⟨_ | reply, world⟩
          · rw [Link.outcome_request parsed (headers.trans valid) answered]
            exact .turned ⟨url, parsed, rfl⟩ answered .unanswered
          · rw [Link.outcome_request parsed (headers.trans valid) answered]
            have asked : Asks base caller path ⟨.get, url, some caller.raw, none, .none⟩ :=
              ⟨url, parsed, rfl⟩
            simp only [Link.received, mapError_ok]
            by_cases unauthorized : reply.status = 401 ∨ reply.status = 403
            · rw [if_pos unauthorized]
              exact .turned asked answered (.unauthorized unauthorized)
            · rw [if_neg unauthorized]
              by_cases missing : reply.status = 404
              · rw [if_pos missing]
                exact .turned asked answered (.missing missing)
              · rw [if_neg missing]
                by_cases accepted : reply.status = 200 ∨ reply.status = 204
                · rw [if_neg (by omega)]
                  exact .accepted asked answered rfl accepted
                · rw [if_pos (by omega)]
                  refine .turned asked answered (.unexpected ?_)
                  simp only [List.mem_cons, List.not_mem_nil, or_false]
                  omega

section Documents

variable (base : String) (caller : Identity) (major minor : UInt32) (policy : String)

/-- The policy is served, and is for the major release. -/
structure ServesPolicy (exchange : Exchange) (found : Policy) : Prop where
  asked : Asks base caller (policyPath policy) exchange.request
  served : ∃ reply, exchange.reply = some reply ∧ reply.status = 200 ∧
    reply.read policyCodec = .ok found
  major : found.major = major

/-- Tailorings are served, and a tailoring is the first for the minor release. -/
structure ServesTailoring (exchange : Exchange) (tailoring : Tailoring) : Prop where
  asked : Asks base caller (tailoringsPath policy) exchange.request
  served : ∃ reply front back, exchange.reply = some reply ∧ reply.status = 200 ∧
    reply.read tailoringsCodec = .ok (front ++ tailoring :: back) ∧
    ∀ other ∈ front, other.minor ≠ minor
  minor : tailoring.minor = minor

/-- The file of a tailoring is served; without content there is none. -/
structure ServesFile (tailoring : Tailoring) (exchange : Exchange) (file : Option String) :
    Prop where
  asked : Asks base caller (filePath policy tailoring.id) exchange.request
  served : ∃ reply, exchange.reply = some reply ∧
    ((reply.status = 200 ∧ reply.body ≠ [] ∧ file = some (Utf8.lossy reply.body)) ∨
      ((reply.status = 204 ∨ reply.status = 200 ∧ reply.body = []) ∧ file = none))

/-- A policy is granted in three exchanges. -/
inductive Granted : List Exchange → PolicyData → Prop
  | intro {first second third : Exchange} {found : Policy} {tailoring : Tailoring}
      {file : Option String} (known : ServesPolicy base caller major policy first found)
      (tailored : ServesTailoring base caller minor policy second tailoring)
      (filed : ServesFile base caller policy tailoring third file) :
      Granted [first, second, third] ⟨found.id, found.profile, tailoring.id, file⟩

/-- Exchanges in which all was served so far, and what is asked for next. -/
inductive Progress : List Exchange → String → Prop
  | start : Progress [] (policyPath policy)
  | known {first : Exchange} {found : Policy}
      (known : ServesPolicy base caller major policy first found) :
      Progress [first] (tailoringsPath policy)
  | tailored {first second : Exchange} {found : Policy} {tailoring : Tailoring}
      (known : ServesPolicy base caller major policy first found)
      (tailored : ServesTailoring base caller minor policy second tailoring) :
      Progress [first, second] (filePath policy tailoring.id)

/-- The work ends with the first request that is not served. -/
inductive Stopped : List Exchange → PolicyFault → Prop
  | unsent {book : List Exchange} {path : String}
      (progress : Progress base caller major minor policy book path)
      (unsendable : Unsendable base caller path) : Stopped book .http
  | turned {book : List Exchange} {path : String} {last : Exchange} {fault : PolicyFault}
      (progress : Progress base caller major minor policy book path)
      (asked : Asks base caller path last.request) (turned : Turned last.reply fault) :
      Stopped (book ++ [last]) fault
  | unreadPolicy {last : Exchange} {reply : Reply} {fault : Json.Fault}
      (asked : Asks base caller (policyPath policy) last.request)
      (answered : last.reply = some reply) (unread : reply.read policyCodec = .error fault) :
      Stopped [last] (.decode fault)
  | majorVersion {last : Exchange} {reply : Reply} {found : Policy}
      (asked : Asks base caller (policyPath policy) last.request)
      (answered : last.reply = some reply) (read : reply.read policyCodec = .ok found)
      (other : found.major ≠ major) : Stopped [last] .majorVersion
  | unreadTailorings {first last : Exchange} {found : Policy} {reply : Reply}
      {fault : Json.Fault} (known : ServesPolicy base caller major policy first found)
      (asked : Asks base caller (tailoringsPath policy) last.request)
      (answered : last.reply = some reply) (unread : reply.read tailoringsCodec = .error fault) :
      Stopped [first, last] (.decode fault)
  | minorVersion {first last : Exchange} {found : Policy} {reply : Reply}
      {tailorings : List Tailoring} (known : ServesPolicy base caller major policy first found)
      (asked : Asks base caller (tailoringsPath policy) last.request)
      (answered : last.reply = some reply) (read : reply.read tailoringsCodec = .ok tailorings)
      (none : ∀ tailoring ∈ tailorings, tailoring.minor ≠ minor) :
      Stopped [first, last] .minorVersion

end Documents

/-! ## The exchanges of a policy -/

/-- An empty body is no document. -/
theorem status_of_read {α : Type} {codec : Codec α} {reply : Reply} {a : α}
    (unread : (codec.readText (Json.Source.ofBytes [])).toOption = none)
    (bodiless : reply.status = 204 → reply.body = [])
    (status : reply.status = 200 ∨ reply.status = 204) (read : reply.read codec = .ok a) :
    reply.status = 200 := by
  refine status.resolve_right fun none => ?_
  rw [Reply.read, bodiless none] at read
  rw [read] at unread
  cases unread

section Exchanges

variable {link base caller} {major minor : UInt32} {policy : String}

/-- What asking for the data of a policy comes to: the policy is granted, or the work has
stopped. -/
inductive Settled (base : String) (caller : Identity) (major minor : UInt32) (policy : String)
    (book : List Exchange) : Except PolicyFault PolicyData → Prop
  | granted {data : PolicyData} (granted : Granted base caller major minor policy book data) :
      Settled base caller major minor policy book (.ok data)
  | stopped {fault : PolicyFault}
      (stopped : Stopped base caller major minor policy book fault) :
      Settled base caller major minor policy book (.error fault)

/-- What is done once there is a tailoring. -/
def finish (link : Link ν) (base : String) (caller : Identity) (policy : String)
    (found : Policy) (tailoring : Tailoring) : Act ν PolicyFault PolicyData := do
  let reply ← get link base caller (filePath policy tailoring.id)
  let file :=
    if reply.status = 204 ∨ reply.body.isEmpty then none else some reply.text
  return ⟨found.id, found.profile, tailoring.id, file⟩

/-- What is done once there is a policy. -/
def tailor (link : Link ν) (base : String) (caller : Identity) (minor : UInt32)
    (policy : String) (found : Policy) : Act ν PolicyFault PolicyData := do
  let reply ← get link base caller (tailoringsPath policy)
  let tailorings ← decode reply tailoringsCodec
  match tailorings.find? (·.minor = minor) with
  | none => throw .minorVersion
  | some tailoring => finish link base caller policy found tailoring

theorem policyData_eq (link : Link ν) (base : String) (caller : Identity)
    (major minor : UInt32) (policy : String) :
    policyData link base caller major minor policy = (do
      let reply ← get link base caller (policyPath policy)
      let found ← decode reply policyCodec
      if found.major ≠ major then throw .majorVersion
      tailor link base caller minor policy found) :=
  rfl

/-- An outcome adds exchanges to those before, and settles what comes of a policy. -/
def Settles (base : String) (caller : Identity) (major minor : UInt32) (policy : String)
    (before : List Exchange) (ran : Except PolicyFault PolicyData × Booked ν) : Prop :=
  ∃ book, ran.2.book = before ++ book ∧ Settled base caller major minor policy book ran.1

variable {before : List Exchange} {first second : Exchange} {found : Policy}
  {tailoring : Tailoring} {state : Booked ν}

/-- There is a file exactly if the reply has the status and the body for it. -/
theorem file_of_status {reply : Reply} (status : reply.status = 200 ∨ reply.status = 204) :
    (reply.status = 200 ∧ reply.body ≠ [] ∧
        (if reply.status = 204 ∨ reply.body.isEmpty = true then none else some reply.text) =
          some (Utf8.lossy reply.body)) ∨
      ((reply.status = 204 ∨ reply.status = 200 ∧ reply.body = []) ∧
        (if reply.status = 204 ∨ reply.body.isEmpty = true then none else some reply.text) =
          none) := by
  rcases status with full | bare
  · cases held : reply.body with
    | nil => exact Or.inr ⟨Or.inr ⟨full, rfl⟩, if_pos (Or.inr rfl)⟩
    | cons byte rest =>
        refine Or.inl ⟨full, List.cons_ne_nil byte rest, ?_⟩
        rw [if_neg (by rw [full]; simp), Reply.text, held]
  · exact Or.inr ⟨Or.inl bare, if_pos (Or.inl bare)⟩

structure Accepts (base : String) (caller : Identity) (path : String) (exchange : Exchange)
    (reply : Reply) : Prop where
  asked : Asks base caller path exchange.request
  replied : exchange.reply = some reply
  status : reply.status = 200 ∨ reply.status = 204
  bare : reply.status = 204 → reply.body = []

/-- What comes of a document is settled if it is settled for every reply that is accepted:
otherwise the work ends here. -/
theorem settles_of_accepted (bodiless : link.Bodiless) {taken : List Exchange} {path : String}
    {next : Reply → Act (Booked ν) PolicyFault PolicyData}
    (progress : Progress base caller major minor policy taken path)
    (booked : state.book = before ++ taken)
    (rest : ∀ exchange reply world, Accepts base caller path exchange reply →
      Settles base caller major minor policy before
        (outcome (next reply) ⟨world, before ++ (taken ++ [exchange])⟩)) :
    Settles base caller major minor policy before
      (outcome (get link.booked base caller path >>= next) state) := by
  have came := got link base caller path state
  rw [outcome_bind]
  generalize outcome (get link.booked base caller path) state = ran at came ⊢
  cases came with
  | unsent unsendable => exact ⟨taken, booked, .stopped (.unsent progress unsendable)⟩
  | @turned exchange world fault asked answered turned =>
      refine ⟨taken ++ [exchange], ?_, .stopped (.turned progress asked turned)⟩
      rw [← List.append_assoc, ← booked]
  | @accepted exchange reply world asked answered replied status =>
      rw [replied] at answered
      have bare : reply.status = 204 → reply.body = [] :=
        bodiless exchange.request state.world reply (by rw [answered])
      have settled := rest exchange reply world ⟨asked, replied, status, bare⟩
      rw [← List.append_assoc, ← booked] at settled
      exact settled

/-- The last of three exchanges. -/
theorem finish_settles (bodiless : link.Bodiless)
    (known : ServesPolicy base caller major policy first found)
    (tailored : ServesTailoring base caller minor policy second tailoring)
    (booked : state.book = before ++ [first, second]) :
    Settles base caller major minor policy before
      (outcome (finish link.booked base caller policy found tailoring) state) := by
  apply settles_of_accepted bodiless (.tailored known tailored) booked
  intro exchange reply world accepts
  refine ⟨[first, second, exchange], rfl, .granted (.intro known tailored ?_)⟩
  exact ⟨accepts.asked, reply, accepts.replied, file_of_status accepts.status⟩

theorem outcome_decode {α : Type} (reply : Reply) (codec : Codec α) (state : Booked ν) :
    outcome (decode reply codec : Act (Booked ν) PolicyFault α) state =
      ((reply.read codec).mapError .decode, state) :=
  rfl

/-- The exchanges after the first one. -/
theorem tailor_settles (bodiless : link.Bodiless)
    (known : ServesPolicy base caller major policy first found)
    (booked : state.book = before ++ [first]) :
    Settles base caller major minor policy before
      (outcome (tailor link.booked base caller minor policy found) state) := by
  apply settles_of_accepted bodiless (.known known) booked
  intro exchange reply world accepts
  simp only [outcome_bind, outcome_decode]
  cases read : reply.read tailoringsCodec with
  | error fault =>
      exact ⟨_, rfl, .stopped (.unreadTailorings known accepts.asked accepts.replied read)⟩
  | ok tailorings =>
      simp only [mapError_ok]
      cases chosen : tailorings.find? (·.minor = minor) with
      | none =>
          refine ⟨_, rfl, .stopped (.minorVersion known accepts.asked accepts.replied read ?_)⟩
          intro tailoring member
          simpa using List.find?_eq_none.mp chosen tailoring member
      | some tailoring =>
          obtain ⟨minors, front, back, rfl, others⟩ := List.find?_eq_some_iff_append.mp chosen
          have full := status_of_read (by rfl) accepts.bare accepts.status read
          have served : ServesTailoring base caller minor policy exchange tailoring :=
            ⟨accepts.asked, ⟨reply, front, back, accepts.replied, full, read,
              fun other member => by simpa using others other member⟩, of_decide_eq_true minors⟩
          exact finish_settles bodiless known served rfl

/-- Three documents are asked for one after another.  If all are served, they make the data
of the policy; the first that is not ends the work. -/
theorem policyData_settles (bodiless : link.Bodiless) (state : Booked ν) :
    Settles base caller major minor policy state.book
      (outcome (policyData link.booked base caller major minor policy) state) := by
  rw [policyData_eq]
  apply settles_of_accepted bodiless .start (List.append_nil _).symm
  intro exchange reply world accepts
  simp only [outcome_bind, outcome_decode]
  cases read : reply.read policyCodec with
  | error fault => exact ⟨_, rfl, .stopped (.unreadPolicy accepts.asked accepts.replied read)⟩
  | ok found =>
      simp only [mapError_ok]
      by_cases same : found.major = major
      · have full := status_of_read (by rfl) accepts.bare accepts.status read
        have served : ServesPolicy base caller major policy exchange found :=
          ⟨accepts.asked, ⟨reply, accepts.replied, full, read⟩, same⟩
        rw [if_neg (not_not_intro same)]
        exact tailor_settles bodiless served rfl
      · rw [if_pos same]
        exact ⟨_, rfl, .stopped (.majorVersion accepts.asked accepts.replied read same)⟩

end Exchanges

section Over

variable (start : List Exchange)

theorem get_agree (path : String) :
    Agree (Booked.Over start) (get link base caller path) (get link.booked base caller path) := by
  refine .bind ((link.request_agree start _ _ _ _ _ _).adapt _) fun reply => ?_
  refine .ite (.bind (.throw _) fun _ => ?_) ?_
  all_goals refine .ite (.bind (.throw _) fun _ => ?_) ?_
  all_goals exact .ite (.bind (.throw _) fun _ => .pure _) (.pure _)

theorem tailor_agree (minor : UInt32) (policy : String) (found : Policy) :
    Agree (Booked.Over start) (tailor link base caller minor policy found)
      (tailor link.booked base caller minor policy found) := by
  refine .bind (get_agree link base caller start _) fun reply => .bind (.lift _) fun held => ?_
  cases held.find? (·.minor = minor) with
  | none => exact .throw _
  | some tailoring => exact .bind (get_agree link base caller start _) fun _ => .pure _

theorem policyData_agree (major minor : UInt32) (policy : String) :
    Agree (Booked.Over start) (policyData link base caller major minor policy)
      (policyData link.booked base caller major minor policy) := by
  rw [policyData_eq, policyData_eq]
  refine .bind (get_agree link base caller start _) fun reply => .bind (.lift _) fun found => ?_
  have rest := tailor_agree link base caller start minor policy found
  exact .ite (.bind (.throw _) fun _ => rest) rest

end Over

end PolicyClient

/-- Look-ups over the network are answered as they are without the book. -/
theorem Link.services_alike {ν : Type} (link : Link ν) (addresses : Addresses)
    (start : List Exchange) :
    (link.services addresses).Alike (Session.Over start) (link.booked.services addresses) where
  uploadInfo caller source := by
    have asked := link.uploadInfo_agree start addresses.provisioning caller source
    have lifted := Session.lift_agree start asked
    exact lifted
  repositories caller urls ids external := by
    have asked := CatalogClient.repositories_agree link start addresses.content caller urls ids
      external
    have lifted := Session.lift_agree start asked
    exact lifted
  snapshotsForDate caller date uuids := by
    have asked := CatalogClient.snapshotsForDate_agree link start addresses.content caller date
      uuids
    have lifted := Session.lift_agree start asked
    exact lifted
  policyData caller major minor policy := by
    have asked := PolicyClient.policyData_agree link addresses.compliance caller start major minor
      policy
    have lifted := Session.lift_agree start asked
    exact lifted

end ComposeDesk
