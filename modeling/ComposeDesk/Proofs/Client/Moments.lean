import ComposeDesk.Proofs.Client.Runs

/-!
# What goes over the network for a token

The exchanges of a call for a token and of one request: what asks for tokens is told apart
from what is sent, and whatever fails is the last that happens.
-/

namespace ComposeDesk

/-- A request for a token sends a form, and nothing else does. -/
def Exchange.isAsk (exchange : Exchange) : Bool :=
  match exchange.request.body with
  | .form _ => true
  | _ => false

namespace Moment

def asks (moments : List Moment) : List Exchange :=
  (exchanges moments).filter (·.isAsk)

def sends (moments : List Moment) : List Exchange :=
  (exchanges moments).filter (!·.isAsk)

@[simp] theorem asks_append (moments more : List Moment) :
    asks (moments ++ more) = asks moments ++ asks more := by
  simp only [asks, exchanges_append, List.filter_append]

@[simp] theorem sends_append (moments more : List Moment) :
    sends (moments ++ more) = sends moments ++ sends more := by
  simp only [sends, exchanges_append, List.filter_append]

end Moment

/-- Nothing came of an exchange: there was no reply, or a request for a token was not granted
one. -/
def Exchange.Failed (exchange : Exchange) : Prop :=
  exchange.reply = none ∨ exchange.isAsk = true ∧ ∀ grant, ¬ exchange.Grants grant

namespace Moment

/-- Something came of every exchange. -/
def Unfailing (moments : List Moment) : Prop :=
  ∀ exchange, .exchanged exchange ∈ moments → ¬ exchange.Failed

/-- Nothing happens after an exchange that nothing came of. -/
def FailsLast (moments : List Moment) : Prop :=
  ∀ before exchange rest, moments = before ++ .exchanged exchange :: rest → exchange.Failed →
    rest = []

variable {moments more : List Moment}

theorem Unfailing.nil : Unfailing [] :=
  fun _ member => absurd member List.not_mem_nil

theorem Unfailing.append (unfailing : Unfailing moments) (later : Unfailing more) :
    Unfailing (moments ++ more) := by
  intro exchange member
  rcases List.mem_append.mp member with front | back
  · exact unfailing exchange front
  · exact later exchange back

theorem Unfailing.read (time : Timestamp) : Unfailing [.read time] := by
  intro exchange member
  cases List.mem_singleton.mp member

theorem Unfailing.exchanged {exchange : Exchange} (came : ¬ exchange.Failed) :
    Unfailing [.exchanged exchange] := by
  intro other member
  cases List.mem_singleton.mp member
  exact came

theorem Unfailing.failsLast (unfailing : Unfailing moments) : FailsLast moments := by
  rintro before exchange rest rfl failed
  exact absurd failed (unfailing exchange (by simp))

theorem FailsLast.exchanged (exchange : Exchange) : FailsLast [.exchanged exchange] := by
  intro before other rest split _
  have short := congrArg List.length split
  simp only [List.length_append, List.length_cons, List.length_nil] at short
  exact List.eq_nil_of_length_eq_zero (by omega)

theorem FailsLast.append (unfailing : Unfailing moments) (last : FailsLast more) :
    FailsLast (moments ++ more) := by
  intro before exchange rest split failed
  rcases List.append_eq_append_iff.mp split with ⟨middle, -, back⟩ | ⟨middle, front, back⟩
  · exact last middle exchange rest back failed
  · cases middle with
    | nil => exact last [] exchange rest back.symm failed
    | cons first middle =>
        -- the exchange would be among those that something came of
        cases back
        exact absurd failed (unfailing exchange (by simp [front]))

end Moment

namespace Token

section Called

variable {client : Credentials} {forced : Bool} {cache left : TokenCache}
  {moments : List Moment}

theorem Asks.isAsk {exchange : Exchange} (asks : Asks client exchange.request) :
    exchange.isAsk = true := by
  obtain ⟨-, url, -, same⟩ := asks
  rw [Exchange.isAsk, same]

theorem Judged.exchanges {answer : Except ServiceFault Bool}
    (judged : Judged forced cache moments answer) : Moment.exchanges moments = [] := by
  cases judged <;> rfl

theorem Fetched.exchanges {answer : Except ServiceFault Grant}
    (fetched : Fetched client moments answer) : Moment.exchanges moments = [] ∨
      ∃ exchange, Moment.exchanges moments = [exchange] ∧ exchange.isAsk = true := by
  cases fetched with
  | unasked _ => exact .inl rfl
  | refused asked _ | granted asked _ => exact .inr ⟨_, rfl, asked.isAsk⟩

/-- For a token there is at most one exchange, which asks for one. -/
theorem Called.exchanges {answer : Except ServiceFault String}
    (called : Called client forced cache moments answer left) :
    Moment.exchanges moments = [] ∨
      ∃ exchange, Moment.exchanges moments = [exchange] ∧ exchange.isAsk = true := by
  cases called with
  | kept judged | late judged => exact .inl judged.exchanges
  | renewed judged renewed =>
      rw [Moment.exchanges_append, judged.exchanges, List.nil_append]
      cases renewed with
      | unfetched fetched => exact fetched.exchanges
      | endless fetched _ | held fetched _ =>
          rw [Moment.exchanges_append, Moment.exchanges_read, Moment.exchanges_nil,
            List.append_nil]
          exact fetched.exchanges

theorem Called.sends {answer : Except ServiceFault String}
    (called : Called client forced cache moments answer left) : Moment.sends moments = [] := by
  rcases called.exchanges with none | ⟨exchange, single, ask⟩
  · rw [Moment.sends, none, List.filter_nil]
  · simp only [Moment.sends, single, List.filter_cons, ask, Bool.not_true, List.filter_nil,
      Bool.false_eq_true, if_false]

theorem Called.asks_length {answer : Except ServiceFault String}
    (called : Called client forced cache moments answer left) :
    (Moment.asks moments).length ≤ 1 := by
  have fewer : (Moment.asks moments).length ≤ (Moment.exchanges moments).length :=
    List.length_filter_le _ _
  rcases called.exchanges with none | ⟨exchange, single, -⟩
  · rw [none] at fewer
    exact Nat.le_trans fewer (Nat.zero_le 1)
  · rw [single] at fewer
    exact fewer

theorem Judged.unfailing {answer : Except ServiceFault Bool}
    (judged : Judged forced cache moments answer) : Moment.Unfailing moments := by
  cases judged with
  | never _ => exact .nil
  | late _ _ | due _ _ _ | current _ _ _ => exact .read _

theorem Fetched.failsLast {answer : Except ServiceFault Grant}
    (fetched : Fetched client moments answer) : Moment.FailsLast moments := by
  cases fetched with
  | unasked _ => exact Moment.Unfailing.nil.failsLast
  | refused _ _ | granted _ _ => exact .exchanged _

theorem Fetched.unfailing {grant : Grant} (fetched : Fetched client moments (.ok grant)) :
    Moment.Unfailing moments := by
  obtain ⟨exchange, rfl, grants⟩ := fetched.grants
  refine .exchanged ?_
  rintro (unanswered | ⟨-, refused⟩)
  · obtain ⟨reply, replied, -⟩ := grants
    rw [unanswered] at replied
    cases replied
  · exact refused grant grants

theorem Called.unfailing {token : String}
    (called : Called client forced cache moments (.ok token) left) :
    Moment.Unfailing moments := by
  cases called with
  | kept judged => exact judged.unfailing
  | renewed judged renewed =>
      cases renewed with
      | held fetched _ => exact judged.unfailing.append (fetched.unfailing.append (.read _))

theorem Called.failsLast {answer : Except ServiceFault String}
    (called : Called client forced cache moments answer left) : Moment.FailsLast moments := by
  cases called with
  | kept judged | late judged => exact judged.unfailing.failsLast
  | renewed judged renewed =>
      refine .append judged.unfailing ?_
      cases renewed with
      | unfetched fetched => exact fetched.failsLast
      | endless fetched _ | held fetched _ =>
          exact (fetched.unfailing.append (.read _)).failsLast

/-- A forced call that comes to a token was granted it just before. -/
theorem Called.lastGrant {token : String}
    (called : Called client true cache moments (.ok token) left) :
    ∃ grant time, LastGrant moments grant time ∧ grant.token = token := by
  cases called with
  | kept judged =>
      cases judged with
      | current _ _ current => exact absurd (.inl rfl) current
  | @renewed front _ _ _ _ renewed =>
      cases renewed with
      | @held _ grant time _ fetched _ =>
          obtain ⟨exchange, rfl, grants⟩ := fetched.grants
          refine ⟨grant, time, ⟨front, exchange, [], rfl, grants, ?_⟩, rfl⟩
          exact fun other member => absurd member List.not_mem_nil

end Called

end Token

namespace Link

variable {method : Method} {address : String} {authorization : Option String} {body : Body}
  {moments : List Moment} {answer : Except ServiceFault Reply}

/-- A request that is no form is none for a token. -/
theorem Tried.exchanges (tried : Tried method address authorization body moments answer)
    (plain : ∀ pairs, body ≠ .form pairs) :
    Moment.asks moments = [] ∧ Moment.sends moments = Moment.exchanges moments := by
  cases tried with
  | unsent _ => exact ⟨rfl, rfl⟩
  | @sent url reply _ _ =>
      cases body with
      | form pairs => exact absurd rfl (plain pairs)
      | none | json _ => exact ⟨rfl, rfl⟩

theorem Tried.length_exchanges
    (tried : Tried method address authorization body moments answer) :
    (Moment.exchanges moments).length ≤ 1 := by
  cases tried with
  | unsent _ => exact Nat.zero_le 1
  | sent _ _ => exact Nat.le_refl 1

theorem Tried.request (tried : Tried method address authorization body moments answer)
    {exchange : Exchange} (member : exchange ∈ Moment.exchanges moments) :
    ∃ url, Url.ofText? address = some url ∧
      exchange.request = ⟨method, url, none, authorization, body⟩ := by
  cases tried with
  | unsent _ => exact absurd member List.not_mem_nil
  | @sent url _ parsed _ =>
      cases List.mem_singleton.mp member
      exact ⟨url, parsed, rfl⟩

/-- A try that is answered is one exchange with that reply. -/
theorem Tried.answered {reply : Reply}
    (tried : Tried method address authorization body moments (.ok reply)) :
    ∃ exchange, moments = [.exchanged exchange] ∧ exchange.reply = some reply := by
  generalize came : (Except.ok reply : Except ServiceFault Reply) = answer at tried
  cases tried with
  | unsent _ => cases came
  | @sent _ replied _ _ =>
      cases replied with
      | none => cases came
      | some other =>
          cases came
          exact ⟨_, rfl, rfl⟩

theorem Tried.failsLast (tried : Tried method address authorization body moments answer) :
    Moment.FailsLast moments := by
  cases tried with
  | unsent _ => exact Moment.Unfailing.nil.failsLast
  | sent _ _ => exact .exchanged _

theorem Tried.unfailing {reply : Reply} (plain : ∀ pairs, body ≠ .form pairs)
    (tried : Tried method address authorization body moments (.ok reply)) :
    Moment.Unfailing moments := by
  have none := (tried.exchanges plain).1
  obtain ⟨exchange, rfl, replied⟩ := tried.answered
  refine .exchanged ?_
  rintro (unanswered | ⟨ask, -⟩)
  · rw [replied] at unanswered
    cases unanswered
  · simp only [Moment.asks, Moment.exchanges_exchanged, Moment.exchanges_nil,
      List.filter_cons, ask, if_true] at none
    cases none

end Link

end ComposeDesk
