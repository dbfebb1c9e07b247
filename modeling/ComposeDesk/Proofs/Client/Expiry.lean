import ComposeDesk.Proofs.Client.Runs

/-!
# Lifetimes past the end of the calendar

A lifetime is any number of 64 bits, and the calendar ends.  Where an instant that a call
needs does not exist, the call comes to no answer, and changes nothing.
-/

namespace ComposeDesk

namespace Token

/-- A call needs an instant that does not exist: the margin after the reading of the clock
while a token is held, or the expiry of the token that is granted. -/
inductive Endless (cache : TokenCache) (moments : List Moment) : Prop
  | margin {expires now : Timestamp} {rest : List Moment} (held : cache.expires = some expires)
      (first : moments = .read now :: rest) (beyond : (now.addSeconds margin).inRange = false)
  | lifetime {front : List Moment} {exchange : Exchange} {time : Timestamp} {grant : Grant}
      (last : moments = front ++ [.exchanged exchange, .read time])
      (grants : exchange.Grants grant)
      (beyond : (time.addSeconds grant.lifetime.toInt).inRange = false)

theorem later?_eq_none {time : Timestamp} {seconds : Int} (ordinary : time.inRange = true) :
    later? time seconds = none ↔ (time.addSeconds seconds).inRange = false := by
  rw [later?_of_inRange ordinary]
  split_ifs with range
  · simp only [range, reduceCtorEq]
  · simpa using range

section Called

variable {credentials : Credentials} {forced : Bool} {cache left : TokenCache}
  {moments more : List Moment} {answer : Except ServiceFault String}

/-- A look at the token that comes to something needs no more than the margin. -/
theorem Judged.margin_inRange {due : Bool} (judged : Judged forced cache moments (.ok due))
    {expires now : Timestamp} {rest : List Moment} (held : cache.expires = some expires)
    (first : moments ++ more = .read now :: rest) (ordinary : now.inRange = true) :
    (now.addSeconds margin).inRange = true := by
  have soon (later : later? now margin ≠ none) : (now.addSeconds margin).inRange = true :=
    Bool.of_not_eq_false fun beyond => later ((later?_eq_none ordinary).mpr beyond)
  cases judged with
  | never none =>
      rw [held] at none
      cases none
  | due _ later _ | current _ later _ =>
      cases first
      exact soon (by rw [later]; exact Option.some_ne_none _)

theorem Judged.length_le {judgement : Except ServiceFault Bool}
    (judged : Judged forced cache moments judgement) : moments.length ≤ 1 := by
  cases judged <;> simp

/-- A renewal that is not aborted needs no instant that does not exist. -/
theorem Renewed.lifetime_inRange (renewed : Renewed credentials cache more answer left)
    (answered : answer ≠ .error .aborted) (before : moments.length ≤ 1) {front : List Moment}
    {exchange : Exchange} {time : Timestamp} {grant : Grant} (ordinary : time.inRange = true)
    (last : moments ++ more = front ++ [.exchanged exchange, .read time])
    (grants : exchange.Grants grant) :
    (time.addSeconds grant.lifetime.toInt).inRange = true := by
  cases renewed with
  | unfetched fetched =>
      cases fetched with
      | unasked _ =>
          have long := congrArg List.length last
          simp only [List.length_append, List.length_cons, List.length_nil] at long
          omega
      | refused _ _ =>
          have ends := congrArg List.getLast? last
          simp at ends
  | endless _ _ => exact absurd rfl answered
  | @held inner granted read expires fetched ends =>
      obtain ⟨other, rfl, also⟩ := fetched.grants
      have pair : moments ++ ([.exchanged other] ++ [.read read]) =
          front ++ [.exchanged exchange, .read time] := last
      obtain ⟨-, same⟩ := List.append_inj' pair rfl
      cases same
      rw [grants.unique also]
      refine Bool.of_not_eq_false fun beyond => ?_
      rw [(later?_eq_none ordinary).mpr beyond] at ends
      cases ends

/-- A call comes to no answer exactly if it needs an instant that does not exist. -/
theorem Called.aborted_iff (called : Called credentials forced cache moments answer left)
    (ordinary : ∀ now, .read now ∈ moments → now.inRange = true) :
    answer = .error .aborted ↔ Endless cache moments := by
  cases called with
  | kept current =>
      refine iff_of_false nofun fun endless => ?_
      cases endless with
      | margin held first beyond =>
          have range := ordinary _ (first ▸ List.mem_cons_self)
          have soon := current.margin_inRange held ((List.append_nil _).trans first) range
          rw [soon] at beyond
          cases beyond
      | lifetime last _ _ =>
          have short := current.length_le
          rw [last] at short
          simp at short
  | late late =>
      cases late with
      | @late expires now held late =>
          have range := ordinary now List.mem_cons_self
          exact iff_of_true rfl (.margin held rfl ((later?_eq_none range).mp late))
  | @renewed front more answer left judged renewed =>
      constructor
      · rintro rfl
        cases renewed with
        | unfetched fetched => exact absurd rfl fetched.fault_ne_aborted
        | @endless inner grant time fetched endless =>
            obtain ⟨exchange, rfl, grants⟩ := fetched.grants
            have range := ordinary time (by simp)
            exact .lifetime rfl grants ((later?_eq_none range).mp endless)
      · intro endless
        by_contra answered
        cases endless with
        | margin held first beyond =>
            have range := ordinary _ (first ▸ List.mem_cons_self)
            rw [judged.margin_inRange held first range] at beyond
            cases beyond
        | @lifetime _ _ time _ last grants beyond =>
            have range := ordinary time (by rw [last]; simp)
            rw [renewed.lifetime_inRange answered judged.length_le range last grants] at beyond
            cases beyond

/-- A call that comes to no answer changes nothing. -/
theorem Called.cache_of_error {fault : ServiceFault}
    (called : Called credentials forced cache moments (.error fault) left) : left = cache := by
  cases called with
  | late _ => rfl
  | renewed _ renewed => cases renewed <;> rfl

end Called

variable {ν : Type}

/-- At readings of the clock that are in the calendar, a call answers or fails, except
exactly where the margin or the lifetime that is granted leads out of the calendar: then it
comes to no answer.  What does not come to a token leaves the one that is held. -/
theorem aborts_iff (link : Link ν) (credentials : Credentials) (forced : Bool) (world : ν)
    (cache : TokenCache)
    (ordinary : ∀ now, .read now ∈
      (outcome (acquire link.timed credentials forced) ⟨⟨world, []⟩, cache⟩).2.net.moments →
        now.inRange = true) :
    let ran := outcome (acquire link.timed credentials forced) ⟨⟨world, []⟩, cache⟩
    (outcome (acquire link credentials forced) ⟨world, cache⟩).1 = ran.1 ∧
      (ran.1 = .error .aborted ↔ Endless cache ran.2.net.moments) ∧
      ∀ fault, ran.1 = .error fault → ran.2.cache = cache := by
  intro ran
  obtain ⟨moments, added, called⟩ :=
    acquire_called link credentials forced ⟨⟨world, []⟩, cache⟩
  rw [List.nil_append] at added
  rw [added] at ordinary
  have begins : Session.Alongside ⟨world, cache⟩ ⟨⟨world, []⟩, cache⟩ := ⟨rfl, rfl⟩
  refine ⟨(acquire_alongside link credentials forced _ _ begins).1, ?_, ?_⟩
  · rw [added]
    exact called.aborted_iff ordinary
  · intro fault failed
    rw [failed] at called
    exact called.cache_of_error

def everlasting : String :=
  "\x7b\"access_token\":\"a\",\"expires_in\":9223372036854775807\x7d"

/-- The first call comes to no answer where the token is granted for too long. -/
theorem aborts_iff_everlasting :
    (outcome (acquire (onceAnswering everlasting) someone false) ⟨false, .empty⟩).1 =
        .error .aborted ∧
      Endless .empty (outcome (acquire (onceAnswering everlasting).timed someone false)
        ⟨⟨false, []⟩, .empty⟩).2.net.moments := by
  have told : (outcome (acquire (onceAnswering everlasting).timed someone false)
      ⟨⟨false, []⟩, .empty⟩).1 = .error .aborted := by
    decide +kernel
  have steady : (outcome (acquire (onceAnswering everlasting).timed someone false)
      ⟨⟨false, []⟩, .empty⟩).2.net.moments.all
        (Moment.passes Timestamp.inRange fun _ => true) = true := by
    decide +kernel
  obtain ⟨same, aborted, -⟩ := aborts_iff (onceAnswering everlasting) someone false false .empty
    fun now member => List.all_eq_true.mp steady _ member
  exact ⟨same.trans told, aborted.mp told⟩

/-- A reply that can be read, and a clock that reads an instant of the calendar, lead to no
answer. -/
theorem lifetime_aborts :
    Reply.read ⟨200, Utf8.encode everlasting⟩ Grant.codec = .ok ⟨"a", 9223372036854775807⟩ ∧
      (∀ answered, ((onceAnswering everlasting).now.run answered).1.inRange = true) ∧
      (outcome (acquire (onceAnswering everlasting) someone false) ⟨false, .empty⟩).1 =
        .error .aborted := by
  refine ⟨by decide +kernel, fun answered => ?_, by decide +kernel⟩
  show Timestamp.inRange ⟨1760000000, 0⟩ = true
  decide

end Token

end ComposeDesk
