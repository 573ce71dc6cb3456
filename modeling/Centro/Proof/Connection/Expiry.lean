import Centro.Construction.Expiry
import Centro.Proof.Connection.Effects
import Centro.Library.Trace
import Mathlib.Algebra.Order.Floor.Div

namespace Centro

open Library

namespace ExpiryCall

def isExpired : ExpiryCall → Bool
  | expired => true
  | _ => false

/-- The clock was at or past the time of expiry. -/
def Found (exp : Int) : ExpiryCall → Prop
  | checked now => exp * 1000 ≤ now
  | _ => False

end ExpiryCall

/-- The delay of a timer is one that `setTimeout` takes, and it is not longer than the time that is
left. -/
theorem schedule_delay (time now : Int) :
    0 ≤ (schedule time now).2 ∧ (schedule time now).2 ≤ maxSettimeout := by
  unfold schedule maxSettimeout
  split <;> dsimp only <;> omega

/-- The action is not early. -/
theorem schedule_action {time now : Int} (acts : (schedule time now).1 = .action) :
    time ≤ now := by
  unfold schedule at acts
  split at acts
  · cases acts
  · omega

/-- A timer is set again only before its time. -/
theorem schedule_again {time now : Int} (again : (schedule time now).1 = .schedule) :
    now < time := by
  unfold schedule at again
  split at again
  · omega
  · cases again

namespace Expiry

variable {exp clock : Int} {before after state : Expiry} {event : Event}

/-- The delays are in range, and a pending timer is the only one and the stored one. The token
expires at most once, after a check that found the time of expiry reached, and not after the
close. -/
structure Timely (exp : Int) (expiry : Expiry) : Prop where
  delays : ∀ number delay, .setTimeout number delay ∈ expiry.calls →
    0 ≤ delay ∧ delay ≤ 2 ^ 31 - 1
  single : expiry.pending.length ≤ 1
  stored : ∀ timer ∈ expiry.pending, expiry.timeout = some timer.number
  once : expiry.calls.countP ExpiryCall.isExpired ≤ 1
  checked : OnlyAfter (ExpiryCall.Found exp) (· = .expired) expiry.calls
  unclosed : NeverAfter (· = .closed) (· = .expired) expiry.calls

/-- Nothing is pending before the token is handled, after its expiry, and after the close. -/
structure Regular (exp : Int) (expiry : Expiry) : Prop where
  timely : expiry.Timely exp
  idle : expiry.start = none ∨ expiry.closed = true ∨ .expired ∈ expiry.calls → expiry.pending = []
  started : expiry.start = none → .expired ∉ expiry.calls
  due : ∀ timer ∈ expiry.pending, timer.timer = .action →
    ∃ call ∈ expiry.calls, call.Found exp
  told : .closed ∈ expiry.calls → expiry.closed = true

/-- A new timer keeps its delay within bounds. -/
theorem timely_schedule (timely : before.Timely exp) (idle : before.pending = []) :
    (before.schedule exp).Timely exp where
  delays number delay member := by
    obtain old | new := List.mem_append.mp member
    · exact timely.delays number delay old
    · simp only [List.mem_cons, reduceCtorEq, ExpiryCall.setTimeout.injEq, List.not_mem_nil,
        or_false, false_or] at new
      obtain ⟨rfl, rfl⟩ := new
      exact schedule_delay _ _
  single := by simp [schedule, idle]
  stored timer member := by
    obtain rfl : timer = _ := by simpa [schedule, idle] using member
    rfl
  once := by
    simp only [schedule, List.countP_append]
    exact timely.once
  checked := timely.checked.append (by simp)
  unclosed := neverAfter_append.mpr ⟨timely.unclosed, by simp [NeverAfter], by simp⟩

/-- A timer is set only for a token that was handled, is not expired, and is not closed. -/
theorem regular_schedule (regular : before.Regular exp) (idle : before.pending = [])
    (started : before.start ≠ none) (unclosed : before.closed = false)
    (unexpired : .expired ∉ before.calls) : (before.schedule exp).Regular exp where
  timely := timely_schedule regular.timely idle
  idle := by
    rintro (unstarted | closed | expired)
    · exact absurd unstarted started
    · exact absurd closed (by simp [schedule, unclosed])
    · exact absurd expired (by simp [schedule, unexpired])
  started unstarted := absurd unstarted started
  due timer member acts := by
    obtain rfl : timer = _ := by simpa [schedule, idle] using member
    exact ⟨.checked before.clock, by simp [schedule], schedule_action acts⟩
  told told := regular.told (by simpa [schedule] using told)

/-- A pending timer that fires leaves none. -/
theorem pending_fired {fired : PendingTimer} (timely : before.Timely exp)
    (member : fired ∈ before.pending) :
    before.pending = [fired] ∧
      (before.pending.filter fun timer => timer.number ≠ fired.number) = [] := by
  have alone : before.pending = [fired] := by
    cases shape : before.pending with
    | nil => simp [shape] at member
    | cons head tail =>
        have single := timely.single
        rw [shape, List.length_cons] at single
        obtain rfl : tail = [] := List.eq_nil_of_length_eq_zero (by omega)
        rw [shape, List.mem_singleton] at member
        rw [member]
  exact ⟨alone, by simp [alone]⟩

/-- A timer that fires is replaced by at most one. -/
theorem regular_fire {fired : PendingTimer} (regular : before.Regular exp)
    (member : fired ∈ before.pending) : (before.fire exp fired).Regular exp := by
  obtain ⟨alone, cleared⟩ := pending_fired regular.timely member
  have busy : ¬(before.start = none ∨ before.closed = true ∨ .expired ∈ before.calls) :=
    fun idle => by simp [regular.idle idle] at member
  obtain ⟨started, unclosed, unexpired⟩ : before.start ≠ none ∧ before.closed = false ∧
      .expired ∉ before.calls := by simpa only [not_or, Bool.not_eq_true] using busy
  unfold fire
  rw [cleared]
  cases kind : fired.timer with
  | schedule =>
      refine regular_schedule ?_ rfl started unclosed unexpired
      exact ⟨⟨regular.timely.delays, Nat.zero_le _, by simp, regular.timely.once,
        regular.timely.checked, regular.timely.unclosed⟩, fun _ => rfl, regular.started, by simp,
        regular.told⟩
  | action =>
      have none : before.calls.countP ExpiryCall.isExpired = 0 := by
        refine List.countP_eq_zero.mpr fun call member expired => unexpired ?_
        cases call with
        | expired => exact member
        | _ => cases expired
      have quiet : .closed ∉ before.calls := fun told => by simp [regular.told told] at unclosed
      refine ⟨⟨?_, Nat.zero_le _, by simp, ?_, ?_, ?_⟩, fun _ => rfl, fun unstarted =>
        absurd unstarted started, by simp, ?_⟩
      · intro number delay told
        exact regular.timely.delays number delay ((mem_concat.mp told).resolve_right (by simp))
      · rw [List.countP_append, none]
        rfl
      · refine regular.timely.checked.append fun call _ _ => ?_
        exact regular.due fired member kind
      · refine neverAfter_append.mpr ⟨regular.timely.unclosed, List.pairwise_singleton _ _, ?_⟩
        rintro ⟨_, member, rfl⟩
        exact absurd member quiet
      · exact fun told => regular.told ((mem_concat.mp told).resolve_right (by simp))

/-- The close leaves no timer, since only the stored one is pending. -/
theorem pending_connClosed (timely : before.Timely exp) : before.connClosed.pending = [] := by
  unfold connClosed
  split
  · next absent =>
      refine List.eq_nil_iff_forall_not_mem.mpr fun timer member => ?_
      have stored := timely.stored timer member
      rw [absent] at stored
      cases stored
  · next number present =>
      refine List.filter_eq_nil_iff.mpr fun timer member => ?_
      have stored := timely.stored timer member
      rw [present, Option.some.injEq] at stored
      simp [stored]

/-- The close of a connection only clears timers. -/
theorem calls_connClosed (expiry : Expiry) : ∃ cleared,
    expiry.connClosed.calls = expiry.calls ++ (cleared ++ [.closed]) ∧
      ∀ call ∈ cleared, ∃ number, call = .clearTimeout number := by
  unfold connClosed
  split
  · exact ⟨[], rfl, by simp⟩
  · exact ⟨[.clearTimeout _], rfl, by simp⟩

/-- After a close no timer is left. -/
theorem regular_connClosed (regular : before.Regular exp) : before.connClosed.Regular exp := by
  have pending := pending_connClosed regular.timely
  obtain ⟨cleared, calls, clears⟩ := calls_connClosed before
  have mild : ∀ call ∈ cleared ++ [ExpiryCall.closed],
      call = .closed ∨ ∃ number, call = .clearTimeout number := by
    intro call member
    obtain old | rfl := mem_concat.mp member
    · exact Or.inr (clears call old)
    · exact Or.inl rfl
  have unexpired : .expired ∉ cleared ++ [ExpiryCall.closed] :=
    fun member => by simpa using mild _ member
  have unchanged : before.connClosed.start = before.start ∧ before.connClosed.closed = true := by
    unfold connClosed
    split <;> exact ⟨rfl, rfl⟩
  refine ⟨⟨?_, by simp [pending], by simp [pending], ?_, ?_, ?_⟩, fun _ => pending, ?_,
    by simp [pending], fun _ => unchanged.2⟩
  · intro number delay told
    rw [calls, List.mem_append] at told
    have old := told.resolve_right fun new => by simpa using mild _ new
    exact regular.timely.delays number delay old
  · have none : (cleared ++ [ExpiryCall.closed]).countP ExpiryCall.isExpired = 0 := by
      refine List.countP_eq_zero.mpr fun call member expired => ?_
      obtain rfl | ⟨_, rfl⟩ := mild call member <;> cases expired
    rw [calls, List.countP_append, none]
    exact regular.timely.once
  · rw [calls]
    refine regular.timely.checked.append fun call member expired => ?_
    exact absurd (expired ▸ member) unexpired
  · rw [calls]
    refine neverAfter_append.mpr ⟨regular.timely.unclosed, ?_, ?_⟩
    · exact neverAfter_of_absent fun call member expired => unexpired (expired ▸ member)
    · exact fun _ call member expired => unexpired (expired ▸ member)
  · rw [unchanged.1, calls, List.mem_append]
    exact fun unstarted => not_or.mpr ⟨regular.started unstarted, unexpired⟩

/-- A step leaves at most one timer. -/
theorem regular_step (regular : before.Regular exp) (stepped : before.step exp event = some after) :
    after.Regular exp := by
  cases event with
  | tick now =>
      simp only [step, Option.ite_none_right_eq_some] at stepped
      obtain ⟨-, stepped⟩ := stepped
      obtain rfl := Option.some.inj stepped
      exact ⟨⟨regular.timely.delays, regular.timely.single, regular.timely.stored,
        regular.timely.once, regular.timely.checked, regular.timely.unclosed⟩, regular.idle,
        regular.started, regular.due, regular.told⟩
  | handshake =>
      simp only [step, Option.ite_none_right_eq_some] at stepped
      obtain ⟨unstarted, stepped⟩ := stepped
      obtain rfl := Option.some.inj stepped
      unfold handshake
      split
      · exact regular
      · next open_ =>
          have unclosed : before.closed = false := by simpa using open_
          have idle := regular.idle (Or.inl unstarted)
          refine regular_schedule ?_ idle nofun unclosed (regular.started unstarted)
          exact ⟨⟨regular.timely.delays, regular.timely.single, regular.timely.stored,
            regular.timely.once, regular.timely.checked, regular.timely.unclosed⟩, fun _ => idle,
            nofun, regular.due, regular.told⟩
  | fire number =>
      simp only [step, Option.map_eq_some_iff] at stepped
      obtain ⟨fired, found, rfl⟩ := stepped
      exact regular_fire regular (List.mem_of_find?_eq_some found)
  | close =>
      simp only [step, Option.ite_none_left_eq_some] at stepped
      obtain ⟨-, stepped⟩ := stepped
      obtain rfl := Option.some.inj stepped
      exact regular_connClosed regular

/-- At first there is no timer. -/
theorem regular_initial : ({ clock } : Expiry).Regular exp where
  timely := ⟨nofun, Nat.zero_le _, nofun, Nat.zero_le _, onlyAfter_nil, neverAfter_nil⟩
  idle _ := rfl
  started _ := nofun
  due := nofun
  told := nofun

/-- The timer fires when its delay has elapsed, or later. -/
def OnTime (expiry : Expiry) : Event → Prop
  | .fire number => ∀ timer ∈ expiry.pending, timer.number = number →
      timer.since + timer.delay ≤ expiry.clock
  | _ => True

/-- The delays of so many timers reach the time of expiry. -/
def timersFor (exp start : Int) : Nat := (exp * 1000 - start).toNat ⌈/⌉ maxSettimeout.toNat + 1

/-- A pending timer that checks again was set after full delays of all timers before it. -/
structure Paced (exp : Int) (expiry : Expiry) : Prop where
  unstarted : expiry.start = none → expiry.timers = 0
  bound : ∀ start, expiry.start = some start → expiry.timers ≤ timersFor exp start
  early : ∀ start, expiry.start = some start → ∀ timer ∈ expiry.pending, timer.timer = .schedule →
    timer.since < exp * 1000 ∧ timer.delay = min (exp * 1000 - timer.since) maxSettimeout ∧
      start + (expiry.timers - 1) * maxSettimeout ≤ timer.since ∧ 1 ≤ expiry.timers

/-- One timer more is in the bound when the others took less than the time. -/
theorem timersFor_ge {exp start since : Int} {timers : Nat} (reached : 1 ≤ timers)
    (past : start + (timers - 1) * maxSettimeout ≤ since) (early : since < exp * 1000) :
    timers + 1 ≤ timersFor exp start := by
  unfold timersFor
  by_contra few
  have fewer : (exp * 1000 - start).toNat ⌈/⌉ maxSettimeout.toNat ≤ timers - 1 := by omega
  rw [ceilDiv_le_iff_le_mul (by decide), show maxSettimeout.toNat = 2147483647 from rfl] at fewer
  unfold maxSettimeout at past
  omega

/-- The next timer is set on time, so it is in the bound again. -/
theorem paced_schedule (idle : before.pending = [])
    (bound : ∀ start, before.start = some start → before.timers + 1 ≤ timersFor exp start)
    (started : before.start ≠ none)
    (late : ∀ start, before.start = some start → before.clock < exp * 1000 →
      start + before.timers * maxSettimeout ≤ before.clock) : (before.schedule exp).Paced exp where
  unstarted unstarted := absurd unstarted started
  bound := bound
  early start same timer member checks := by
    obtain rfl : timer = _ := by simpa [schedule, idle] using member
    have early : before.clock < exp * 1000 := schedule_again checks
    refine ⟨early, ?_, ?_, Nat.le_add_left _ _⟩
    · simp [Centro.schedule, early]
    · simpa [schedule] using late start same early

/-- A step sets as many timers as the time that has passed allows. -/
theorem paced_step (regular : before.Regular exp) (paced : before.Paced exp)
    (onTime : before.OnTime event) (stepped : before.step exp event = some after) :
    after.Paced exp := by
  cases event with
  | tick now =>
      simp only [step, Option.ite_none_right_eq_some] at stepped
      obtain ⟨-, stepped⟩ := stepped
      obtain rfl := Option.some.inj stepped
      exact ⟨paced.unstarted, paced.bound, paced.early⟩
  | handshake =>
      simp only [step, Option.ite_none_right_eq_some] at stepped
      obtain ⟨unstarted, stepped⟩ := stepped
      obtain rfl := Option.some.inj stepped
      unfold handshake
      split
      · exact paced
      · refine paced_schedule (regular.idle (Or.inl unstarted)) ?_ nofun ?_
        · intro start _
          rw [show ({ before with start := some before.clock } : Expiry).timers = 0 from
            paced.unstarted unstarted]
          exact Nat.le_add_left 1 _
        · intro start same _
          obtain rfl := Option.some.inj same
          simp [paced.unstarted unstarted]
  | fire number =>
      simp only [step, Option.map_eq_some_iff] at stepped
      obtain ⟨fired, found, rfl⟩ := stepped
      have member := List.mem_of_find?_eq_some found
      obtain ⟨alone, cleared⟩ := pending_fired regular.timely member
      have due := onTime fired member (by simpa using List.find?_some found)
      unfold fire
      rw [cleared]
      cases kind : fired.timer with
      | schedule =>
          refine paced_schedule rfl (fun start same => ?_) (fun unstarted => ?_)
            fun start same early => ?_
          · obtain ⟨early, -, past, reached⟩ := paced.early start same fired member kind
            exact timersFor_ge reached past early
          · simp [regular.idle (Or.inl unstarted)] at member
          · obtain ⟨-, delay, past, -⟩ := paced.early start same fired member kind
            have waited : fired.delay = maxSettimeout := by
              change before.clock < exp * 1000 at early
              omega
            change start + before.timers * maxSettimeout ≤ before.clock
            rw [waited] at due
            rw [Int.sub_mul, Int.one_mul] at past
            omega
      | action =>
          refine ⟨paced.unstarted, paced.bound, by simp⟩
  | close =>
      simp only [step, Option.ite_none_left_eq_some] at stepped
      obtain ⟨-, stepped⟩ := stepped
      obtain rfl := Option.some.inj stepped
      obtain ⟨start, timers⟩ : before.connClosed.start = before.start ∧
          before.connClosed.timers = before.timers := by
        unfold connClosed
        split <;> exact ⟨rfl, rfl⟩
      refine ⟨?_, ?_, by simp [pending_connClosed regular.timely]⟩
      · rw [start, timers]
        exact paced.unstarted
      · rw [start, timers]
        exact paced.bound

/-- At first no timer was set. -/
theorem paced_initial : ({ clock } : Expiry).Paced exp where
  unstarted _ := rfl
  bound := nofun
  early := nofun

/-- The timers of a token are regular for any clock and any order of events. They are bounded in
number when none of them fires before its delay has elapsed. -/
theorem token_expiry {events : List Event}
    (ran : (system exp clock).run (system exp clock).initial events = some state) :
    state.Timely exp ∧
      ((system exp clock).AllSteps OnTime (system exp clock).initial events →
        ∀ start, state.start = some start → state.timers ≤ timersFor exp start) := by
  have kept : state.Regular exp :=
    @TransitionSystem.run_invariant _ _ (system exp clock) (Regular exp)
      (fun _ _ _ regular stepped => regular_step regular stepped) _ _ _ regular_initial ran
  refine ⟨kept.timely, fun onTime => ?_⟩
  have reached := TransitionSystem.ReachableUnder.initial.run onTime ran
  obtain ⟨-, paced⟩ := @TransitionSystem.ReachableUnder.invariant _ _ (system exp clock) OnTime
    (fun state => state.Regular exp ∧ state.Paced exp) ⟨regular_initial, paced_initial⟩
    (fun _ _ _ holds onTime stepped =>
      ⟨regular_step holds.1 stepped, paced_step holds.1 holds.2 onTime stepped⟩) state reached
  exact paced.bound

/-- Three timers of the longest delay are not enough, a fourth one fires late, and the fifth one runs
the action. -/
def sampleLate : List Event :=
  [.handshake, .tick 2147483647, .fire 0, .tick 4294967294, .fire 1, .tick 6442450941, .fire 2,
    .tick 6450000000, .fire 3, .fire 4, .close]

instance (expiry : Expiry) : (event : Event) → Decidable (expiry.OnTime event)
  | .fire number => inferInstanceAs <| Decidable <| ∀ timer ∈ expiry.pending,
      timer.number = number → timer.since + timer.delay ≤ expiry.clock
  | .tick _ | .handshake | .close => .isTrue trivial

theorem token_expiry_sample : ∃ state,
    (system 6450000 0).run (system 6450000 0).initial sampleLate = some state ∧
    state.calls.getLast? = some .closed ∧ state.timers = 5 ∧ state.Timely 6450000 ∧
    state.timers ≤ timersFor 6450000 0 := by
  obtain ⟨state, ran, last, timers, started⟩ : ∃ state,
      (system 6450000 0).run (system 6450000 0).initial sampleLate = some state ∧
      state.calls.getLast? = some .closed ∧ state.timers = 5 ∧ state.start = some 0 :=
    ⟨_, rfl, rfl, rfl, rfl⟩
  obtain ⟨timely, bound⟩ := token_expiry ran
  exact ⟨state, ran, last, timers, timely, bound (by decide) 0 started⟩

/-- The variables of a connection show the pending timer of a token. -/
structure Shown (expiry : Expiry) (connection : Connection) (token : Nat) : Prop where
  timeout : connection.timeouts.get token = expiry.pending.head?.map PendingTimer.timer
  closed : connection.closed = expiry.closed

variable {runtime : Runtime} {closure next : Closure} {token : Nat} {hs : Handshake}

/-- The first timer of a token is set when its handshake is processed. -/
theorem shown_handshake (shown : before.Shown closure.connection token)
    (expires : hs.payload.exp = some exp) :
    (before.handshake exp).Shown
      (closure.processHandshake runtime token hs before.clock).connection token := by
  have same := shown.closed
  unfold Closure.processHandshake handshake
  cases closed : before.closed with
  | true =>
      rw [closed] at same
      rw [if_pos same, if_pos rfl]
      exact ⟨shown.timeout, same.trans closed.symm⟩
  | false =>
      rw [closed] at same
      rw [if_neg (by simp)]
      rw [if_neg (by simp [same])]
      constructor
      · simp only [expires]
        cases hs.payload.ack <;> cases hs.payload.presence <;>
          simp [Closure.setTimer, schedule]
      · simp only [expires]
        cases hs.payload.ack <;> cases hs.payload.presence <;>
          simp [Closure.setTimer, schedule, same]

/-- The close of a connection is the close of its timers. -/
theorem shown_connClosed (timely : before.Timely exp) :
    before.connClosed.Shown (closure.connClosed runtime).connection token where
  timeout := by
    rw [pending_connClosed timely, Closure.connClosed_connection]
    rfl
  closed := by
    rw [Closure.connClosed_connection]
    unfold connClosed
    split <;> rfl

/-- The expiry action may close the connection. -/
theorem shown_fire {fired : PendingTimer} (regular : before.Regular exp)
    (member : fired ∈ before.pending) (shown : before.Shown closure.connection token)
    (stored : closure.connection.handshakes[token]? = some hs) (expires : hs.payload.exp = some exp)
    (stepped : closure.timeout runtime token before.clock = some next) :
    (before.fire exp fired).Shown next.connection token ∨
      (before.fire exp fired).connClosed.Shown next.connection token := by
  obtain ⟨alone, cleared⟩ := pending_fired regular.timely member
  have unclosed : before.closed = false := by
    cases closed : before.closed with
    | false => rfl
    | true => simp [regular.idle (Or.inr (Or.inl closed))] at member
  have pending : closure.connection.timeouts.get token = some fired.timer := by
    rw [shown.timeout, alone]
    rfl
  simp only [Closure.timeout, pending, stored, Option.bind_eq_bind, Option.bind_some] at stepped
  unfold fire
  rw [cleared]
  cases kind : fired.timer with
  | schedule =>
      simp only [kind, expires, Option.bind_some, Option.some.injEq] at stepped
      subst stepped
      refine Or.inl ⟨?_, ?_⟩
      · simp [Closure.setTimer, schedule]
      · exact shown.closed
  | action =>
      simp only [kind, Option.some.injEq] at stepped
      subst stepped
      have closed : closure.connection.closed = before.closed := shown.closed
      rw [unclosed] at closed
      rw [Closure.dstroy_connection]
      dsimp only
      split
      · exact Or.inl ⟨by simp, by simp [closed, unclosed]⟩
      · split
        · exact Or.inr ⟨rfl, rfl⟩
        · exact Or.inl ⟨by simp, by simp [closed, unclosed]⟩

end Expiry
end Centro
