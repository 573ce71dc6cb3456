import Centro.Construction.HttpDone
import Centro.Library.Trace

namespace Centro

open Library

namespace DoneCall

/-- The response was ended or closed, or it is about to be. -/
def IsOver : DoneCall → Prop
  | resEnd | prefinish | close => True
  | _ => False

instance : (call : DoneCall) → Decidable call.IsOver
  | resEnd | prefinish | close => .isTrue trivial
  | called | writeHead | returned _ _ | setInterval => .isFalse id

def isWriteHead : DoneCall → Bool
  | writeHead => true
  | _ => false

def isResEnd : DoneCall → Bool
  | resEnd => true
  | _ => false

def returnsTrue : DoneCall → Bool
  | returned _ value => value
  | _ => false

/-- A call with `only_headers` returned true. -/
def leavesOpen : DoneCall → Bool
  | returned onlyHeaders value => onlyHeaders && value
  | _ => false

end DoneCall

namespace HttpDone

variable {options : HttpOptions} {throws : Bool} {arguments : DoneArguments}
  {state before after : HttpDone}

/-- The response is over, or it is being ended. -/
def Over (state : HttpDone) : Prop := state.exchange.closed = true ∨ state.endings ≠ []

/-- The function `done` has these exits, with the calls that it makes before them. -/
inductive Answered (before : HttpDone) (onlyHeaders : Bool) (after : HttpDone) :
    Option Bool → Prop
  | refused
      (written : after.exchange.headersWritten = before.exchange.headersWritten)
      (endings : after.endings = before.endings)
      (calls : after.calls = before.calls ++ [.called, .returned onlyHeaders false]) :
      Answered before onlyHeaders after (some false)
  | ends {code : Nat} (unclosed : before.exchange.closed = false)
      (written : after.exchange.headersWritten = before.exchange.headersWritten)
      (endings : after.endings = { code, onlyHeaders, value := false } :: before.endings)
      (calls : after.calls = before.calls ++ [.called, .resEnd]) :
      Answered before onlyHeaders after none
  | heads (unclosed : before.exchange.closed = false)
      (unwritten : before.exchange.headersWritten = false)
      (written : after.exchange.headersWritten = true) (endings : after.endings = before.endings)
      (calls : after.calls = before.calls ++ [.called, .writeHead, .returned onlyHeaders true]) :
      Answered before onlyHeaders after (some true)
  | answers {code : Nat} (whole : onlyHeaders = false) (unclosed : before.exchange.closed = false)
      (unwritten : before.exchange.headersWritten = false)
      (written : after.exchange.headersWritten = true)
      (endings : after.endings = { code, onlyHeaders, value := true } :: before.endings)
      (calls : after.calls = before.calls ++ [.called, .writeHead, .resEnd]) :
      Answered before onlyHeaders after none

@[simp] theorem called_closed :
    (state.called arguments).exchange.closed = state.exchange.closed := by
  unfold called
  dsimp only
  split <;> rfl

@[simp] theorem called_headersWritten :
    (state.called arguments).exchange.headersWritten = state.exchange.headersWritten := by
  unfold called
  dsimp only
  split <;> rfl

@[simp] theorem called_sseInterval : (state.called arguments).exchange.sseInterval = false := by
  unfold called
  dsimp only
  split <;> rfl

@[simp] theorem called_endings : (state.called arguments).endings = state.endings := rfl

@[simp] theorem called_calls : (state.called arguments).calls = state.calls ++ [.called] := rfl

/-- A run of `done` answers as its flags say. -/
theorem done_answered (options : HttpOptions) (throws : Bool) (arguments : DoneArguments)
    (before : HttpDone) :
    before.Answered arguments.onlyHeaders (before.done options throws arguments).2
      (before.done options throws arguments).1 := by
  unfold done
  simp only [called_closed, called_headersWritten]
  split
  · exact .refused called_headersWritten rfl (by simp [returns, call])
  · next unclosed =>
      rw [Bool.not_eq_true] at unclosed
      split
      · exact .ends unclosed called_headersWritten rfl (by simp [ends, call])
      · next unwritten =>
          rw [Bool.not_eq_true] at unwritten
          split
          · exact .refused called_headersWritten rfl (by simp [returns, call])
          · split
            · exact .ends unclosed rfl rfl (by simp [ends, call])
            · split
              · exact .heads unclosed unwritten rfl rfl (by simp [returns, call])
              · next whole =>
                  rw [Bool.not_eq_true] at whole
                  exact .answers whole unclosed unwritten rfl rfl (by simp [ends, call])

/-- A run of `done` ends the interval and leaves `closed` to what it calls. -/
theorem done_kept (options : HttpOptions) (throws : Bool) (arguments : DoneArguments)
    (before : HttpDone) :
    (before.done options throws arguments).2.exchange.closed = before.exchange.closed ∧
      (before.done options throws arguments).2.exchange.sseInterval = false := by
  unfold done
  dsimp only
  split
  · exact ⟨called_closed, called_sseInterval⟩
  · split
    · exact ⟨called_closed, called_sseInterval⟩
    · split
      · exact ⟨called_closed, called_sseInterval⟩
      · split
        · exact ⟨called_closed, called_sseInterval⟩
        · split <;> exact ⟨called_closed, called_sseInterval⟩

/-- The calls in progress and the flags account for what was called. -/
structure Accounted (state : HttpDone) : Prop where
  depth : state.endings.length ≤ 1
  whole : ∀ ending ∈ state.endings, ending.value = true → ending.onlyHeaders = false
  isOver : (∃ call ∈ state.calls, call.IsOver) → state.Over
  heads : state.calls.countP DoneCall.isWriteHead =
    if state.exchange.headersWritten then 1 else 0
  ends : state.calls.countP DoneCall.isResEnd ≤ 1
  endsOpen : ¬state.Over → state.calls.countP DoneCall.isResEnd = 0
  trues : state.calls.countP DoneCall.returnsTrue + state.endings.countP Ending.value ≤
    state.calls.countP DoneCall.isWriteHead
  headBefore : NeverAfter DoneCall.IsOver (fun call => call.isWriteHead = true) state.calls
  leftOpen : NeverAfter DoneCall.IsOver (fun call => call.leavesOpen = true) state.calls

/-- The call ends nothing, writes no head, and returns no true. -/
def Mild (call : DoneCall) : Prop :=
  ¬call.IsOver ∧ call.isWriteHead = false ∧ call.isResEnd = false ∧ call.returnsTrue = false ∧
    call.leavesOpen = false

/-- Mild calls are not counted. -/
theorem countP_mild {extra : List DoneCall} {counted : DoneCall → Bool}
    (mild : ∀ call ∈ extra, counted call = false) (calls : List DoneCall) :
    (calls ++ extra).countP counted = calls.countP counted := by
  have none : extra.countP counted = 0 :=
    List.countP_eq_zero.mpr fun call member => by simp [mild call member]
  rw [List.countP_append, none, Nat.add_zero]

/-- Mild calls may be added. -/
theorem accounted_mild {extra : List DoneCall} (accounted : before.Accounted)
    (mild : ∀ call ∈ extra, Mild call)
    (closed : after.exchange.closed = before.exchange.closed)
    (written : after.exchange.headersWritten = before.exchange.headersWritten)
    (endings : after.endings = before.endings) (calls : after.calls = before.calls ++ extra) :
    after.Accounted := by
  have spent : after.Over ↔ before.Over := by simp only [Over, closed, endings]
  have ends := countP_mild (fun call member => (mild call member).2.2.1) before.calls
  constructor
  · rw [endings]
    exact accounted.depth
  · rw [endings]
    exact accounted.whole
  · rintro ⟨call, member, isOver⟩
    rw [calls, List.mem_append] at member
    obtain old | new := member
    · exact spent.mpr (accounted.isOver ⟨call, old, isOver⟩)
    · exact absurd isOver (mild call new).1
  · rw [calls, countP_mild fun call member => (mild call member).2.1, written]
    exact accounted.heads
  · rw [calls, ends]
    exact accounted.ends
  · rw [calls, ends, spent]
    exact accounted.endsOpen
  · rw [calls, countP_mild fun call member => (mild call member).2.2.2.1,
      countP_mild fun call member => (mild call member).2.1, endings]
    exact accounted.trues
  · rw [calls]
    refine neverAfter_append.mpr ⟨accounted.headBefore, ?_, fun _ call member => ?_⟩
    · exact neverAfter_of_absent fun call member => by simp [(mild call member).2.1]
    · simp [(mild call member).2.1]
  · rw [calls]
    refine neverAfter_append.mpr ⟨accounted.leftOpen, ?_, fun _ call member => ?_⟩
    · exact neverAfter_of_absent fun call member => by simp [(mild call member).2.2.2.2]
    · simp [(mild call member).2.2.2.2]

/-- A call of `done` comes from inside `res.end` only after the response was closed. -/
theorem accounted_done (accounted : before.Accounted)
    (idle : before.endings = [] ∨ before.exchange.closed = true) :
    (before.done options throws arguments).2.Accounted := by
  obtain ⟨closed, -⟩ := done_kept options throws arguments before
  generalize made : before.done options throws arguments = result at closed
  have answered := done_answered options throws arguments before
  rw [made] at answered
  obtain ⟨value, after⟩ := result
  dsimp only at closed answered ⊢
  have fresh (unclosed : before.exchange.closed = false) :
      before.endings = [] ∧ (∀ call ∈ before.calls, ¬call.IsOver) ∧
        before.calls.countP DoneCall.isResEnd = 0 := by
    have idle := idle.resolve_right (by simp [unclosed])
    have notOver : ¬before.Over := by simp [Over, unclosed, idle]
    exact ⟨idle, fun call member isOver => notOver (accounted.isOver ⟨call, member, isOver⟩),
      accounted.endsOpen notOver⟩
  cases answered with
  | refused written endings calls =>
      exact accounted_mild accounted (by simp [Mild, DoneCall.IsOver, DoneCall.isWriteHead,
        DoneCall.isResEnd, DoneCall.returnsTrue, DoneCall.leavesOpen]) closed written endings calls
  | ends unclosed written endings calls =>
      obtain ⟨idle, clean, none⟩ := fresh unclosed
      have spent : after.Over := Or.inr (by simp [endings])
      refine ⟨by simp [endings, idle], by simp [endings, idle], fun _ => spent, ?_, ?_,
        fun notOver => absurd spent notOver, ?_, ?_, ?_⟩
      · rw [calls, List.countP_append, accounted.heads, written]
        rfl
      · rw [calls, List.countP_append, none]
        rfl
      · have trues := accounted.trues
        rw [idle] at trues
        rw [calls, List.countP_append, List.countP_append, endings, idle]
        exact trues
      · rw [calls]
        refine neverAfter_append.mpr ⟨accounted.headBefore, ?_, ?_⟩
        · simp [NeverAfter, DoneCall.isWriteHead]
        · simp [DoneCall.isWriteHead]
      · rw [calls]
        refine neverAfter_append.mpr ⟨accounted.leftOpen, ?_, ?_⟩
        · simp [NeverAfter, DoneCall.leavesOpen]
        · simp [DoneCall.leavesOpen]
  | heads unclosed unwritten written endings calls =>
      obtain ⟨idle, clean, none⟩ := fresh unclosed
      have noHead : before.calls.countP DoneCall.isWriteHead = 0 := by
        rw [accounted.heads, unwritten]
        rfl
      have unmarked : ∀ call ∈ after.calls, ¬call.IsOver := by
        intro call member
        rw [calls, List.mem_append] at member
        obtain old | new := member
        · exact clean call old
        · simp only [List.mem_cons, List.not_mem_nil, or_false] at new
          obtain rfl | rfl | rfl := new <;> exact id
      have noEnd : after.calls.countP DoneCall.isResEnd = 0 := by
        rw [calls, List.countP_append, none]
        rfl
      constructor
      · simp [endings, idle]
      · simp [endings, idle]
      · rintro ⟨call, member, isOver⟩
        exact absurd isOver (unmarked call member)
      · rw [calls, List.countP_append, noHead, written]
        rfl
      · rw [noEnd]
        exact Nat.zero_le 1
      · exact fun _ => noEnd
      · have trues := accounted.trues
        rw [calls, List.countP_append, List.countP_append, endings]
        exact Nat.add_right_comm _ _ _ ▸ Nat.add_le_add_right trues 1
      · exact neverAfter_of_unmarked unmarked
      · exact neverAfter_of_unmarked unmarked
  | answers whole unclosed unwritten written endings calls =>
      obtain ⟨idle, clean, none⟩ := fresh unclosed
      have spent : after.Over := Or.inr (by simp [endings])
      have noHead : before.calls.countP DoneCall.isWriteHead = 0 := by
        rw [accounted.heads, unwritten]
        rfl
      have trues : before.calls.countP DoneCall.returnsTrue = 0 := by
        have trues := accounted.trues
        omega
      refine ⟨by simp [endings, idle], by simp [endings, idle, whole], fun _ => spent, ?_, ?_,
        fun notOver => absurd spent notOver, ?_, ?_, ?_⟩
      · rw [calls, List.countP_append, noHead, written]
        rfl
      · rw [calls, List.countP_append, none]
        rfl
      · rw [calls, List.countP_append, List.countP_append, endings, idle, noHead, trues]
        exact Nat.le_refl 1
      · rw [calls]
        refine neverAfter_append.mpr ⟨accounted.headBefore, ?_, ?_⟩
        · simp [NeverAfter, DoneCall.isWriteHead, DoneCall.IsOver]
        · rintro ⟨call, member, isOver⟩
          exact absurd isOver (clean call member)
      · rw [calls]
        refine neverAfter_append.mpr ⟨accounted.leftOpen, ?_, ?_⟩
        · simp [NeverAfter, DoneCall.leavesOpen]
        · simp [DoneCall.leavesOpen]

/-- A response that becomes closed makes one more call, which writes no head and ends nothing. -/
theorem accounted_closing {made : DoneCall} (accounted : before.Accounted)
    (closed : after.exchange.closed = true)
    (written : after.exchange.headersWritten = before.exchange.headersWritten)
    (endings : ∃ front, before.endings = front ++ after.endings ∧
      front.countP Ending.value = [made].countP DoneCall.returnsTrue)
    (calls : after.calls = before.calls ++ [made])
    (headless : made.isWriteHead = false) (endless : made.isResEnd = false)
    (shut : made.leavesOpen = false) : after.Accounted := by
  obtain ⟨front, split, trues⟩ := endings
  have spent : after.Over := Or.inl closed
  have heads :
      after.calls.countP DoneCall.isWriteHead = before.calls.countP DoneCall.isWriteHead := by
    rw [calls, countP_mild (by simpa using headless)]
  constructor
  · have depth := accounted.depth
    rw [split, List.length_append] at depth
    omega
  · exact fun ending member => accounted.whole ending (split ▸ List.mem_append_right _ member)
  · exact fun _ => spent
  · rw [heads, accounted.heads, written]
  · rw [calls, countP_mild (by simpa using endless)]
    exact accounted.ends
  · exact fun notOver => absurd spent notOver
  · have counted := accounted.trues
    rw [split, List.countP_append, trues] at counted
    rw [heads, calls, List.countP_append]
    omega
  · rw [calls]
    exact neverAfter_append.mpr ⟨accounted.headBefore, List.pairwise_singleton _ _,
      fun _ => by simp [headless]⟩
  · rw [calls]
    exact neverAfter_append.mpr ⟨accounted.leftOpen, List.pairwise_singleton _ _,
      fun _ => by simp [shut]⟩

/-- An event of the response closes it before the listener `done` runs. -/
theorem accounted_emit {event : DoneCall} (accounted : before.Accounted)
    (closes : event = .prefinish ∨ event = .close) : (before.emit options event).Accounted := by
  have closed : ({ before with exchange.closed := true }.call event).Accounted := by
    obtain rfl | rfl := closes
    · exact accounted_closing accounted rfl rfl ⟨[], rfl, rfl⟩ rfl rfl rfl rfl
    · exact accounted_closing accounted rfl rfl ⟨[], rfl, rfl⟩ rfl rfl rfl rfl
  unfold emit
  dsimp only
  split
  · exact accounted_done closed (Or.inr rfl)
  · exact closed

/-- An ended response keeps the calls accounted for. -/
theorem accounted_ended (accounted : before.Accounted)
    (stepped : before.ended options = some after) : after.Accounted := by
  unfold ended at stepped
  split at stepped
  · cases stepped
  · next ending endings shape =>
      obtain rfl := Option.some.inj stepped
      refine accounted_closing accounted rfl rfl ⟨[ending], shape, ?_⟩ rfl rfl rfl ?_
      · cases value : ending.value <;> simp [DoneCall.returnsTrue, value]
      · cases value : ending.value with
        | false => simp [DoneCall.leavesOpen]
        | true =>
            have whole := accounted.whole ending (by simp [shape]) value
            simp [DoneCall.leavesOpen, whole]

theorem mild_setInterval : Mild .setInterval := ⟨id, rfl, rfl, rfl, rfl⟩

/-- The start of a stream keeps the calls accounted for. -/
theorem accounted_stream (accounted : before.Accounted) : (before.stream options).Accounted := by
  unfold stream
  dsimp only
  split
  · exact @accounted_mild _ _ [.setInterval] accounted (by simp [mild_setInterval]) rfl rfl rfl rfl
  · exact @accounted_mild _ _ [] accounted (by simp) rfl rfl rfl (List.append_nil _).symm

/-- The last subscription keeps the calls accounted for. -/
theorem accounted_subscribed (accounted : before.Accounted) (idle : before.endings = []) :
    (before.subscribed options throws).Accounted := by
  unfold subscribed
  dsimp only
  split
  · exact accounted_stream (accounted_done accounted (Or.inl idle))
  · exact accounted_done accounted (Or.inl idle)

/-- A step keeps the calls accounted for. -/
theorem accounted_step {event : Event} (accounted : before.Accounted)
    (stepped : before.step options event = some after) : after.Accounted := by
  cases event with
  | authorized =>
      simp only [step, Option.ite_none_right_eq_some] at stepped
      obtain ⟨-, stepped⟩ := stepped
      obtain rfl := Option.some.inj stepped
      exact @accounted_mild _ _ [] accounted (by simp) rfl rfl rfl (List.append_nil _).symm
  | done arguments throws =>
      simp only [step, Option.ite_none_right_eq_some, List.isEmpty_iff] at stepped
      obtain ⟨idle, stepped⟩ := stepped
      obtain rfl := Option.some.inj stepped
      exact accounted_done accounted (Or.inl idle)
  | subscribed throws =>
      simp only [step, Option.ite_none_right_eq_some, List.isEmpty_iff] at stepped
      obtain ⟨idle, stepped⟩ := stepped
      obtain rfl := Option.some.inj stepped
      exact accounted_subscribed accounted idle
  | write write =>
      simp only [step, Option.ite_none_right_eq_some] at stepped
      obtain ⟨-, stepped⟩ := stepped
      obtain rfl := Option.some.inj stepped
      exact @accounted_mild _ _ [] accounted (by simp) rfl rfl rfl (List.append_nil _).symm
  | ended => exact accounted_ended accounted stepped
  | prefinish =>
      obtain rfl := Option.some.inj stepped
      exact accounted_emit accounted (Or.inl rfl)
  | close =>
      obtain rfl := Option.some.inj stepped
      refine accounted_emit ?_ (Or.inr rfl)
      exact @accounted_mild _ _ [] accounted (by simp) rfl rfl rfl (List.append_nil _).symm

theorem accounted_initial : (system options).initial.Accounted where
  depth := Nat.zero_le 1
  whole _ member := by cases member
  isOver := by rintro ⟨_, member, _⟩; cases member
  heads := rfl
  ends := Nat.zero_le 1
  endsOpen _ := rfl
  trues := Nat.le_refl 0
  headBefore := neverAfter_nil
  leftOpen := neverAfter_nil

/-- The stream begins and ends, and its listener runs inside `res.end`. -/
def sampleStream : List Event :=
  [.authorized, .subscribed false, .done { code := some 503 } false, .prefinish, .ended, .close,
    .done {} true]

/-- The call of `res.end` returns if there is one. -/
def settle (options : HttpOptions) (state : HttpDone) : HttpDone :=
  (state.ended options).getD state

/-- A run that has nothing to end settles at once. -/
theorem settle_returns {value : Bool} (idle : state.endings = []) :
    ((state.returns arguments value).2.settle options).exchange = state.exchange := by
  simp [settle, ended, returns, call, idle]

/-- A call of `res.end` that raises no event is the function `end_response`. -/
theorem settle_ends (data : JsString) (value : Bool) :
    ((state.ends arguments data value).2.settle options).exchange =
      state.exchange.endResponse options arguments.status data := rfl

/-- These are the branches of a response that is not closed. -/
theorem respond_eq (exchange : HttpExchange) :
    exchange.respond options throws arguments =
      if exchange.headersWritten then (false, exchange.endResponse options arguments.status [])
      else
        let data := arguments.data.getD (text "server error")
        match exchange.response.setHeaders
            (HttpExchange.errorHeaders options arguments.status data) with
        | none => (false, exchange)
        | some response =>
            match response.writeHead throws arguments.status arguments.headers with
            | none =>
                (false, { exchange with response }.endResponse options arguments.status data)
            | some response =>
                let exchange := { exchange with response, headersWritten := true }
                (true, if arguments.onlyHeaders then exchange
                  else exchange.endResponse options arguments.status data) := rfl

/-- Without events from inside `res.end` this is the function `done` of the exchange. -/
theorem settle_done (idle : state.endings = []) :
    ((state.done options throws arguments).2.settle options).exchange =
      (state.exchange.done options throws arguments).2 := by
  have entered : state.exchange.done options throws arguments =
      if (state.called arguments).exchange.closed then (false, (state.called arguments).exchange)
      else (state.called arguments).exchange.respond options throws arguments := rfl
  rw [entered, respond_eq, done]
  dsimp only
  split
  · exact settle_returns idle
  · split
    · rfl
    · cases (state.called arguments).exchange.response.setHeaders
          (HttpExchange.errorHeaders options arguments.status
            (arguments.data.getD (text "server error"))) with
      | none => exact settle_returns idle
      | some response =>
          dsimp only
          cases response.writeHead throws arguments.status arguments.headers with
          | none => rfl
          | some response =>
              dsimp only
              split
              · exact settle_returns idle
              · rfl

end HttpDone
end Centro
