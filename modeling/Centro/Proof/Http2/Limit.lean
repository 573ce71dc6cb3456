import Centro.Proof.Http2.Slots

namespace Centro

open Library

namespace Http2Streams

variable {transport : Http2Transport} {pathname : JsString} {maxConnections number : Nat}
  {before after state : Http2Streams} {event : Event} {calls : List Http2Call}

/-- The steps are made of these. -/
inductive Move : Http2Streams → Http2Streams → Prop where
  | stay (state : Http2Streams) : Move state state
  | add (state : Http2Streams) (stream : Http2Stream) : stream.kind ≠ .admitted →
      Move state (state.add stream)
  | replace (state : Http2Streams) {number} {stream next : Http2Stream} :
      state.streams[number]? = some stream →
      (next.kind = stream.kind ∨
        stream.kind ≠ .admitted ∧ stream.kind ≠ .duplex ∧ next.kind ≠ .admitted) →
      (stream.closed = true → next.closed = true) → Move state (state.replace number next)
  | respond (state : Http2Streams) {stream status : Nat} :
      (status = 503 → state.kindAt stream = some .admitted) →
      Move state (state.call (.respond stream status))
  | newStream (state : Http2Streams) {number} {stream : Http2Stream} :
      state.streams[number]? = some stream → stream.kind ≠ .admitted → stream.kind ≠ .duplex →
      Move state (state.newStream number stream.closed)
  | onClose (state : Http2Streams) {number callback} (closed : Bool) : callback ≠ .slot →
      (state.kindAt number = some .admitted ∨ state.kindAt number = some .duplex) →
      Move state (state.onClose number closed callback)
  | emit (state : Http2Streams) {number} {stream : Http2Stream} (aborted : Bool) :
      state.streams[number]? = some stream → Move state (state.emit number stream.kind aborted)
  | resume (state : Http2Streams) {resumed} : state.listeners.resume = some resumed →
      Move state (state.notify resumed)

/-- A move alone is followed by none. -/
theorem Move.alone (move : Move before after) : ∃ middle, Move before middle ∧ Move middle after :=
  ⟨after, move, .stay after⟩

theorem add_found (stream : Http2Stream) :
    (state.add stream).streams[state.streams.length]? = some stream := by
  simp [add]

/-- A step changes the limit, or it makes at most two moves. -/
theorem moves_of_step (stepped : before.step transport pathname event = some after) :
    (∃ maxConnections, event = .limit maxConnections ∧ after = { before with maxConnections }) ∨
      ∃ middle, Move before middle ∧ Move middle after := by
  cases event with
  | limit maxConnections => exact Or.inl ⟨maxConnections, rfl, (Option.some.inj stepped).symm⟩
  | stream cors path method closed =>
      cases transport with
      | http2Duplex => cases stepped
      | http2 =>
          obtain rfl := Option.some.inj stepped
          refine Or.inr ⟨before.add { kind := .answered, closed }, .add _ _ nofun, ?_⟩
          unfold onStream
          dsimp only
          split
          · exact .stay _
          split
          · exact .respond _ nofun
          split
          · exact .respond _ nofun
          · exact .newStream _ (add_found _) nofun nofun
  | processStream cors closed =>
      cases transport with
      | http2 => cases stepped
      | http2Duplex =>
          obtain rfl := Option.some.inj stepped
          refine Or.inr (Move.alone ?_)
          unfold processStream
          split <;> exact .add _ _ nofun
  | processed number result =>
      cases found : before.streams[number]? with
      | none => simp [step, found] at stepped
      | some stream =>
          obtain ⟨kind, closed⟩ := stream
          simp only [step, found] at stepped
          cases kind with
          | processing =>
              obtain rfl := Option.some.inj stepped
              have answered : Move before (before.replace number { kind := .answered, closed }) :=
                .replace _ found (Or.inr ⟨nofun, nofun, nofun⟩) id
              cases result with
              | unhandled =>
                  exact Or.inr ⟨_, answered, .respond _ fun same => absurd same (by decide)⟩
              | handled => exact Or.inr (Move.alone answered)
              | newStream => exact Or.inr (Move.alone (.newStream _ found nofun nofun))
          | answered | admitted | duplex => cases stepped
  | duplex closed =>
      cases transport with
      | http2 => cases stepped
      | http2Duplex =>
          obtain rfl := Option.some.inj stepped
          exact Or.inr (Move.alone (.add _ _ nofun))
  | cancelled number =>
      cases found : before.streams[number]? with
      | none => simp [step, found] at stepped
      | some stream =>
          obtain ⟨kind, closed⟩ := stream
          simp only [step, found] at stepped
          cases kind with
          | admitted =>
              obtain rfl := Option.some.inj stepped
              exact Or.inr (Move.alone (.respond _ fun _ => kindAt_of_found found))
          | processing | answered | duplex => cases stepped
  | authorized number error =>
      cases found : before.streams[number]? with
      | none => simp [step, found] at stepped
      | some stream =>
          obtain ⟨kind, closed⟩ := stream
          simp only [step, found] at stepped
          cases kind with
          | admitted =>
              have respond (status : Nat) : Move before (before.call (.respond number status)) :=
                .respond _ fun _ => kindAt_of_found found
              cases error with
              | some status =>
                  obtain rfl := Option.some.inj stepped
                  exact Or.inr (Move.alone (respond status))
              | none =>
                  cases transport with
                  | http2 =>
                      obtain rfl := Option.some.inj stepped
                      exact Or.inr (Move.alone (respond 200))
                  | http2Duplex =>
                      obtain rfl := Option.some.inj stepped
                      exact Or.inr (Move.stay _).alone
          | processing | answered | duplex => cases stepped
  | onclose number connection =>
      cases found : before.streams[number]? with
      | none => simp [step, found] at stepped
      | some stream =>
          obtain ⟨kind, closed⟩ := stream
          simp only [step, found] at stepped
          have here := kindAt_of_found found
          cases kind with
          | admitted =>
              cases connection with
              | false =>
                  obtain rfl := Option.some.inj stepped
                  exact Or.inr (Move.alone (.onClose _ closed nofun (Or.inl here)))
              | true =>
                  cases transport with
                  | http2Duplex => cases stepped
                  | http2 =>
                      obtain rfl := Option.some.inj stepped
                      exact Or.inr (Move.alone (.onClose _ closed nofun (Or.inl here)))
          | duplex =>
              cases connection with
              | false => cases stepped
              | true =>
                  obtain rfl := Option.some.inj stepped
                  exact Or.inr (Move.alone (.onClose _ closed nofun (Or.inr here)))
          | processing | answered => cases stepped
  | closed number =>
      obtain ⟨stream, found, rfl⟩ := Option.map_eq_some_iff.mp stepped
      exact Or.inr (Move.alone (.replace _ found (Or.inl rfl) fun _ => rfl))
  | emitted number aborted =>
      obtain ⟨stream, found, rfl⟩ := Option.map_eq_some_iff.mp stepped
      exact Or.inr (Move.alone (.emit _ aborted found))
  | returned =>
      obtain ⟨resumed, resumes, rfl⟩ := Option.map_eq_some_iff.mp stepped
      exact Or.inr (Move.alone (.resume _ resumes))

/-- A move keeps the streams tracked. -/
theorem Move.tracked (move : Move before after) (tracked : before.Tracked) : after.Tracked := by
  cases move with
  | stay => exact tracked
  | add stream fresh => exact tracked_add tracked fresh
  | replace found kind closed => exact tracked_replace tracked found kind closed
  | respond _ => exact tracked_respond tracked _ _
  | newStream found notAdmitted notDuplex =>
      exact tracked_newStream tracked found notAdmitted notDuplex
  | onClose closed slotless target => exact tracked_onClose tracked slotless target closed
  | emit aborted found => exact tracked_emit tracked found aborted
  | resume resumes => exact tracked_resume tracked resumes

/-- A step keeps the streams tracked. -/
theorem tracked_step (tracked : before.Tracked)
    (stepped : before.step transport pathname event = some after) : after.Tracked := by
  rcases moves_of_step stepped with ⟨maxConnections, -, rfl⟩ | ⟨middle, first, second⟩
  · obtain ⟨known, numbered, slotted⟩ := tracked
    exact ⟨⟨known.once, known.admissions, known.closed, known.targets⟩,
      ⟨numbered.nodup, numbered.fresh⟩,
      ⟨slotted.counted, slotted.slots, slotted.free, slotted.emissions⟩⟩
  · exact second.tracked (first.tracked tracked)

/-- A call that is no decision about a new stream is an answer to an admitted one, an event or a
callback. -/
def Settled (calls : List Http2Call) : Http2Call → Prop
  | .respond stream status => status = 503 → ∃ closed, .admitted stream closed ∈ calls
  | .admitted _ _ => False
  | _ => True

/-- Calls that decide nothing leave what was decided justified. -/
theorem justified_settled {extra : List Http2Call}
    (decided : Justified (Decided maxConnections) calls)
    (settled : ∀ item ∈ extra, Settled calls item) :
    Justified (Decided maxConnections) (calls ++ extra) := by
  refine decided.append (justified_of_forall fun item member before => ?_)
  have here := settled item member
  cases item with
  | respond stream status =>
      refine fun refused => Or.inl ?_
      obtain ⟨closed, admitted⟩ := here refused
      exact ⟨closed, List.mem_append_left _ admitted⟩
  | admitted => exact here.elim
  | emitted | callback => exact trivial

/-- The counter does not grow, and no new stream is decided about. -/
structure Quiet (before after : Http2Streams) : Prop where
  limit : after.maxConnections = before.maxConnections
  fewer : after.numStreams ≤ before.numStreams
  settled : ∃ extra, after.calls = before.calls ++ extra ∧
    ∀ item ∈ extra, Settled before.calls item

theorem settled_callbacks (called : Option CloseListener) :
    ∀ item ∈ called.toList.map Http2Call.callback, Settled calls item := by
  intro item member
  obtain ⟨listener, -, rfl⟩ := List.mem_map.mp member
  exact trivial

theorem calls_notify (called : Option CloseListener × Emitter CloseListener) :
    (state.notify called).calls = state.calls ++ called.1.toList.map Http2Call.callback := by
  obtain ⟨_ | listener, emitter⟩ := called
  · exact (List.append_nil _).symm
  · rfl

theorem quiet_notify (called : Option CloseListener × Emitter CloseListener) :
    Quiet state (state.notify called) := by
  refine ⟨?_, ?_, _, calls_notify called, settled_callbacks called.1⟩
  · obtain ⟨_ | listener, emitter⟩ := called <;> rfl
  · obtain ⟨_ | listener, emitter⟩ := called
    · exact Int.le_refl _
    · change ite _ _ _ ≤ _
      split
      · exact Int.sub_le_self _ (by decide)
      · exact Int.le_refl _

/-- A close listener is added without a decision. -/
theorem quiet_onClose (number : Nat) (closed : Bool) (callback : CloseCallback) :
    Quiet state (state.onClose number closed callback) := by
  cases closed with
  | false => exact ⟨rfl, Int.le_refl _, [], (List.append_nil _).symm, nofun⟩
  | true =>
      obtain ⟨limit, fewer, settled⟩ := @quiet_notify
        { state with registered := state.registered + 1 }
        (some { number := state.registered, stream := number, callback }, state.listeners.enter)
      exact ⟨limit, fewer, settled⟩

/-- The close of a stream decides nothing. -/
theorem quiet_emit (number : Nat) (kind : Http2Kind) (aborted : Bool) :
    Quiet state (state.emit number kind aborted) := by
  unfold emit
  generalize state.listeners = emitter
  obtain ⟨limit, fewer, -⟩ := @quiet_notify
    ((state.replace number { kind, closed := true }).call (.emitted number aborted))
    (state.listeners.advance (state.waitingFor number))
  refine ⟨limit, fewer, _, (calls_notify _).trans (List.append_assoc ..), ?_⟩
  intro item member
  rcases List.mem_append.mp member with here | later
  · obtain rfl := List.mem_singleton.mp here
    exact trivial
  · exact settled_callbacks _ item later

/-- Only a new stream is decided about. -/
theorem quiet_or_newStream (tracked : before.Tracked) (move : Move before after) :
    Quiet before after ∨ ∃ number closed, after = before.newStream number closed := by
  have same {state : Http2Streams} (limit : state.maxConnections = before.maxConnections)
      (count : state.numStreams = before.numStreams) (calls : state.calls = before.calls) :
      Quiet before state :=
    ⟨limit, Int.le_of_eq count, [], calls.trans (List.append_nil _).symm, nofun⟩
  cases move with
  | stay => exact Or.inl (same rfl rfl rfl)
  | add => exact Or.inl (same rfl rfl rfl)
  | replace => exact Or.inl (same rfl rfl rfl)
  | respond admitted =>
      refine Or.inl ⟨rfl, Int.le_refl _, _, rfl, fun item member => ?_⟩
      obtain rfl := List.mem_singleton.mp member
      exact fun refused => (tracked.known.admissions _).mpr (admitted refused)
  | newStream => exact Or.inr ⟨_, _, rfl⟩
  | onClose closed => exact Or.inl (quiet_onClose _ closed _)
  | emit aborted => exact Or.inl (quiet_emit _ _ aborted)
  | resume => exact Or.inl (quiet_notify _)

/-- The limit stays, and the counter keeps to it. -/
structure Bounded (maxConnections : Nat) (state : Http2Streams) : Prop where
  tracked : state.Tracked
  limit : state.maxConnections = maxConnections
  upper : state.numStreams ≤ maxConnections
  decided : Justified (Decided maxConnections) state.calls

/-- No move exceeds the limit. -/
theorem bounded_move (limited : maxConnections ≠ 0) (bounded : before.Bounded maxConnections)
    (move : Move before after) : after.Bounded maxConnections := by
  have tracked := move.tracked bounded.tracked
  have counted := bounded.tracked.slotted.counted
  rcases quiet_or_newStream bounded.tracked move with quiet | ⟨number, closed, rfl⟩
  · obtain ⟨limit, fewer, extra, grown, settled⟩ := quiet
    refine ⟨tracked, limit.trans bounded.limit, Int.le_trans fewer bounded.upper, ?_⟩
    exact grown ▸ justified_settled bounded.decided settled
  · have upper := bounded.upper
    have limit := bounded.limit
    by_cases full : before.maxConnections ≠ 0 ∧ before.numStreams ≥ before.maxConnections
    · have refused : before.newStream number closed =
          (before.replace number { kind := .answered, closed }).call (.respond number 503) :=
        if_pos full
      rw [refused] at tracked ⊢
      refine ⟨tracked, limit, upper, bounded.decided.concat fun _ => Or.inr ?_⟩
      omega
    · have admitted : before.newStream number closed =
          ({ before.replace number { kind := .admitted, closed } with
            numStreams := before.numStreams + 1 }.call (.admitted number closed)).onClose
              number closed .slot := if_neg full
      rw [admitted] at tracked ⊢
      obtain ⟨sameLimit, fewer, extra, grown, settled⟩ := @quiet_onClose
        ({ before.replace number { kind := .admitted, closed } with
          numStreams := before.numStreams + 1 }.call (.admitted number closed)) number closed .slot
      refine ⟨tracked, sameLimit.trans limit, Int.le_trans fewer ?_, ?_⟩
      · change before.numStreams + 1 ≤ _
        omega
      · refine grown ▸ justified_settled (bounded.decided.concat ?_) settled
        change active before.calls < maxConnections
        omega

/-- The next stream is refused when the counter is at the limit. -/
theorem Bounded.capped (limited : maxConnections ≠ 0) (bounded : state.Bounded maxConnections) :
    state.Capped maxConnections := by
  refine ⟨bounded.upper, bounded.decided, fun number closed => ?_⟩
  have upper := bounded.upper
  have limit := bounded.limit
  unfold newStream
  split
  · exact iff_of_true rfl (by omega)
  · next room =>
      refine iff_of_false (fun same => ?_) (by omega)
      obtain ⟨-, -, extra, grown, -⟩ := @quiet_onClose
        ({ state.replace number { kind := .admitted, closed } with
          numStreams := state.numStreams + 1 }.call (.admitted number closed)) number closed .slot
      have shape := List.append_cancel_left
        ((same.symm.trans grown).trans (List.append_assoc ..))
      cases List.cons.inj shape |>.1

/-- At first there are no streams. -/
theorem tracked_initial (maxConnections : Nat) : Tracked { maxConnections } :=
  { known := ⟨List.nodup_nil, fun _ => iff_of_false nofun nofun, nofun, nofun⟩
    numbered := ⟨List.nodup_nil, nofun⟩
    slotted :=
      ⟨rfl, fun _ holds => (nomatch holds.1), fun _ _ _ member => (nomatch member), nofun⟩ }

/-- The transports keep count of their streams in every interleaving, and they keep to a limit that
does not change. -/
theorem streams_capped {events : List Event}
    (ran : (system transport pathname maxConnections).run { maxConnections } events =
      some state) :
    state.Exact ∧ (maxConnections ≠ 0 → (∀ other, .limit other ∈ events → other = maxConnections) →
      state.Capped maxConnections) := by
  have start := tracked_initial maxConnections
  constructor
  · have tracked := @TransitionSystem.run_invariant _ _ (system transport pathname maxConnections)
      Tracked (fun _ _ _ tracked stepped => tracked_step tracked stepped) _ _ _ start ran
    exact tracked.exact
  · intro limited constant
    have allowed := @TransitionSystem.allSteps_of_forall _ _
      (system transport pathname maxConnections)
      (fun _ event => ∀ other, event = .limit other → other = maxConnections) events
      (fun _ member _ other same => constant other (same ▸ member)) { maxConnections }
    have reached := TransitionSystem.ReachableUnder.run .initial allowed ran
    have start : (system transport pathname maxConnections).initial.Bounded maxConnections :=
      ⟨start, rfl, Int.natCast_nonneg _, justified_nil⟩
    have bounded : state.Bounded maxConnections := by
      refine reached.invariant start fun before event after bounded allowed stepped => ?_
      change before.step transport pathname event = some after at stepped
      rcases moves_of_step stepped with ⟨other, rfl, rfl⟩ | ⟨middle, first, second⟩
      · exact ⟨tracked_step bounded.tracked stepped, allowed other rfl, bounded.upper,
          bounded.decided⟩
      · exact bounded_move limited (bounded_move limited bounded first) second
    exact bounded.capped limited

/-- Two streams take the slots of a limit of two, and one of them emits both events. A third stream
is refused before that, and a fourth is closed already. -/
def sampleStreams : List Event :=
  let stream (closed : Bool) : Event := .stream false (text "/") (text "POST") closed
  [stream false, stream false, stream false, .onclose 0 true, .emitted 0 true, .emitted 0 false,
    .returned, stream true, .returned, .returned, .authorized 1 none]

theorem streams_capped_sample : ∃ state,
    (system .http2 (text "/") 2).run { maxConnections := 2 } sampleStreams = some state ∧
    state.numStreams = 1 ∧ .respond 2 503 ∈ state.calls ∧ state.Exact ∧ state.Capped 2 := by
  obtain ⟨state, ran, count, refused⟩ : ∃ state,
      (system .http2 (text "/") 2).run { maxConnections := 2 } sampleStreams = some state ∧
      state.numStreams = 1 ∧ .respond 2 503 ∈ state.calls := ⟨_, rfl, rfl, by decide⟩
  obtain ⟨exact, capped⟩ := streams_capped ran
  exact ⟨state, ran, count, refused, exact, capped (by decide) (by simp [sampleStreams])⟩

end Http2Streams
end Centro
