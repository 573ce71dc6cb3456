import Centro.Construction.Http2
import Centro.Library.Trace

namespace Centro

open Library

namespace Http2Call

/-- A stream takes a slot when it is admitted before it is closed. -/
def started : Http2Call → Option Nat
  | admitted stream false => some stream
  | _ => none

/-- The stream emits one of the events. -/
def ended (stream : Nat) : Http2Call → Bool
  | emitted other _ => other == stream
  | _ => false

/-- This call of `on_close` has its callback called. -/
def called : Http2Call → Option Nat
  | callback listener => some listener.number
  | _ => none

theorem mem_started {calls : List Http2Call} {stream : Nat} :
    stream ∈ calls.filterMap started ↔ .admitted stream false ∈ calls := by
  rw [List.mem_filterMap]
  constructor
  · rintro ⟨call, member, is⟩
    unfold started at is
    split at is
    · rwa [← Option.some.inj is]
    · cases is
  · exact fun member => ⟨_, member, rfl⟩

theorem any_ended {calls : List Http2Call} {stream : Nat} :
    calls.any (ended stream) = true ↔ ∃ aborted, .emitted stream aborted ∈ calls := by
  rw [List.any_eq_true]
  constructor
  · rintro ⟨call, member, is⟩
    unfold ended at is
    split at is
    · next other aborted => exact ⟨aborted, eq_of_beq is ▸ member⟩
    · cases is
  · rintro ⟨aborted, member⟩
    exact ⟨_, member, beq_self_eq_true stream⟩

end Http2Call

namespace Http2Streams

variable {transport : Http2Transport} {pathname : JsString} {maxConnections number : Nat}
  {before after state : Http2Streams} {event : Event} {calls : List Http2Call}

/-- These streams were admitted, were not closed then, and emitted neither `aborted` nor `close`. -/
def active (calls : List Http2Call) : Nat :=
  outstanding Http2Call.started Http2Call.ended calls

/-- A stream that was not admitted is refused when the active streams reach the limit. -/
def Decided (maxConnections : Nat) (calls : List Http2Call) : Http2Call → Prop
  | .respond stream status =>
      status = 503 → (∃ closed, .admitted stream closed ∈ calls) ∨ active calls = maxConnections
  | .admitted _ _ => active calls < maxConnections
  | _ => True

/-- The counter is the number of active streams, and each call of `on_close` has its callback
called at most once. -/
structure Exact (state : Http2Streams) : Prop where
  counted : state.numStreams = active state.calls
  lower : 0 ≤ state.numStreams
  once : (state.calls.filterMap Http2Call.called).Nodup

/-- The counter keeps to the limit. Streams were refused exactly at the limit, and the next one is
refused if the counter is at the limit. -/
structure Capped (maxConnections : Nat) (state : Http2Streams) : Prop where
  upper : state.numStreams ≤ maxConnections
  decided : Justified (Decided maxConnections) state.calls
  refused : ∀ number closed, (state.newStream number closed).calls =
    state.calls ++ [.respond number 503] ↔ state.numStreams = maxConnections

/-- The stream holds a slot. -/
def Holds (number : Nat) (calls : List Http2Call) : Prop :=
  number ∈ calls.filterMap Http2Call.started ∧ calls.any (Http2Call.ended number) = false

def kindAt (state : Http2Streams) (number : Nat) : Option Http2Kind :=
  state.streams[number]?.map Http2Stream.kind

def closedAt (state : Http2Streams) (number : Nat) : Option Bool :=
  state.streams[number]?.map Http2Stream.closed

def waitingFor (state : Http2Streams) (number : Nat) : List CloseListener :=
  state.listeners.waiting.filter (·.stream = number)

def WithoutSlot (listeners : List CloseListener) : Prop :=
  ∀ listener ∈ listeners, listener.callback ≠ .slot

/-- The log knows the streams that were admitted. Those that emitted an event are closed, and the
listeners are for streams that were admitted or for duplexes. -/
structure Known (state : Http2Streams) : Prop where
  once : (state.calls.filterMap Http2Call.started).Nodup
  admissions : ∀ number, (∃ closed, .admitted number closed ∈ state.calls) ↔
    state.kindAt number = some .admitted
  closed : ∀ number aborted, .emitted number aborted ∈ state.calls →
    state.closedAt number = some true
  targets : ∀ listener ∈ state.listeners.waiting,
    state.kindAt listener.stream = some .admitted ∨ state.kindAt listener.stream = some .duplex

/-- The calls of `on_close` have different numbers. -/
structure Numbered (state : Http2Streams) : Prop where
  nodup : (state.calls.filterMap Http2Call.called ++
    state.listeners.waiting.map CloseListener.number).Nodup
  fresh : ∀ number ∈ state.calls.filterMap Http2Call.called ++
    state.listeners.waiting.map CloseListener.number, number < state.registered

/-- A stream that holds a slot has the listener for it first. No other listeners free a slot. -/
structure Slotted (state : Http2Streams) : Prop where
  counted : state.numStreams = active state.calls
  slots : ∀ number, Holds number state.calls → ∃ slot rest,
    state.waitingFor number = slot :: rest ∧ slot.callback = .slot ∧ WithoutSlot rest
  free : ∀ number, ¬Holds number state.calls → WithoutSlot (state.waitingFor number)
  emissions : ∀ listeners ∈ state.listeners.emissions, WithoutSlot listeners

structure Tracked (state : Http2Streams) : Prop where
  known : state.Known
  numbered : state.Numbered
  slotted : state.Slotted

/-- The counter of a tracked transport is exact. -/
theorem Tracked.exact (tracked : state.Tracked) : state.Exact where
  counted := tracked.slotted.counted
  lower := by
    rw [tracked.slotted.counted]
    exact Int.natCast_nonneg _
  once := (List.nodup_append.mp tracked.numbered.nodup).1

/-- Only the value of the counter counts. -/
theorem Tracked.recount (tracked : state.Tracked) {numStreams : Int}
    (same : numStreams = state.numStreams) : Tracked { state with numStreams } := by
  subst same
  exact tracked

/-- No listener waits twice. -/
theorem Numbered.waiting_nodup (numbered : state.Numbered) : state.listeners.waiting.Nodup :=
  (List.nodup_append.mp numbered.nodup).2.1.of_map

theorem filterMap_quiet {part : Http2Call → Option Nat} {item : Http2Call}
    (none : part item = none) : (calls ++ [item]).filterMap part = calls.filterMap part := by
  rw [List.filterMap_append, List.filterMap_cons_none none, List.filterMap_nil, List.append_nil]

/-- Only an event of a stream that holds a slot frees one. -/
theorem active_of_quiet {item : Http2Call} (unstarted : item.started = none)
    (idle : ∀ number, item.ended number = true → ¬Holds number calls) :
    active (calls ++ [item]) = active calls := by
  refine outstanding_quiet unstarted fun number ended => ?_
  have rest := idle number ended
  unfold Holds at rest
  by_cases member : number ∈ calls.filterMap Http2Call.started
  · exact Or.inr (by simpa [member] using rest)
  · exact Or.inl member

/-- A call that starts and ends nothing holds the same slots. -/
theorem holds_of_quiet {item : Http2Call} (unstarted : item.started = none)
    (idle : ∀ number, item.ended number = true → ¬Holds number calls) :
    Holds number (calls ++ [item]) ↔ Holds number calls := by
  unfold Holds
  rw [filterMap_quiet unstarted, List.any_append]
  cases here : item.ended number with
  | false => simp [here]
  | true =>
      have rest := idle number here
      unfold Holds at rest
      simp only [List.any_cons, here, Bool.true_or, Bool.or_true, Bool.true_eq_false, and_false,
        false_iff]
      exact rest

/-- A new stream comes behind the others. -/
theorem streams_add (stream : Http2Stream) : (state.add stream).streams[number]? =
    if number = state.streams.length then some stream else state.streams[number]? := by
  unfold add
  rw [List.getElem?_append]
  split <;> split
  · omega
  · rfl
  · next same => simp [same]
  · rw [List.getElem?_eq_none (by simp; omega), List.getElem?_eq_none (by omega)]

theorem kindAt_add (stream : Http2Stream) : (state.add stream).kindAt number =
    if number = state.streams.length then some stream.kind else state.kindAt number := by
  rw [kindAt, streams_add]
  split <;> rfl

theorem closedAt_add (stream : Http2Stream) : (state.add stream).closedAt number =
    if number = state.streams.length then some stream.closed else state.closedAt number := by
  rw [closedAt, streams_add]
  split <;> rfl

/-- One stream is replaced, and the others stay. -/
theorem streams_replace {stream : Http2Stream} (found : state.streams[number]? = some stream)
    (next : Http2Stream) (other : Nat) : (state.replace number next).streams[other]? =
      if other = number then some next else state.streams[other]? := by
  unfold replace
  split
  · next same => simp [same, (List.getElem?_eq_some_iff.mp found).1]
  · next different => rw [List.getElem?_set_ne (Ne.symm different)]

theorem kindAt_replace {stream : Http2Stream} (found : state.streams[number]? = some stream)
    (next : Http2Stream) (other : Nat) : (state.replace number next).kindAt other =
      if other = number then some next.kind else state.kindAt other := by
  rw [kindAt, streams_replace found]
  split <;> rfl

theorem closedAt_replace {stream : Http2Stream} (found : state.streams[number]? = some stream)
    (next : Http2Stream) (other : Nat) : (state.replace number next).closedAt other =
      if other = number then some next.closed else state.closedAt other := by
  rw [closedAt, streams_replace found]
  split <;> rfl

theorem kindAt_of_found {stream : Http2Stream} (found : state.streams[number]? = some stream) :
    state.kindAt number = some stream.kind := by
  rw [kindAt, found]
  rfl

theorem closedAt_of_found {stream : Http2Stream} (found : state.streams[number]? = some stream) :
    state.closedAt number = some stream.closed := by
  rw [closedAt, found]
  rfl

/-- The next stream is not known yet. -/
theorem at_length : state.kindAt state.streams.length = none ∧
    state.closedAt state.streams.length = none := by
  simp [kindAt, closedAt]

/-- A new stream is not admitted yet. -/
theorem tracked_add (tracked : state.Tracked) {stream : Http2Stream}
    (fresh : stream.kind ≠ .admitted) : (state.add stream).Tracked := by
  have known := tracked.known
  have within {other : Nat} {kind : Http2Kind} (is : state.kindAt other = some kind) :
      (state.add stream).kindAt other = some kind := by
    have different : other ≠ state.streams.length := by
      rintro rfl
      rw [at_length.1] at is
      cases is
    rw [kindAt_add, if_neg different, is]
  refine ⟨⟨known.once, fun other => ?_, fun other aborted emitted => ?_, fun listener waits => ?_⟩,
    ⟨tracked.numbered.nodup, tracked.numbered.fresh⟩, ⟨tracked.slotted.counted,
      tracked.slotted.slots, tracked.slotted.free, tracked.slotted.emissions⟩⟩
  · refine (known.admissions other).trans ⟨within, fun is => ?_⟩
    rw [kindAt_add] at is
    split at is
    · exact absurd (Option.some.inj is) fresh
    · exact is
  · have closed := known.closed other aborted emitted
    have different : other ≠ state.streams.length := by
      rintro rfl
      rw [at_length.2] at closed
      cases closed
    rw [closedAt_add, if_neg different, closed]
  · exact (known.targets listener waits).imp within within

/-- A stream stays admitted or a duplex, and it stays closed. -/
theorem tracked_replace (tracked : state.Tracked) {stream next : Http2Stream}
    (found : state.streams[number]? = some stream)
    (kind : next.kind = stream.kind ∨
      stream.kind ≠ .admitted ∧ stream.kind ≠ .duplex ∧ next.kind ≠ .admitted)
    (closed : stream.closed = true → next.closed = true) :
    (state.replace number next).Tracked := by
  have known := tracked.known
  have keeps {other : Nat} {held : Http2Kind} (lasting : held = .admitted ∨ held = .duplex)
      (is : state.kindAt other = some held) :
      (state.replace number next).kindAt other = some held := by
    rw [kindAt_replace found]
    split
    · next same =>
        obtain rfl : stream.kind = held := by
          rw [same, kindAt_of_found found] at is
          exact Option.some.inj is
        rcases kind with kind | ⟨notAdmitted, notDuplex, -⟩
        · rw [kind]
        · exact absurd lasting (not_or.mpr ⟨notAdmitted, notDuplex⟩)
    · exact is
  refine ⟨⟨known.once, fun other => ?_, fun other aborted emitted => ?_, fun listener waits => ?_⟩,
    ⟨tracked.numbered.nodup, tracked.numbered.fresh⟩, ⟨tracked.slotted.counted,
      tracked.slotted.slots, tracked.slotted.free, tracked.slotted.emissions⟩⟩
  · refine (known.admissions other).trans ⟨keeps (Or.inl rfl), fun is => ?_⟩
    rw [kindAt_replace found] at is
    split at is
    · next same =>
        rw [same, kindAt_of_found found]
        rcases kind with kind | ⟨-, -, notAdmitted⟩
        · rw [← kind, is]
        · exact absurd (Option.some.inj is) notAdmitted
    · exact is
  · have before := known.closed other aborted emitted
    rw [closedAt_replace found]
    split
    · next same =>
        rw [same, closedAt_of_found found] at before
        rw [closed (Option.some.inj before)]
    · exact before
  · exact (known.targets listener waits).imp (keeps (Or.inl rfl)) (keeps (Or.inr rfl))

/-- A call that admits no stream keeps what the log knows. -/
theorem known_call (known : state.Known) {item : Http2Call} (unstarted : item.started = none)
    (other : ∀ number closed, item ≠ .admitted number closed)
    (closed : ∀ number aborted, item = .emitted number aborted →
      state.closedAt number = some true) : (state.call item).Known := by
  refine ⟨?_, fun number => ?_, fun number aborted emitted => ?_, known.targets⟩
  · exact (filterMap_quiet unstarted).symm ▸ known.once
  · refine (exists_congr fun closed => ?_).trans (known.admissions number)
    exact mem_concat.trans (or_iff_left fun same => other number closed same.symm)
  · rcases mem_concat.mp emitted with emitted | here
    · exact known.closed number aborted emitted
    · exact closed number aborted here.symm

/-- A call that calls no listener keeps their numbers. -/
theorem numbered_call (numbered : state.Numbered) {item : Http2Call}
    (uncalled : item.called = none) : (state.call item).Numbered := by
  constructor
  · exact (filterMap_quiet uncalled).symm ▸ numbered.nodup
  · exact (filterMap_quiet uncalled).symm ▸ numbered.fresh

/-- Answers and events that free no slot keep everything. -/
theorem tracked_call (tracked : state.Tracked) {item : Http2Call} (unstarted : item.started = none)
    (idle : ∀ number, item.ended number = true → ¬Holds number state.calls)
    (uncalled : item.called = none) (other : ∀ number closed, item ≠ .admitted number closed)
    (closed : ∀ number aborted, item = .emitted number aborted →
      state.closedAt number = some true) : (state.call item).Tracked := by
  have slotted := tracked.slotted
  refine ⟨known_call tracked.known unstarted other closed,
    numbered_call tracked.numbered uncalled,
    ⟨?_, fun number holds => ?_, fun number idles => ?_, slotted.emissions⟩⟩
  · exact slotted.counted.trans (congrArg Nat.cast (active_of_quiet unstarted idle).symm)
  · exact slotted.slots number ((holds_of_quiet unstarted idle).mp holds)
  · exact slotted.free number (mt (holds_of_quiet unstarted idle).mpr idles)

/-- A response keeps the streams tracked. -/
theorem tracked_respond (tracked : state.Tracked) (stream status : Nat) :
    (state.call (.respond stream status)).Tracked :=
  tracked_call tracked rfl (fun _ ended => nomatch (ended : false = true)) rfl nofun nofun

end Http2Streams
end Centro
