import Centro.Construction.InMem
import Mathlib.Data.List.ReduceOption

namespace Centro

open Library

variable {α : Type*}

namespace ReadableState

/-- What is taken from the front leaves the rest. -/
theorem flatten_fromList (count : Nat) (buffer : List (List α)) :
    (fromList count buffer).flatten = buffer.flatten.drop count := by
  induction buffer generalizing count with
  | nil => simp [fromList]
  | cons chunk rest ih =>
      unfold fromList
      split
      · next within =>
          rw [List.flatten_cons, List.flatten_cons,
            List.drop_append_of_le_length (Nat.le_of_lt within)]
      · next beyond =>
          rw [ih, List.flatten_cons, List.drop_append,
            List.drop_eq_nil_of_le (Nat.le_of_not_lt beyond), List.nil_append]

/-- A consumer that takes nothing leaves the buffer as it is. -/
theorem fromList_zero {buffer : List (List α)} (full : ∀ chunk ∈ buffer, chunk ≠ []) :
    fromList 0 buffer = buffer := by
  cases buffer with
  | nil => rfl
  | cons chunk rest =>
      unfold fromList
      rw [if_pos (List.length_pos_iff.mpr (full chunk List.mem_cons_self)), List.drop_zero]

/-- The first chunk is taken as it is. -/
theorem fromList_first {chunk : List α} {rest : List (List α)}
    (full : ∀ other ∈ rest, other ≠ []) : fromList chunk.length (chunk :: rest) = rest := by
  unfold fromList
  rw [if_neg (Nat.lt_irrefl _), Nat.sub_self, fromList_zero full]

/-- A chunk is pushed behind the others. -/
theorem flatten_push (highWaterMark : Nat) (readable : ReadableState α) (chunk : List α) :
    (readable.push highWaterMark chunk).1.buffer.flatten = readable.buffer.flatten ++ chunk := by
  cases chunk with
  | nil => exact (List.append_nil _).symm
  | cons => simp [push]

/-- The writer has to wait for a buffer at or above its mark. -/
theorem mark_le_of_push {highWaterMark : Nat} {readable : ReadableState α} {chunk : List α}
    (full : (readable.push highWaterMark chunk).2 = false) :
    highWaterMark ≤ (readable.push highWaterMark chunk).1.length := by
  have above := of_decide_eq_false full
  exact Nat.le_of_not_lt (not_or.mp above).1

end ReadableState

/-- One direction has the half of a duplex that writes and the half of its peer that reads. -/
structure Transfer (α : Type*) where
  writable : WritableState α := {}
  readable : ReadableState α := {}
  scheduled : List Nat := []

namespace Transfer

inductive Move (α : Type*) where
  | write (chunk : List α)
  | final
  | read (count : Nat) (needReadable : Bool)
  | ended
  | tick

def write (highWaterMark : Nat) (transfer : Transfer α) (chunk : List α) : Transfer α :=
  let number := transfer.writable.written.length
  let written := transfer.writable.written ++ [chunk]
  let writable := { transfer.writable with written, writing := some number }
  let readable := (transfer.readable.push highWaterMark chunk).1
  if (transfer.readable.push highWaterMark chunk).2 then
    { writable, readable, scheduled := transfer.scheduled ++ [number] }
  else { transfer with writable, readable := { readable with _cb := some number } }

/-- The stream asks its peer for more. -/
def request (transfer : Transfer α) : Transfer α :=
  let readable := { transfer.readable with reading := true, _cb := none }
  { transfer with readable, scheduled := transfer.scheduled ++ transfer.readable._cb.toList }

def consume (highWaterMark : Nat) (transfer : Transfer α) (count : Nat) (needReadable : Bool) :
    Transfer α :=
  let asked :=
    if DuplexPair.wantsRead highWaterMark transfer.readable count needReadable then
      transfer.request
    else transfer
  { asked with readable := asked.readable.take count }

def step (highWaterMark : Nat) (transfer : Transfer α) : Move α → Option (Transfer α)
  | .write chunk =>
      if transfer.writable.writing = none ∧ transfer.writable.finalled = false then
        some (transfer.write highWaterMark chunk)
      else none
  | .final =>
      if transfer.writable.writing = none ∧ transfer.writable.finalled = false then
        some { transfer with
          writable := { transfer.writable with finalled := true }
          readable := transfer.readable.pushNull }
      else none
  | .read count needReadable =>
      if count ≤ transfer.readable.length then
        some (transfer.consume highWaterMark count needReadable)
      else none
  | .ended =>
      let readable := transfer.readable
      if readable.ended ∧ readable.length = 0 ∧ readable.endEmitted = false then
        let received := readable.received ++ [none]
        some { transfer with readable := { readable with endEmitted := true, received } }
      else none
  | .tick =>
      match transfer.scheduled with
      | [] => none
      | number :: scheduled =>
          let writable := transfer.writable
          let writing := if writable.writing = some number then none else writable.writing
          let called := writable.called ++ [number]
          some { transfer with writable := { writable with writing, called }, scheduled }

def system (highWaterMark : Nat) : TransitionSystem (Transfer α) (Move α) where
  initial := {}
  step := step highWaterMark

variable {highWaterMark : Nat} {before after transfer : Transfer α} {move : Move α}

/-- The callback of a write was called, is scheduled, or is stored while the buffer is at or above
its mark and the stream can ask for more. -/
inductive Handshake (highWaterMark : Nat) (transfer : Transfer α) : Prop where
  | idle : transfer.writable.writing = none → transfer.readable._cb = none →
      transfer.scheduled = [] →
      transfer.writable.called = List.range transfer.writable.written.length →
      Handshake highWaterMark transfer
  | scheduled (number : Nat) : transfer.writable.writing = some number →
      transfer.readable._cb = none → transfer.scheduled = [number] →
      transfer.writable.written.length = number + 1 →
      transfer.writable.called = List.range number → Handshake highWaterMark transfer
  | stored (number : Nat) : transfer.writable.writing = some number →
      transfer.readable._cb = some number → transfer.scheduled = [] →
      transfer.writable.written.length = number + 1 →
      transfer.writable.called = List.range number → highWaterMark ≤ transfer.readable.length →
      transfer.readable.reading = false → Handshake highWaterMark transfer

/-- What was received and the buffer are what was written, and the end comes last. -/
structure Flows (transfer : Transfer α) : Prop where
  ended : transfer.readable.ended = transfer.writable.finalled
  last : transfer.writable.finalled = true → transfer.writable.writing = none
  emitted : transfer.readable.endEmitted = true →
    transfer.readable.ended = true ∧ transfer.readable.buffer.flatten = []
  data : ∃ pieces : List (List α), transfer.readable.received =
      pieces.map some ++ (if transfer.readable.endEmitted then [none] else []) ∧
    pieces.flatten ++ transfer.readable.buffer.flatten = transfer.writable.written.flatten

structure Sound (highWaterMark : Nat) (transfer : Transfer α) : Prop where
  handshake : transfer.Handshake highWaterMark
  flows : transfer.Flows

/-- Only the writer, the callback that is stored, its schedule and the mark matter. -/
theorem Handshake.congr (handshake : before.Handshake highWaterMark)
    (writable : after.writable = before.writable)
    (cb : after.readable._cb = before.readable._cb)
    (schedule : after.scheduled = before.scheduled)
    (asks : after.readable.reading = before.readable.reading)
    (above : before.readable._cb ≠ none → highWaterMark ≤ before.readable.length →
      highWaterMark ≤ after.readable.length) : after.Handshake highWaterMark := by
  cases handshake with
  | idle writing held scheduled called =>
      exact .idle (writable ▸ writing) (cb.trans held) (schedule.trans scheduled) (writable ▸ called)
  | scheduled number writing held scheduled written called =>
      exact .scheduled number (writable ▸ writing) (cb.trans held) (schedule.trans scheduled)
        (writable ▸ written) (writable ▸ called)
  | stored number writing held scheduled written called full reading =>
      exact .stored number (writable ▸ writing) (cb.trans held) (schedule.trans scheduled)
        (writable ▸ written) (writable ▸ called) (above (by simp [held]) full) (asks.trans reading)

/-- A stream that writes or ends has no callback left. -/
theorem Handshake.idle_of_none (handshake : transfer.Handshake highWaterMark)
    (none : transfer.writable.writing = none) : transfer.readable._cb = .none ∧
      transfer.scheduled = [] ∧
      transfer.writable.called = List.range transfer.writable.written.length := by
  cases handshake with
  | idle _ cb scheduled called => exact ⟨cb, scheduled, called⟩
  | scheduled number writing | stored number writing =>
      rw [writing] at none
      cases none

/-- A write keeps the transfer sound. -/
theorem sound_write (sound : before.Sound highWaterMark) (none : before.writable.writing = none)
    (lasts : before.writable.finalled = false) (chunk : List α) :
    (before.write highWaterMark chunk).Sound highWaterMark := by
  obtain ⟨handshake, flows⟩ := sound
  obtain ⟨cb, scheduled, called⟩ := handshake.idle_of_none none
  obtain ⟨pieces, received, data⟩ := flows.data
  have open' : before.readable.endEmitted ≠ true := by
    intro emitted
    have ended := (flows.emitted emitted).1
    rw [flows.ended, lasts] at ended
    cases ended
  have grown : pieces.flatten ++ (before.readable.push highWaterMark chunk).1.buffer.flatten =
      (before.writable.written ++ [chunk]).flatten := by
    rw [ReadableState.flatten_push, ← List.append_assoc, data, List.flatten_append,
      List.flatten_singleton]
  have emitted : before.readable.endEmitted = true →
      before.readable.ended = true ∧
        (before.readable.push highWaterMark chunk).1.buffer.flatten = [] :=
    fun emitted => absurd emitted open'
  have last : before.writable.finalled = true →
      some before.writable.written.length = (.none : Option Nat) := by
    rw [lasts]
    exact nofun
  unfold write
  dsimp only
  split
  · refine ⟨.scheduled before.writable.written.length rfl cb ?_ (by simp) called,
      ⟨flows.ended, last, emitted, pieces, received, grown⟩⟩
    exact congrArg (· ++ [before.writable.written.length]) scheduled
  · next full =>
      refine ⟨.stored before.writable.written.length rfl rfl scheduled (by simp) called ?_ rfl,
        ⟨flows.ended, last, emitted, pieces, received, grown⟩⟩
      exact ReadableState.mark_le_of_push (Bool.not_eq_true _ ▸ full)

theorem sound_final (sound : before.Sound highWaterMark) (none : before.writable.writing = none) :
    Sound highWaterMark { before with
      writable := { before.writable with finalled := true }
      readable := before.readable.pushNull } := by
  obtain ⟨handshake, flows⟩ := sound
  obtain ⟨cb, scheduled, called⟩ := handshake.idle_of_none none
  refine ⟨.idle none cb scheduled called, ⟨rfl, fun _ => none, fun emitted => ?_, flows.data⟩⟩
  exact ⟨rfl, (flows.emitted emitted).2⟩

/-- A callback that was stored is scheduled. -/
theorem sound_request (sound : before.Sound highWaterMark) :
    before.request.Sound highWaterMark := by
  obtain ⟨handshake, flows⟩ := sound
  refine ⟨?_, ⟨flows.ended, flows.last, flows.emitted, flows.data⟩⟩
  have same {callback : Option Nat} (cb : before.readable._cb = callback) :
      before.request.scheduled = before.scheduled ++ callback.toList := by
    rw [request, cb]
  cases handshake with
  | idle writing cb scheduled called =>
      exact .idle writing rfl ((same cb).trans (by rw [scheduled]; rfl)) called
  | scheduled number writing cb scheduled written called =>
      exact .scheduled number writing rfl ((same cb).trans (by rw [scheduled]; rfl)) written called
  | stored number writing cb scheduled written called =>
      exact .scheduled number writing rfl ((same cb).trans (by rw [scheduled]; rfl)) written called

theorem length_take (readable : ReadableState α) (count : Nat) :
    (readable.take count).length = readable.length - count := by
  change (ReadableState.fromList count readable.buffer).flatten.length = _
  rw [ReadableState.flatten_fromList, List.length_drop]
  rfl

/-- The consumer takes from the front of the buffer. -/
theorem flows_take (flows : before.Flows) {count : Nat} (within : count ≤ before.readable.length) :
    Flows { before with readable := before.readable.take count } := by
  obtain ⟨pieces, received, data⟩ := flows.data
  have rest := ReadableState.flatten_fromList count before.readable.buffer
  refine ⟨flows.ended, flows.last, fun emitted => ⟨(flows.emitted emitted).1, ?_⟩, ?_⟩
  · exact rest.trans (by rw [(flows.emitted emitted).2, List.drop_nil])
  · by_cases nothing : count = 0
    · refine ⟨pieces, (if_pos nothing).trans received, ?_⟩
      exact (congrArg (pieces.flatten ++ ·) (rest.trans (by rw [nothing, List.drop_zero]))).trans
        data
    · have open' : before.readable.endEmitted ≠ true := by
        intro emitted
        have empty := (flows.emitted emitted).2
        unfold ReadableState.length at within
        rw [empty] at within
        exact nothing (Nat.le_zero.mp within)
      rw [if_neg open', List.append_nil] at received
      refine ⟨pieces ++ [before.readable.buffer.flatten.take count], ?_, ?_⟩
      · apply (if_neg nothing).trans
        change _ = _ ++ if before.readable.endEmitted = true then _ else _
        rw [received, if_neg open', List.append_nil, List.map_append]
        rfl
      · change _ ++ (ReadableState.fromList count before.readable.buffer).flatten = _
        rw [rest, List.flatten_append, List.flatten_singleton, List.append_assoc,
          List.take_append_drop, data]

/-- A stream with a callback stored can ask for more. -/
theorem Sound.idle_of_stored {number : Nat} (sound : transfer.Sound highWaterMark)
    (stored : transfer.readable._cb = some number) :
    transfer.readable.reading = false ∧ transfer.readable.ended = false := by
  have lasts (writing : transfer.writable.writing ≠ none) : transfer.readable.ended = false := by
    rw [sound.flows.ended, Bool.eq_false_iff]
    exact fun finalled => writing (sound.flows.last finalled)
  cases sound.handshake with
  | idle writing cb | scheduled other writing cb =>
      rw [stored] at cb
      cases cb
  | stored other writing cb scheduled written called above reading =>
      exact ⟨reading, lasts (by simp [writing])⟩

/-- A callback stays stored only if the buffer stays at or above its mark. -/
theorem sound_consume (sound : before.Sound highWaterMark) {count : Nat}
    (within : count ≤ before.readable.length) (needReadable : Bool) :
    (before.consume highWaterMark count needReadable).Sound highWaterMark := by
  unfold consume
  dsimp only
  split
  · have requested := sound_request sound
    refine ⟨requested.handshake.congr rfl rfl rfl rfl fun stored => ?_,
      flows_take requested.flows within⟩
    exact absurd rfl stored
  · next unasked =>
      refine ⟨sound.handshake.congr rfl rfl rfl rfl fun stored above => ?_,
        flows_take sound.flows within⟩
      obtain ⟨number, stored⟩ := Option.ne_none_iff_exists'.mp stored
      obtain ⟨reading, lasts⟩ := sound.idle_of_stored stored
      rw [length_take]
      unfold DuplexPair.wantsRead at unasked
      simp only [lasts, reading, Bool.not_false, Bool.true_and, Bool.or_eq_true,
        decide_eq_true_eq, not_or] at unasked
      exact Nat.le_of_not_lt unasked.2

/-- The end comes when all was received. -/
theorem sound_ended (sound : before.Sound highWaterMark) (ended : before.readable.ended = true)
    (empty : before.readable.length = 0) (first : before.readable.endEmitted = false) :
    Sound highWaterMark { before with readable := { before.readable with
      endEmitted := true
      received := before.readable.received ++ [none] } } := by
  obtain ⟨handshake, flows⟩ := sound
  obtain ⟨pieces, received, data⟩ := flows.data
  refine ⟨handshake.congr rfl rfl rfl rfl fun _ => id, ⟨flows.ended, flows.last,
    fun _ => ⟨ended, List.length_eq_zero_iff.mp empty⟩, pieces, ?_, data⟩⟩
  rw [first] at received
  exact congrArg (· ++ [none]) (received.trans (List.append_nil _))

/-- A step writes, ends, takes from the buffer, shows the end, or calls a callback. -/
inductive Stepped (highWaterMark : Nat) (before : Transfer α) : Move α → Transfer α → Prop
  | write {chunk : List α} (none : before.writable.writing = none)
      (lasts : before.writable.finalled = false) :
      Stepped highWaterMark before (.write chunk) (before.write highWaterMark chunk)
  | final (none : before.writable.writing = none) (lasts : before.writable.finalled = false) :
      Stepped highWaterMark before .final { before with
        writable := { before.writable with finalled := true }
        readable := before.readable.pushNull }
  | read {count : Nat} {needReadable : Bool} (within : count ≤ before.readable.length) :
      Stepped highWaterMark before (.read count needReadable)
        (before.consume highWaterMark count needReadable)
  | ended (ended : before.readable.ended = true) (empty : before.readable.length = 0)
      (first : before.readable.endEmitted = false) :
      Stepped highWaterMark before .ended { before with readable := { before.readable with
        endEmitted := true
        received := before.readable.received ++ [none] } }
  | tick {number : Nat} {rest : List Nat} {writing : Option Nat}
      (scheduled : before.scheduled = number :: rest)
      (frees : before.writable.writing = some number → writing = none) :
      Stepped highWaterMark before .tick { before with
        writable := { before.writable with
          writing, called := before.writable.called ++ [number] }
        scheduled := rest }

/-- These are all cases of a step. -/
theorem stepped_of_step (stepped : before.step highWaterMark move = some after) :
    Stepped highWaterMark before move after := by
  cases move with
  | write chunk =>
      simp only [step, Option.ite_none_right_eq_some] at stepped
      obtain ⟨⟨none, lasts⟩, stepped⟩ := stepped
      obtain rfl := Option.some.inj stepped
      exact .write none lasts
  | final =>
      simp only [step, Option.ite_none_right_eq_some] at stepped
      obtain ⟨⟨none, lasts⟩, stepped⟩ := stepped
      obtain rfl := Option.some.inj stepped
      exact .final none lasts
  | read count needReadable =>
      simp only [step, Option.ite_none_right_eq_some] at stepped
      obtain ⟨within, stepped⟩ := stepped
      obtain rfl := Option.some.inj stepped
      exact .read within
  | ended =>
      simp only [step, Option.ite_none_right_eq_some] at stepped
      obtain ⟨⟨ended, empty, first⟩, stepped⟩ := stepped
      obtain rfl := Option.some.inj stepped
      exact .ended ended empty first
  | tick =>
      simp only [step] at stepped
      split at stepped
      · cases stepped
      · next number rest scheduled =>
          obtain rfl := Option.some.inj stepped
          exact .tick scheduled fun writing => if_pos writing

/-- A step keeps the transfer sound. -/
theorem sound_step (sound : before.Sound highWaterMark)
    (stepped : before.step highWaterMark move = some after) : after.Sound highWaterMark := by
  cases stepped_of_step stepped with
  | write none lasts => exact sound_write sound none lasts _
  | final none _ => exact sound_final sound none
  | read within => exact sound_consume sound within _
  | ended ended empty first => exact sound_ended sound ended empty first
  | @tick number rest writing queued frees =>
      obtain ⟨handshake, flows⟩ := sound
      cases handshake with
      | idle _ _ scheduled | stored _ _ _ scheduled =>
          rw [scheduled] at queued
          cases queued
      | scheduled last busy cb scheduled written called =>
          obtain ⟨rfl, rfl⟩ := List.cons.inj (scheduled.symm.trans queued)
          obtain rfl := frees busy
          refine ⟨.idle rfl cb rfl ?_, ⟨flows.ended, fun _ => rfl, flows.emitted, flows.data⟩⟩
          change before.writable.called ++ [last] = List.range before.writable.written.length
          rw [called, written, List.range_succ]

/-- The transfer is sound in every reachable state. -/
theorem sound_of_reachable (reached : (system highWaterMark).Reachable transfer) :
    transfer.Sound highWaterMark := by
  have start : (system highWaterMark : TransitionSystem (Transfer α) _).initial.Sound
      highWaterMark :=
    ⟨.idle rfl rfl rfl rfl, ⟨rfl, nofun, nofun, [], rfl, rfl⟩⟩
  exact reached.invariant start fun _ _ _ sound _ stepped => sound_step sound stepped

theorem length_consume (count : Nat) (needReadable : Bool) :
    (transfer.consume highWaterMark count needReadable).readable.length =
      transfer.readable.length - count := by
  unfold consume
  dsimp only
  split <;> exact length_take _ count

/-- A read that brings the buffer below its mark schedules the callback that is stored. -/
theorem Sound.released {number count : Nat} (sound : transfer.Sound highWaterMark)
    (stored : transfer.readable._cb = some number) (needReadable : Bool)
    (low : transfer.readable.length = 0 ∨ transfer.readable.length - count < highWaterMark) :
    number ∈ (transfer.consume highWaterMark count needReadable).scheduled := by
  obtain ⟨reading, ended⟩ := sound.idle_of_stored stored
  have wants : DuplexPair.wantsRead highWaterMark transfer.readable count needReadable = true := by
    simp only [DuplexPair.wantsRead, reading, ended, Bool.not_false, Bool.true_and,
      Bool.or_eq_true, decide_eq_true_eq]
    rcases low with low | low
    · exact Or.inl (Or.inr low)
    · exact Or.inr low
  unfold consume
  rw [if_pos wants]
  simp [request, stored]

/-- A write without a call of its callback has it scheduled or stored. -/
theorem Handshake.pending {number : Nat} (handshake : transfer.Handshake highWaterMark)
    (written : number < transfer.writable.written.length)
    (uncalled : number ∉ transfer.writable.called) : number ∈ transfer.scheduled ∨
      transfer.readable._cb = some number ∧ highWaterMark ≤ transfer.readable.length := by
  cases handshake with
  | idle writing cb scheduled called =>
      exact absurd (called ▸ List.mem_range.mpr written) uncalled
  | scheduled last writing cb scheduled count called
  | stored last writing cb scheduled count called =>
      rw [called, List.mem_range] at uncalled
      obtain rfl : number = last := by omega
      simp_all

/-- No write is called back twice. -/
theorem Handshake.once (handshake : transfer.Handshake highWaterMark) :
    transfer.writable.called.Nodup := by
  cases handshake with
  | idle writing cb scheduled called =>
      rw [called]
      exact List.nodup_range
  | scheduled number writing cb scheduled written called
  | stored number writing cb scheduled written called =>
      rw [called]
      exact List.nodup_range

/-- A consumer takes the first chunk whole, or nothing. -/
def WholeReads (transfer : Transfer α) : Move α → Prop
  | .read count _ =>
      count = 0 ∨ ∃ chunk ∈ transfer.readable.buffer.head?, count = chunk.length
  | _ => True

/-- The chunks that were received and those of the buffer were written. -/
def Whole (transfer : Transfer α) : Prop :=
  transfer.readable.received.reduceOption ++ transfer.readable.buffer =
    transfer.writable.written.filter (!·.isEmpty)

/-- The buffer has no empty chunk. -/
theorem Whole.ne_nil (whole : transfer.Whole) :
    ∀ chunk ∈ transfer.readable.buffer, chunk ≠ [] := by
  rintro chunk member rfl
  have written : [] ∈ transfer.writable.written.filter (!·.isEmpty) :=
    whole ▸ List.mem_append_right _ member
  simp at written

theorem whole_write (whole : before.Whole) (chunk : List α) :
    (before.write highWaterMark chunk).Whole := by
  have pushed : before.readable.received.reduceOption ++
      (before.readable.push highWaterMark chunk).1.buffer =
        (before.writable.written ++ [chunk]).filter (!·.isEmpty) := by
    unfold Whole at whole
    rw [List.filter_append, ← whole]
    cases chunk with
    | nil => simp [ReadableState.push]
    | cons => simp [ReadableState.push]
  unfold write
  dsimp only
  split <;> exact pushed

theorem whole_take (whole : before.Whole) {count : Nat}
    (chunks : count = 0 ∨ ∃ chunk ∈ before.readable.buffer.head?, count = chunk.length) :
    Whole { before with readable := before.readable.take count } := by
  have full := whole.ne_nil
  by_cases nothing : count = 0
  · subst nothing
    unfold Whole ReadableState.take
    rw [ReadableState.fromList_zero full]
    exact whole
  · obtain ⟨chunk, first, rfl⟩ := chunks.resolve_left nothing
    unfold Whole ReadableState.take at *
    cases shape : before.readable.buffer with
    | nil => simp [shape] at first
    | cons head rest =>
        obtain rfl : head = chunk := by simpa [shape] using first
        rw [shape] at whole full
        have others := fun other member => full other (List.mem_cons_of_mem _ member)
        dsimp only
        rw [if_neg nothing, ReadableState.fromList_first others, List.flatten_cons, List.take_left,
          List.reduceOption_append, List.append_assoc]
        exact whole

/-- A read of whole chunks keeps the chunks whole. -/
theorem whole_step (whole : before.Whole) (reads : before.WholeReads move)
    (stepped : before.step highWaterMark move = some after) : after.Whole := by
  cases stepped_of_step stepped with
  | write => exact whole_write whole _
  | final => exact whole
  | read =>
      unfold consume
      dsimp only
      split
      · exact @whole_take _ before.request whole _ reads
      · exact whole_take whole reads
  | ended =>
      unfold Whole
      rw [List.reduceOption_append, List.append_assoc]
      exact whole
  | tick => exact whole

/-- Chunks stay whole in every run that reads them whole. -/
theorem whole_of_reachable (reached : (system highWaterMark).ReachableUnder WholeReads transfer) :
    transfer.Whole := by
  have start : (system highWaterMark : TransitionSystem (Transfer α) _).initial.Whole := rfl
  exact reached.invariant start fun _ _ _ whole reads stepped => whole_step whole reads stepped

end Transfer

end Centro
