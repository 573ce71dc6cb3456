import Centro.Proof.InMem.Transfer

namespace Centro

open Library

variable {α : Type*}

@[simp] theorem Side.peer_peer (side : Side) : side.peer.peer = side := by
  cases side <;> rfl

namespace DuplexPair

variable {highWaterMark : Nat} {pair before after : DuplexPair α} {side other : Side}

def scheduled (pair : DuplexPair α) (side : Side) : List Nat :=
  (pair.ticks.filter (·.1 = side)).map Prod.snd

/-- The direction from this side to its peer. -/
def transfer (side : Side) (pair : DuplexPair α) : Transfer α where
  writable := (pair.duplex side).writable
  readable := (pair.duplex side.peer).readable
  scheduled := pair.scheduled side

/-- An event moves one direction. -/
def moves (side : Side) (pair : DuplexPair α) : Event α → List (Transfer.Move α)
  | .write other chunk => if other = side then [.write chunk] else []
  | .final other => if other = side then [.final] else []
  | .read other count needReadable =>
      if other.peer = side then [.read count needReadable] else []
  | .ended other => if other.peer = side then [.ended] else []
  | .tick => if pair.ticks.head?.map Prod.fst = some side then [.tick] else []

@[simp] theorem readable_setWritable (writable : WritableState α) :
    ((pair.setWritable writable other).duplex side).readable = (pair.duplex side).readable := by
  cases side <;> cases other <;> rfl

theorem transfer_setWritable (writable : WritableState α) :
    (pair.setWritable writable other).transfer side =
      if other = side then { pair.transfer side with writable } else pair.transfer side := by
  cases side <;> cases other <;> rfl

theorem transfer_setReadable (readable : ReadableState α) :
    (pair.setReadable readable other).transfer side =
      if other.peer = side then { pair.transfer side with readable } else pair.transfer side := by
  cases side <;> cases other <;> rfl

theorem transfer_nextTick (number : Nat) : (pair.nextTick other number).transfer side =
    if other = side then
      { pair.transfer side with scheduled := (pair.transfer side).scheduled ++ [number] }
    else pair.transfer side := by
  have grows : (pair.nextTick other number).scheduled side =
      if other = side then pair.scheduled side ++ [number] else pair.scheduled side := by
    unfold scheduled nextTick
    rw [List.filter_append, List.map_append]
    split
    · next same => simp [same]
    · next different => simp [different]
  change (⟨_, _, (pair.nextTick other number).scheduled side⟩ : Transfer α) = _
  rw [grows]
  split <;> rfl

theorem transfer_write (chunk : List α) : (pair.write highWaterMark other chunk).transfer side =
    if other = side then (pair.transfer side).write highWaterMark chunk
    else pair.transfer side := by
  have pushed : (pair.transfer other).readable = (pair.duplex other.peer).readable := rfl
  unfold write Transfer.write
  simp only [readable_setWritable]
  by_cases same : other = side
  · subst same
    rw [pushed]
    split
    all_goals
      next shape =>
        rw [shape]
        simp only [transfer_setWritable, transfer_setReadable, transfer_nextTick, Side.peer_peer,
          if_true]
        rfl
  · split <;> simp [transfer_setWritable, transfer_setReadable, transfer_nextTick, same]

theorem transfer_final : (pair.final other).transfer side =
    if other = side then { pair.transfer side with
      writable := { (pair.transfer side).writable with finalled := true }
      readable := (pair.transfer side).readable.pushNull }
    else pair.transfer side := by
  unfold final
  simp only [transfer_setWritable, transfer_setReadable, readable_setWritable, Side.peer_peer]
  split
  · next same =>
      subst same
      rfl
  · rfl

theorem transfer_read : (pair.read other).transfer side =
    if other.peer = side then { pair.transfer side with
      readable := { (pair.transfer side).readable with _cb := none }
      scheduled := (pair.transfer side).scheduled ++ (pair.transfer side).readable._cb.toList }
    else pair.transfer side := by
  unfold read
  dsimp only
  split
  · next cb =>
      split
      · next same =>
          subst same
          have unchanged : { (pair.duplex other).readable with _cb := none } =
              (pair.duplex other).readable := by
            rw [← cb]
          simp [transfer, cb, unchanged]
      · rfl
  · next number cb =>
      simp only [transfer_setReadable, transfer_nextTick]
      split
      · next same =>
          subst same
          simp [transfer, cb]
      · rfl

theorem readable_transfer (pair : DuplexPair α) (side : Side) :
    (pair.transfer side.peer).readable = (pair.duplex side).readable := by
  simp [transfer]

theorem consume_eq (side : Side) (count : Nat) (needReadable : Bool) :
    pair.consume highWaterMark side count needReadable =
      let readable := (pair.duplex side).readable
      let asked := if wantsRead highWaterMark readable count needReadable then
          read side (pair.setReadable { readable with reading := true } side)
        else pair
      asked.setReadable ((asked.duplex side).readable.take count) side := by
  cases side <;> rfl

theorem transfer_consume (count : Nat) (needReadable : Bool) :
    (pair.consume highWaterMark other count needReadable).transfer side =
      if other.peer = side then (pair.transfer side).consume highWaterMark count needReadable
      else pair.transfer side := by
  rw [consume_eq]
  unfold Transfer.consume
  dsimp only
  rw [transfer_setReadable]
  by_cases same : other.peer = side
  · subst same
    rw [if_pos rfl, if_pos rfl, ← readable_transfer, ← readable_transfer]
    split
    · rw [transfer_read, if_pos rfl, transfer_setReadable, if_pos rfl]
      rfl
    · rfl
  · rw [if_neg same, if_neg same]
    split
    · rw [transfer_read, if_neg same, transfer_setReadable, if_neg same]
    · rfl

/-- The next callback is one of the direction, or it is none of it. -/
theorem scheduled_cons {number : Nat} {ticks : List (Side × Nat)}
    (shape : pair.ticks = (other, number) :: ticks) : pair.scheduled side =
      if other = side then number :: scheduled { pair with ticks } side
      else scheduled { pair with ticks } side := by
  unfold scheduled
  rw [shape, List.filter_cons]
  by_cases same : other = side
  · simp [same]
  · simp [same]

/-- A step of the pair is a step of one direction, and it leaves the other alone. -/
def projection (highWaterMark : Nat) (side : Side) : TransitionSystem.Projection
    (system highWaterMark : TransitionSystem (DuplexPair α) (Event α))
    (Transfer.system highWaterMark : TransitionSystem (Transfer α) (Transfer.Move α)) where
  view := transfer side
  moves := moves side
  initial := by cases side <;> rfl
  step before event after stepped := by
    change before.step highWaterMark event = some after at stepped
    cases event with
    | write other chunk =>
        simp only [step] at stepped
        split at stepped
        · next may =>
            have written : after = before.write highWaterMark other chunk := by
              cases other <;> exact (Option.some.inj stepped).symm
            refine TransitionSystem.run_optional (written ▸ transfer_write chunk) fun same => ?_
            subst same
            exact if_pos may
        · cases stepped
    | final other =>
        simp only [step] at stepped
        split at stepped
        · next may =>
            have ended : after = before.final other := by
              cases other <;> exact (Option.some.inj stepped).symm
            refine TransitionSystem.run_optional (ended ▸ transfer_final) fun same => ?_
            subst same
            exact if_pos may
        · cases stepped
    | read other count needReadable =>
        simp only [step] at stepped
        split at stepped
        · next within =>
            obtain rfl := Option.some.inj stepped
            refine TransitionSystem.run_optional (transfer_consume count needReadable)
              fun same => ?_
            subst same
            rw [← readable_transfer] at within
            exact if_pos within
        · cases stepped
    | ended other =>
        simp only [step] at stepped
        split at stepped
        · next may =>
            obtain rfl := Option.some.inj stepped
            refine TransitionSystem.run_optional (transfer_setReadable _) fun same => ?_
            subst same
            rw [← readable_transfer] at may ⊢
            exact if_pos may
        · cases stepped
    | tick =>
        simp only [step] at stepped
        split at stepped
        · cases stepped
        · next other number ticks shape =>
            obtain rfl := Option.some.inj stepped
            have queued := @scheduled_cons _ before side _ _ _ shape
            have moved : moves side before .tick = if other = side then [.tick] else [] := by
              simp [moves, shape]
            rw [moved, transfer_setWritable]
            by_cases same : other = side
            · subst same
              rw [if_pos rfl] at queued ⊢
              have here : (before.transfer other).scheduled =
                  number :: scheduled { before with ticks } other := queued
              rw [if_pos rfl, TransitionSystem.run]
              simp only [Transfer.system, Transfer.step, here]
              rfl
            · rw [if_neg same] at queued ⊢
              rw [if_neg same, transfer, queued]
              rfl

/-- What the peer received is at the front of what was written, and the end follows all of it. A
write without a call of its callback has it scheduled or stored, and a read that brings the buffer
of the peer below its mark schedules the callback. -/
structure Transferred (highWaterMark : Nat) (side : Side) (pair : DuplexPair α) : Prop where
  data : ∃ pieces : List (List α),
    (pair.duplex side.peer).readable.received = pieces.map some ∧
        pieces.flatten <+: (pair.duplex side).writable.written.flatten ∨
      (pair.duplex side.peer).readable.received = pieces.map some ++ [none] ∧
        pieces.flatten = (pair.duplex side).writable.written.flatten ∧
        (pair.duplex side).writable.finalled = true
  once : (pair.duplex side).writable.called.Nodup
  pending : ∀ number < (pair.duplex side).writable.written.length,
    number ∉ (pair.duplex side).writable.called → (side, number) ∈ pair.ticks ∨
      (pair.duplex side.peer).readable._cb = some number ∧
        highWaterMark ≤ (pair.duplex side.peer).readable.length
  released : ∀ number count needReadable after,
    (pair.duplex side.peer).readable._cb = some number →
    pair.step highWaterMark (.read side.peer count needReadable) = some after →
    (pair.duplex side.peer).readable.length = 0 ∨
      (after.duplex side.peer).readable.length < highWaterMark → (side, number) ∈ after.ticks

/-- The consumer of this direction takes the first chunk whole, or nothing. -/
def WholeReads (side : Side) (pair : DuplexPair α) : Event α → Prop
  | .read other count _ => other.peer = side → count = 0 ∨
      ∃ chunk ∈ (pair.duplex other).readable.buffer.head?, count = chunk.length
  | _ => True

instance (side : Side) (pair : DuplexPair α) : DecidablePred (WholeReads side pair) := fun event =>
  match event with
  | .read other count _ => inferInstanceAs (Decidable (other.peer = side → count = 0 ∨
      ∃ chunk ∈ (pair.duplex other).readable.buffer.head?, count = chunk.length))
  | .write _ _ | .final _ | .ended _ | .tick => inferInstanceAs (Decidable True)

/-- The chunks that the peer received are the first ones that were written, and at the end they are
all. -/
def TransferredWhole (side : Side) (pair : DuplexPair α) : Prop :=
  let written := (pair.duplex side).writable.written.filter (!·.isEmpty)
  let received := (pair.duplex side.peer).readable.received
  received.reduceOption <+: written ∧ (none ∈ received → received.reduceOption = written)

theorem mem_scheduled {number : Nat} :
    number ∈ pair.scheduled side ↔ (side, number) ∈ pair.ticks := by
  simp [scheduled]

theorem transferred_of_sound (sound : (pair.transfer side).Sound highWaterMark) :
    pair.Transferred highWaterMark side := by
  obtain ⟨handshake, flows⟩ := sound
  refine ⟨?_, handshake.once, fun number written uncalled => ?_, ?_⟩
  · obtain ⟨pieces, received, data⟩ := flows.data
    refine ⟨pieces, ?_⟩
    cases emitted : (pair.transfer side).readable.endEmitted with
    | false =>
        rw [emitted] at received
        exact Or.inl ⟨received.trans (List.append_nil _), data ▸ List.prefix_append _ _⟩
    | true =>
        obtain ⟨ended, empty⟩ := flows.emitted emitted
        rw [emitted] at received
        rw [empty, List.append_nil] at data
        exact Or.inr ⟨received, data, flows.ended ▸ ended⟩
  · exact (handshake.pending written uncalled).imp_left mem_scheduled.mp
  · intro number count needReadable after stored stepped low
    simp only [step] at stepped
    split at stepped
    · obtain rfl := Option.some.inj stepped
      have moved := @transfer_consume _ highWaterMark pair side side.peer count needReadable
      rw [if_pos (Side.peer_peer side)] at moved
      have length := congrArg (fun transfer => transfer.readable.length) moved
      rw [Transfer.length_consume] at length
      rw [← mem_scheduled]
      change number ∈ (transfer side _).scheduled
      rw [moved]
      exact Transfer.Sound.released ⟨handshake, flows⟩ stored needReadable (length ▸ low)
    · cases stepped

theorem transferredWhole_of_whole (flows : (pair.transfer side).Flows)
    (whole : (pair.transfer side).Whole) : pair.TransferredWhole side := by
  refine ⟨?_, fun ended => ?_⟩
  · unfold Transfer.Whole at whole
    exact whole ▸ List.prefix_append _ _
  · obtain ⟨pieces, received, -⟩ := flows.data
    have emitted : (pair.transfer side).readable.endEmitted = true := by
      by_contra open'
      rw [if_neg open', List.append_nil] at received
      change none ∈ (pair.transfer side).readable.received at ended
      rw [received] at ended
      simp at ended
    have empty : (pair.transfer side).readable.buffer = [] := by
      refine List.eq_nil_iff_forall_not_mem.mpr fun chunk member => ?_
      exact whole.ne_nil chunk member
        (List.flatten_eq_nil_iff.mp (flows.emitted emitted).2 chunk member)
    unfold Transfer.Whole at whole
    rw [empty, List.append_nil] at whole
    exact whole

/-- The direction sees the reads of its consumer. -/
theorem allSteps_moves (side : Side) (before : DuplexPair α) (event : Event α)
    (reads : before.WholeReads side event) :
    (Transfer.system highWaterMark).AllSteps Transfer.WholeReads (before.transfer side)
      (moves side before event) := by
  have single {condition : Prop} [Decidable condition] {move : Transfer.Move α}
      (meets : condition → (before.transfer side).WholeReads move) :
      (Transfer.system highWaterMark).AllSteps Transfer.WholeReads (before.transfer side)
        (if condition then [move] else []) := by
    split
    · next holds => exact fun _ _ => ⟨meets holds, trivial⟩
    · trivial
  cases event with
  | write other chunk => exact single fun _ => trivial
  | final other => exact single fun _ => trivial
  | read other count needReadable =>
      refine single fun same => ?_
      subst same
      unfold Transfer.WholeReads
      rw [readable_transfer]
      exact reads rfl
  | ended other => exact single fun _ => trivial
  | tick => exact single fun _ => trivial

/-- Both directions move all chunks in order, and no callback of a write is lost. -/
theorem pair_transfers {events : List (Event α)}
    (ran : (system highWaterMark).run {} events = some pair) (side : Side) :
    pair.Transferred highWaterMark side ∧
      ((system highWaterMark).AllSteps (WholeReads side) {} events →
        pair.TransferredWhole side) := by
  have sound := Transfer.sound_of_reachable <|
    (projection highWaterMark side).reachable (TransitionSystem.reachable_of_run ran)
  refine ⟨transferred_of_sound sound, fun whole => ?_⟩
  have reached := (projection highWaterMark side).reachableUnder (allSteps_moves side)
    (TransitionSystem.ReachableUnder.run .initial whole ran)
  exact transferredWhole_of_whole sound.flows (Transfer.whole_of_reachable reached)

/-- Each side writes more than the mark of two and ends, and each reads what its peer wrote. -/
def sampleTransfer : List (Event Nat) :=
  [.write .left [1, 2, 3], .write .right [4, 5], .read .right 3 false, .tick, .final .left,
    .ended .right, .read .left 2 false, .tick, .final .right, .ended .left]

theorem pair_transfers_sample : ∃ pair, (system 2).run {} sampleTransfer = some pair ∧
    pair.right.readable.received = [some [1, 2, 3], none] ∧ pair.Transferred 2 .left ∧
    pair.TransferredWhole .left := by
  obtain ⟨pair, ran, received⟩ : ∃ pair, (system 2).run {} sampleTransfer = some pair ∧
      pair.right.readable.received = [some [1, 2, 3], none] := ⟨_, rfl, rfl⟩
  obtain ⟨transferred, whole⟩ := pair_transfers ran .left
  exact ⟨pair, ran, received, transferred, whole (by decide)⟩

end DuplexPair
end Centro
