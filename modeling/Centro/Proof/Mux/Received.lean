import Centro.Library.Trace
import Centro.Proof.Mux.Decoder
import Mathlib.Order.Nat

namespace Centro

open Library

/-- Of all calls only the first handshake of the first duplex may be heard. -/
def Deaf {Heard : Type*} (hear : MuxCall → Option Heard) : Prop :=
  ∀ call : MuxCall, call.greeted = none → hear call = none

/-- A duplex that has got nothing. -/
structure BPDuplex.Untouched (duplex : BPDuplex) : Prop where
  handshakeReceived : duplex.handshakeReceived = false
  endPending : duplex.endPending = false
  errorEndPending : duplex.errorEndPending = false
  ended : duplex.ended = false

namespace BPMux

variable {Heard : Type*} {hear : MuxCall → Option Heard} {mux next : BPMux} {duplex : BPDuplex}
  {config : MuxConfig} {handshakeData : Bytes}

def heard (hear : MuxCall → Option Heard) (mux : BPMux) : List Heard := mux.calls.filterMap hear

/-- The first duplex waits for its handshake, and nothing was heard. -/
structure Waiting (hear : MuxCall → Option Heard) (mux : BPMux) : Prop where
  reading : mux.readingDuplex = none
  there : ∃ duplex ∈ mux.duplexes, duplex.chan = 0
  untouched : ∀ duplex ∈ mux.duplexes, duplex.chan = 0 → duplex.Untouched
  numbered : ∀ duplex ∈ mux.duplexes, duplex.number = 0 ↔ duplex.chan = 0
  made : 0 < mux.made
  silent : mux.heard hear = []

/-- The first duplex has got its handshake, and this was heard. -/
structure Greeted (hear : MuxCall → Option Heard) (handshakeData : Bytes) (mux : BPMux) : Prop where
  received : ∀ duplex ∈ mux.duplexes, duplex.number = 0 → duplex.handshakeReceived = true
  made : 0 < mux.made
  heard : mux.heard hear = (hear (.handshake 0 handshakeData)).toList

/-- A call may be heard. -/
theorem heard_call (made : MuxCall) :
    (mux.call made).heard hear = mux.heard hear ++ (hear made).toList := by
  rw [heard, heard, call, List.filterMap_append]
  cases same : hear made <;> simp [same]

/-- A call that is not heard changes nothing. -/
theorem heard_of_unheard {made : MuxCall} (unheard : hear made = none) :
    (mux.call made).heard hear = mux.heard hear := by
  rw [heard_call, unheard, Option.toList_none, List.append_nil]

/-- Only the first duplex is greeted. -/
theorem greeted_handshake {number : Nat} (other : number ≠ 0) (data : Bytes) :
    (MuxCall.handshake number data).greeted = none := by
  cases number with
  | zero => exact absurd rfl other
  | succ => rfl

namespace Waiting

theorem call (waiting : mux.Waiting hear) {made : MuxCall} (unheard : hear made = none) :
    (mux.call made).Waiting hear :=
  { waiting with silent := (heard_of_unheard unheard).trans waiting.silent }

/-- Another duplex than the first is replaced. -/
theorem replace (waiting : mux.Waiting hear) (other : duplex.number ≠ 0)
    (elsewhere : duplex.chan ≠ 0) : (mux.replace duplex).Waiting hear where
  reading := waiting.reading
  there := by
    obtain ⟨first, member, zero⟩ := waiting.there
    refine ⟨first, List.mem_map.mpr ⟨first, member, if_neg fun same => ?_⟩, zero⟩
    exact other (same ▸ (waiting.numbered first member).mpr zero)
  untouched next member zero := by
    obtain ⟨before, inside, rfl⟩ := List.mem_map.mp member
    split at zero
    · exact absurd zero elsewhere
    · next ne =>
        rw [if_neg ne]
        exact waiting.untouched before inside zero
  numbered next member := by
    obtain ⟨before, inside, rfl⟩ := List.mem_map.mp member
    split
    · exact iff_of_false other elsewhere
    · exact waiting.numbered before inside
  made := waiting.made
  silent := waiting.silent

/-- Another duplex than the first may be removed. -/
theorem checkRemove (waiting : mux.Waiting hear) (unheard : hear (.removed duplex.number) = none)
    (other : duplex.number ≠ 0) (elsewhere : duplex.chan ≠ 0) :
    (mux.checkRemove duplex).Waiting hear := by
  unfold BPMux.checkRemove
  split
  · refine Waiting.call ?_ unheard
    refine { waiting with there := ?_, untouched := ?_, numbered := ?_ }
    · obtain ⟨first, member, zero⟩ := waiting.there
      refine ⟨first, List.mem_filter.mpr ⟨member, decide_eq_true fun same => ?_⟩, zero⟩
      exact other (same ▸ (waiting.numbered first member).mpr zero)
    · exact fun next member => waiting.untouched next (List.mem_filter.mp member).1
    · exact fun next member => waiting.numbered next (List.mem_filter.mp member).1
  · exact waiting.replace other elsewhere

theorem endDuplex (waiting : mux.Waiting hear) (deaf : Deaf hear) (other : duplex.number ≠ 0)
    (elsewhere : duplex.chan ≠ 0) (failed : Bool) : (mux.endDuplex duplex failed).Waiting hear := by
  have removed :=
    @checkRemove _ _ _ { duplex with ended := true } waiting (deaf _ rfl) other elsewhere
  unfold BPMux.endDuplex
  cases failed with
  | false => exact removed.call (deaf _ rfl)
  | true => exact (removed.call (deaf _ rfl)).call (deaf _ rfl)

theorem checkBuffer (waiting : mux.Waiting hear) (deaf : Deaf hear) (buf : Bytes) (size : Nat)
    (after : next.Waiting hear) : (mux.checkBuffer buf size next).Waiting hear := by
  unfold BPMux.checkBuffer
  split
  · exact waiting.call (deaf _ rfl)
  · exact after

/-- A header for another duplex than the first does not greet it. -/
theorem receive (waiting : mux.Waiting hear) (deaf : Deaf hear) (other : duplex.number ≠ 0)
    (elsewhere : duplex.chan ≠ 0) {byte : UInt8} (noData : HeaderType.ofByte byte ≠ .data)
    (buf : Bytes) : (mux.receive duplex byte buf).Waiting hear := by
  unfold BPMux.receive
  split
  · split
    · exact waiting.endDuplex deaf other elsewhere false
    · exact waiting.endDuplex deaf other elsewhere true
    · exact waiting.checkBuffer deaf buf 13 (waiting.call (deaf _ rfl))
    · exact waiting.checkBuffer deaf buf 13 (waiting.call (deaf _ rfl))
    · next data => exact absurd data noData
    · exact waiting.call (deaf _ rfl)
  · split
    · exact waiting.replace other elsewhere
    · exact waiting.replace other elsewhere
    · exact waiting.checkBuffer deaf buf 9 (waiting.call (deaf _ rfl))
    · refine waiting.checkBuffer deaf buf 9 ?_
      have greeted := (@replace _ _ _ { duplex with handshakeReceived := true } waiting other
        elsewhere).call (deaf _ (greeted_handshake other (buf.drop 9)))
      dsimp only
      split
      · exact @endDuplex _ _ _ { duplex with handshakeReceived := true } greeted deaf other
          elsewhere _
      · split
        · exact @endDuplex _ _ _ { duplex with handshakeReceived := true } greeted deaf other
            elsewhere _
        · exact greeted
    · exact waiting
    · exact waiting.call (deaf _ rfl)

/-- A new duplex has another channel than the first. -/
theorem add (waiting : mux.Waiting hear) {chan : Nat} (elsewhere : chan ≠ 0) :
    (mux.add chan).1.Waiting hear where
  reading := waiting.reading
  there := by
    obtain ⟨first, member, zero⟩ := waiting.there
    exact ⟨first, List.mem_append_left _ member, zero⟩
  untouched next member zero := by
    rcases List.mem_append.mp member with inside | last
    · exact waiting.untouched next inside zero
    · rw [List.mem_singleton.mp last] at zero
      exact absurd zero elsewhere
  numbered next member := by
    rcases List.mem_append.mp member with inside | last
    · exact waiting.numbered next inside
    · rw [List.mem_singleton.mp last]
      exact iff_of_false waiting.made.ne' elsewhere
  made := Nat.lt_succ_of_lt waiting.made
  silent := waiting.silent

theorem push (waiting : mux.Waiting hear) (deaf : Deaf hear) (number : Nat) (data : Bytes) :
    (mux.push number data).Waiting hear := by
  unfold BPMux.push
  split
  · exact waiting.call (deaf _ rfl)
  · exact waiting

/-- The application ends its side of a duplex, which may be the first one. -/
theorem finish (waiting : mux.Waiting hear) (unheard : hear (.removed duplex.number) = none)
    (member : duplex ∈ mux.duplexes) :
    (mux.checkRemove { duplex with finished := true }).Waiting hear := by
  by_cases zero : duplex.number = 0
  · have chan := (waiting.numbered duplex member).mp zero
    have untouched := waiting.untouched duplex member chan
    have stays : ({ duplex with finished := true } : BPDuplex).ended = false := untouched.ended
    rw [BPMux.checkRemove, stays, Bool.and_false, if_neg (by decide)]
    refine { waiting with there := ?_, untouched := ?_, numbered := ?_ }
    · exact ⟨_, List.mem_map.mpr ⟨duplex, member, if_pos rfl⟩, chan⟩
    · intro next inside nextZero
      obtain ⟨before, there, rfl⟩ := List.mem_map.mp inside
      split
      · exact ⟨untouched.handshakeReceived, untouched.endPending, untouched.errorEndPending, rfl⟩
      · next ne =>
          rw [if_neg ne] at nextZero
          exact waiting.untouched before there nextZero
    · intro next inside
      obtain ⟨before, there, rfl⟩ := List.mem_map.mp inside
      split
      · exact iff_of_true zero chan
      · exact waiting.numbered before there
  · exact @checkRemove _ _ _ { duplex with finished := true } waiting unheard zero fun chan =>
      zero ((waiting.numbered duplex member).mpr chan)

/-- The first duplex gets its handshake, and no end was pending. -/
theorem greet (waiting : mux.Waiting hear) (free : Nat) (handshakeData : Bytes) :
    (mux.processHeader config (handshakeMessage 0 free handshakeData)).Greeted hear
      handshakeData := by
  have chan : LengthSize.four.read (uint32BE 0 ++ uint32BE free ++ handshakeData) = 0 := by
    rw [List.append_assoc]
    exact read_uint32BE (by decide) _
  have long : ∀ size ≤ 9, ¬(1 :: (uint32BE 0 ++ uint32BE free ++ handshakeData)).length < size := by
    intro size small
    rw [List.length_cons, List.length_append, List.length_append, length_uint32BE, length_uint32BE]
    omega
  have data : (1 :: (uint32BE 0 ++ uint32BE free ++ handshakeData)).drop 9 = handshakeData := rfl
  have type : HeaderType.ofByte 1 = .handshake := rfl
  have message : handshakeMessage 0 free handshakeData =
      1 :: (uint32BE 0 ++ uint32BE free ++ handshakeData) := rfl
  rw [message, BPMux.processHeader, type, if_neg (by decide), BPMux.checkBuffer,
    if_neg (long 5 (by decide)), chan]
  dsimp only
  obtain ⟨duplex, found⟩ : ∃ duplex,
      mux.duplexes.find? (fun duplex => duplex.chan = 0) = some duplex := by
    obtain ⟨first, member, zero⟩ := waiting.there
    refine Option.isSome_iff_exists.mp (List.find?_isSome.mpr ⟨first, member, decide_eq_true zero⟩)
  have member := List.mem_of_find?_eq_some found
  have zero : duplex.chan = 0 := by simpa using List.find?_some found
  have untouched := waiting.untouched duplex member zero
  have number := (waiting.numbered duplex member).mpr zero
  rw [found]
  simp only [BPMux.receive, untouched.handshakeReceived, Bool.false_eq_true, if_false, type,
    BPMux.checkBuffer, if_neg (long 9 le_rfl), untouched.errorEndPending,
    untouched.endPending, data, number]
  refine ⟨?_, waiting.made, ?_⟩
  · intro next inside nextZero
    obtain ⟨before, there, rfl⟩ := List.mem_map.mp inside
    split
    · rfl
    · next ne =>
        rw [if_neg ne] at nextZero
        exact absurd nextZero ne
  · rw [heard_call]
    exact congrArg (· ++ _) waiting.silent

end Waiting

/-- A header keeps the carrier alive, or it comes in the place of a handshake that is delayed, or it
is for another channel than the first and announces no data. -/
def Elsewhere (message : Bytes) : Prop :=
  ∀ byte rest, message = byte :: rest → HeaderType.ofByte byte = .keepAlive ∨
    HeaderType.ofByte byte = .preHandshake ∨
    HeaderType.ofByte byte ≠ .data ∧ LengthSize.four.read rest ≠ 0

/-- The peer delays the handshake of the first duplex. -/
theorem Waiting.delay (waiting : mux.Waiting hear) (deaf : Deaf hear)
    (member : duplex ∈ mux.duplexes) (zero : duplex.chan = 0) {byte : UInt8}
    (type : HeaderType.ofByte byte = .preHandshake) (buf : Bytes) :
    (mux.receive duplex byte buf).Waiting hear := by
  have untouched := waiting.untouched duplex member zero
  simp only [BPMux.receive, untouched.handshakeReceived, Bool.false_eq_true, if_false, type]
  exact waiting.checkBuffer deaf buf 9 (waiting.call (deaf _ rfl))

/-- A header that is not for the first duplex leaves it waiting. -/
theorem Waiting.processHeader (waiting : mux.Waiting hear) (deaf : Deaf hear) {message : Bytes}
    (elsewhere : Elsewhere message) : (mux.processHeader config message).Waiting hear := by
  cases message with
  | nil => exact waiting.checkBuffer deaf [] 5 waiting
  | cons byte rest =>
      rw [BPMux.processHeader]
      split
      · exact waiting.call (deaf _ rfl)
      · next alive =>
          have kind := (elsewhere byte rest rfl).resolve_left alive
          have noData : HeaderType.ofByte byte ≠ .data := by
            rcases kind with delayed | ⟨noData, _⟩
            · rw [delayed]
              decide
            · exact noData
          refine waiting.checkBuffer deaf _ 5 ?_
          dsimp only
          split
          · next duplex found =>
              have member := List.mem_of_find?_eq_some found
              have same : duplex.chan = LengthSize.four.read rest := by
                simpa using List.find?_some found
              by_cases zero : duplex.chan = 0
              · have delayed := kind.resolve_right fun other => other.2 (same ▸ zero)
                exact waiting.delay deaf member zero delayed _
              · have other : duplex.number ≠ 0 := fun first =>
                  zero ((waiting.numbered duplex member).mp first)
                exact waiting.receive deaf other zero noData _
          · next missing =>
              have chan : LengthSize.four.read rest ≠ 0 := by
                obtain ⟨first, member, zero⟩ := waiting.there
                have ne : first.chan ≠ LengthSize.four.read rest := by
                  simpa using List.find?_eq_none.mp missing first member
                exact zero ▸ ne.symm
              split
              · exact waiting
              · split
                · exact waiting.call (deaf _ rfl)
                · have added := (waiting.add chan).call (deaf (.peerMultiplex mux.made) rfl)
                  exact added.receive deaf waiting.made.ne' chan noData _

namespace Greeted

variable (greeted : mux.Greeted hear handshakeData)

include greeted

theorem call {made : MuxCall} (unheard : hear made = none) :
    (mux.call made).Greeted hear handshakeData :=
  { greeted with heard := (heard_of_unheard unheard).trans greeted.heard }

theorem replace (received : duplex.number = 0 → duplex.handshakeReceived = true) :
    (mux.replace duplex).Greeted hear handshakeData :=
  { greeted with
    received := fun next member zero => by
      obtain ⟨before, inside, rfl⟩ := List.mem_map.mp member
      split at zero
      · next same =>
          rw [if_pos same]
          exact received zero
      · next ne =>
          rw [if_neg ne]
          exact greeted.received before inside zero }

theorem checkRemove (unheard : hear (.removed duplex.number) = none)
    (received : duplex.number = 0 → duplex.handshakeReceived = true) :
    (mux.checkRemove duplex).Greeted hear handshakeData := by
  unfold BPMux.checkRemove
  split
  · refine Greeted.call ?_ unheard
    exact { greeted with
      received := fun next member => greeted.received next (List.mem_filter.mp member).1 }
  · exact greeted.replace received

/-- The end of a duplex leaves the greeting as it was heard. -/
theorem endDuplex (deaf : Deaf hear)
    (received : duplex.number = 0 → duplex.handshakeReceived = true)
    (failed : Bool) : (mux.endDuplex duplex failed).Greeted hear handshakeData := by
  have removed := @checkRemove _ _ _ { duplex with ended := true } _ greeted (deaf _ rfl) received
  unfold BPMux.endDuplex
  cases failed with
  | false => exact removed.call (deaf _ rfl)
  | true => exact (removed.call (deaf _ rfl)).call (deaf _ rfl)

theorem checkBuffer (deaf : Deaf hear) (buf : Bytes) (size : Nat)
    (after : next.Greeted hear handshakeData) :
    (mux.checkBuffer buf size next).Greeted hear handshakeData := by
  unfold BPMux.checkBuffer
  split
  · exact greeted.call (deaf _ rfl)
  · exact after

/-- A header for a greeted mux greets nobody again. -/
theorem receive (deaf : Deaf hear) (received : duplex.number = 0 → duplex.handshakeReceived = true)
    (byte : UInt8) (buf : Bytes) : (mux.receive duplex byte buf).Greeted hear handshakeData := by
  unfold BPMux.receive
  split
  · split
    · exact greeted.endDuplex deaf received false
    · exact greeted.endDuplex deaf received true
    · exact greeted.checkBuffer deaf buf 13 (greeted.call (deaf _ rfl))
    · exact greeted.checkBuffer deaf buf 13 (greeted.call (deaf _ rfl))
    · exact { greeted with }
    · exact greeted.call (deaf _ rfl)
  · next fresh =>
      have other : duplex.number ≠ 0 := fun zero => fresh (received zero)
      split
      · exact greeted.replace fun zero => absurd zero other
      · exact greeted.replace fun zero => absurd zero other
      · exact greeted.checkBuffer deaf buf 9 (greeted.call (deaf _ rfl))
      · refine greeted.checkBuffer deaf buf 9 ?_
        have shaken := (@replace _ _ _ { duplex with handshakeReceived := true } _ greeted
          fun _ => rfl).call (deaf _ (greeted_handshake other (buf.drop 9)))
        dsimp only
        split
        · exact shaken.endDuplex deaf (fun _ => rfl) true
        · split
          · exact shaken.endDuplex deaf (fun _ => rfl) false
          · exact shaken
      · exact greeted
      · exact greeted.call (deaf _ rfl)

theorem add (chan : Nat) : (mux.add chan).1.Greeted hear handshakeData :=
  { greeted with
    received := fun next member zero => by
      rcases List.mem_append.mp member with inside | last
      · exact greeted.received next inside zero
      · rw [List.mem_singleton.mp last] at zero
        exact absurd zero greeted.made.ne'
    made := Nat.succ_pos _ }

/-- A later header greets nobody again. -/
theorem processHeader (deaf : Deaf hear) (message : Bytes) :
    (mux.processHeader config message).Greeted hear handshakeData := by
  cases message with
  | nil => exact greeted.checkBuffer deaf [] 5 greeted
  | cons byte rest =>
      rw [BPMux.processHeader]
      split
      · exact greeted.call (deaf _ rfl)
      · refine greeted.checkBuffer deaf _ 5 ?_
        dsimp only
        split
        · next duplex found =>
            have member := List.mem_of_find?_eq_some found
            exact greeted.receive deaf (greeted.received duplex member) _ _
        · split
          · exact greeted
          · split
            · exact greeted.call (deaf _ rfl)
            · exact ((greeted.add _).call (deaf _ rfl)).receive deaf
                (fun zero => absurd zero greeted.made.ne') _ _

theorem push (deaf : Deaf hear) (number : Nat) (data : Bytes) :
    (mux.push number data).Greeted hear handshakeData := by
  unfold BPMux.push
  split
  · exact greeted.call (deaf _ rfl)
  · exact greeted

theorem endHeader (deaf : Deaf hear) : (mux.endHeader config).Greeted hear handshakeData := by
  have next : (if mux.within config then mux.processHeader config mux.headerBuffers
      else mux.call (.error (text "header too big"))).Greeted hear handshakeData := by
    split
    · exact greeted.processHeader deaf _
    · exact greeted.call (deaf _ rfl)
  exact { next with }

/-- A greeted mux stays greeted whatever the carrier brings. -/
theorem write (deaf : Deaf hear) (piece : Piece) :
    (mux.write config piece).Greeted hear handshakeData := by
  unfold BPMux.write
  split
  · refine Greeted.push ?_ deaf _ _
    split
    · exact { greeted with }
    · exact greeted
  · have collected : (mux.collect config piece.data).Greeted hear handshakeData := by
      unfold BPMux.collect
      split
      · exact { greeted with }
      · exact greeted
    dsimp only
    split
    · exact collected.endHeader deaf
    · exact collected

theorem fail (deaf : Deaf hear) (message : JsString) :
    (mux.fail message).Greeted hear handshakeData :=
  { greeted with
    heard := by
      have quiet : ∀ told : List BPDuplex,
          (told.map fun duplex => MuxCall.duplexError duplex.number message).filterMap hear =
            [] := by
        intro told
        rw [List.filterMap_map, List.filterMap_eq_nil_iff]
        exact fun duplex _ => deaf _ rfl
      simp only [BPMux.heard, BPMux.fail, List.filterMap_append, quiet, List.append_nil]
      rw [List.filterMap_cons_none (deaf _ rfl), List.filterMap_nil, List.append_nil]
      exact greeted.heard }

end Greeted

/-- This message is the handshake of a channel. -/
def Opens (chan : Nat) (message : Bytes) : Prop :=
  ∃ byte rest, message = byte :: rest ∧ LengthSize.four.read rest = chan ∧
    HeaderType.ofByte byte = .handshake ∧ 9 ≤ message.length

/-- This message ends a channel. -/
def Ends (chan : Nat) (message : Bytes) : Prop :=
  ∃ byte rest, message = byte :: rest ∧ LengthSize.four.read rest = chan ∧
    (HeaderType.ofByte byte = .finish ∨ HeaderType.ofByte byte = .errorEnd)

/-- No message has ended the channel. -/
def Unended (past : List Bytes) (chan : Nat) : Prop := ∀ message ∈ past, ¬Ends chan message

/-- Nothing has ended the duplex, and nothing is about to. -/
structure Going (duplex : BPDuplex) : Prop where
  endPending : duplex.endPending = false
  errorEndPending : duplex.errorEndPending = false
  ended : duplex.ended = false

/-- The duplexes follow the messages so far. Without a limit each channel that was opened and has
not ended has a duplex that has got its handshake. -/
structure Channels (config : MuxConfig) (past : List Bytes) (mux : BPMux) : Prop where
  chans : (mux.duplexes.map BPDuplex.chan).Nodup
  numbers : (mux.duplexes.map BPDuplex.number).Nodup
  made : ∀ duplex ∈ mux.duplexes, duplex.number < mux.made
  going : ∀ duplex ∈ mux.duplexes, Unended past duplex.chan → Going duplex
  opened : config.maxOpen = 0 → ∀ chan, (∃ message ∈ past, Opens chan message) →
    Unended past chan → ∃ duplex ∈ mux.duplexes, duplex.chan = chan ∧
      duplex.handshakeReceived = true

namespace Channels

variable {past : List Bytes} {changed : BPDuplex} {message : Bytes} {byte : UInt8} {buf : Bytes}

/-- At first there is one duplex, which has got nothing. -/
theorem initial : Channels config [] (BPMux.initial [0]) where
  chans := List.nodup_singleton 0
  numbers := List.nodup_singleton 0
  made duplex member := by
    rw [List.mem_singleton.mp member]
    exact Nat.one_pos
  going duplex member _ := by
    rw [List.mem_singleton.mp member]
    exact ⟨rfl, rfl, rfl⟩
  opened _ _ := nofun

theorem call (channels : Channels config past mux) (made : MuxCall) :
    Channels config past (mux.call made) :=
  { channels with }

theorem checkBuffer (channels : Channels config past mux) (buf : Bytes) (size : Nat)
    (after : Channels config past next) : Channels config past (mux.checkBuffer buf size next) := by
  unfold BPMux.checkBuffer
  split
  · exact channels.call _
  · exact after

/-- A duplex is told apart by its number. -/
theorem eq_of_number (channels : Channels config past mux) {other : BPDuplex}
    (member : duplex ∈ mux.duplexes) (inside : other ∈ mux.duplexes)
    (same : other.number = duplex.number) : other = duplex :=
  List.inj_on_of_nodup_map channels.numbers inside member same

/-- A duplex is replaced by one with the same number and the same channel. -/
theorem replace (channels : Channels config past mux) (member : duplex ∈ mux.duplexes)
    (number : changed.number = duplex.number) (chan : changed.chan = duplex.chan)
    (kept : duplex.handshakeReceived = true → changed.handshakeReceived = true)
    (going : Unended past duplex.chan → Going changed) :
    Channels config past (mux.replace changed) := by
  have same {β : Type} (read : BPDuplex → β) (equal : read changed = read duplex) :
      (mux.replace changed).duplexes.map read = mux.duplexes.map read := by
    rw [BPMux.replace, List.map_map]
    apply List.map_congr_left
    intro other inside
    rw [Function.comp_apply]
    split
    · next is =>
        rw [equal, channels.eq_of_number member inside (is.trans number)]
    · rfl
  refine ⟨?_, ?_, ?_, ?_, fun unlimited name opens unended => ?_⟩
  · rw [same _ chan]
    exact channels.chans
  · rw [same _ number]
    exact channels.numbers
  · intro other inside
    obtain ⟨before, there, rfl⟩ := List.mem_map.mp inside
    split
    · rw [number]
      exact channels.made duplex member
    · exact channels.made before there
  · intro other inside unended
    obtain ⟨before, there, rfl⟩ := List.mem_map.mp inside
    by_cases same : before.number = changed.number
    · rw [if_pos same] at unended ⊢
      exact going (chan ▸ unended)
    · rw [if_neg same] at unended ⊢
      exact channels.going before there unended
  · obtain ⟨other, inside, is, received⟩ := channels.opened unlimited name opens unended
    refine ⟨_, List.mem_map.mpr ⟨other, inside, rfl⟩, ?_⟩
    split
    · next equal =>
        obtain rfl := channels.eq_of_number member inside (equal.trans number)
        exact ⟨chan.trans is, kept received⟩
    · exact ⟨is, received⟩

/-- A duplex is removed when it has ended. -/
theorem checkRemove (channels : Channels config past mux) (member : duplex ∈ mux.duplexes)
    (number : changed.number = duplex.number) (chan : changed.chan = duplex.chan)
    (kept : duplex.handshakeReceived = true → changed.handshakeReceived = true)
    (going : Unended past duplex.chan → Going changed) :
    Channels config past (mux.checkRemove changed) := by
  unfold BPMux.checkRemove
  split
  · next closes =>
      rw [Bool.and_eq_true] at closes
      refine Channels.call ?_ _
      refine ⟨?_, ?_, ?_, ?_, fun unlimited name opens unended => ?_⟩
      · exact channels.chans.sublist (List.filter_sublist.map _)
      · exact channels.numbers.sublist (List.filter_sublist.map _)
      · exact fun other inside => channels.made other (List.mem_filter.mp inside).1
      · exact fun other inside => channels.going other (List.mem_filter.mp inside).1
      · obtain ⟨other, inside, is, received⟩ := channels.opened unlimited name opens unended
        refine ⟨other, List.mem_filter.mpr ⟨inside, decide_eq_true fun equal => ?_⟩, is, received⟩
        obtain rfl := channels.eq_of_number member inside (equal.trans number)
        exact Bool.false_ne_true ((going (is ▸ unended)).ended.symm.trans closes.2)
  · exact channels.replace member number chan kept going

/-- A duplex ends with a message that ends its channel. -/
theorem endDuplex (channels : Channels config past mux) (member : duplex ∈ mux.duplexes)
    (number : changed.number = duplex.number) (chan : changed.chan = duplex.chan)
    (kept : duplex.handshakeReceived = true → changed.handshakeReceived = true)
    (closes : ¬Unended past duplex.chan) (failed : Bool) :
    Channels config past (mux.endDuplex changed failed) := by
  have removed := @checkRemove _ _ _ _ { changed with ended := true } channels member number chan
    kept fun unended => absurd unended closes
  unfold BPMux.endDuplex
  cases failed with
  | false => exact removed.call _
  | true => exact (removed.call _).call _

/-- A duplex is added on a channel that is not in use. -/
theorem add (channels : Channels config past mux) {chan : Nat}
    (unused : ∀ duplex ∈ mux.duplexes, duplex.chan ≠ chan) :
    Channels config past (mux.add chan).1 where
  chans := by
    simp only [BPMux.add, List.map_append, List.map_cons, List.map_nil]
    refine List.nodup_append.mpr ⟨channels.chans, List.nodup_singleton _, ?_⟩
    intro first inside last own
    obtain ⟨duplex, member, rfl⟩ := List.mem_map.mp inside
    rw [List.mem_singleton.mp own]
    exact unused duplex member
  numbers := by
    simp only [BPMux.add, List.map_append, List.map_cons, List.map_nil]
    refine List.nodup_append.mpr ⟨channels.numbers, List.nodup_singleton _, ?_⟩
    intro first inside last own
    obtain ⟨duplex, member, rfl⟩ := List.mem_map.mp inside
    rw [List.mem_singleton.mp own]
    exact (channels.made duplex member).ne
  made duplex inside := by
    rcases mem_concat.mp inside with member | rfl
    · exact (channels.made duplex member).trans (Nat.lt_succ_self _)
    · exact Nat.lt_succ_self _
  going duplex inside := by
    rcases mem_concat.mp inside with member | rfl
    · exact channels.going duplex member
    · exact fun _ => ⟨rfl, rfl, rfl⟩
  opened unlimited name opens unended := by
    obtain ⟨duplex, member, is⟩ := channels.opened unlimited name opens unended
    exact ⟨duplex, List.mem_append_left _ member, is⟩

/-- The end of a duplex comes with a message that ends its channel. -/
theorem receive (channels : Channels config past mux) (member : duplex ∈ mux.duplexes)
    (ends : HeaderType.ofByte byte = .finish ∨ HeaderType.ofByte byte = .errorEnd →
      ¬Unended past duplex.chan) :
    Channels config past (mux.receive duplex byte buf) := by
  unfold BPMux.receive
  split
  · split
    · next type => exact channels.endDuplex member rfl rfl id (ends (.inl type)) _
    · next type => exact channels.endDuplex member rfl rfl id (ends (.inr type)) _
    · exact channels.checkBuffer _ _ (channels.call _)
    · exact channels.checkBuffer _ _ (channels.call _)
    · exact { channels with }
    · exact channels.call _
  · split
    · next type =>
        exact channels.replace member rfl rfl id fun unended => absurd unended (ends (.inl type))
    · next type =>
        exact channels.replace member rfl rfl id fun unended => absurd unended (ends (.inr type))
    · exact channels.checkBuffer _ _ (channels.call _)
    · refine channels.checkBuffer _ _ ?_
      have greeted := (@replace _ _ _ _ { duplex with handshakeReceived := true } channels member
        rfl rfl (fun _ => rfl) fun unended =>
          have going := channels.going duplex member unended
          ⟨going.endPending, going.errorEndPending, going.ended⟩).call
            (.handshake duplex.number (buf.drop 9))
      have inside : { duplex with handshakeReceived := true } ∈
          (mux.replace { duplex with handshakeReceived := true }).duplexes :=
        List.mem_map.mpr ⟨duplex, member, if_pos rfl⟩
      dsimp only
      split
      · next pending =>
          refine greeted.endDuplex inside rfl rfl id (fun unended => ?_) _
          rw [(channels.going duplex member unended).errorEndPending] at pending
          cases pending
      · split
        · next pending =>
            refine greeted.endDuplex inside rfl rfl id (fun unended => ?_) _
            rw [(channels.going duplex member unended).endPending] at pending
            cases pending
        · exact greeted
    · exact channels
    · exact channels.call _

/-- The duplexes follow the header of a channel. -/
theorem processHeader (channels : Channels config past mux)
    (ends : ∀ byte rest, message = byte :: rest →
      HeaderType.ofByte byte = .finish ∨ HeaderType.ofByte byte = .errorEnd → message ∈ past) :
    Channels config past (mux.processHeader config message) := by
  cases message with
  | nil => exact channels.checkBuffer [] 5 channels
  | cons byte rest =>
      rw [BPMux.processHeader]
      split
      · exact channels.call _
      · refine channels.checkBuffer _ 5 ?_
        have closes (type : HeaderType.ofByte byte = .finish ∨ HeaderType.ofByte byte = .errorEnd) :
            ¬Unended past (LengthSize.four.read rest) := fun unended =>
          unended _ (ends byte rest rfl type) ⟨byte, rest, rfl, rfl, type⟩
        dsimp only
        split
        · next duplex found =>
            have same : duplex.chan = LengthSize.four.read rest := by
              simpa using List.find?_some found
            exact channels.receive (List.mem_of_find?_eq_some found) fun type => same ▸ closes type
        · next missing =>
            split
            · exact channels
            · split
              · exact channels.call _
              · have unused : ∀ duplex ∈ mux.duplexes, duplex.chan ≠ LengthSize.four.read rest := by
                  simpa using missing
                exact ((channels.add unused).call _).receive
                  (List.mem_append_right _ (List.mem_singleton_self _)) closes

/-- A message that opens no channel changes nothing about what was opened. -/
theorem extend (channels : Channels config past mux)
    (opens : config.maxOpen = 0 → ∀ chan, Opens chan message → Unended past chan →
      ∃ duplex ∈ mux.duplexes, duplex.chan = chan ∧ duplex.handshakeReceived = true) :
    Channels config (message :: past) mux := by
  refine { channels with going := ?_, opened := ?_ }
  · exact fun duplex member unended => channels.going duplex member fun other inside =>
      unended other (List.mem_cons_of_mem _ inside)
  · rintro unlimited chan ⟨other, inside, opened⟩ unended
    have before : Unended past chan := fun earlier inside =>
      unended earlier (List.mem_cons_of_mem _ inside)
    rcases List.mem_cons.mp inside with rfl | inside
    · exact opens unlimited chan opened before
    · exact channels.opened unlimited chan ⟨other, inside, opened⟩ before

/-- The duplex of a handshake has got it. -/
theorem opened_handshake (channels : Channels config past mux) (unlimited : config.maxOpen = 0)
    {chan : Nat} (opens : Opens chan message) (unended : Unended past chan) :
    ∃ duplex ∈ (mux.processHeader config message).duplexes, duplex.chan = chan ∧
      duplex.handshakeReceived = true := by
  obtain ⟨byte, rest, rfl, rfl, type, long⟩ := opens
  have five : ¬(byte :: rest).length < 5 := by omega
  have nine : ¬(byte :: rest).length < 9 := by omega
  have full : ¬(config.maxOpen > 0 ∧ mux.duplexes.length = config.maxOpen) := by
    rw [unlimited]
    exact fun both => Nat.lt_irrefl 0 both.1
  rw [BPMux.processHeader, type, if_neg (by decide), BPMux.checkBuffer, if_neg five]
  dsimp only
  split
  · next duplex found =>
      have member := List.mem_of_find?_eq_some found
      have same : duplex.chan = LengthSize.four.read rest := by simpa using List.find?_some found
      have going := channels.going duplex member (same ▸ unended)
      rw [BPMux.receive]
      split
      · next received =>
          rw [type]
          exact ⟨duplex, member, same, received⟩
      · simp only [type, BPMux.checkBuffer, if_neg nine, going.errorEndPending, going.endPending]
        exact ⟨_, List.mem_map.mpr ⟨duplex, member, if_pos rfl⟩, same, rfl⟩
  · rw [if_neg (by decide), if_neg full, BPMux.receive]
    simp only [BPMux.add, Bool.false_eq_true, if_false, type, BPMux.checkBuffer, if_neg nine]
    exact ⟨_, List.mem_map.mpr
      ⟨_, List.mem_append_right _ (List.mem_singleton_self _), if_pos rfl⟩, rfl, rfl⟩

/-- The duplexes follow each message that is processed. -/
theorem processed (channels : Channels config past mux) (message : Bytes) :
    Channels config (message :: past) (mux.processHeader config message) := by
  by_cases opens : ∃ chan, Opens chan message
  · obtain ⟨chan, byte, rest, rfl, same, type, long⟩ := opens
    have greeted : Channels config past (mux.processHeader config (byte :: rest)) := by
      refine channels.processHeader fun other others is ends => ?_
      obtain ⟨rfl, rfl⟩ := List.cons.inj is
      rw [type] at ends
      rcases ends with ends | ends <;> cases ends
    exact greeted.extend fun unlimited chan opens unended =>
      channels.opened_handshake unlimited opens unended
  · have extended : Channels config (message :: past) mux :=
      channels.extend fun _ chan opened => absurd ⟨chan, opened⟩ opens
    exact extended.processHeader fun _ _ _ _ => List.mem_cons_self

/-- The header of data for a channel that was opened and has not ended. -/
theorem reads (channels : Channels config past mux) (unlimited : config.maxOpen = 0) {chan : Nat}
    (opened : ∃ message ∈ past, Opens chan message) (unended : Unended past chan) {rest : Bytes}
    (type : HeaderType.ofByte byte = .data) (long : 4 ≤ rest.length)
    (same : LengthSize.four.read rest = chan) :
    ∃ number, mux.processHeader config (byte :: rest) =
      { mux with readingDuplex := some number } := by
  obtain ⟨duplex, member, is, received⟩ := channels.opened unlimited chan opened unended
  have found : mux.duplexes.find? (fun duplex => duplex.chan = LengthSize.four.read rest) =
      some duplex := by
    obtain ⟨other, found⟩ : ∃ other,
        mux.duplexes.find? (fun duplex => duplex.chan = LengthSize.four.read rest) = some other :=
      Option.isSome_iff_exists.mp
        (List.find?_isSome.mpr ⟨duplex, member, decide_eq_true (is.trans same.symm)⟩)
    have equal : other.chan = LengthSize.four.read rest := by simpa using List.find?_some found
    rw [found, List.inj_on_of_nodup_map channels.chans (List.mem_of_find?_eq_some found) member
      (equal.trans (same.trans is.symm))]
  have five : ¬(byte :: rest).length < 5 := by
    rw [List.length_cons]
    omega
  refine ⟨duplex.number, ?_⟩
  rw [BPMux.processHeader, type, if_neg (by decide), BPMux.checkBuffer, if_neg five]
  dsimp only
  rw [found]
  simp only [BPMux.receive, received, if_true, type]

/-- Data change no duplex. -/
theorem push (channels : Channels config past mux) (number : Nat) (data : Bytes) :
    Channels config past (mux.push number data) := by
  unfold BPMux.push
  split
  · exact channels.call _
  · exact channels

/-- The application ends its side of a duplex. -/
theorem finish (channels : Channels config past mux) (member : duplex ∈ mux.duplexes) :
    Channels config past (mux.checkRemove { duplex with finished := true }) :=
  channels.checkRemove member rfl rfl id fun unended =>
    have going := channels.going duplex member unended
    ⟨going.endPending, going.errorEndPending, going.ended⟩

end Channels

end BPMux

end Centro
