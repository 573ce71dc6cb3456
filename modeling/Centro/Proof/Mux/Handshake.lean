import Centro.Proof.Mux.Received

namespace Centro

open Library

/-- The message has a frame that the receiver takes. -/
structure Carriable (config : MuxConfig) (message : Bytes) : Prop where
  sendable : Sendable config.maxSize message
  nonempty : message ≠ []
  light : config.maxHeaderSize = 0 ∨ message.length < config.maxHeaderSize

variable {Heard : Type*} {hear : MuxCall → Option Heard} {config : MuxConfig} {mux : BPMux}
  {carried : CarriedMux} {seen chunk later rest message handshakeData : Bytes}

/-- A part of a light header is within the maximum. -/
theorem BPMux.within_of_light
    (light : config.maxHeaderSize = 0 ∨ message.length < config.maxHeaderSize)
    (part : mux.headerBuffers.length ≤ message.length) : mux.within config = true := by
  rw [BPMux.within, Bool.or_eq_true, decide_eq_true_eq, decide_eq_true_eq]
  omega

/-- The end of a duplex leaves the header that comes next and the duplex that is read alone. -/
theorem BPMux.checkRemove_kept (mux : BPMux) (duplex : BPDuplex) :
    (mux.checkRemove duplex).headerBuffers = mux.headerBuffers ∧
      (mux.checkRemove duplex).readingDuplex = mux.readingDuplex ∧
      { mux.checkRemove duplex with readingDuplex := none } =
        ({ mux with readingDuplex := none } : BPMux).checkRemove duplex := by
  unfold BPMux.checkRemove
  cases duplex.finished && duplex.ended with
  | false => exact ⟨rfl, rfl, rfl⟩
  | true => exact ⟨rfl, rfl, rfl⟩

/-- The last part of a header completes it. -/
theorem BPMux.write_last (reading : mux.readingDuplex = none) (carriable : Carriable config message)
    {begun : Nat} (collected : mux.headerBuffers = message.take begun) :
    mux.write config { data := message.drop begun, frameEnd := true } =
      { BPMux.processHeader config { mux with headerBuffers := message } message with
        headerBuffers := [] } := by
  have part : mux.headerBuffers.length ≤ message.length := by
    rw [collected, List.length_take]
    omega
  have whole : mux.collect config (message.drop begun) = { mux with headerBuffers := message } := by
    rw [BPMux.collect, if_pos (within_of_light carriable.light part), collected,
      List.take_append_drop]
  have fits : ({ mux with headerBuffers := message } : BPMux).within config = true :=
    within_of_light carriable.light le_rfl
  unfold BPMux.write
  split
  · next number busy =>
      rw [reading] at busy
      cases busy
  · simp only [whole, if_true, BPMux.endHeader, fits]

/-- The header of data for a channel that was opened and has not ended has its duplex read them. -/
theorem BPMux.reads_dataHeader {past : List Bytes} (channels : BPMux.Channels config past mux)
    (unlimited : config.maxOpen = 0) {chan : Nat} (small : chan < 2 ^ 32) (seq : Nat)
    (opened : ∃ message ∈ past, BPMux.Opens chan message) (unended : BPMux.Unended past chan) :
    ∃ number, BPMux.processHeader config mux (dataHeader chan seq) =
      { mux with readingDuplex := some number } := by
  have name : LengthSize.four.read (uint32BE chan ++ uint32BE seq) = chan :=
    read_uint32BE small _
  have long : 4 ≤ (uint32BE chan ++ uint32BE seq).length := by
    rw [List.length_append, length_uint32BE]
    omega
  rw [dataHeader, List.cons_append]
  exact channels.reads unlimited opened unended (show HeaderType.ofByte 4 = .data from rfl) long
    name

/-- Data leave the header that comes next and the duplex that is read alone. -/
theorem BPMux.push_kept (mux : BPMux) (number : Nat) (data : Bytes) :
    (mux.push number data).headerBuffers = mux.headerBuffers ∧
      (mux.push number data).readingDuplex = mux.readingDuplex ∧
      { mux.push number data with readingDuplex := none } =
        ({ mux with readingDuplex := none } : BPMux).push number data := by
  by_cases there : mux.duplexes.any (fun duplex => duplex.number = number && !duplex.ended) = true
  · have called : mux.push number data = mux.call (.push number data) := if_pos there
    have alone : ({ mux with readingDuplex := none } : BPMux).push number data =
        ({ mux with readingDuplex := none } : BPMux).call (.push number data) := if_pos there
    rw [called, alone]
    exact ⟨rfl, rfl, rfl⟩
  · have called : mux.push number data = mux := if_neg there
    have alone : ({ mux with readingDuplex := none } : BPMux).push number data =
        { mux with readingDuplex := none } := if_neg there
    rw [called, alone]
    exact ⟨rfl, rfl, rfl⟩

namespace CarriedMux

/-- The mux has a part of a header, or it is reading data. -/
structure Collecting (config : MuxConfig) (hear : MuxCall → Option Heard) (past : List Bytes)
    (reading : Bool) (seen : Bytes) (carried : CarriedMux) : Prop where
  holds : FrameStream.Holds seen carried.inStream
  running : carried.failed = false
  collected : carried.mux.headerBuffers = if reading then [] else seen.drop 4
  reads : carried.mux.readingDuplex.isSome = reading
  waiting : BPMux.Waiting hear { carried.mux with readingDuplex := none }
  channels : BPMux.Channels config past carried.mux

namespace Collecting

variable {past : List Bytes}

theorem idle (collecting : carried.Collecting config hear past false seen) :
    carried.mux.readingDuplex = none :=
  Option.not_isSome_iff_eq_none.mp (Bool.eq_false_iff.mp collecting.reads)

theorem waits (collecting : carried.Collecting config hear past false seen) :
    carried.mux.Waiting hear := by
  have same : { carried.mux with readingDuplex := none } = carried.mux := by
    rw [← collecting.idle]
  exact same ▸ collecting.waiting

/-- A mux that is not in a frame waits for the next one. -/
theorem fresh (waiting : mux.Waiting hear) (channels : BPMux.Channels config past mux)
    (none : mux.headerBuffers = []) : Collecting config hear past false [] { mux } where
  holds := .few (by decide)
  running := rfl
  collected := none
  reads := by
    rw [waiting.reading]
    rfl
  waiting := { waiting with reading := rfl }
  channels := channels

end Collecting

/-- A chunk that completes a header has the mux process it and goes on behind it. -/
theorem carry_whole {past : List Bytes}
    (collecting : carried.Collecting config hear past false seen)
    (carriable : Carriable config message)
    (unfinished : seen.length < (frameOf message).length)
    (split : seen ++ chunk = frameOf message ++ rest) :
    carried.carry config chunk = CarriedMux.carry config
      { mux :=
          { BPMux.processHeader config { carried.mux with headerBuffers := message } message with
            headerBuffers := [] } } rest := by
  have collected : carried.mux.headerBuffers = message.take (seen.length - 4) := by
    rw [collecting.collected, if_neg Bool.false_ne_true]
    by_cases begun : 4 ≤ seen.length
    · obtain ⟨tail, same, _⟩ := FrameStream.body_split begun (Nat.le_of_lt unfinished) split
      rw [same]
      exact (List.take_left' List.length_drop).symm
    · have none : seen.length - 4 = 0 := by omega
      rw [none, List.take_zero, List.drop_eq_nil_of_le (by omega)]
  rw [carry, carry, FrameStream.transform_whole collecting.holds carriable.sendable unfinished split
    carriable.nonempty]
  simp only [List.foldl_cons, BPMux.write_last collecting.idle carriable collected]
  rfl

/-- Behind a header that is not for the first duplex the mux waits for the next header. -/
theorem carry_header {past : List Bytes}
    (collecting : carried.Collecting config hear past false seen) (deaf : Deaf hear)
    (carriable : Carriable config message) (elsewhere : BPMux.Elsewhere message)
    (unfinished : seen.length < (frameOf message).length)
    (split : seen ++ chunk = frameOf message ++ rest) :
    ∃ next : CarriedMux, carried.carry config chunk = next.carry config rest ∧
      next.Collecting config hear (message :: past) false [] := by
  have waiting : BPMux.Waiting hear { carried.mux with headerBuffers := message } :=
    { collecting.waits with }
  have channels : BPMux.Channels config past { carried.mux with headerBuffers := message } :=
    { collecting.channels with }
  have processed := @BPMux.Waiting.processHeader _ _ _ config waiting deaf _ elsewhere
  exact ⟨_, carry_whole collecting carriable unfinished split,
    .fresh { processed with } { channels.processed message with } rfl⟩

/-- Behind a header of data the mux reads these data. -/
theorem carry_dataHeader {past : List Bytes}
    (collecting : carried.Collecting config hear past false seen) {chan seq : Nat}
    (carriable : Carriable config (dataHeader chan seq)) (small : chan < 2 ^ 32)
    (unlimited : config.maxOpen = 0) (opened : ∃ message ∈ past, BPMux.Opens chan message)
    (unended : BPMux.Unended past chan)
    (unfinished : seen.length < (frameOf (dataHeader chan seq)).length)
    (split : seen ++ chunk = frameOf (dataHeader chan seq) ++ rest) :
    ∃ next : CarriedMux, carried.carry config chunk = next.carry config rest ∧
      next.Collecting config hear (dataHeader chan seq :: past) true [] := by
  have channels : BPMux.Channels config past
      { carried.mux with headerBuffers := dataHeader chan seq } := { collecting.channels with }
  obtain ⟨number, reads⟩ := BPMux.reads_dataHeader channels unlimited small seq opened unended
  have processed := channels.processed (dataHeader chan seq)
  rw [reads] at processed
  have whole := carry_whole collecting carriable unfinished split
  rw [reads] at whole
  exact ⟨_, whole, .few (by decide), rfl, rfl, rfl, { collecting.waiting with }, { processed with }⟩

/-- A chunk that completes data has a duplex get the rest of them, and the mux waits for the next
header. -/
theorem carry_data {past : List Bytes} (collecting : carried.Collecting config hear past true seen)
    (deaf : Deaf hear) (sendable : Sendable config.maxSize message) (nonempty : message ≠ [])
    (unfinished : seen.length < (frameOf message).length)
    (split : seen ++ chunk = frameOf message ++ rest) :
    ∃ next : CarriedMux, carried.carry config chunk = next.carry config rest ∧
      next.Collecting config hear past false [] := by
  obtain ⟨number, reading⟩ := Option.isSome_iff_exists.mp collecting.reads
  have kept := BPMux.push_kept { carried.mux with readingDuplex := none } number
    (message.drop (seen.length - 4))
  have idle : BPMux.Channels config past { carried.mux with readingDuplex := none } :=
    { collecting.channels with }
  refine ⟨{ mux := BPMux.push { carried.mux with readingDuplex := none } number
              (message.drop (seen.length - 4)) }, ?_,
    .fresh (collecting.waiting.push deaf number _) (idle.push number _)
      (kept.1.trans collecting.collected)⟩
  rw [carry, carry, FrameStream.transform_whole collecting.holds sendable unfinished split nonempty]
  simp only [List.foldl_cons, BPMux.write, reading, if_true]
  rfl

/-- A chunk that does not complete the header is collected. -/
theorem carry_part {past : List Bytes}
    (collecting : carried.Collecting config hear past false seen)
    (carriable : Carriable config message)
    (more : later ≠ []) (split : seen ++ chunk ++ later = frameOf message) :
    (carried.carry config chunk).Collecting config hear past false (seen ++ chunk) := by
  obtain ⟨next, holds, decoded⟩ :=
    FrameStream.transform_part collecting.holds carriable.sendable more split
  have before := collecting.collected
  rw [if_neg Bool.false_ne_true] at before
  have collected : carried.mux.headerBuffers ++ (seen ++ chunk).drop (max 4 seen.length) =
      (seen ++ chunk).drop 4 := by
    rw [before]
    by_cases begun : 4 ≤ seen.length
    · rw [Nat.max_eq_right begun, List.drop_left, List.drop_append_of_le_length begun]
    · have few : seen.length ≤ 4 := by omega
      rw [Nat.max_eq_left few, List.drop_eq_nil_of_le few, List.nil_append]
  have length : carried.mux.headerBuffers.length ≤ message.length := by
    have total := congrArg List.length split
    rw [List.length_append, List.length_append, length_frameOf] at total
    rw [before, List.length_drop]
    omega
  have within := BPMux.within_of_light carriable.light length
  rw [carry, decoded]
  dsimp only [Option.elim_none]
  by_cases empty : (seen ++ chunk).drop (max 4 seen.length) = []
  · rw [empty, List.append_nil] at collected
    rw [Piece.pushed, if_pos empty, List.foldl_nil]
    exact ⟨holds, rfl, collected, collecting.reads, collecting.waiting, collecting.channels⟩
  · rw [Piece.pushed_of_ne empty, List.foldl_cons, List.foldl_nil, BPMux.write, collecting.idle]
    simp only [Bool.false_eq_true, if_false, BPMux.collect, within, if_true]
    exact ⟨holds, rfl, collected, collecting.reads, { collecting.waiting with },
      { collecting.channels with }⟩

/-- A duplex gets the part of its data that a chunk brings. -/
theorem carry_data_part {past : List Bytes}
    (collecting : carried.Collecting config hear past true seen) (deaf : Deaf hear)
    (sendable : Sendable config.maxSize message)
    (more : later ≠ []) (split : seen ++ chunk ++ later = frameOf message) :
    (carried.carry config chunk).Collecting config hear past true (seen ++ chunk) := by
  obtain ⟨next, holds, decoded⟩ :=
    FrameStream.transform_part collecting.holds sendable more split
  obtain ⟨number, reading⟩ := Option.isSome_iff_exists.mp collecting.reads
  rw [carry, decoded]
  dsimp only [Option.elim_none]
  by_cases empty : (seen ++ chunk).drop (max 4 seen.length) = []
  · rw [Piece.pushed, if_pos empty, List.foldl_nil]
    exact ⟨holds, rfl, collecting.collected, collecting.reads, collecting.waiting,
      collecting.channels⟩
  · rw [Piece.pushed_of_ne empty, List.foldl_cons, List.foldl_nil, BPMux.write, reading]
    simp only [Bool.false_eq_true, if_false]
    have kept := BPMux.push_kept carried.mux number ((seen ++ chunk).drop (max 4 seen.length))
    refine ⟨holds, rfl, kept.1.trans collecting.collected, ?_, ?_, collecting.channels.push _ _⟩
    · rw [kept.2.1]
      exact collecting.reads
    · rw [kept.2.2]
      exact collecting.waiting.push deaf _ _

/-- A greeted mux stays greeted when the carrier brings more. -/
theorem greeted_carry (deaf : Deaf hear) (greeted : carried.mux.Greeted hear handshakeData)
    (chunk : Bytes) : (carried.carry config chunk).mux.Greeted hear handshakeData := by
  have written : ∀ (pieces : List Piece) (mux : BPMux), mux.Greeted hear handshakeData →
      (pieces.foldl (BPMux.write config) mux).Greeted hear handshakeData := by
    intro pieces
    induction pieces with
    | nil => exact fun _ greeted => greeted
    | cons piece pieces ih => exact fun mux greeted => ih _ (greeted.write deaf piece)
  have whole := written (carried.inStream.transform config.maxSize chunk).pieces carried.mux greeted
  rw [carry]
  cases (carried.inStream.transform config.maxSize chunk).error with
  | none => exact whole
  | some message => exact whole.fail deaf message

/-- Nothing comes behind the last chunk. -/
theorem carry_nil (mux : BPMux) : (carry config { mux } []).mux = mux := by
  have none : FrameStream.decodeFrames config.maxSize [] = { stream := { buffer := [] } } := by
    rw [FrameStream.decodeFrames, if_pos (by decide)]
  rw [carry, FrameStream.transform]
  simp only [List.append_nil, none, List.foldl_nil, Option.elim_none]

end CarriedMux

/-- The frames of some messages, one behind the other. -/
def wireOf (messages : List Bytes) : Bytes := messages.flatMap frameOf

theorem wireOf_append (first second : List Bytes) :
    wireOf (first ++ second) = wireOf first ++ wireOf second :=
  List.flatMap_append

/-- As far as both go, they are the same. -/
def Meets (bytes wire : Bytes) : Prop := bytes <+: wire ∨ wire <+: bytes

theorem Meets.of_append {front bytes wire : Bytes}
    (meets : Meets (front ++ bytes) (front ++ wire)) : Meets bytes wire :=
  meets.imp (List.prefix_append_right_inj front).mp (List.prefix_append_right_inj front).mp

/-- A frame is complete or still needs some bytes. -/
theorem Meets.cases {bytes front wire : Bytes} (meets : Meets bytes (front ++ wire)) :
    (∃ rest, bytes = front ++ rest) ∨ ∃ later, later ≠ [] ∧ bytes ++ later = front := by
  by_cases whole : front <+: bytes
  · obtain ⟨rest, same⟩ := whole
    exact .inl ⟨rest, same.symm⟩
  · have part : bytes <+: front := by
      rcases meets with short | long
      · have either := List.prefix_or_prefix_of_prefix (List.prefix_append front wire) short
        exact either.resolve_left whole
      · exact absurd ((List.prefix_append front wire).trans long) whole
    obtain ⟨later, same⟩ := part
    refine .inr ⟨later, fun empty => whole ?_, same⟩
    rw [← same, empty, List.append_nil]

/-- After some messages the peer sends headers that the receiver takes, and each of its data comes
behind a header of its own, on a channel whose handshake the peer has sent and which it has not
ended. -/
inductive Sent (config : MuxConfig) : List Bytes → Bool → List Bytes → Prop where
  | nil {past : List Bytes} : Sent config past false []
  | header {past rest : List Bytes} {message : Bytes} (carriable : Carriable config message)
      (elsewhere : BPMux.Elsewhere message) (later : Sent config (message :: past) false rest) :
      Sent config past false (message :: rest)
  | dataHeader {past rest : List Bytes} {chan seq : Nat}
      (carriable : Carriable config (dataHeader chan seq)) (small : chan < 2 ^ 32)
      (unlimited : config.maxOpen = 0) (opened : ∃ message ∈ past, BPMux.Opens chan message)
      (unended : BPMux.Unended past chan)
      (later : Sent config (dataHeader chan seq :: past) true rest) :
      Sent config past false (dataHeader chan seq :: rest)
  | data {past rest : List Bytes} {data : Bytes} (sendable : Sendable config.maxSize data)
      (nonempty : data ≠ []) (later : Sent config past false rest) :
      Sent config past true (data :: rest)

/-- The receiver takes all these messages, and none before the reply opens, ends or feeds the first
duplex. -/
structure Replied (config : MuxConfig) (before : List Bytes) (reply : Bytes) : Prop where
  sent : Sent config [] false before
  carriable : Carriable config reply

/-- The mux waits for the rest of a frame, or it has been greeted. -/
inductive Progress (config : MuxConfig) (hear : MuxCall → Option Heard) (before : List Bytes)
    (reply handshakeData bytes : Bytes) (carried : CarriedMux) : Prop where
  | waits {done left coming past : List Bytes} {reading : Bool} {message seen later : Bytes}
      (cut : before = done ++ left) (sent : Sent config past reading left)
      (first : left ++ [reply] = message :: coming) (more : later ≠ [])
      (split : seen ++ later = frameOf message) (total : bytes = wireOf done ++ seen)
      (collecting : carried.Collecting config hear past reading seen)
  | greeted (complete : wireOf (before ++ [reply]) <+: bytes)
      (greeted : carried.mux.Greeted hear handshakeData)

/-- All that is heard is the reply, or the carrier brings nothing but the reply. -/
def Undisturbed (hear : MuxCall → Option Heard) (before : List Bytes) (reply bytes : Bytes) :
    Prop :=
  Deaf hear ∨ before = [] ∧ bytes <+: wireOf (before ++ [reply])

theorem Undisturbed.deaf {before : List Bytes} {reply bytes : Bytes}
    (undisturbed : Undisturbed hear (message :: before) reply bytes) : Deaf hear :=
  undisturbed.resolve_right fun nothing => List.cons_ne_nil _ _ nothing.1

namespace Progress

variable {before past : List Bytes} {reading : Bool} {reply bytes : Bytes} {free : Nat}

/-- The same progress behind messages that are done. -/
theorem behind (done : List Bytes)
    (progress : Progress config hear before reply handshakeData bytes carried) :
    Progress config hear (done ++ before) reply handshakeData (wireOf done ++ bytes) carried := by
  cases progress with
  | @waits front left coming past reading message seen later cut sent first more split total
      collecting =>
      refine .waits (show _ = (done ++ front) ++ left from ?_) sent first more split ?_ collecting
      · rw [cut, List.append_assoc]
      · rw [total, wireOf_append, List.append_assoc]
  | greeted complete greeted =>
      refine .greeted ?_ greeted
      rw [List.append_assoc, wireOf_append]
      exact (List.prefix_append_right_inj _).mpr complete

/-- The same progress behind one message. -/
theorem cons (message : Bytes)
    (progress : Progress config hear before reply handshakeData bytes carried) :
    Progress config hear (message :: before) reply handshakeData (frameOf message ++ bytes)
      carried := by
  have wire : wireOf [message] = frameOf message := List.append_nil _
  exact wire ▸ progress.behind [message]

theorem length_frameOf_pos (message : Bytes) : 0 < (frameOf message).length := by
  rw [length_frameOf]
  omega

/-- The reply is complete, or the mux waits for the rest of it. -/
theorem last (carriable : Carriable config (handshakeMessage 0 free handshakeData))
    (collecting : carried.Collecting config hear past false seen)
    (unfinished : seen.length < (frameOf (handshakeMessage 0 free handshakeData)).length)
    (meets : Meets (seen ++ chunk) (wireOf ([] ++ [handshakeMessage 0 free handshakeData])))
    (undisturbed : Undisturbed hear [] (handshakeMessage 0 free handshakeData) (seen ++ chunk)) :
    Progress config hear [] (handshakeMessage 0 free handshakeData) handshakeData (seen ++ chunk)
      (carried.carry config chunk) := by
  have wire : wireOf ([] ++ [handshakeMessage 0 free handshakeData]) =
      frameOf (handshakeMessage 0 free handshakeData) := List.append_nil _
  rcases meets.cases with ⟨rest, whole⟩ | ⟨later, more, part⟩
  · have waiting : BPMux.Waiting hear { carried.mux with
        headerBuffers := handshakeMessage 0 free handshakeData } := { collecting.waits with }
    have greeted : BPMux.Greeted hear handshakeData { BPMux.processHeader config
        { carried.mux with headerBuffers := handshakeMessage 0 free handshakeData }
        (handshakeMessage 0 free handshakeData) with headerBuffers := [] } :=
      { @BPMux.Waiting.greet _ _ _ config waiting free handshakeData with }
    refine .greeted ⟨rest, wire ▸ whole.symm⟩ ?_
    rw [CarriedMux.carry_whole collecting carriable unfinished whole]
    rcases undisturbed with deaf | ⟨_, only⟩
    · exact CarriedMux.greeted_carry deaf greeted rest
    · have none : rest = [] := by
        have length := only.length_le
        rw [whole, wire, List.length_append] at length
        exact List.eq_nil_of_length_eq_zero (by omega)
      rw [none, CarriedMux.carry_nil]
      exact greeted
  · exact .waits (show [] = [] ++ [] from rfl) .nil rfl more part rfl
      (CarriedMux.carry_part collecting carriable more part)

/-- A frame is taken whole and the mux goes on behind it, or it waits for the rest of the frame. -/
theorem frame {message : Bytes} {rest : List Bytes}
    (sent : Sent config past reading (message :: rest))
    (meets : Meets (seen ++ chunk) (wireOf (message :: rest ++ [reply])))
    (whole : ∀ behind, seen ++ chunk = frameOf message ++ behind →
      Meets behind (wireOf (rest ++ [reply])) →
      Progress config hear rest reply handshakeData behind (carried.carry config chunk))
    (part : ∀ missing, missing ≠ [] → seen ++ chunk ++ missing = frameOf message →
      (carried.carry config chunk).Collecting config hear past reading (seen ++ chunk)) :
    Progress config hear (message :: rest) reply handshakeData (seen ++ chunk)
      (carried.carry config chunk) := by
  rcases meets.cases with ⟨behind, same⟩ | ⟨missing, more, split⟩
  · rw [same]
    exact (whole behind same (Meets.of_append (same ▸ meets))).cons message
  · exact .waits (show message :: rest = [] ++ _ from rfl) sent rfl more split rfl
      (part missing more split)

/-- However a chunk is cut, the mux takes the frames that it completes. -/
theorem carry (carriable : Carriable config (handshakeMessage 0 free handshakeData))
    (sent : Sent config past reading before)
    (collecting : carried.Collecting config hear past reading seen)
    (unfinished : ∀ message coming, before ++ [handshakeMessage 0 free handshakeData] =
      message :: coming → seen.length < (frameOf message).length)
    (meets : Meets (seen ++ chunk) (wireOf (before ++ [handshakeMessage 0 free handshakeData])))
    (undisturbed : Undisturbed hear before (handshakeMessage 0 free handshakeData)
      (seen ++ chunk)) :
    Progress config hear before (handshakeMessage 0 free handshakeData) handshakeData
      (seen ++ chunk) (carried.carry config chunk) := by
  have begins : ∀ {rest : List Bytes} (message : Bytes) (coming : List Bytes),
      rest ++ [handshakeMessage 0 free handshakeData] = message :: coming →
      ([] : Bytes).length < (frameOf message).length :=
    fun message _ _ => length_frameOf_pos message
  induction sent generalizing carried seen chunk with
  | nil => exact last carriable collecting (unfinished _ _ rfl) meets undisturbed
  | header fits elsewhere later ih =>
      refine frame (.header fits elsewhere later) meets (fun behind whole left => ?_)
        fun _ more part => CarriedMux.carry_part collecting fits more part
      obtain ⟨next, carries, fresh⟩ := CarriedMux.carry_header collecting undisturbed.deaf fits
        elsewhere (unfinished _ _ rfl) whole
      rw [carries]
      exact ih fresh begins left (.inl undisturbed.deaf)
  | dataHeader fits small unlimited opened unended later ih =>
      refine frame (.dataHeader fits small unlimited opened unended later) meets
        (fun behind whole left => ?_) fun _ more part =>
          CarriedMux.carry_part collecting fits more part
      obtain ⟨next, carries, fresh⟩ := CarriedMux.carry_dataHeader collecting fits small unlimited
        opened unended (unfinished _ _ rfl) whole
      rw [carries]
      exact ih fresh begins left (.inl undisturbed.deaf)
  | data sendable nonempty later ih =>
      refine frame (.data sendable nonempty later) meets (fun behind whole left => ?_)
        fun _ more part =>
          CarriedMux.carry_data_part collecting undisturbed.deaf sendable more part
      obtain ⟨next, carries, fresh⟩ := CarriedMux.carry_data collecting undisturbed.deaf sendable
        nonempty (unfinished _ _ rfl) whole
      rw [carries]
      exact ih fresh begins left (.inl undisturbed.deaf)

end Progress

/-- What a run has brought agrees with the wire, and the mux has made progress with it. -/
def Keeps (config : MuxConfig) (hear : MuxCall → Option Heard) (before : List Bytes) (free : Nat)
    (handshakeData : Bytes) (past : List CarriedMux.Event) (carried : CarriedMux) : Prop :=
  Meets (CarriedMux.brought past) (wireOf (before ++ [handshakeMessage 0 free handshakeData])) →
  Undisturbed hear before (handshakeMessage 0 free handshakeData) (CarriedMux.brought past) →
  Progress config hear before (handshakeMessage 0 free handshakeData) handshakeData
    (CarriedMux.brought past) carried

namespace Keeps

variable {before : List Bytes} {reply : Bytes} {free : Nat}

/-- At the start the mux waits for the first frame. -/
theorem initial (replied : Replied config before (handshakeMessage 0 free handshakeData)) :
    Keeps config hear before free handshakeData [] (CarriedMux.system config [0]).initial := by
  intro _ _
  obtain ⟨first, coming, cut⟩ : ∃ first coming,
      before ++ [handshakeMessage 0 free handshakeData] = first :: coming :=
    List.exists_cons_of_ne_nil (by simp)
  have more : frameOf first ≠ [] :=
    List.ne_nil_of_length_pos (Progress.length_frameOf_pos first)
  refine .waits (List.nil_append before).symm replied.sent cut more (List.nil_append _) rfl
    (.fresh ⟨rfl, ⟨_, List.mem_singleton_self _, rfl⟩, ?_, ?_, Nat.succ_pos _, rfl⟩ .initial rfl)
  · rintro duplex member -
    rw [List.mem_singleton.mp member]
    exact ⟨rfl, rfl, rfl, rfl⟩
  · intro duplex member
    rw [List.mem_singleton.mp member]

/-- The carrier brings a chunk. -/
theorem carry (replied : Replied config before (handshakeMessage 0 free handshakeData))
    {past : List CarriedMux.Event}
    (keeps : Keeps config hear before free handshakeData past carried) (nonempty : chunk ≠ []) :
    Keeps config hear before free handshakeData (past ++ [.carry chunk])
      (carried.carry config chunk) := by
  intro meets undisturbed
  have same : CarriedMux.brought (past ++ [.carry chunk]) = CarriedMux.brought past ++ chunk := by
    simp [CarriedMux.brought, List.filterMap_append, CarriedMux.Event.chunk]
  rw [same] at meets undisturbed ⊢
  have front := List.prefix_append (CarriedMux.brought past) chunk
  have met : Meets (CarriedMux.brought past)
      (wireOf (before ++ [handshakeMessage 0 free handshakeData])) := by
    rcases meets with short | long
    · exact .inl (front.trans short)
    · exact List.prefix_or_prefix_of_prefix front long
  have quiet : Undisturbed hear before (handshakeMessage 0 free handshakeData)
      (CarriedMux.brought past) :=
    undisturbed.imp id fun only => ⟨only.1, front.trans only.2⟩
  cases keeps met quiet with
  | @waits done left coming processed reading message seen later cut sent first more split total
      collecting =>
      subst cut
      rw [total, List.append_assoc] at meets undisturbed ⊢
      rw [List.append_assoc, wireOf_append] at meets
      refine .behind done (.carry replied.carriable sent collecting ?_
        meets.of_append (undisturbed.imp id fun only => ?_))
      · intro other others opens
        obtain ⟨rfl, rfl⟩ := List.cons.inj (first.symm.trans opens)
        have positive := List.length_pos_iff.mpr more
        rw [← split, List.length_append]
        omega
      · obtain ⟨none, all⟩ := only
        obtain ⟨rfl, rfl⟩ := List.append_eq_nil_iff.mp none
        exact ⟨rfl, all⟩
  | greeted complete greeted =>
      refine .greeted (complete.trans front) ?_
      rcases undisturbed with deaf | ⟨_, only⟩
      · exact CarriedMux.greeted_carry deaf greeted chunk
      · have length := (only.trans complete).length_le
        have positive := List.length_pos_iff.mpr nonempty
        rw [List.length_append] at length
        omega

/-- Every event keeps the progress. -/
theorem step (replied : Replied config before (handshakeMessage 0 free handshakeData))
    (unheard : ∀ number, hear (.removed number) = none) {past : List CarriedMux.Event}
    {event : CarriedMux.Event} {next : CarriedMux}
    (keeps : Keeps config hear before free handshakeData past carried)
    (stepped : (CarriedMux.system config [0]).step carried event = some next) :
    Keeps config hear before free handshakeData (past ++ [event]) next := by
  cases event with
  | carry chunk =>
      obtain ⟨running, same⟩ := Option.ite_none_left_eq_some.mp stepped
      obtain rfl := Option.some.inj same
      refine keeps.carry replied fun empty => running ?_
      rw [empty]
      exact Bool.or_true _
  | multiplex chan =>
      intro meets undisturbed
      have same : CarriedMux.brought (past ++ [.multiplex chan]) = CarriedMux.brought past := by
        simp [CarriedMux.brought, List.filterMap_append, CarriedMux.Event.chunk]
      rw [same] at meets undisturbed ⊢
      obtain ⟨_, stepped⟩ := Option.ite_none_left_eq_some.mp stepped
      obtain ⟨unused, stepped⟩ := Option.ite_none_left_eq_some.mp stepped
      obtain rfl := Option.some.inj stepped
      have absent : ∀ duplex ∈ carried.mux.duplexes, duplex.chan ≠ chan := fun duplex member is =>
        unused (List.any_eq_true.mpr ⟨duplex, member, decide_eq_true is⟩)
      cases keeps meets undisturbed with
      | waits cut sent first more split total collecting =>
          have elsewhere : chan ≠ 0 := fun zero => by
            obtain ⟨duplex, member, is⟩ := collecting.waiting.there
            exact absent duplex member (is.trans zero.symm)
          exact .waits cut sent first more split total ⟨collecting.holds, collecting.running,
            collecting.collected, collecting.reads,
            { BPMux.Waiting.add collecting.waiting elsewhere with },
            collecting.channels.add absent⟩
      | greeted complete greeted => exact .greeted complete (greeted.add chan)
  | finish number =>
      intro meets undisturbed
      have same : CarriedMux.brought (past ++ [.finish number]) = CarriedMux.brought past := by
        simp [CarriedMux.brought, List.filterMap_append, CarriedMux.Event.chunk]
      rw [same] at meets undisturbed ⊢
      obtain ⟨duplex, found, stepped⟩ := Option.bind_eq_some_iff.mp stepped
      obtain ⟨_, stepped⟩ := Option.ite_none_left_eq_some.mp stepped
      obtain rfl := Option.some.inj stepped
      have member := List.mem_of_find?_eq_some found
      cases keeps meets undisturbed with
      | waits cut sent first more split total collecting =>
          have kept := BPMux.checkRemove_kept carried.mux { duplex with finished := true }
          refine .waits cut sent first more split total ⟨collecting.holds, collecting.running,
            kept.1.trans collecting.collected, ?_, ?_, collecting.channels.finish member⟩
          · rw [kept.2.1]
            exact collecting.reads
          · rw [kept.2.2]
            exact collecting.waiting.finish (unheard _) member
      | greeted complete greeted =>
          have kept := @BPMux.Greeted.checkRemove _ _ _ { duplex with finished := true } _ greeted
            (unheard _) (greeted.received duplex member)
          exact .greeted complete kept

end Keeps

/-- Whatever the application does and however the bytes of the wire are cut, the handshake of the
first duplex is heard when all of its bytes are there and not before, and nothing else is heard. -/
theorem handshake_heard {before : List Bytes} {free : Nat}
    (replied : Replied config before (handshakeMessage 0 free handshakeData))
    (unheard : ∀ number, hear (.removed number) = none) {events : List CarriedMux.Event}
    (ran : (CarriedMux.system config [0]).run (CarriedMux.system config [0]).initial events =
      some carried)
    (meets : Meets (CarriedMux.brought events)
      (wireOf (before ++ [handshakeMessage 0 free handshakeData])))
    (undisturbed : Undisturbed hear before (handshakeMessage 0 free handshakeData)
      (CarriedMux.brought events)) :
    carried.mux.heard hear =
      if wireOf (before ++ [handshakeMessage 0 free handshakeData]) <+:
          CarriedMux.brought events then
        (hear (.handshake 0 handshakeData)).toList
      else [] := by
  have keeps : Keeps config hear before free handshakeData ([] ++ events) carried :=
    TransitionSystem.run_history (fun _ _ _ _ keeps stepped => keeps.step replied unheard stepped)
      (.initial replied) ran
  cases keeps meets undisturbed with
  | @waits done left coming past reading message seen later cut sent first more split total
      collecting =>
      rw [if_neg]
      · exact collecting.waiting.silent
      · intro complete
        have length := complete.length_le
        have positive := List.length_pos_iff.mpr more
        have total : CarriedMux.brought events = wireOf done ++ seen := total
        rw [total, cut, List.append_assoc, first, wireOf_append, wireOf, wireOf, List.flatMap_cons,
          ← split] at length
        simp only [List.length_append] at length
        omega
  | greeted complete greeted =>
      rw [if_pos (show _ <+: CarriedMux.brought events from complete)]
      exact greeted.heard

end Centro
