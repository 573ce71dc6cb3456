import Centro.Construction.Frame
import Centro.Proof.Replace

namespace Centro

open Library

/-- The string has no surrogate without a partner. -/
def WellFormed (string : JsString) : Prop := ∃ characters, string = Utf16.encode characters

variable {string first second : JsString}

/-- Two well-formed strings make a well-formed one. -/
theorem WellFormed.append (front : WellFormed first) (back : WellFormed second) :
    WellFormed (first ++ second) := by
  obtain ⟨early, rfl⟩ := front
  obtain ⟨late, rfl⟩ := back
  exact ⟨early ++ late, (Utf16.encode_append early late).symm⟩

/-- A buffer gives a well-formed string back. -/
theorem bufferToString_bufferFrom (wellFormed : WellFormed string) :
    bufferToString (bufferFrom string) = string := by
  obtain ⟨characters, rfl⟩ := wellFormed
  rw [bufferToString, bufferFrom, Utf16.decode_encode, Utf8.decode_encode]

/-- Well-formed pieces are joined to a well-formed string. -/
theorem WellFormed.join {glue : JsString} (glued : WellFormed glue) {pieces : List JsString}
    (each : ∀ piece ∈ pieces, WellFormed piece) : WellFormed (join glue pieces) := by
  induction pieces with
  | nil => exact ⟨[], rfl⟩
  | cons piece rest ih =>
      have here := each piece List.mem_cons_self
      have later := ih fun other member => each other (List.mem_cons_of_mem _ member)
      by_cases some : rest = []
      · simpa [some, Centro.join] using here
      · rw [join_cons _ _ some]
        exact (here.append glued).append later

/-- The server finds the tokens of a client again. -/
theorem tokens_getStokens {option : TokenOption} (nonempty : option.tokens ≠ [])
    (plain : ∀ token ∈ option.tokens, token ≠ [] ∧ codeUnit ',' ∉ token ∧ WellFormed token) :
    (Presented.joined (bufferToString (bufferFrom (getStokens option)))).tokens =
      some option.tokens := by
  have comma : text "," = [codeUnit ','] := rfl
  have wellFormed : WellFormed (getStokens option) :=
    .join ⟨[','], rfl⟩ fun token member => (plain token member).2.2
  have parts : split (text ",") (getStokens option) = option.tokens := by
    rw [getStokens, comma]
    exact split_join nonempty fun token member => (plain token member).2.1
  rw [bufferToString_bufferFrom wellFormed, Presented.tokens, parts, List.filter_eq_self.mpr]
  intro token member
  exact decide_eq_true (plain token member).1

theorem length_uint32BE (number : Nat) : (uint32BE number).length = 4 := rfl

/-- The length of a frame is read back. -/
theorem read_uint32BE {number : Nat} (small : number < 2 ^ 32) (rest : Bytes) :
    LengthSize.four.read (uint32BE number ++ rest) = number := by
  have byte : ∀ {value : Nat}, value < 256 → (UInt8.ofNat value).toNat = value :=
    fun below => UInt8.toNat_ofNat_of_lt' below
  have taken : (uint32BE number ++ rest).take LengthSize.four.bytes = uint32BE number := rfl
  rw [LengthSize.read, taken]
  simp only [uint32BE, List.map_cons, List.map_nil, List.foldl_cons, List.foldl_nil]
  rw [byte (by omega), byte (by omega), byte (by omega), byte (by omega)]
  omega

theorem LengthSize.bytes_pos (lengthSize : LengthSize) : 0 < lengthSize.bytes := by
  cases lengthSize <;> decide

/-- The length is in the first bytes. -/
theorem LengthSize.read_append {lengthSize : LengthSize} {size : Bytes}
    (whole : lengthSize.bytes ≤ size.length) (rest : Bytes) :
    lengthSize.read (size ++ rest) = lengthSize.read size := by
  rw [LengthSize.read, List.take_append_of_le_length whole, LengthSize.read]

variable {maxSize : Nat} {lengthSize : LengthSize} {message seen data rest : Bytes}

/-- The data complete a length that is larger than the maximum. -/
def Oversized (maxSize : Nat) (lengthSize : LengthSize) (seen data : Bytes) : Prop :=
  seen.length < lengthSize.bytes ∧ lengthSize.bytes ≤ (seen ++ data).length ∧
    0 < maxSize ∧ maxSize < lengthSize.read (seen ++ data)

/-- A complete length is not judged again. -/
theorem not_oversized_of_complete (complete : lengthSize.bytes ≤ seen.length) (data : Bytes) :
    ¬Oversized maxSize lengthSize seen data :=
  fun oversized => Nat.not_lt.mpr complete oversized.1

/-- The decoder holds what it has seen of a frame that is not complete. -/
structure Decoder.Holds (seen : Bytes) (decoder : Decoder) : Prop where
  buffer : decoder.buffer.getD [] = seen
  frameLength : decoder.frameLength =
    if seen.length < decoder.lengthSize.bytes then none else some (decoder.lengthSize.read seen)
  incomplete : seen.length < decoder.lengthSize.bytes + decoder.lengthSize.read seen

/-- The decoder holds the data, refuses the length, or throws the first frame. -/
inductive Decoder.Transformed (maxSize : Nat) (lengthSize : LengthSize) (seen data : Bytes) :
    Decoder × Option Thrown → Prop where
  | held {next : Decoder} (same : next.lengthSize = lengthSize) (holds : next.Holds (seen ++ data))
      (fits : ¬Oversized maxSize lengthSize seen data) :
      Transformed maxSize lengthSize seen data (next, none)
  | refused {next : Decoder} {message : JsString}
      (oversized : Oversized maxSize lengthSize seen data) :
      Transformed maxSize lengthSize seen data (next, some (.error message))
  | framed {next : Decoder} (same : next.lengthSize = lengthSize)
      (fits : ¬Oversized maxSize lengthSize seen data)
      (complete : lengthSize.bytes + lengthSize.read (seen ++ data) ≤ (seen ++ data).length) :
      Transformed maxSize lengthSize seen data (next, some (.frame
        (((seen ++ data).drop lengthSize.bytes).take (lengthSize.read (seen ++ data)))))

/-- A decoder that knows the length holds the data or throws the frame. -/
theorem Decoder.cut_cases {decoder : Decoder} (same : decoder.lengthSize = lengthSize)
    (known : decoder.frameLength = some (lengthSize.read (seen ++ data)))
    (begun : lengthSize.bytes ≤ (seen ++ data).length)
    (fits : ¬Oversized maxSize lengthSize seen data) :
    Transformed maxSize lengthSize seen data
      (decoder.cut (lengthSize.read (seen ++ data)) (seen ++ data)) := by
  subst same
  unfold cut
  split
  · next short =>
      refine .held rfl ⟨rfl, ?_, short⟩ fits
      rw [if_neg (Nat.not_lt.mpr begun)]
      exact known
  · next long => exact .framed rfl fits (Nat.le_of_not_lt long)

/-- These are all cases of a chunk. -/
theorem Decoder.transform_cases {decoder : Decoder} (holds : decoder.Holds seen) (data : Bytes) :
    Transformed maxSize decoder.lengthSize seen data (decoder.transform maxSize data) := by
  unfold transform
  by_cases empty : data = []
  · rw [if_pos empty, empty]
    refine .held rfl (by rwa [List.append_nil]) fun oversized => ?_
    have few := oversized.1
    have many := oversized.2.1
    rw [List.append_nil] at many
    omega
  rw [if_neg empty, holds.buffer]
  dsimp only
  rw [holds.frameLength]
  by_cases short : seen.length < decoder.lengthSize.bytes
  · rw [if_pos short]
    dsimp only
    by_cases few : (seen ++ data).length < decoder.lengthSize.bytes
    · rw [if_pos few]
      refine .held rfl ⟨rfl, ?_, Nat.lt_add_right _ few⟩ fun oversized =>
        Nat.not_lt.mpr oversized.2.1 few
      rw [if_pos few]
    · rw [if_neg few]
      split
      · next large => exact .refused ⟨short, Nat.le_of_not_lt few, large⟩
      · next small =>
          refine cut_cases rfl rfl (Nat.le_of_not_lt few) fun oversized => small ?_
          exact oversized.2.2
  · have begun : decoder.lengthSize.bytes ≤ seen.length := Nat.le_of_not_lt short
    rw [if_neg short, ← LengthSize.read_append begun data]
    refine cut_cases rfl rfl ?_ (not_oversized_of_complete begun data)
    rw [List.length_append]
    omega

/-- None of the reads completes a length that is larger than the maximum. -/
def Fits (maxSize : Nat) (lengthSize : LengthSize) (chunks reads : List Bytes) : Prop :=
  ∀ front data back, reads = front ++ data :: back →
    ¬Oversized maxSize lengthSize (chunks ++ front).flatten data

variable {chunks reads : List Bytes}

/-- The first read fits, and then the others. -/
theorem fits_cons : Fits maxSize lengthSize chunks (data :: reads) ↔
    ¬Oversized maxSize lengthSize chunks.flatten data ∧
      Fits maxSize lengthSize (chunks ++ [data]) reads := by
  constructor
  · intro fits
    refine ⟨by simpa using fits [] data reads rfl, fun front later back cut => ?_⟩
    have here := fits (data :: front) later back (by rw [cut, List.cons_append])
    simpa using here
  · rintro ⟨first, fits⟩ front later back cut
    cases front with
    | nil =>
        obtain ⟨rfl, rfl⟩ := List.cons.inj cut
        simpa using first
    | cons head front =>
        obtain ⟨rfl, rfl⟩ := List.cons.inj cut
        simpa using fits front later back rfl

/-- Behind a complete length everything fits. -/
theorem fits_of_complete (complete : lengthSize.bytes ≤ chunks.flatten.length) :
    Fits maxSize lengthSize chunks reads := by
  intro front data back _
  refine not_oversized_of_complete ?_ data
  rw [List.flatten_append, List.length_append]
  omega

namespace FrameReader

variable {reader : FrameReader}

/-- The reader still waits for the rest of the frame after it has read these chunks. -/
structure Waits (lengthSize : LengthSize) (chunks : List Bytes) (reader : FrameReader) : Prop where
  same : reader.decoder.lengthSize = lengthSize
  holds : reader.decoder.Holds chunks.flatten
  listening : reader.listening = true
  silent : reader.calls = []
  taken : reader.actions = chunks.map .read

/-- The reader has called back with the frame in these chunks and put back what is behind it. -/
structure Received (lengthSize : LengthSize) (chunks : List Bytes) (reader : FrameReader) :
    Prop where
  complete : lengthSize.bytes + lengthSize.read chunks.flatten ≤ chunks.flatten.length
  cleaned : reader.listening = false
  called : reader.calls =
    [.ok ((chunks.flatten.drop lengthSize.bytes).take (lengthSize.read chunks.flatten))]
  unshifted : reader.unshifted =
    chunks.flatten.drop (lengthSize.bytes + lengthSize.read chunks.flatten)
  taken : ∃ result, reader.actions =
    chunks.map .read ++ [.unshift reader.unshifted, .callback result]

/-- The reader has read what it has received. -/
theorem Received.read (received : reader.Received lengthSize chunks) : reader.reads = chunks := by
  obtain ⟨result, taken⟩ := received.taken
  rw [FrameReader.reads, taken, List.filterMap_append, List.filterMap_map]
  have each : FrameAction.data ∘ FrameAction.read = some := rfl
  rw [each, List.filterMap_some]
  exact List.append_nil _

/-- The reader has called back with an error after it has read these chunks. -/
structure Refused (chunks : List Bytes) (reader : FrameReader) : Prop where
  cleaned : reader.listening = false
  called : ∃ message, reader.calls = [.error message]
  taken : ∃ result, reader.actions = chunks.map .read ++ [.callback result]

/-- The reader waits for more, has received a frame, or goes on reading behind a length that is
larger than the maximum. -/
inductive Ran (maxSize : Nat) (lengthSize : LengthSize) (chunks reads : List Bytes)
    (reader : FrameReader) : Prop where
  | waits (waits : reader.Waits lengthSize (chunks ++ reads))
      (fits : Fits maxSize lengthSize chunks reads)
  | received {read unread : List Bytes} (cut : reads = read ++ unread)
      (received : reader.Received lengthSize (chunks ++ read))
      (fits : Fits maxSize lengthSize chunks reads)
  | refused {front back : List Bytes} {data : Bytes} {refused : FrameReader}
      (cut : reads = front ++ data :: back)
      (oversized : Oversized maxSize lengthSize (chunks ++ front).flatten data)
      (called : refused.Refused (chunks ++ front ++ [data]))
      (goes : reader = refused.onread maxSize back)

/-- These are all cases of several reads. -/
theorem onread_cases (waits : reader.Waits lengthSize chunks) (reads : List Bytes) :
    Ran maxSize lengthSize chunks reads (reader.onread maxSize reads) := by
  induction reads generalizing chunks reader with
  | nil =>
      refine .waits (by rwa [List.append_nil]) fun front data back cut => ?_
      simp at cut
  | cons data reads ih =>
      have taken : reader.actions ++ [FrameAction.read data] = (chunks ++ [data]).map .read := by
        rw [waits.taken, List.map_append]
        rfl
      have seen : chunks.flatten ++ data = (chunks ++ [data]).flatten := by simp
      unfold onread
      obtain transformed := @Decoder.transform_cases maxSize _ reader.decoder waits.holds data
      rw [waits.same] at transformed
      generalize reader.decoder.transform maxSize data = result at transformed
      cases transformed with
      | held same holds fits =>
          have next := @ih (chunks ++ [data]) { reader with
            decoder := _, actions := reader.actions ++ [.read data] }
            ⟨same, seen ▸ holds, waits.listening, waits.silent, taken⟩
          cases next with
          | waits later more =>
              exact .waits (by simpa using later) (fits_cons.mpr ⟨fits, more⟩)
          | @received read unread cut received more =>
              refine @Ran.received _ _ _ _ _ (data :: read) unread (by rw [cut, List.cons_append])
                ?_ (fits_cons.mpr ⟨fits, more⟩)
              simpa using received
          | @refused front back data' refused cut oversized called goes =>
              refine @Ran.refused _ _ _ _ _ (data :: front) back data' refused
                (by rw [cut, List.cons_append]) (by simpa using oversized) (by simpa using called) goes
      | refused oversized =>
          refine @Ran.refused _ _ _ _ _ [] reads data _ rfl (by simpa using oversized) ?_ rfl
          rw [List.append_nil]
          exact ⟨rfl, ⟨_, congrArg (· ++ _) waits.silent⟩, ⟨_, congrArg (· ++ _) taken⟩⟩
      | framed same fits complete =>
          rw [seen] at complete ⊢
          have long : ((chunks ++ [data]).flatten.drop lengthSize.bytes |>.take
              (lengthSize.read (chunks ++ [data]).flatten)).length =
                lengthSize.read (chunks ++ [data]).flatten := by
            rw [List.length_take, List.length_drop]
            omega
          refine @Ran.received _ _ _ _ _ [data] reads rfl ?_ ?_
          · refine ⟨complete, rfl, congrArg (· ++ _) waits.silent, ?_, ?_⟩
            · change (reader.decoder.buffer.getD [] ++ data).drop _ = _
              rw [waits.holds.buffer, seen, same, long]
            · exact ⟨_, (List.append_assoc _ _ _).trans (congrArg (· ++ _) taken)⟩
          · refine fits_cons.mpr ⟨fits, fits_of_complete ?_⟩
            omega

/-- A reader that has called back ignores further events. -/
theorem run_cleaned (cleaned : reader.listening = false) (events : List StreamEvent) :
    events.foldl (step maxSize) reader = reader := by
  induction events with
  | nil => rfl
  | cons event events ih =>
      have ignored : reader.step maxSize event = reader := by
        simp only [step, cleaned, Bool.false_eq_true, if_false]
      rw [List.foldl_cons, ignored, ih]

theorem step_readable (waits : reader.Waits lengthSize chunks) (reads : List Bytes) :
    reader.step maxSize (.readable reads) = reader.onread maxSize reads := by
  simp only [step, waits.listening, if_true]

/-- However the data of a stream are cut, the reader waits for more or has received a frame. -/
theorem run_cases (bursts : List (List Bytes)) {chunks : List Bytes} {reader : FrameReader}
    (waits : reader.Waits lengthSize chunks) (fits : Fits maxSize lengthSize chunks bursts.flatten) :
    ((bursts.map .readable).foldl (step maxSize) reader).Waits lengthSize
        (chunks ++ bursts.flatten) ∨
      ∃ read unread, bursts.flatten = read ++ unread ∧
        ((bursts.map .readable).foldl (step maxSize) reader).Received lengthSize
          (chunks ++ read) := by
  induction bursts generalizing chunks reader with
  | nil =>
      rw [List.flatten_nil, List.append_nil]
      exact .inl waits
  | cons reads bursts ih =>
      rw [List.map_cons, List.foldl_cons, step_readable waits, List.flatten_cons]
      cases onread_cases waits reads with
      | waits later _ =>
          have more : Fits maxSize lengthSize (chunks ++ reads) bursts.flatten := by
            intro front data back cut
            rw [List.append_assoc]
            refine fits (reads ++ front) data back ?_
            rw [List.flatten_cons, cut, List.append_assoc]
          rw [← List.append_assoc]
          rcases ih later more with further | ⟨read, unread, cut, received⟩
          · exact .inl further
          · refine .inr ⟨reads ++ read, unread, by rw [cut, List.append_assoc], ?_⟩
            rw [← List.append_assoc]
            exact received
      | @received read unread cut received _ =>
          refine .inr ⟨read, unread ++ bursts.flatten, by rw [cut, List.append_assoc], ?_⟩
          rw [run_cleaned received.cleaned]
          exact received
      | @refused front back data _ cut oversized _ _ =>
          refine absurd oversized (fits front data (back ++ bursts.flatten) ?_)
          rw [List.flatten_cons, cut, List.append_assoc]
          rfl

theorem waits_initial (lengthSize : LengthSize) :
    Waits lengthSize [] { decoder := { lengthSize } } := by
  refine ⟨rfl, ⟨rfl, (if_pos lengthSize.bytes_pos).symm, ?_⟩, rfl, rfl, rfl⟩
  exact Nat.lt_add_right _ lengthSize.bytes_pos

end FrameReader

/-- These bytes are the length of the message, which the maximum allows. -/
structure Sized (maxSize : Nat) (lengthSize : LengthSize) (size message : Bytes) : Prop where
  bytes : size.length = lengthSize.bytes
  names : lengthSize.read size = message.length
  allowed : maxSize = 0 ∨ message.length ≤ maxSize

namespace Sized

variable {size later : Bytes}

/-- As soon as the length is complete, it is the length of the message. -/
theorem read_eq (sized : Sized maxSize lengthSize size message)
    (begun : lengthSize.bytes ≤ seen.length) (behind : seen ++ later = size ++ message ++ rest) :
    ∃ tail, seen = size ++ tail ∧ lengthSize.read seen = message.length := by
  obtain ⟨tail, rfl⟩ : size <+: seen := by
    refine List.prefix_of_prefix_length_le ?_ (List.prefix_append seen later) ?_
    · rw [behind, List.append_assoc]
      exact List.prefix_append _ _
    · exact sized.bytes ▸ begun
  refine ⟨tail, rfl, ?_⟩
  rw [LengthSize.read_append (Nat.le_of_eq sized.bytes.symm), sized.names]

/-- A frame within the maximum fits however it is cut. -/
theorem fits (sized : Sized maxSize lengthSize size message)
    (brought : reads.flatten = size ++ message ++ rest) : Fits maxSize lengthSize [] reads := by
  rintro front data back rfl ⟨_, begun, positive, large⟩
  rw [List.nil_append] at begun large
  have behind : front.flatten ++ data ++ back.flatten = size ++ message ++ rest := by
    simpa using brought
  obtain ⟨_, _, same⟩ := sized.read_eq begun behind
  have allowed := sized.allowed
  omega

/-- A reader that has received a frame of the stream has called back with the message and put back
what it has read of the rest. -/
theorem received {reader : FrameReader} (sized : Sized maxSize lengthSize size message)
    (received : reader.Received lengthSize chunks)
    (behind : chunks.flatten ++ later = size ++ message ++ rest) :
    reader.calls = [.ok message] ∧ reader.unshifted ++ later = rest := by
  obtain ⟨tail, seen, same⟩ := sized.read_eq (Nat.le_of_add_right_le received.complete) behind
  have complete := received.complete
  have called := received.called
  have unshifted := received.unshifted
  rw [seen, List.append_assoc, List.append_assoc] at behind
  have ahead := List.append_cancel_left behind
  rw [same, seen, List.length_append, sized.bytes, Nat.add_le_add_iff_left] at complete
  rw [same, seen, ← sized.bytes, List.drop_left] at called
  rw [same, seen, ← sized.bytes, ← List.drop_drop, List.drop_left] at unshifted
  obtain ⟨extra, rfl⟩ : message <+: tail := by
    refine List.prefix_of_prefix_length_le (List.prefix_append message rest) ?_ complete
    exact ahead ▸ List.prefix_append tail _
  rw [List.take_left] at called
  refine ⟨called, ?_⟩
  rw [unshifted, List.drop_left]
  rw [List.append_assoc] at ahead
  exact List.append_cancel_left ahead

end Sized

/-- The reader that gets a frame receives it. -/
theorem readFrame_received {size : Bytes} (sized : Sized maxSize lengthSize size message)
    {bursts : List (List Bytes)} (brought : bursts.flatten.flatten = size ++ message ++ rest)
    (events : List StreamEvent) : ∃ read unread, bursts.flatten = read ++ unread ∧
      (readFrame maxSize (bursts.map .readable ++ events) lengthSize).Received lengthSize read := by
  rw [readFrame, List.foldl_append]
  have cases := FrameReader.run_cases bursts (FrameReader.waits_initial lengthSize)
    (sized.fits brought)
  simp only [List.nil_append] at cases
  rcases cases with waits | ⟨read, unread, cut, received⟩
  · have short := waits.holds.incomplete
    have begun : lengthSize.bytes ≤ bursts.flatten.flatten.length := by
      rw [brought, List.append_assoc, List.length_append, sized.bytes]
      omega
    obtain ⟨tail, _, same⟩ := sized.read_eq begun ((List.append_nil _).trans brought)
    rw [waits.same, same, brought, List.length_append, List.length_append, sized.bytes] at short
    omega
  · refine ⟨read, unread, cut, ?_⟩
    rwa [FrameReader.run_cleaned received.cleaned]

/-- However the bytes of a frame are cut, the reader calls back once, with the message, and what it
puts back and does not read is what follows the frame. -/
theorem readFrame_exact {size : Bytes} (sized : Sized maxSize lengthSize size message)
    {bursts : List (List Bytes)} (brought : bursts.flatten.flatten = size ++ message ++ rest)
    (events : List StreamEvent) :
    (readFrame maxSize (bursts.map .readable ++ events) lengthSize).calls = [.ok message] ∧
      ∃ unread, bursts.flatten =
          (readFrame maxSize (bursts.map .readable ++ events) lengthSize).reads ++ unread ∧
        (readFrame maxSize (bursts.map .readable ++ events) lengthSize).unshifted ++
          unread.flatten = rest := by
  obtain ⟨read, unread, cut, received⟩ := readFrame_received sized brought events
  have behind : read.flatten ++ unread.flatten = size ++ message ++ rest := by
    rw [← List.flatten_append, ← cut, brought]
  obtain ⟨called, remains⟩ := sized.received received behind
  exact ⟨called, unread, by rw [received.read, cut], remains⟩

/-- The message has a frame that the decoder takes. -/
structure Sendable (maxSize : Nat) (message : Bytes) : Prop where
  small : message.length < 2 ^ 32
  allowed : maxSize = 0 ∨ message.length ≤ maxSize

/-- A message that can be sent fits the length of four bytes. -/
theorem Sendable.sized (sendable : Sendable maxSize message) :
    Sized maxSize .four (uint32BE message.length) message := by
  refine ⟨length_uint32BE _, ?_, sendable.allowed⟩
  have read := read_uint32BE sendable.small []
  rwa [List.append_nil] at read

/-- However the bytes of an encoded frame are cut, the reader calls back once, with the message. -/
theorem readFrame_encoded (sendable : Sendable maxSize message) {frame : Bytes}
    (encoded : encodeFrame message = some frame) {bursts : List (List Bytes)}
    (brought : bursts.flatten.flatten = frame ++ rest) (events : List StreamEvent) :
    (readFrame maxSize (bursts.map .readable ++ events)).calls = [.ok message] := by
  obtain rfl := Option.some.inj ((if_pos sendable.small).symm.trans encoded)
  obtain ⟨read, unread, cut, received⟩ := readFrame_received sendable.sized brought events
  have behind : read.flatten ++ unread.flatten =
      uint32BE message.length ++ message ++ rest := by
    rw [← List.flatten_append, ← cut, brought]
  exact (sendable.sized.received received behind).1

/-- The reader refuses a message that is too large. -/
theorem readFrame_refused (positive : 0 < maxSize) (large : maxSize < message.length) {frame : Bytes}
    (encoded : encodeFrame message = some frame) :
    (readFrame maxSize [.readable [frame]]).calls = [.error
      (text "Message is larger than the allowed maximum of " ++ text (toString maxSize))] := by
  unfold encodeFrame at encoded
  split at encoded
  · next small =>
      obtain rfl := Option.some.inj encoded
      have full : uint32BE message.length ++ message ≠ [] := by simp [uint32BE]
      have long : ¬(uint32BE message.length ++ message).length < LengthSize.four.bytes := by
        rw [List.length_append, length_uint32BE, LengthSize.bytes]
        omega
      simp only [readFrame, List.foldl_cons, List.foldl_nil, FrameReader.step, FrameReader.onread,
        Decoder.transform, full, Option.getD_none, List.nil_append, long,
        read_uint32BE small, gt_iff_lt, positive, large, and_self, if_true, if_false,
        FrameReader.cleanup]
  · cases encoded

theorem readFrame_exact_sample :
    (readFrame 8 ([[[2, 7], [8, 9]]].map .readable ++ [.ended]) .one).calls = [.ok [7, 8]] ∧
      ∃ unread, [[[2, 7], [8, 9]]].flatten =
          (readFrame 8 ([[[2, 7], [8, 9]]].map .readable ++ [.ended]) .one).reads ++ unread ∧
        (readFrame 8 ([[[2, 7], [8, 9]]].map .readable ++ [.ended]) .one).unshifted ++
          unread.flatten = [9] :=
  @readFrame_exact 8 .one [7, 8] [9] [2] ⟨rfl, rfl, .inr (by decide)⟩ [[[2, 7], [8, 9]]] rfl [.ended]

/-- A character of the first 128 has one byte. -/
theorem length_bufferFrom (ascii : ∀ unit ∈ string, unit.toNat < 0x80) :
    (bufferFrom string).length = string.length := by
  induction string with
  | nil => rfl
  | cons unit rest ih =>
      have here := ascii unit List.mem_cons_self
      have later := ih fun other member => ascii other (List.mem_cons_of_mem _ member)
      have code : (Char.ofNat unit.toNat).toNat = unit.toNat := by
        have valid : unit.toNat.isValidChar := .inl (by omega)
        rw [Char.ofNat, dif_pos valid]
        rfl
      rw [bufferFrom] at later ⊢
      rw [Utf16.decode_single (by omega), Utf8.encode, List.flatMap_cons, List.length_append,
        String.length_utf8EncodeChar, Char.utf8Size_eq_one_iff.mpr, List.length_cons, Nat.add_comm]
      · exact congrArg (· + 1) later
      · rw [UInt32.le_iff_toNat_le]
        change (Char.ofNat unit.toNat).toNat ≤ 127
        omega

end Centro
