import Centro.Construction.Mux
import Centro.Proof.Frame

namespace Centro

open Library

/-- The encoder writes a message so. -/
def frameOf (message : Bytes) : Bytes := uint32BE message.length ++ message

/-- An encoded message is short enough for its length. -/
theorem frameOf_of_encoded {message frame : Bytes} (encoded : encodeFrame message = some frame) :
    frame = frameOf message ∧ message.length < 2 ^ 32 := by
  unfold encodeFrame at encoded
  split at encoded
  · next small => exact ⟨(Option.some.inj encoded).symm, small⟩
  · cases encoded

theorem length_frameOf (message : Bytes) : (frameOf message).length = 4 + message.length := by
  rw [frameOf, List.length_append, length_uint32BE]

theorem Piece.pushed_of_ne {data : Bytes} (nonempty : data ≠ []) (frameEnd : Bool) :
    Piece.pushed { data, frameEnd } = [{ data, frameEnd }] :=
  if_neg nonempty

namespace FrameStream

variable {maxSize : Nat} {stream : FrameStream} {seen chunk later rest message : Bytes}

/-- The decoder has seen these bytes of a frame that is not complete. -/
inductive Holds : Bytes → FrameStream → Prop where
  | few {seen : Bytes} (few : seen.length < 4) : Holds seen { buffer := seen }
  | begun {seen : Bytes} {frame : OpenFrame} (begun : 4 ≤ seen.length)
      (length : frame.frameLength = LengthSize.four.read seen)
      (pos : frame.framePos = seen.length - 4) : Holds seen { openFrame := some frame }

/-- The length in front of a message is read back. -/
theorem read_frameOf (sendable : Sendable maxSize message) (rest : Bytes) :
    LengthSize.four.read (frameOf message ++ rest) = message.length := by
  rw [frameOf, List.append_assoc]
  exact read_uint32BE sendable.small _

/-- The length of a frame stands at its start. -/
theorem read_of_split (sendable : Sendable maxSize message) (begun : 4 ≤ seen.length)
    (split : seen ++ later = frameOf message ++ rest) :
    LengthSize.four.read seen = message.length := by
  rw [← @LengthSize.read_append .four _ begun later, split, read_frameOf sendable]

/-- What is seen behind the length begins the message. -/
theorem body_split (begun : 4 ≤ seen.length) (unfinished : seen.length ≤ (frameOf message).length)
    (split : seen ++ chunk = frameOf message ++ rest) :
    ∃ tail, message = seen.drop 4 ++ tail ∧ chunk = tail ++ rest := by
  have body : seen.drop 4 ++ chunk = message ++ rest := by
    rw [← List.drop_append_of_le_length begun, split, frameOf, List.append_assoc,
      List.drop_left' (length_uint32BE _)]
  rw [length_frameOf] at unfinished
  rcases List.append_eq_append_iff.mp body with ⟨tail, same, cut⟩ | ⟨tail, same, cut⟩
  · exact ⟨tail, same, cut⟩
  · have none : tail = [] := by
      have length := congrArg List.length same
      rw [List.length_append, List.length_drop] at length
      exact List.eq_nil_of_length_eq_zero (by omega)
    subst none
    exact ⟨[], by rw [List.append_nil, same, List.append_nil], cut.symm⟩

/-- A decoder at the start of a frame takes the frame. -/
theorem decodeFrames_frameOf (sendable : Sendable maxSize message) (nonempty : message ≠ [])
    (rest : Bytes) :
    decodeFrames maxSize (frameOf message ++ rest) =
      { decodeFrames maxSize rest with
        pieces := { data := message, frameEnd := true } ::
          (decodeFrames maxSize rest).pieces } := by
  have long : ¬(frameOf message ++ rest).length < 4 := by
    rw [List.length_append, length_frameOf]
    omega
  have allowed : ¬(maxSize > 0 ∧ message.length > maxSize) := by
    have := sendable.allowed
    omega
  have taken : ((frameOf message ++ rest).drop 4).take message.length = message := by
    rw [frameOf, List.append_assoc, List.drop_left' (length_uint32BE _), List.take_left]
  have left : (frameOf message ++ rest).drop (4 + message.length) = rest :=
    List.drop_left' (length_frameOf message)
  rw [decodeFrames, if_neg long]
  simp only [read_frameOf sendable, if_neg allowed, taken, left, Nat.lt_irrefl, dite_false,
    Piece.pushed_of_ne nonempty, List.singleton_append]

/-- A decoder at the start of a frame holds a part of it. -/
theorem decodeFrames_part (sendable : Sendable maxSize message) (more : later ≠ [])
    (split : seen ++ later = frameOf message) :
    ∃ stream, Holds seen stream ∧ decodeFrames maxSize seen =
      { pieces := Piece.pushed { data := seen.drop 4, frameEnd := false }, stream } := by
  have length := congrArg List.length split
  have positive := List.length_pos_iff.mpr more
  rw [List.length_append, length_frameOf] at length
  rw [decodeFrames]
  split
  · next few =>
      refine ⟨_, .few few, ?_⟩
      rw [List.drop_eq_nil_of_le (Nat.le_of_lt few)]
      rfl
  · next long =>
      have read := read_of_split sendable (Nat.le_of_not_lt long)
        (split.trans (List.append_nil _).symm)
      have allowed : ¬(maxSize > 0 ∧ message.length > maxSize) := by
        have := sendable.allowed
        omega
      have whole : (seen.drop 4).take message.length = seen.drop 4 :=
        List.take_of_length_le (by rw [List.length_drop]; omega)
      have unfinished : (seen.drop 4).length < message.length := by
        rw [List.length_drop]
        omega
      simp only [read, if_neg allowed, whole, dif_pos unfinished]
      exact ⟨_, .begun (Nat.le_of_not_lt long) read.symm (List.length_drop), rfl⟩

/-- The decoder hands on what the chunk completes and goes on behind it. -/
theorem transform_whole (holds : Holds seen stream) (sendable : Sendable maxSize message)
    (unfinished : seen.length < (frameOf message).length)
    (split : seen ++ chunk = frameOf message ++ rest) (nonempty : message ≠ []) :
    stream.transform maxSize chunk =
      { decodeFrames maxSize rest with
        pieces := { data := message.drop (seen.length - 4), frameEnd := true } ::
          (decodeFrames maxSize rest).pieces } := by
  have length := congrArg List.length split
  rw [List.length_append, List.length_append] at length
  rw [length_frameOf] at length unfinished
  cases holds with
  | few few =>
      have first : seen.length - 4 = 0 := by omega
      rw [transform, first, List.drop_zero]
      dsimp only
      rw [split, decodeFrames_frameOf sendable nonempty]
  | @begun frame begun known pos =>
      rw [read_of_split sendable begun split] at known
      obtain ⟨tail, same, rfl⟩ := body_split begun (by rw [length_frameOf]; omega) split
      have size : tail.length = message.length - (seen.length - 4) := by
        rw [same, List.length_append, List.length_drop]
        omega
      have complete : ¬frame.framePos + (tail ++ rest).length < frame.frameLength := by omega
      have left : frame.frameLength - frame.framePos = tail.length := by omega
      have body : message.drop (seen.length - 4) = tail := by
        rw [same]
        exact List.drop_left' List.length_drop
      have more : tail ≠ [] := List.ne_nil_of_length_pos (by omega)
      simp only [transform, dif_neg complete, left, List.take_left, List.drop_left, body,
        Piece.pushed_of_ne more, List.singleton_append]

/-- The decoder hands on a part of a frame that the chunk does not complete. -/
theorem transform_part (holds : Holds seen stream) (sendable : Sendable maxSize message)
    (more : later ≠ []) (split : seen ++ chunk ++ later = frameOf message) :
    ∃ next, Holds (seen ++ chunk) next ∧ stream.transform maxSize chunk =
      { pieces := Piece.pushed
          { data := (seen ++ chunk).drop (max 4 seen.length), frameEnd := false }
        stream := next } := by
  cases holds with
  | few few =>
      obtain ⟨next, holds, decoded⟩ := decodeFrames_part sendable more split
      refine ⟨next, holds, ?_⟩
      rw [transform, Nat.max_eq_left (Nat.le_of_lt few)]
      exact decoded
  | @begun frame begun known pos =>
      have length := congrArg List.length split
      have positive := List.length_pos_iff.mpr more
      rw [List.length_append, List.length_append, length_frameOf] at length
      have whole : seen ++ (chunk ++ later) = frameOf message ++ [] := by
        rw [← List.append_assoc, split, List.append_nil]
      rw [read_of_split sendable begun whole] at known
      have unfinished : frame.framePos + chunk.length < frame.frameLength := by omega
      have total : 4 ≤ (seen ++ chunk).length := by
        rw [List.length_append]
        omega
      have read := read_of_split sendable total (split.trans (List.append_nil _).symm)
      rw [Nat.max_eq_right begun, List.drop_left]
      simp only [transform, dif_pos unfinished]
      refine ⟨_, .begun total ?_ ?_, rfl⟩
      · exact known.trans read.symm
      · rw [List.length_append]
        dsimp only
        omega

end FrameStream

end Centro
