import Centro.Library.Trace
import Centro.Proof.Frame

namespace Centro

open Library

variable {maxSize : Nat} {lengthSize : LengthSize} {data : Bytes} {chunks reads : List Bytes}

/-- The reader calls back at most once and reads nothing afterwards. -/
def FrameReader.SettlesOnce (reader : FrameReader) : Prop :=
  reader.calls.length ≤ 1 ∧
    NeverAfter (fun action => action.isCallback = true) (fun action => action.isRead = true)
      reader.actions

/-- No data follow a length that is too large in the event that brings it. -/
def Orderly (maxSize : Nat) (lengthSize : LengthSize) (chunks : List Bytes)
    (events : List StreamEvent) : Prop :=
  ∀ before front data back after, events = before ++ .readable (front ++ data :: back) :: after →
    StreamEvent.ended ∉ before →
    Oversized maxSize lengthSize (chunks ++ before.flatMap StreamEvent.reads ++ front).flatten data →
      back = []

variable {events : List StreamEvent}

/-- Only the last of the data up to a length that is too large completes it. -/
theorem Oversized.last {front early back : List Bytes} {first : Bytes}
    (cut : front ++ [data] = early ++ first :: back)
    (oversized : Oversized maxSize lengthSize (chunks ++ front).flatten data)
    (completed : Oversized maxSize lengthSize (chunks ++ early).flatten first) : back = [] := by
  rcases List.eq_nil_or_concat back with none | ⟨middle, last, rfl⟩
  · exact none
  · have same : front = early ++ first :: middle := by
      rw [List.concat_eq_append, ← List.cons_append, ← List.append_assoc] at cut
      exact (List.append_inj' cut rfl).1
    have short := oversized.1
    have long := completed.2.1
    rw [same] at short
    simp only [List.flatten_append, List.flatten_cons, List.length_append] at short long
    omega

/-- The first reads are orderly, and then the later events. -/
theorem orderly_cons : Orderly maxSize lengthSize chunks (.readable reads :: events) ↔
    (∀ front data back, reads = front ++ data :: back →
      Oversized maxSize lengthSize (chunks ++ front).flatten data → back = []) ∧
      Orderly maxSize lengthSize (chunks ++ reads) events := by
  constructor
  · intro orderly
    constructor
    · rintro front data back rfl oversized
      exact orderly [] front data back events rfl List.not_mem_nil (by simpa using oversized)
    · rintro before front data back after rfl running oversized
      refine orderly (.readable reads :: before) front data back after rfl ?_ ?_
      · simpa using running
      · rw [List.flatMap_cons, StreamEvent.reads]
        simpa using oversized
  · rintro ⟨here, later⟩ before front data back after cut running oversized
    cases before with
    | nil =>
        obtain ⟨same, rfl⟩ := List.cons.inj cut
        exact here front data back (StreamEvent.readable.inj same) (by simpa using oversized)
    | cons event before =>
        obtain ⟨rfl, rfl⟩ := List.cons.inj cut
        refine later before front data back after rfl (fun member => running (.tail _ member)) ?_
        rw [List.flatMap_cons, StreamEvent.reads] at oversized
        simpa using oversized

/-- Behind a complete length all events are orderly. -/
theorem orderly_of_complete (complete : lengthSize.bytes ≤ chunks.flatten.length) :
    Orderly maxSize lengthSize chunks events := by
  intro before front data back after _ _ oversized
  refine absurd oversized (not_oversized_of_complete ?_ data)
  rw [List.append_assoc, List.flatten_append, List.length_append]
  omega

theorem orderly_ended : Orderly maxSize lengthSize chunks (.ended :: events) := by
  intro before front data back after cut running
  cases before with
  | nil => cases (List.cons.inj cut).1
  | cons event before =>
      obtain ⟨rfl, _⟩ := List.cons.inj cut
      exact absurd List.mem_cons_self running

namespace FrameReader

variable {reader : FrameReader}

/-- The listener only adds actions. -/
theorem onread_extends (reader : FrameReader) (reads : List Bytes) :
    reader.actions <+: (reader.onread maxSize reads).actions := by
  induction reads generalizing reader with
  | nil => exact List.prefix_refl _
  | cons data reads ih =>
      unfold onread
      dsimp only
      split
      · refine List.IsPrefix.trans ?_ (ih _)
        exact List.prefix_append _ _
      · exact (List.prefix_append _ _).trans
          ((List.prefix_append _ _).trans (List.prefix_append _ _))
      · refine List.IsPrefix.trans ?_ (ih _)
        exact (List.prefix_append _ _).trans (List.prefix_append _ _)

theorem onread_cleaned (cleaned : reader.listening = false) (reads : List Bytes) :
    (reader.onread maxSize reads).listening = false := by
  induction reads generalizing reader with
  | nil => exact cleaned
  | cons data reads ih =>
      unfold onread
      dsimp only
      split
      · exact ih cleaned
      · rfl
      · exact ih rfl

/-- The first of the data is read whatever the decoder makes of them. -/
theorem onread_reads (reader : FrameReader) (data : Bytes) (reads : List Bytes) :
    reader.actions ++ [.read data] <+: (reader.onread maxSize (data :: reads)).actions := by
  unfold onread
  dsimp only
  split
  · refine List.IsPrefix.trans ?_ (onread_extends _ _)
    exact List.prefix_refl _
  · exact (List.prefix_append _ _).trans (List.prefix_append _ _)
  · refine List.IsPrefix.trans ?_ (onread_extends _ _)
    exact List.prefix_append _ _

/-- A reader that reads first and calls back at the end settles once. -/
theorem settlesOnce_of_taken {last : List FrameAction} (few : reader.calls.length ≤ 1)
    (taken : reader.actions = chunks.map .read ++ last)
    (quiet : ∀ action ∈ last, action.isRead = false) : reader.SettlesOnce := by
  refine ⟨few, ?_⟩
  rw [taken, neverAfter_append]
  refine ⟨neverAfter_of_unmarked ?_, neverAfter_of_absent ?_, fun _ => ?_⟩
  · intro action member
    obtain ⟨data, _, rfl⟩ := List.mem_map.mp member
    exact Bool.false_ne_true
  · exact fun action member => ne_true_of_eq_false (quiet action member)
  · exact fun action member => ne_true_of_eq_false (quiet action member)

/-- A reader that waits has settled nothing yet. -/
theorem Waits.settlesOnce (waits : reader.Waits lengthSize chunks) : reader.SettlesOnce := by
  refine @settlesOnce_of_taken chunks _ [] ?_ ?_ ?_
  · rw [waits.silent]
    exact Nat.zero_le 1
  · rw [waits.taken, List.append_nil]
  · exact fun _ member => nomatch member

/-- A reader that has received its frame has settled once. -/
theorem Received.settlesOnce (received : reader.Received lengthSize chunks) :
    reader.SettlesOnce := by
  obtain ⟨result, taken⟩ := received.taken
  refine settlesOnce_of_taken ?_ taken (by simp [FrameAction.isRead, FrameAction.data])
  rw [received.called]
  exact Nat.le_refl 1

/-- A reader that has refused its frame has settled once. -/
theorem Refused.settlesOnce (refused : reader.Refused chunks) : reader.SettlesOnce := by
  obtain ⟨message, called⟩ := refused.called
  obtain ⟨result, taken⟩ := refused.taken
  refine settlesOnce_of_taken ?_ taken (by simp [FrameAction.isRead, FrameAction.data])
  rw [called]
  exact Nat.le_refl 1

/-- A reader that goes on after an error has not settled once. -/
theorem Refused.unsettled (refused : reader.Refused chunks) (data : Bytes) (reads : List Bytes) :
    ¬(reader.onread maxSize (data :: reads)).SettlesOnce := by
  rintro ⟨_, never⟩
  obtain ⟨result, taken⟩ := refused.taken
  obtain ⟨later, whole⟩ := @onread_reads maxSize reader data reads
  rw [← whole, taken, List.append_assoc, List.append_assoc, neverAfter_append] at never
  obtain ⟨_, never, _⟩ := never
  rw [neverAfter_append] at never
  exact never.2.2 ⟨.callback result, List.mem_singleton_self _, rfl⟩ (.read data) (by simp) rfl

/-- A reader settles once exactly when its events are orderly. -/
theorem settlesOnce_iff (events : List StreamEvent) {chunks : List Bytes} {reader : FrameReader}
    (waits : reader.Waits lengthSize chunks) :
    (events.foldl (step maxSize) reader).SettlesOnce ↔
      Orderly maxSize lengthSize chunks events := by
  induction events generalizing chunks reader with
  | nil =>
      refine iff_of_true waits.settlesOnce fun before front data back after cut => ?_
      simp at cut
  | cons event events ih =>
      rw [List.foldl_cons]
      cases event with
      | ended =>
          have stepped : reader.step maxSize .ended =
              reader.cleanup (.error (text "ended before frame")) := by
            simp only [step, waits.listening, if_true]
          have refused : (reader.step maxSize .ended).Refused chunks := by
            rw [stepped]
            exact ⟨rfl, ⟨_, congrArg (· ++ _) waits.silent⟩, ⟨_, congrArg (· ++ _) waits.taken⟩⟩
          rw [run_cleaned refused.cleaned]
          exact iff_of_true refused.settlesOnce orderly_ended
      | readable reads =>
          rw [step_readable waits, orderly_cons]
          cases onread_cases waits reads with
          | waits later fits =>
              rw [ih later, and_iff_right]
              exact fun front data back cut oversized => absurd oversized (fits front data back cut)
          | @received read unread cut received fits =>
              rw [run_cleaned received.cleaned]
              refine iff_of_true received.settlesOnce ⟨?_, orderly_of_complete ?_⟩
              · exact fun front data back cut oversized =>
                  absurd oversized (fits front data back cut)
              · have complete := received.complete
                rw [cut, ← List.append_assoc, List.flatten_append, List.length_append]
                omega
          | @refused front back data refused cut oversized called goes =>
              have begun : lengthSize.bytes ≤ (chunks ++ front ++ [data]).flatten.length := by
                have enough := oversized.2.1
                simpa using enough
              cases back with
              | nil =>
                  rw [goes, onread, run_cleaned called.cleaned, cut]
                  refine iff_of_true called.settlesOnce ⟨?_, orderly_of_complete ?_⟩
                  · exact fun early first rest same completed =>
                      Oversized.last same oversized completed
                  · rwa [← List.append_assoc]
              | cons next back =>
                  rw [goes, run_cleaned (onread_cleaned called.cleaned _)]
                  refine iff_of_false (called.unsettled next back) fun orderly => ?_
                  cases orderly.1 front data (next :: back) cut oversized

end FrameReader

/-- A reader settles once if no data follow a length that is too large, and only then. -/
theorem readFrame_settlesOnce_iff (maxSize : Nat) (lengthSize : LengthSize)
    (events : List StreamEvent) : (readFrame maxSize events lengthSize).SettlesOnce ↔
      Orderly maxSize lengthSize [] events :=
  FrameReader.settlesOnce_iff events (FrameReader.waits_initial lengthSize)

/-- A decoder that has refused a length goes on with the next data and calls back again. -/
theorem readFrame_unsettled :
    (readFrame 1 [.readable [[0, 0, 0, 2], [0, 0, 0, 0, 5, 6]]]).calls.length = 2 ∧
      ¬∀ (maxSize : Nat) (events : List StreamEvent) (lengthSize : LengthSize),
        (readFrame maxSize events lengthSize).SettlesOnce := by
  have twice : (readFrame 1 [.readable [[0, 0, 0, 2], [0, 0, 0, 0, 5, 6]]]).calls.length = 2 := by
    decide
  refine ⟨twice, fun all => ?_⟩
  have once := (all 1 [.readable [[0, 0, 0, 2], [0, 0, 0, 0, 5, 6]]] .four).1
  rw [twice] at once
  exact absurd once (by decide)

end Centro
