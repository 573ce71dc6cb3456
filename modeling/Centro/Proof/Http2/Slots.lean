import Centro.Proof.Http2.Tracked

namespace Centro

open Library

namespace Http2Streams

variable {number : Nat} {state : Http2Streams} {calls : List Http2Call} {listener : CloseListener}
  {waiting others : List CloseListener}

/-- A listener has its number with those called or with those that wait. -/
theorem perm_called : ((calls ++ [Http2Call.callback listener]).filterMap Http2Call.called ++
    waiting.map CloseListener.number).Perm
      (listener.number :: (calls.filterMap Http2Call.called ++
        waiting.map CloseListener.number)) := by
  rw [List.filterMap_append, List.append_assoc]
  exact List.perm_middle

/-- The listener that is called has waited. -/
theorem perm_waiting (perm : waiting.Perm (listener :: others)) :
    (calls.filterMap Http2Call.called ++ waiting.map CloseListener.number).Perm
      (listener.number :: (calls.filterMap Http2Call.called ++
        others.map CloseListener.number)) := by
  apply ((perm.map CloseListener.number).append_left _).trans
  exact List.perm_middle

theorem withoutSlot_filter (free : WithoutSlot waiting) (keep : CloseListener → Bool) :
    WithoutSlot (waiting.filter keep) :=
  fun other member => free other (List.mem_of_mem_filter member)

/-- A listener that is called does not wait any more. -/
theorem filter_erase (nodup : waiting.Nodup) (number : Nat) :
    (waiting.erase listener).filter (·.stream = number) =
      (waiting.filter (·.stream = number)).filter (· != listener) := by
  rw [nodup.erase_eq_filter, List.filter_comm]

/-- A call of a callback holds and frees no slot. -/
theorem holds_callback :
    Holds number (calls ++ [.callback listener]) ↔ Holds number calls :=
  holds_of_quiet rfl fun _ ended => nomatch (ended : false = true)

theorem active_callback : active (calls ++ [.callback listener]) = active calls :=
  active_of_quiet rfl fun _ ended => nomatch (ended : false = true)

/-- A callback keeps what the log knows while no listener is added. -/
theorem known_callback (known : state.Known) {listeners : Emitter CloseListener}
    (waits : ∀ other ∈ listeners.waiting, other ∈ state.listeners.waiting) (numStreams : Int)
    (registered : Nat) : Known ({ state with listeners, numStreams, registered }.call
      (.callback listener)) := by
  have fewer : Known { state with listeners, numStreams, registered } :=
    ⟨known.once, known.admissions, known.closed,
      fun other member => known.targets other (waits other member)⟩
  exact known_call fewer rfl nofun nofun

/-- A listener that frees no slot is called. -/
theorem tracked_notify (tracked : state.Tracked) {listeners : List CloseListener}
    (free : WithoutSlot listeners) :
    (state.notify (state.listeners.advance listeners)).Tracked := by
  cases advanced : state.listeners.advance listeners with
  | mk called emitter =>
      cases called with
      | none =>
          obtain ⟨rfl, -⟩ := Emitter.advance_eq_none advanced
          exact tracked
      | some listener =>
          have perm := Emitter.advance_perm advanced
          obtain ⟨skipped, rest, rfl, -, waits, rfl⟩ := Emitter.advance_eq_some advanced
          have slotless : listener.callback ≠ .slot := free listener (by simp)
          have nodup := tracked.numbered.waiting_nodup
          have slotted := tracked.slotted
          have numbers := perm_called.trans (@perm_waiting state.calls _ _ _ perm).symm
          refine ⟨known_callback tracked.known (fun _ => List.mem_of_mem_erase) _ _,
            ⟨numbers.nodup_iff.mpr tracked.numbered.nodup, fun number member => ?_⟩,
            ⟨?_, fun number holds => ?_, fun number idle => ?_, ?_⟩⟩
          · exact tracked.numbered.fresh number (numbers.mem_iff.mp member)
          · refine Eq.trans ?_ (congrArg Nat.cast active_callback.symm)
            exact (if_neg slotless).trans slotted.counted
          · obtain ⟨slot, after, shape, frees, clear⟩ :=
              slotted.slots number (holds_callback.mp holds)
            have different : slot ≠ listener := fun same => slotless (same ▸ frees)
            refine ⟨slot, after.filter (· != listener), ?_, frees, withoutSlot_filter clear _⟩
            apply (filter_erase nodup number).trans
            rw [← waitingFor, shape, List.filter_cons_of_pos (by simpa using different)]
          · have clear := slotted.free number (mt holds_callback.mpr idle)
            apply (congrArg WithoutSlot (filter_erase nodup number)).mpr
            exact withoutSlot_filter clear _
          · refine List.forall_mem_cons.mpr ⟨fun other member => ?_, slotted.emissions⟩
            exact free other (List.mem_append_right _ (List.mem_cons_of_mem _ member))

/-- A new call of `on_close` has a number of its own. -/
theorem Numbered.add (numbered : state.Numbered) {numbers : List Nat}
    (perm : numbers.Perm (state.registered :: (state.calls.filterMap Http2Call.called ++
      state.listeners.waiting.map CloseListener.number))) :
    numbers.Nodup ∧ ∀ number ∈ numbers, number < state.registered + 1 := by
  refine ⟨perm.nodup_iff.mpr (List.nodup_cons.mpr ⟨fun member => ?_, numbered.nodup⟩),
    fun number member => ?_⟩
  · exact Nat.lt_irrefl _ (numbered.fresh _ member)
  · rcases List.mem_cons.mp (perm.mem_iff.mp member) with rfl | member
    · exact Nat.lt_add_one _
    · exact Nat.lt_add_right 1 (numbered.fresh _ member)

/-- A stream that is closed has its callback called at once. -/
theorem tracked_enter (tracked : state.Tracked) (number : Nat) (callback : CloseCallback) :
    Tracked ({ state with
      listeners := state.listeners.enter
      registered := state.registered + 1 }.call
        (.callback { number := state.registered, stream := number, callback })) := by
  have slotted := tracked.slotted
  obtain ⟨nodup, fresh⟩ := tracked.numbered.add
    (@perm_called _ { number := state.registered, stream := number, callback } _)
  refine ⟨@known_callback _ _ tracked.known state.listeners.enter (fun _ => id) _ _,
    ⟨nodup, fresh⟩, ⟨?_, fun number holds => ?_, fun number idle => ?_, ?_⟩⟩
  · exact slotted.counted.trans (congrArg Nat.cast active_callback.symm)
  · exact slotted.slots number (holds_callback.mp holds)
  · exact slotted.free number (mt holds_callback.mpr idle)
  · exact List.forall_mem_cons.mpr ⟨nofun, slotted.emissions⟩

/-- A listener that frees no slot waits for the events of the stream. -/
theorem tracked_once (tracked : state.Tracked) {callback : CloseCallback}
    (slotless : callback ≠ .slot)
    (target : state.kindAt number = some .admitted ∨ state.kindAt number = some .duplex) :
    Tracked { state with
      listeners := state.listeners.once { number := state.registered, stream := number, callback }
      registered := state.registered + 1 } := by
  have known := tracked.known
  have slotted := tracked.slotted
  obtain ⟨nodup, fresh⟩ := tracked.numbered.add (@perm_waiting _
    { number := state.registered, stream := number, callback } _ _
    (List.perm_append_singleton _ state.listeners.waiting))
  generalize whole : ({ number := state.registered, stream := number, callback } : CloseListener) =
    listener at nodup fresh ⊢
  have grows (other : Nat) : (state.listeners.waiting ++ [listener]).filter (·.stream = other) =
      state.waitingFor other ++ [listener].filter (·.stream = other) := List.filter_append ..
  have clear (other : Nat) : WithoutSlot ([listener].filter (·.stream = other)) :=
    withoutSlot_filter (by
      rintro same inside
      obtain rfl := List.mem_singleton.mp inside
      exact whole ▸ slotless) _
  refine ⟨⟨known.once, known.admissions, known.closed, fun other waits => ?_⟩,
    ⟨nodup, fresh⟩, ⟨slotted.counted, fun other holds => ?_, fun other idle => ?_,
      slotted.emissions⟩⟩
  · rcases mem_concat.mp waits with waits | rfl
    · exact known.targets other waits
    · exact whole ▸ target
  · obtain ⟨slot, rest, shape, frees, free⟩ := slotted.slots other holds
    refine ⟨slot, rest ++ [listener].filter (·.stream = other), ?_, frees,
      fun after member => (List.mem_append.mp member).elim (free after) (clear other after)⟩
    exact (grows other).trans (by rw [shape, List.cons_append])
  · apply (congrArg WithoutSlot (grows other)).mpr
    exact fun after member =>
      (List.mem_append.mp member).elim (slotted.free other idle after) (clear other after)

/-- The log takes note of a stream that is admitted. -/
theorem known_admitted (known : state.Known) {kind : Http2Kind} {closed : Bool}
    (found : state.streams[number]? = some { kind, closed }) (notAdmitted : kind ≠ .admitted) :
    ((state.replace number { kind := .admitted, closed }).call
      (.admitted number closed)).Known := by
  have replaced := kindAt_replace found { kind := .admitted, closed }
  refine ⟨?_, fun other => ?_, fun other aborted emitted => ?_, fun listener waits => ?_⟩
  · change (List.filterMap Http2Call.started (state.calls ++ [_])).Nodup
    rw [List.filterMap_append]
    cases closed with
    | true => simpa [List.filterMap_cons, Http2Call.started] using known.once
    | false =>
        have absent : number ∉ state.calls.filterMap Http2Call.started := by
          intro member
          have is := (known.admissions number).mp ⟨false, Http2Call.mem_started.mp member⟩
          rw [kindAt_of_found found] at is
          exact notAdmitted (Option.some.inj is)
        exact (List.perm_append_singleton _ _).nodup_iff.mpr
          (List.nodup_cons.mpr ⟨absent, known.once⟩)
  · change _ ↔ (state.replace number { kind := .admitted, closed }).kindAt other = _
    rw [replaced]
    split
    · next same => exact iff_of_true ⟨closed, mem_concat.mpr (Or.inr (same ▸ rfl))⟩ rfl
    · next different =>
        refine (exists_congr fun closed => ?_).trans (known.admissions other)
        refine mem_concat.trans (or_iff_left fun same => ?_)
        exact different (Http2Call.admitted.inj same).1
  · have before := known.closed other aborted ((mem_concat.mp emitted).resolve_right nofun)
    change (state.replace number { kind := .admitted, closed }).closedAt other = some true
    rw [closedAt_replace found]
    split
    · next same => rw [← before, same, closedAt_of_found found]
    · exact before
  · have target := known.targets listener waits
    change (state.replace number { kind := .admitted, closed }).kindAt _ = _ ∨
      (state.replace number { kind := .admitted, closed }).kindAt _ = _
    rw [replaced]
    split
    · exact Or.inl rfl
    · exact target

/-- A stream that is closed takes no slot. -/
theorem tracked_admitted (tracked : state.Tracked) {kind : Http2Kind}
    (found : state.streams[number]? = some { kind, closed := true })
    (notAdmitted : kind ≠ .admitted) :
    ((state.replace number { kind := .admitted, closed := true }).call
      (.admitted number true)).Tracked := by
  have known := known_admitted tracked.known found notAdmitted
  have slotted := tracked.slotted
  have quiet : ∀ other, (Http2Call.admitted number true).ended other = true →
      ¬Holds other state.calls := fun _ ended => nomatch (ended : false = true)
  have numbered := @numbered_call state tracked.numbered (.admitted number true) rfl
  refine ⟨known, ⟨numbered.nodup, numbered.fresh⟩,
    ⟨?_, fun other holds => ?_, fun other idle => ?_, slotted.emissions⟩⟩
  · exact slotted.counted.trans (congrArg Nat.cast (active_of_quiet rfl quiet).symm)
  · exact slotted.slots other ((holds_of_quiet rfl quiet).mp holds)
  · exact slotted.free other (mt (holds_of_quiet rfl quiet).mpr idle)

/-- A stream that is not closed takes a slot, and it has the listener that frees it. -/
theorem tracked_slot (tracked : state.Tracked) {kind : Http2Kind}
    (found : state.streams[number]? = some { kind, closed := false })
    (notAdmitted : kind ≠ .admitted) (notDuplex : kind ≠ .duplex) :
    Tracked { state with
      streams := state.streams.set number { kind := .admitted, closed := false }
      numStreams := state.numStreams + 1
      listeners :=
        state.listeners.once { number := state.registered, stream := number, callback := .slot }
      registered := state.registered + 1
      calls := state.calls ++ [.admitted number false] } := by
  have known := known_admitted tracked.known found notAdmitted
  have slotted := tracked.slotted
  have silent : state.calls.any (Http2Call.ended number) = false := by
    rw [Bool.eq_false_iff]
    intro ended
    obtain ⟨aborted, emitted⟩ := Http2Call.any_ended.mp ended
    have closed := tracked.known.closed number aborted emitted
    rw [closedAt_of_found found] at closed
    cases closed
  have alone : state.waitingFor number = [] := by
    refine List.filter_eq_nil_iff.mpr fun listener waits same => ?_
    have target := tracked.known.targets listener waits
    rw [of_decide_eq_true same, kindAt_of_found found] at target
    exact target.elim (fun is => notAdmitted (Option.some.inj is))
      (fun is => notDuplex (Option.some.inj is))
  have called := @filterMap_quiet state.calls Http2Call.called (.admitted number false) rfl
  have holds (other : Nat) : Holds other (state.calls ++ [.admitted number false]) ↔
      other = number ∨ Holds other state.calls := by
    have grown : (state.calls ++ [Http2Call.admitted number false]).filterMap Http2Call.started =
        state.calls.filterMap Http2Call.started ++ [number] := List.filterMap_append
    have same : (state.calls ++ [Http2Call.admitted number false]).any (Http2Call.ended other) =
        state.calls.any (Http2Call.ended other) := by
      rw [List.any_append]
      exact Bool.or_false _
    unfold Holds
    rw [grown, same, mem_concat]
    constructor
    · exact fun ⟨member, silent⟩ => member.elim (fun member => Or.inr ⟨member, silent⟩) Or.inl
    · rintro (rfl | ⟨member, silent⟩)
      · exact ⟨Or.inr rfl, silent⟩
      · exact ⟨Or.inl member, silent⟩
  obtain ⟨nodup, fresh⟩ := tracked.numbered.add (@perm_waiting _
    { number := state.registered, stream := number, callback := .slot } _ _
    (List.perm_append_singleton _ state.listeners.waiting))
  generalize whole :
    ({ number := state.registered, stream := number, callback := .slot } : CloseListener) =
      listener at nodup fresh ⊢
  have grows (other : Nat) : (state.listeners.waiting ++ [listener]).filter (·.stream = other) =
      state.waitingFor other ++ [listener].filter (·.stream = other) := List.filter_append ..
  refine ⟨⟨known.once, known.admissions, known.closed, fun other waits => ?_⟩,
    ⟨called ▸ nodup, called ▸ fresh⟩,
    ⟨?_, fun other held => ?_, fun other idle => ?_,
      slotted.emissions⟩⟩
  · rcases mem_concat.mp waits with waits | rfl
    · exact known.targets other waits
    · refine Or.inl ((kindAt_replace found { kind := .admitted, closed := false } _).trans ?_)
      rw [← whole]
      exact if_pos rfl
  · have more : active (state.calls ++ [.admitted number false]) = active state.calls + 1 :=
      outstanding_start rfl (fun _ => rfl) silent
    change state.numStreams + 1 = active _
    rw [more, slotted.counted]
    rfl
  · rcases (holds other).mp held with rfl | before
    · refine ⟨listener, [], (grows other).trans ?_, whole ▸ rfl, nofun⟩
      rw [alone, ← whole]
      simp
    · obtain ⟨slot, rest, shape, frees, free⟩ := slotted.slots other before
      have different : number ≠ other := by
        rintro rfl
        rw [alone] at shape
        cases shape
      refine ⟨slot, rest, (grows other).trans ?_, frees, free⟩
      rw [shape, ← whole]
      simp [different]
  · obtain ⟨different, idle⟩ := not_or.mp (mt (holds other).mpr idle)
    have same : (state.listeners.waiting ++ [listener]).filter (·.stream = other) =
        state.waitingFor other := by
      rw [grows, ← whole]
      simp [Ne.symm different]
    exact (congrArg WithoutSlot same).mpr (slotted.free other idle)

/-- The decision about a new stream keeps the streams tracked. -/
theorem tracked_newStream (tracked : state.Tracked) {kind : Http2Kind} {closed : Bool}
    (found : state.streams[number]? = some { kind, closed }) (notAdmitted : kind ≠ .admitted)
    (notDuplex : kind ≠ .duplex) : (state.newStream number closed).Tracked := by
  unfold newStream
  split
  · have replaced : (state.replace number { kind := .answered, closed }).Tracked :=
      tracked_replace tracked found (Or.inr ⟨notAdmitted, notDuplex, nofun⟩) id
    exact tracked_respond replaced number 503
  · cases closed with
    | false => exact tracked_slot tracked found notAdmitted notDuplex
    | true =>
        exact (tracked_enter (tracked_admitted tracked found notAdmitted) number .slot).recount
          (Int.add_sub_cancel state.numStreams 1)

/-- A listener without a slot keeps the slots tracked. -/
theorem tracked_onClose (tracked : state.Tracked) {callback : CloseCallback}
    (slotless : callback ≠ .slot)
    (target : state.kindAt number = some .admitted ∨ state.kindAt number = some .duplex)
    (closed : Bool) : (state.onClose number closed callback).Tracked := by
  cases closed with
  | false => exact tracked_once tracked slotless target
  | true => exact (tracked_enter tracked number callback).recount (if_neg slotless)

/-- The first event of a stream that holds a slot frees the slot before all else. -/
theorem tracked_release (tracked : state.Tracked) (holds : Holds number state.calls)
    (aborted : Bool) (closed : state.closedAt number = some true) :
    ((state.call (.emitted number aborted)).notify
      (state.listeners.advance (state.waitingFor number))).Tracked := by
  have known := tracked.known
  have slotted := tracked.slotted
  have nodup := tracked.numbered.waiting_nodup
  obtain ⟨slot, rest, shape, frees, clear⟩ := slotted.slots number holds
  have mine : slot ∈ state.waitingFor number := shape ▸ List.mem_cons_self
  have waits : slot ∈ state.listeners.waiting := List.mem_of_mem_filter mine
  have target : slot.stream = number := of_decide_eq_true (List.mem_filter.mp mine).2
  have absent : slot ∉ rest := fun member => clear slot member frees
  have advanced : state.listeners.advance (slot :: rest) = (some slot,
      { waiting := state.listeners.waiting.erase slot
        emissions := rest :: state.listeners.emissions }) := if_pos waits
  have ends (other : Nat) : (Http2Call.emitted number aborted).ended other = true ↔
      other = number := beq_iff_eq.trans eq_comm
  have emits : (state.call (.emitted number aborted)).Known := by
    refine known_call known rfl nofun fun other _ same => ?_
    exact (Http2Call.emitted.inj same).1 ▸ closed
  have holding (other : Nat) : Holds other (state.calls ++ [.emitted number aborted]) ↔
      other ≠ number ∧ Holds other state.calls := by
    unfold Holds
    rw [filterMap_quiet rfl, List.any_append, Bool.or_eq_false_iff]
    simp only [List.any_cons, List.any_nil, Bool.or_false, Bool.eq_false_iff, ne_eq, ends]
    tauto
  have fewer := outstanding_end rfl ends known.once holds.1 holds.2
  have numbers := (@perm_called (state.calls ++ [.emitted number aborted]) slot
    (state.listeners.waiting.erase slot)).trans
      (@perm_waiting (state.calls ++ [.emitted number aborted]) _ _ _
        (List.perm_cons_erase waits)).symm
  rw [@filterMap_quiet state.calls Http2Call.called _ rfl] at numbers
  rw [shape, advanced]
  refine ⟨known_callback emits (fun _ => List.mem_of_mem_erase) _ _,
    ⟨numbers.nodup_iff.mpr tracked.numbered.nodup, fun other member => ?_⟩,
    ⟨?_, fun other held => ?_, fun other idle => ?_, ?_⟩⟩
  · exact tracked.numbered.fresh other (numbers.mem_iff.mp member)
  · refine Eq.trans ?_ (congrArg Nat.cast active_callback.symm)
    apply (if_pos frees).trans
    have counted := slotted.counted
    change state.numStreams - 1 = active (state.calls ++ [.emitted number aborted])
    unfold active at counted ⊢
    omega
  · obtain ⟨different, held⟩ := (holding other).mp (holds_callback.mp held)
    obtain ⟨first, after, same, firstFrees, free⟩ := slotted.slots other held
    refine ⟨first, after, (filter_erase nodup other).trans ?_, firstFrees, free⟩
    rw [← waitingFor, ← same]
    refine List.filter_eq_self.mpr fun listener member => ?_
    have theirs : listener.stream = other := of_decide_eq_true (List.mem_filter.mp member).2
    apply bne_iff_ne.mpr
    rintro rfl
    exact different (theirs.symm.trans target)
  · apply (congrArg WithoutSlot (filter_erase nodup other)).mpr
    by_cases same : other = number
    · rw [same, ← waitingFor, shape]
      intro listener member
      obtain ⟨inside, kept⟩ := List.mem_filter.mp member
      exact clear listener ((List.mem_cons.mp inside).resolve_left (bne_iff_ne.mp kept))
    · refine withoutSlot_filter (slotted.free other fun held => idle ?_) _
      exact holds_callback.mpr ((holding other).mpr ⟨same, held⟩)
  · exact List.forall_mem_cons.mpr ⟨clear, slotted.emissions⟩

/-- The close of a stream keeps the streams tracked. -/
theorem tracked_emit (tracked : state.Tracked) {stream : Http2Stream}
    (found : state.streams[number]? = some stream) (aborted : Bool) :
    (state.emit number stream.kind aborted).Tracked := by
  have replaced : (state.replace number { kind := stream.kind, closed := true }).Tracked :=
    tracked_replace tracked found (Or.inl rfl) fun _ => rfl
  have closed : (state.replace number { kind := stream.kind, closed := true }).closedAt number =
      some true := (closedAt_replace found _ _).trans (if_pos rfl)
  by_cases holds : Holds number state.calls
  · exact tracked_release replaced holds aborted closed
  · have idle (other : Nat) (ended : (Http2Call.emitted number aborted).ended other = true) :
        ¬Holds other state.calls := by
      obtain rfl : number = other := eq_of_beq ended
      exact holds
    refine tracked_notify (tracked_call replaced rfl idle rfl (fun _ _ same => ?_) ?_)
      (tracked.slotted.free _ holds)
    · cases same
    · intro other _ same
      exact (Http2Call.emitted.inj same).1 ▸ closed

/-- The next close listener keeps the streams tracked. -/
theorem tracked_resume (tracked : state.Tracked)
    {resumed : Option CloseListener × Emitter CloseListener}
    (resumes : state.listeners.resume = some resumed) : (state.notify resumed).Tracked := by
  obtain ⟨rest, emissions, shape, rfl⟩ := Emitter.resume_eq_some resumes
  have free := tracked.slotted.emissions
  rw [shape] at free
  obtain ⟨first, others⟩ := List.forall_mem_cons.mp free
  have slotted := tracked.slotted
  have popped : Tracked { state with listeners := { state.listeners with emissions } } :=
    ⟨⟨tracked.known.once, tracked.known.admissions, tracked.known.closed, tracked.known.targets⟩,
      ⟨tracked.numbered.nodup, tracked.numbered.fresh⟩,
      ⟨slotted.counted, slotted.slots, slotted.free, others⟩⟩
  have notified := tracked_notify popped first
  cases advanced : ({ state.listeners with emissions } : Emitter CloseListener).advance rest with
  | mk called emitter =>
      rw [advanced] at notified
      cases called <;> exact notified

end Http2Streams
end Centro
