import Centro.Construction.Backoff

namespace Centro

open Library

namespace Backoff

variable {Arguments : Type*}

def responses (backoff : Backoff Arguments) : List (DelayedResponse Arguments) :=
  backoff.invoked.map Prod.fst

/-- A listener that is called adds its response. -/
@[simp] theorem responses_invoke (backoff : Backoff Arguments)
    (called : Option (DelayedResponse Arguments) × Emitter (DelayedResponse Arguments)) :
    (backoff.invoke called).responses = backoff.responses ++ called.1.toList := by
  cases called with
  | mk response drain => cases response <;> simp [invoke, responses]

@[simp] theorem invoke_completed (backoff : Backoff Arguments)
    (called : Option (DelayedResponse Arguments) × Emitter (DelayedResponse Arguments)) :
    (backoff.invoke called).completed = backoff.completed := rfl

@[simp] theorem invoke_drain (backoff : Backoff Arguments)
    (called : Option (DelayedResponse Arguments) × Emitter (DelayedResponse Arguments)) :
    (backoff.invoke called).drain = called.2 := rfl

variable [DecidableEq Arguments] {backoff before after state : Backoff Arguments}
  {event : Event Arguments} {response : DelayedResponse Arguments}

/-- The responses are invoked in the order in which the requests completed, and none of them while
the connection backs off. -/
structure Orderly (backoff : Backoff Arguments) : Prop where
  inOrder : backoff.responses <+: backoff.completed
  clear : ∀ invoked ∈ backoff.invoked, invoked.2 = false

/-- Each response is invoked at most once and with the arguments of a request that completed. All
have been invoked when no emission is in progress and the connection does not back off. -/
structure Faithful (backoff : Backoff Arguments) : Prop where
  once : backoff.responses.Nodup
  original : ∀ response ∈ backoff.responses, response ∈ backoff.completed
  released : backoff.boProp = false → backoff.drain.emissions = [] →
    ∀ response ∈ backoff.completed, response ∈ backoff.responses

/-- No request completes between responses that a drain still has to release, and no such response
is left when the connection backs off and a callback returns. -/
def Undisturbed (backoff : Backoff Arguments) : Event Arguments → Prop
  | .completed _ _ => backoff.boProp = true ∨ backoff.drain.waiting = []
  | .returned => backoff.boProp = false ∨ ∀ responses ∈ backoff.drain.emissions.head?,
      ∀ response ∈ responses, response ∉ backoff.drain.waiting
  | _ => True

/-- A response that completed was invoked or waits for `drain`, and the emissions keep the order of
those that wait. -/
structure Kept (backoff : Backoff Arguments) : Prop where
  numbers : backoff.completed.map DelayedResponse.number = List.range backoff.completed.length
  split : (backoff.responses ++ backoff.drain.waiting).Perm backoff.completed
  inside : ∀ responses ∈ backoff.drain.emissions, ∀ response ∈ responses,
    response ∈ backoff.completed
  ordered : backoff.drain.Ordered

/-- Completed requests are numbered apart. -/
theorem Kept.nodup (kept : backoff.Kept) : backoff.completed.Nodup := by
  apply List.Nodup.of_map DelayedResponse.number
  rw [kept.numbers]
  exact List.nodup_range

/-- No response was sent twice, and none waits twice. -/
theorem Kept.parts_nodup (kept : backoff.Kept) :
    backoff.responses.Nodup ∧ backoff.drain.waiting.Nodup := by
  have both := List.nodup_append.mp (kept.split.nodup_iff.mpr kept.nodup)
  exact ⟨both.1, both.2.1⟩

/-- A request that completes has a new number. -/
theorem Kept.fresh (kept : backoff.Kept) (new : response.number = backoff.completed.length) :
    response ∉ backoff.completed := by
  intro member
  have inside := List.mem_map_of_mem (f := DelayedResponse.number) member
  rw [kept.numbers, new, List.mem_range] at inside
  exact Nat.lt_irrefl _ inside

/-- An emission calls the first response that waits, or it ends. -/
theorem Kept.advance {listeners : List (DelayedResponse Arguments)} (kept : backoff.Kept)
    (first : listeners.filter (· ∈ backoff.drain.waiting) <+: backoff.drain.waiting)
    (inside : ∀ response ∈ listeners, response ∈ backoff.completed) :
    (backoff.invoke (backoff.drain.advance listeners)).Kept := by
  cases advanced : backoff.drain.advance listeners with
  | mk called drain =>
      cases called with
      | none =>
          obtain ⟨rfl, -⟩ := Emitter.advance_eq_none advanced
          exact ⟨kept.numbers, by simpa using kept.split, kept.inside, kept.ordered⟩
      | some response =>
          obtain ⟨waiting, ordered⟩ :=
            Emitter.ordered_advance kept.parts_nodup.2 kept.ordered first advanced
          refine ⟨kept.numbers, ?_, ?_, ordered⟩
          · have split := kept.split
            rw [waiting] at split
            simpa using split
          · intro others member
            rcases Emitter.emissions_advance advanced others member with old | some
            · exact kept.inside others old
            · exact fun other left => inside other (some other left)

/-- A delayed response waits behind the others. -/
theorem Kept.delayResponse (kept : backoff.Kept)
    (new : response.number = backoff.completed.length) : (backoff.delayResponse response).Kept := by
  have fresh := kept.fresh new
  have numbers : (backoff.completed ++ [response]).map DelayedResponse.number =
      List.range (backoff.completed ++ [response]).length := by
    rw [List.map_append, kept.numbers, List.length_append, List.length_singleton,
      List.range_succ, List.map_singleton, new]
  have inside : ∀ responses ∈ backoff.drain.emissions, ∀ other ∈ responses,
      other ∈ backoff.completed ++ [response] :=
    fun responses member other left =>
      List.mem_append_left _ (kept.inside responses member other left)
  unfold Backoff.delayResponse
  dsimp only
  split
  · refine ⟨numbers, ?_, inside, ?_⟩
    · have split := kept.split.append_right [response]
      rwa [List.append_assoc] at split
    · refine Emitter.ordered_once kept.ordered fun responses member left => ?_
      exact fresh (kept.inside responses member response left)
  · refine ⟨numbers, ?_, ?_, ?_⟩
    · have split := kept.split.append_right [response]
      rw [responses_invoke, List.append_assoc] at *
      refine List.Perm.trans ?_ split
      exact List.perm_append_comm.append_left _
    · intro responses member
      rcases List.mem_cons.mp member with rfl | member
      · exact fun _ left => (List.not_mem_nil left).elim
      · exact inside responses member
    · exact Emitter.ordered_enter kept.ordered

/-- The event `drain` only moves responses. -/
theorem Kept.drained (kept : backoff.Kept) : backoff.drained.Kept := by
  have clear : Kept { backoff with boProp := false } :=
    ⟨kept.numbers, kept.split, kept.inside, kept.ordered⟩
  refine clear.advance ?_ fun response waits => ?_
  · exact (Emitter.filter_waiting backoff.drain).symm ▸ List.prefix_rfl
  · exact kept.split.mem_iff.mp (List.mem_append_right _ waits)

/-- The innermost emission has these listeners left. -/
theorem Kept.popped {rest : List (DelayedResponse Arguments)}
    {emissions : List (List (DelayedResponse Arguments))} (kept : backoff.Kept)
    (shape : backoff.drain.emissions = rest :: emissions) :
    Kept { backoff with drain := { backoff.drain with emissions } } ∧
      rest.filter (· ∈ backoff.drain.waiting) <+: backoff.drain.waiting ∧
      ∀ response ∈ rest, response ∈ backoff.completed := by
  have member : rest ∈ backoff.drain.emissions := by simp [shape]
  refine ⟨⟨kept.numbers, kept.split, fun responses inner => ?_, fun responses inner => ?_⟩,
    kept.ordered rest member, kept.inside rest member⟩
  · exact kept.inside responses (shape ▸ List.mem_cons_of_mem _ inner)
  · exact kept.ordered responses (shape ▸ List.mem_cons_of_mem _ inner)

/-- When the connection does not back off, an emission releases every response that waits. -/
structure Accounted (backoff : Backoff Arguments) : Prop where
  kept : backoff.Kept
  covered : backoff.boProp = false → backoff.drain.Covered

/-- A step loses and repeats no response. -/
theorem accounted_step (accounted : before.Accounted) (stepped : before.step event = some after) :
    after.Accounted := by
  have kept := accounted.kept
  cases event with
  | completed request arguments =>
      obtain rfl := Option.some.inj stepped
      refine ⟨kept.delayResponse rfl, ?_⟩
      unfold delayResponse
      dsimp only
      split
      · next backs =>
          intro clear
          exact absurd backs (by simp [show before.boProp = false from clear])
      · exact fun clear => Emitter.covered_enter (accounted.covered clear)
  | backoff =>
      obtain rfl := Option.some.inj stepped
      exact ⟨⟨kept.numbers, kept.split, kept.inside, kept.ordered⟩, nofun⟩
  | drain =>
      obtain rfl := Option.some.inj stepped
      refine ⟨kept.drained, fun _ => ?_⟩
      exact Emitter.covered_advance kept.parts_nodup.2 (Or.inr fun _ waits => waits)
  | returned =>
      simp only [step, Option.map_eq_some_iff] at stepped
      obtain ⟨called, resumed, rfl⟩ := stepped
      refine ⟨?_, fun clear => ?_⟩
      · obtain ⟨rest, emissions, shape, rfl⟩ := Emitter.resume_eq_some resumed
        obtain ⟨popped, first, inside⟩ := kept.popped shape
        exact popped.advance first inside
      · exact Emitter.covered_resume kept.parts_nodup.2 (accounted.covered clear) resumed

/-- Responses that are accounted for are those that were completed. -/
theorem Accounted.faithful (accounted : backoff.Accounted) : backoff.Faithful where
  once := accounted.kept.parts_nodup.1
  original response member := accounted.kept.split.mem_iff.mp (List.mem_append_left _ member)
  released clear idle response member := by
    have none : backoff.drain.waiting = [] := by
      apply (accounted.covered clear).resolve_right
      simp [idle]
    have member := accounted.kept.split.mem_iff.mpr member
    simpa [none] using member

/-- The responses that wait are the last ones, and none was invoked while the connection backed
off. -/
structure InOrder (backoff : Backoff Arguments) : Prop where
  completed : backoff.completed = backoff.responses ++ backoff.drain.waiting
  clear : ∀ invoked ∈ backoff.invoked, invoked.2 = false

/-- An emission that is not in the backoff state invokes the first response that waits. -/
theorem InOrder.advance {listeners : List (DelayedResponse Arguments)} (kept : backoff.Kept)
    (inOrder : backoff.InOrder)
    (first : listeners.filter (· ∈ backoff.drain.waiting) <+: backoff.drain.waiting)
    (clear : backoff.boProp = false ∨ ∀ response ∈ listeners, response ∉ backoff.drain.waiting) :
    (backoff.invoke (backoff.drain.advance listeners)).InOrder := by
  cases advanced : backoff.drain.advance listeners with
  | mk called drain =>
      cases called with
      | none =>
          obtain ⟨rfl, -⟩ := Emitter.advance_eq_none advanced
          exact ⟨by simpa using inOrder.completed, by simpa [invoke] using inOrder.clear⟩
      | some response =>
          obtain ⟨waiting, -⟩ :=
            Emitter.ordered_advance kept.parts_nodup.2 kept.ordered first advanced
          obtain ⟨skipped, rest, split, -, waits, -⟩ := Emitter.advance_eq_some advanced
          have off : backoff.boProp = false :=
            clear.resolve_right fun gone => gone response (by simp [split]) waits
          constructor
          · rw [invoke_completed, inOrder.completed, waiting]
            simp
          · intro invoked member
            rcases List.mem_append.mp member with old | new
            · exact inOrder.clear invoked old
            · obtain rfl : invoked = (response, backoff.boProp) := by simpa using new
              exact off

/-- Without a disturbance the responses stay in the order of their requests. -/
theorem inOrder_step (accounted : before.Accounted) (inOrder : before.InOrder)
    (undisturbed : before.Undisturbed event) (stepped : before.step event = some after) :
    after.InOrder := by
  have kept := accounted.kept
  cases event with
  | completed request arguments =>
      obtain rfl := Option.some.inj stepped
      unfold delayResponse
      dsimp only
      split
      · refine ⟨?_, inOrder.clear⟩
        exact (congrArg (· ++ [_]) inOrder.completed).trans (List.append_assoc _ _ _)
      · next off =>
          have none : before.drain.waiting = [] := undisturbed.resolve_left off
          constructor
          · have completed := inOrder.completed
            rw [none, List.append_nil] at completed
            change before.completed ++ [_] = responses (invoke _ _) ++ before.drain.waiting
            rw [responses_invoke, none, List.append_nil]
            exact congrArg (· ++ [_]) completed
          · intro invoked member
            rcases List.mem_append.mp member with old | new
            · exact inOrder.clear invoked old
            · obtain rfl : invoked = (_, before.boProp) := by simpa using new
              simpa using off
  | backoff =>
      obtain rfl := Option.some.inj stepped
      exact ⟨inOrder.completed, inOrder.clear⟩
  | drain =>
      obtain rfl := Option.some.inj stepped
      have off : Kept { before with boProp := false } :=
        ⟨kept.numbers, kept.split, kept.inside, kept.ordered⟩
      have same : InOrder { before with boProp := false } := ⟨inOrder.completed, inOrder.clear⟩
      refine same.advance off ?_ (Or.inl rfl)
      exact (Emitter.filter_waiting before.drain).symm ▸ List.prefix_rfl
  | returned =>
      simp only [step, Option.map_eq_some_iff] at stepped
      obtain ⟨called, resumed, rfl⟩ := stepped
      obtain ⟨rest, emissions, shape, rfl⟩ := Emitter.resume_eq_some resumed
      obtain ⟨popped, first, -⟩ := kept.popped shape
      have same : InOrder { before with drain := { before.drain with emissions } } :=
        ⟨inOrder.completed, inOrder.clear⟩
      exact same.advance popped first (undisturbed.imp id fun gone => gone rest (by simp [shape]))

/-- A disturbed step invokes a response too early. -/
theorem disturbed_step (accounted : before.Accounted) (inOrder : before.InOrder)
    (disturbed : ¬before.Undisturbed event) (stepped : before.step event = some after) :
    ¬after.Orderly := by
  have kept := accounted.kept
  cases event with
  | completed request arguments =>
      obtain rfl := Option.some.inj stepped
      have fresh : { number := before.completed.length, request, arguments } ∉ before.completed :=
        kept.fresh rfl
      generalize DelayedResponse.mk before.completed.length request arguments = response at fresh ⊢
      obtain ⟨off, waits⟩ := not_or.mp disturbed
      rw [Bool.not_eq_true] at off
      obtain ⟨first, rest, waiting⟩ := List.exists_cons_of_ne_nil waits
      intro orderly
      have ahead := orderly.inOrder
      unfold delayResponse at ahead
      rw [if_neg (by simp [off]), responses_invoke, invoke_completed] at ahead
      change before.responses ++ [_] <+: before.completed ++ [_] at ahead
      rw [inOrder.completed, List.append_assoc, List.prefix_append_right_inj, waiting,
        List.cons_append, List.cons_prefix_cons] at ahead
      refine fresh (kept.split.mem_iff.mp (List.mem_append_right _ ?_))
      rw [waiting, ahead.1]
      exact List.mem_cons_self
  | returned =>
      simp only [step, Option.map_eq_some_iff] at stepped
      obtain ⟨called, resumed, rfl⟩ := stepped
      obtain ⟨rest, emissions, shape, rfl⟩ := Emitter.resume_eq_some resumed
      obtain ⟨backs, waits⟩ := not_or.mp disturbed
      rw [Bool.not_eq_false] at backs
      intro orderly
      cases advanced : Emitter.advance { before.drain with emissions } rest with
      | mk called drain =>
          cases called with
          | none =>
              obtain ⟨-, gone⟩ := Emitter.advance_eq_none advanced
              exact waits (by simpa [shape] using gone)
          | some response =>
              have clear := orderly.clear (response, before.boProp) (by simp [invoke, advanced])
              exact absurd backs (by simp [show before.boProp = false from clear])
  | backoff | drain => exact absurd trivial disturbed

/-- The lists of responses grow. -/
theorem grows_step (stepped : before.step event = some after) :
    before.completed <+: after.completed ∧ before.invoked <+: after.invoked := by
  cases event with
  | completed request arguments =>
      obtain rfl := Option.some.inj stepped
      unfold delayResponse
      dsimp only
      split
      · exact ⟨List.prefix_append _ _, List.prefix_rfl⟩
      · exact ⟨List.prefix_append _ _, List.prefix_append _ _⟩
  | backoff =>
      obtain rfl := Option.some.inj stepped
      exact ⟨List.prefix_rfl, List.prefix_rfl⟩
  | drain =>
      obtain rfl := Option.some.inj stepped
      exact ⟨List.prefix_rfl, List.prefix_append _ _⟩
  | returned =>
      simp only [step, Option.map_eq_some_iff] at stepped
      obtain ⟨called, -, rfl⟩ := stepped
      exact ⟨List.prefix_rfl, List.prefix_append _ _⟩

/-- What was invoked too early stays so. -/
theorem orderly_step (accounted : before.Accounted) (stepped : before.step event = some after)
    (orderly : after.Orderly) : before.Orderly := by
  obtain ⟨completed, invoked⟩ := grows_step stepped
  constructor
  · apply List.prefix_of_prefix_length_le ((invoked.map _).trans orderly.inOrder) completed
    have length := accounted.kept.split.length_eq
    rw [List.length_append] at length
    exact Nat.le_of_add_right_le (Nat.le_of_eq length)
  · exact fun item member => orderly.clear item (invoked.subset member)

theorem accounted_initial :
    (system : TransitionSystem (Backoff Arguments) _).initial.Accounted where
  kept := ⟨rfl, List.Perm.refl _, nofun, nofun⟩
  covered _ := Or.inl rfl

/-- In a run the responses are invoked in order and not while the connection backs off exactly when
no drain is disturbed. In every run each is invoked at most once with its arguments, and a drain
that leaves the connection out of the backoff state releases all. -/
theorem delayed_responses_iff {events : List (Event Arguments)}
    (ran : system.run system.initial events = some state) :
    (system.AllSteps Undisturbed system.initial events ↔ state.Orderly) ∧ state.Faithful := by
  constructor
  · refine @TransitionSystem.allSteps_iff _ _ system _ Accounted InOrder Orderly
      (fun _ _ _ accounted stepped => accounted_step accounted stepped) ?_ ?_ ?_ ?_ _ _ _
      accounted_initial ?_ ran
    · exact fun _ inOrder => ⟨inOrder.completed ▸ List.prefix_append _ _, inOrder.clear⟩
    · exact fun _ _ _ accounted inOrder undisturbed stepped =>
        inOrder_step accounted inOrder undisturbed stepped
    · exact fun _ _ _ accounted inOrder disturbed stepped =>
        disturbed_step accounted inOrder disturbed stepped
    · exact fun _ _ _ accounted wrong stepped orderly =>
        wrong (orderly_step accounted stepped orderly)
    · exact ⟨rfl, nofun⟩
  · apply Accounted.faithful
    exact @TransitionSystem.run_invariant _ _ system Accounted
      (fun _ _ _ accounted stepped => accounted_step accounted stepped) _ _ _ accounted_initial ran

/-- The first response that a drain releases raises `backoff` again. -/
def sampleBackoff : List (Event Nat) :=
  [.backoff, .completed .subscribe 1, .completed .publish 2, .drain, .backoff, .returned]

/-- Another drain follows inside the first response. -/
def sampleDrained : List (Event Nat) :=
  [.backoff, .completed .subscribe 1, .completed .publish 2, .drain, .backoff, .drain, .returned,
    .returned, .completed .unsubscribeAll 3, .returned]

instance (backoff : Backoff Arguments) : (event : Event Arguments) →
    Decidable (backoff.Undisturbed event)
  | .completed _ _ =>
      inferInstanceAs (Decidable (backoff.boProp = true ∨ backoff.drain.waiting = []))
  | .returned => inferInstanceAs <| Decidable <| backoff.boProp = false ∨
      ∀ responses ∈ backoff.drain.emissions.head?, ∀ response ∈ responses,
        response ∉ backoff.drain.waiting
  | .backoff | .drain => .isTrue trivial

theorem delayed_responses_iff_sample : ∃ state,
    system.run system.initial sampleDrained = some state ∧
    state.responses.map DelayedResponse.arguments = [1, 2, 3] ∧ state.Orderly ∧ state.Faithful := by
  obtain ⟨state, ran, responses⟩ : ∃ state, system.run system.initial sampleDrained = some state ∧
      state.responses.map DelayedResponse.arguments = [1, 2, 3] := ⟨_, rfl, rfl⟩
  obtain ⟨orderly, faithful⟩ := delayed_responses_iff ran
  exact ⟨state, ran, responses, orderly.mp (by decide), faithful⟩

theorem response_in_backoff : ∃ state,
    system.run system.initial sampleBackoff = some state ∧
    state.invoked.map (fun item => (item.1.arguments, item.2)) = [(1, false), (2, true)] ∧
    ¬state.Orderly := by
  refine ⟨_, rfl, rfl, fun orderly => ?_⟩
  have clear := orderly.clear ({ number := 1, request := .publish, arguments := 2 }, true)
  exact absurd (clear (by decide)) (by decide)

end Backoff
end Centro
