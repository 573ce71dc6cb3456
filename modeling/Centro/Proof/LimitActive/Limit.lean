import Centro.Proof.LimitActive.Steps
import Mathlib.Data.Finset.Dedup

namespace Centro

open Library

/-- A request to subscribe that is still to be carried out asks for a subscription. -/
def SubsRequest.asks (request : SubsRequest) : Option (Nat × JsString) :=
  match request.kind, request.changed with
  | .subscribe topic, none => some (request.connection, topic)
  | _, _ => none

theorem SubsRequest.asks_eq_some {request : SubsRequest} {subscription : Nat × JsString} :
    request.asks = some subscription ↔
      request.kind = .subscribe subscription.2 ∧ request.changed = none ∧
        request.connection = subscription.1 := by
  obtain ⟨connection, topic⟩ := subscription
  unfold SubsRequest.asks
  split
  · next topic' kind changed => simp [kind, changed, and_comm]
  · next other =>
      constructor
      · intro none
        cases none
      · rintro ⟨kind, changed, -⟩
        exact absurd changed (other topic kind)

namespace ActiveSubscriptions

def ended (state : ActiveSubscriptions) (connection : Nat) : Bool :=
  state.connections[connection]?.any SubsConnection.ended

/-- These are the active subscriptions with those that outstanding requests of connections that are
not ended can still add. -/
def promised (state : ActiveSubscriptions) : Finset (Nat × JsString) :=
  state.subs.items.toFinset ∪
    ((state.outstanding.filterMap SubsRequest.asks).filter fun subscription =>
      !state.ended subscription.1).toFinset

/-- A subscription is promised when it is there or asked for. -/
theorem mem_promised {state : ActiveSubscriptions} {subscription : Nat × JsString} :
    subscription ∈ state.promised ↔ subscription ∈ state.subs ∨
      (∃ request ∈ state.outstanding, request.asks = some subscription) ∧
        state.ended subscription.1 = false := by
  simp [promised, OrderedSet.mem_def]

/-- A new connection has no subscriptions from its tokens. A subscription that is asked for is
refused, promised already, or fits below the limit with all that is promised. -/
def Spaced (maxSubscriptions : Nat) (state : ActiveSubscriptions) : Event → Prop
  | .connect topics => topics = []
  | .request connection (.subscribe topic) =>
      state.refuses maxSubscriptions connection topic = true ∨
        (connection, topic) ∈ state.promised ∨ state.promised.card < maxSubscriptions
  | _ => True

instance (maxSubscriptions : Nat) (state : ActiveSubscriptions) :
    (event : Event) → Decidable (Spaced maxSubscriptions state event)
  | .connect topics => inferInstanceAs (Decidable (topics = []))
  | .request connection (.subscribe topic) => inferInstanceAs (Decidable
      (state.refuses maxSubscriptions connection topic = true ∨
        (connection, topic) ∈ state.promised ∨ state.promised.card < maxSubscriptions))
  | .request _ (.unsubscribe _) => .isTrue trivial
  | .request _ .unsubscribeAll => .isTrue trivial
  | .finish _ => .isTrue trivial
  | .carryOut _ => .isTrue trivial
  | .complete _ => .isTrue trivial
  | .fail _ _ => .isTrue trivial

variable {maxSubscriptions : Nat} {before after : ActiveSubscriptions}

/-- Nothing new is promised where no connection comes back, no request is new and what is subscribed
was promised. -/
theorem promised_subset (revived : ∀ connection, before.ended connection = true →
      after.ended connection = true)
    (kept : ∀ request ∈ after.outstanding, ∀ subscription,
      request.asks = some subscription → request ∈ before.outstanding)
    (added : ∀ subscription ∈ after.subs, subscription ∈ before.promised) :
    after.promised ⊆ before.promised := by
  intro subscription member
  obtain present | ⟨⟨request, outstanding, asks⟩, going⟩ := mem_promised.mp member
  · exact added _ present
  · refine mem_promised.mpr (Or.inr ⟨⟨request, kept _ outstanding _ asks, asks⟩, ?_⟩)
    by_contra isOver
    rw [revived _ (by simpa using isOver)] at going
    cases going

/-- An ended connection stays ended. -/
theorem ended_set {state : ActiveSubscriptions} {connection : Nat} {here next : SubsConnection}
    (found : state.connections[connection]? = some here)
    (kept : here.ended = true → next.ended = true) (other : Nat) (isOver : state.ended other = true) :
    (state.connections.set connection next)[other]?.any SubsConnection.ended = true := by
  by_cases same : connection = other
  · subst same
    rw [ended, found, Option.any_some] at isOver
    rw [List.getElem?_set_self (List.getElem?_eq_some_iff.mp found).1, Option.any_some]
    exact kept isOver
  · rw [List.getElem?_set_ne same]
    exact isOver

/-- Only a request to subscribe that is passed on promises a subscription. -/
theorem promised_step {event : Event} (quiet : ∀ topics, event = .connect topics → topics = [])
    (stepped : (system maxSubscriptions).step before event = some after) :
    after.promised ⊆ before.promised ∨
      ∃ connection topic, event = .request connection (.subscribe topic) ∧
        before.refuses maxSubscriptions connection topic = false ∧
        after.promised ⊆ insert (connection, topic) before.promised := by
  cases event with
  | connect topics =>
      obtain rfl := quiet topics rfl
      obtain rfl := Option.some.inj stepped
      refine Or.inl (promised_subset ?_ ?_ ?_)
      · intro connection isOver
        obtain ⟨here, found, ended⟩ := (Option.any_eq_true _ _).mp isOver
        have within := (List.getElem?_eq_some_iff.mp found).1
        simp only [ActiveSubscriptions.ended, List.getElem?_append_left within, found]
        exact ended
      · intro request member _ _
        simpa using member
      · exact fun subscription member => mem_promised.mpr (Or.inl member)
  | request connection kind =>
      obtain ⟨here, found, opened, rfl⟩ := request_step stepped
      obtain ⟨topic, rfl, refused, answers, same⟩ | ⟨granted, same⟩ :=
        request_cases maxSubscriptions before connection kind
      · rw [same]
        exact Or.inl fun subscription member => member
      · rw [same]
        cases kind with
        | subscribe topic =>
            refine Or.inr ⟨connection, topic, rfl, granted topic rfl, ?_⟩
            intro subscription member
            obtain present | ⟨⟨request, outstanding, asks⟩, going⟩ := mem_promised.mp member
            · exact Finset.mem_insert_of_mem (mem_promised.mpr (Or.inl present))
            · obtain old | rfl := mem_concat.mp outstanding
              · exact Finset.mem_insert_of_mem
                  (mem_promised.mpr (Or.inr ⟨⟨request, old, asks⟩, going⟩))
              · obtain rfl := Option.some.inj asks
                exact Finset.mem_insert_self _ _
        | unsubscribe | unsubscribeAll =>
            refine Or.inl (promised_subset (fun _ isOver => isOver) ?_ ?_)
            · intro request member subscription asks
              obtain old | rfl := mem_concat.mp member
              · exact old
              · cases asks
            · exact fun subscription member => mem_promised.mpr (Or.inl member)
  | finish connection =>
      obtain ⟨here, found, opened, rfl⟩ := finish_step stepped
      refine Or.inl (promised_subset (ended_set found fun isOver => isOver) ?_ ?_)
      · intro request member subscription asks
        obtain old | rfl := mem_concat.mp member
        · exact old
        · cases asks
      · exact fun subscription member => mem_promised.mpr (Or.inl member)
  | carryOut index =>
      obtain ⟨request, here, asked, found, undone, going, rfl⟩ := carryOut_step stepped
      obtain ⟨front, back, whole, -, replaced⟩ := exists_split asked
      refine Or.inl (promised_subset (ended_set found fun isOver => absurd isOver (by simp [going]))
        ?_ ?_)
      · intro other member subscription asks
        rw [replaced] at member
        obtain old | rfl | old := List.mem_append.mp member |>.imp_right List.mem_cons.mp
        · exact whole ▸ List.mem_append_left _ old
        · cases (SubsRequest.asks_eq_some.mp asks).2.1
        · exact whole ▸ List.mem_append_right _ (List.mem_cons_of_mem _ old)
      · intro subscription member
        obtain ⟨present, -⟩ | ⟨kind, owner⟩ := mem_carryOut.mp member
        · exact mem_promised.mpr (Or.inl present)
        · refine mem_promised.mpr (Or.inr ⟨⟨request, List.mem_of_getElem? asked, ?_⟩, ?_⟩)
          · exact SubsRequest.asks_eq_some.mpr ⟨kind, undone, owner⟩
          · rw [← owner, ended, found, Option.any_some, going]
  | complete index =>
      obtain ⟨request, n, asked, changed, rfl⟩ := complete_step stepped
      refine Or.inl (promised_subset (fun _ isOver => isOver) ?_ ?_)
      · exact fun other member _ _ => List.mem_of_mem_eraseIdx member
      · exact fun subscription member => mem_promised.mpr (Or.inl member)
  | fail index message =>
      obtain ⟨request, asked, undone, rfl⟩ := fail_step stepped
      refine Or.inl (promised_subset (fun _ isOver => isOver) ?_ ?_)
      · exact fun other member _ _ => List.mem_of_mem_eraseIdx member
      · exact fun subscription member => mem_promised.mpr (Or.inl member)

theorem Spaced.quiet {event : Event} (spaced : Spaced maxSubscriptions before event) :
    ∀ topics, event = .connect topics → topics = [] := by
  rintro topics rfl
  exact spaced

/-- The promised subscriptions stay within the limit. -/
theorem promised_card {state : ActiveSubscriptions}
    (reached : (system maxSubscriptions).ReachableUnder (Spaced maxSubscriptions) state) :
    state.promised.card ≤ maxSubscriptions := by
  induction reached with
  | initial => exact Nat.zero_le _
  | @step before after event _ spaced stepped within =>
      obtain smaller | ⟨connection, topic, rfl, granted, smaller⟩ :=
        promised_step spaced.quiet stepped
      · exact (Finset.card_le_card smaller).trans within
      · obtain refused | present | room := spaced
        · rw [granted] at refused
          cases refused
        · rw [Finset.insert_eq_of_mem present] at smaller
          exact (Finset.card_le_card smaller).trans within
        · calc after.promised.card
              ≤ (insert (connection, topic) before.promised).card := Finset.card_le_card smaller
            _ ≤ before.promised.card + 1 := Finset.card_insert_le _ _
            _ ≤ maxSubscriptions := room

/-- The subscriptions are among those promised. -/
theorem subs_le_promised (state : ActiveSubscriptions) : state.subs.size ≤ state.promised.card := by
  rw [OrderedSet.size, ← List.toFinset_card_of_nodup state.subs.nodup]
  exact Finset.card_le_card Finset.subset_union_left

end ActiveSubscriptions

open ActiveSubscriptions in
/-- The number of active subscriptions stays within the limit in every run in which each new
subscription is asked for while there is room for it and for all that is promised. -/
theorem subscriptions_within {maxSubscriptions : Nat} {state : ActiveSubscriptions}
    (reached : (system maxSubscriptions).ReachableUnder (Spaced maxSubscriptions) state) :
    state.subs.size ≤ maxSubscriptions :=
  (subs_le_promised state).trans (promised_card reached)

namespace ActiveSubscriptions

/-- The second client asks again after the first has given up its subscription. -/
def sampleSpaced : List Event :=
  [.connect [], .connect [], .request 0 (.subscribe (text "a")), .carryOut 0, .complete 0,
    .request 1 (.subscribe (text "b")), .request 0 (.unsubscribe (text "a")), .carryOut 0,
    .complete 0, .request 1 (.subscribe (text "b")), .carryOut 0]

/-- Both clients ask before the first subscription is complete. -/
def sampleOverlapping : List Event :=
  [.connect [], .connect [], .request 0 (.subscribe (text "a")), .request 1 (.subscribe (text "b")),
    .carryOut 0, .carryOut 1, .complete 0, .complete 0]

end ActiveSubscriptions

open ActiveSubscriptions in
theorem subscriptions_within_sample : ∃ state,
    (system 1).run (system 1).initial sampleSpaced = some state ∧ state.subs.size ≤ 1 := by
  have runs : ((system 1).run (system 1).initial sampleSpaced).isSome = true := by decide +kernel
  have spaced : (system 1).AllSteps (Spaced 1) (system 1).initial sampleSpaced := by decide +kernel
  obtain ⟨state, ran⟩ := Option.isSome_iff_exists.mp runs
  exact ⟨state, ran, subscriptions_within (TransitionSystem.ReachableUnder.initial.run spaced ran)⟩

open ActiveSubscriptions in
/-- Two clients get the last subscription. -/
theorem subscriptions_over : ∃ state,
    (system 1).run (system 1).initial sampleOverlapping = some state ∧ state.outstanding = [] ∧
      1 < state.subs.size := by
  have isOver : ((system 1).run (system 1).initial sampleOverlapping).map (fun state =>
      decide (state.outstanding = [] ∧ 1 < state.subs.size)) = some true := by
    decide +kernel
  obtain ⟨state, ran, isOver⟩ := Option.map_eq_some_iff.mp isOver
  exact ⟨state, ran, of_decide_eq_true isOver⟩

end Centro
