import Centro.Proof.LimitActive.Steps
import Mathlib.Data.Rat.Cast.Defs
import Mathlib.Algebra.BigOperators.Group.List.Basic
import Mathlib.Algebra.Ring.Nat

namespace Centro

open Library

/-- The change that the completion of a request still owes to the counter. -/
def SubsRequest.due (request : SubsRequest) : Int :=
  (request.changed.map request.change).getD 0

theorem SubsRequest.due_none {request : SubsRequest} (undone : request.changed = none) :
    request.due = 0 := by
  rw [due, undone]
  rfl

theorem SubsRequest.due_some {request : SubsRequest} {n : Nat} (done : request.changed = some n) :
    request.due = request.change n := by
  rw [due, done]
  rfl

/-- The number of a request is the change of the number of subscriptions. -/
theorem SubsRequest.size_carryOut (request : SubsRequest) (subs : OrderedSet (Nat × JsString)) :
    ((request.carryOut subs).2.size : Int) =
      subs.size + request.change (request.carryOut subs).1 := by
  have sizes := subs.size_filter_not request.takes
  cases kind : request.kind with
  | subscribe topic =>
      by_cases present : (request.connection, topic) ∈ subs
      · simp [carryOut, change, kind, present]
      · simp [carryOut, change, kind, present, OrderedSet.size_add present]
  | unsubscribe topic =>
      simp only [carryOut, change, kind]
      omega
  | unsubscribeAll =>
      simp only [carryOut, change, kind]
      omega

namespace ActiveSubscriptions

/-- The change that the outstanding requests still owe to the counter. -/
def due (state : ActiveSubscriptions) : Int := (state.outstanding.map SubsRequest.due).sum

def isOpen (state : ActiveSubscriptions) (connection : Nat) : Bool :=
  state.connections[connection]?.any SubsConnection.opened

/-- The total number of topics to which the open connections are subscribed. -/
def total (state : ActiveSubscriptions) : Nat :=
  state.subs.items.countP fun subscription => state.isOpen subscription.1

/-- A new connection has no subscriptions from its tokens, and no request fails. -/
def Counts : Event → Prop
  | .connect topics => topics = []
  | .fail _ _ => False
  | _ => True

instance : DecidablePred Counts
  | .connect topics => inferInstanceAs (Decidable (topics = []))
  | .fail _ _ => .isFalse id
  | .request _ _ => .isTrue trivial
  | .finish _ => .isTrue trivial
  | .carryOut _ => .isTrue trivial
  | .complete _ => .isTrue trivial

/-- The counter lacks only what the outstanding requests owe. Subscriptions belong to connections
that are not ended, and the last request of a closed connection is outstanding until it is ended. -/
structure Exact (state : ActiveSubscriptions) : Prop where
  count : state.count = .finite ((state.subs.size - state.due : Int) : Rat)
  piped : ∀ request ∈ state.outstanding, request.piped = true
  last : ∀ request ∈ state.outstanding, request.last = true → request.kind = .unsubscribeAll
  living : ∀ subscription ∈ state.subs, ∃ here,
    state.connections[subscription.1]? = some here ∧ here.ended = false
  ending : ∀ connection here, state.connections[connection]? = some here → here.opened = false →
    here.ended = false → ∃ request ∈ state.outstanding, request.connection = connection ∧
      request.last = true ∧ request.changed = none

variable {maxSubscriptions : Nat} {before after : ActiveSubscriptions}

theorem Exact.initial : Exact {} where
  count := by simp [due, JsNumber.zero]
  piped := by simp
  last := by simp
  living := fun subscription member => absurd member (OrderedSet.not_mem_empty _)
  ending := by simp

/-- A request that is passed on owes nothing yet. -/
theorem Exact.pass {state : ActiveSubscriptions} (exact : state.Exact) (connection : Nat)
    (kind : SubsKind) : (state.pass { connection, kind }).Exact where
  count := by simpa [ActiveSubscriptions.pass, due, SubsRequest.due] using exact.count
  piped := by
    intro request member
    obtain old | rfl := mem_concat.mp member
    · exact exact.piped request old
    · rfl
  last := by
    intro request member last
    obtain old | rfl := mem_concat.mp member
    · exact exact.last request old last
    · cases last
  living := exact.living
  ending := by
    intro connection here found closed going
    obtain ⟨request, member, rest⟩ := exact.ending connection here found closed going
    exact ⟨request, List.mem_append_left _ member, rest⟩

/-- A connection without pre-subscriptions keeps the counter exact. -/
theorem Exact.connect (exact : before.Exact)
    (stepped : (system maxSubscriptions).step before (.connect []) = some after) : after.Exact := by
  obtain rfl := Option.some.inj stepped
  refine ⟨?_, ?_, ?_, ?_, ?_⟩
  · simpa [due] using exact.count
  · simpa using exact.piped
  · simpa using exact.last
  · intro subscription member
    obtain ⟨here, found, going⟩ := exact.living subscription member
    refine ⟨here, ?_, going⟩
    rw [List.getElem?_append_left (List.getElem?_eq_some_iff.mp found).1, found]
  · intro connection here found closed going
    by_cases within : connection < before.connections.length
    · rw [List.getElem?_append_left within] at found
      obtain ⟨request, member, rest⟩ := exact.ending connection here found closed going
      exact ⟨request, List.mem_append_left _ member, rest⟩
    · rw [List.getElem?_append_right (Nat.le_of_not_lt within)] at found
      obtain rfl := List.mem_singleton.mp (List.mem_of_getElem? found)
      cases closed

/-- What a request does is settled with the counter by its completion. -/
theorem due_set {state : ActiveSubscriptions} {index : Nat} {request : SubsRequest}
    (asked : state.outstanding[index]? = some request) (other : SubsRequest) :
    ((state.outstanding.set index other).map SubsRequest.due).sum =
      state.due - request.due + other.due := by
  obtain ⟨front, back, whole, -, replaced⟩ := exists_split asked
  rw [replaced, due, whole]
  simp only [List.map_append, List.map_cons, List.sum_append, List.sum_cons]
  omega

/-- A request that is answered is due no more. -/
theorem due_eraseIdx {state : ActiveSubscriptions} {index : Nat} {request : SubsRequest}
    (asked : state.outstanding[index]? = some request) :
    ((state.outstanding.eraseIdx index).map SubsRequest.due).sum = state.due - request.due := by
  obtain ⟨front, back, whole, erased, -⟩ := exists_split asked
  rw [erased, due, whole]
  simp only [List.map_append, List.map_cons, List.sum_append, List.sum_cons]
  omega

/-- The end of a connection keeps the counter exact. -/
theorem Exact.finish {connection : Nat} (exact : before.Exact)
    (stepped : (system maxSubscriptions).step before (.finish connection) = some after) :
    after.Exact := by
  obtain ⟨here, found, opened, rfl⟩ := finish_step stepped
  have within := (List.getElem?_eq_some_iff.mp found).1
  refine ⟨?_, ?_, ?_, ?_, ?_⟩
  · simpa [due, SubsRequest.due] using exact.count
  · intro request member
    obtain old | rfl := mem_concat.mp member
    · exact exact.piped request old
    · rfl
  · intro request member last
    obtain old | rfl := mem_concat.mp member
    · exact exact.last request old last
    · rfl
  · intro subscription member
    obtain ⟨there, present, going⟩ := exact.living subscription member
    by_cases same : connection = subscription.1
    · subst same
      obtain rfl := Option.some.inj (found.symm.trans present)
      exact ⟨_, List.getElem?_set_self within, going⟩
    · exact ⟨there, by rw [List.getElem?_set_ne same, present], going⟩
  · intro other there present closed going
    by_cases same : connection = other
    · subst same
      exact ⟨_, List.mem_append_right _ (List.mem_singleton_self _), rfl, rfl, rfl⟩
    · rw [List.getElem?_set_ne same] at present
      obtain ⟨request, member, rest⟩ := exact.ending other there present closed going
      exact ⟨request, List.mem_append_left _ member, rest⟩

/-- A request that is carried out is due until it is answered. -/
theorem Exact.carryOut {index : Nat} (exact : before.Exact)
    (stepped : (system maxSubscriptions).step before (.carryOut index) = some after) :
    after.Exact := by
  obtain ⟨request, here, asked, found, undone, going, rfl⟩ := carryOut_step stepped
  have within := (List.getElem?_eq_some_iff.mp found).1
  have member := List.mem_of_getElem? asked
  obtain ⟨front, back, whole, -, replaced⟩ := exists_split asked
  have listed (other : SubsRequest) (done : SubsRequest) :
      other ∈ before.outstanding.set index done ↔ other ∈ front ∨ other = done ∨ other ∈ back := by
    rw [replaced, List.mem_append, List.mem_cons]
  have old (other : SubsRequest) :
      other ∈ before.outstanding ↔ other ∈ front ∨ other = request ∨ other ∈ back := by
    rw [whole, List.mem_append, List.mem_cons]
  refine ⟨?_, ?_, ?_, ?_, ?_⟩
  · have size := request.size_carryOut before.subs
    rw [exact.count]
    simp only [due, due_set asked, SubsRequest.due_none undone]
    have owed : SubsRequest.due { request with changed := some (request.carryOut before.subs).1 } =
        request.change (request.carryOut before.subs).1 := rfl
    rw [owed, size]
    congr 2
    omega
  · intro other present
    obtain first | rfl | last := (listed _ _).mp present
    · exact exact.piped other ((old _).mpr (Or.inl first))
    · exact exact.piped request member
    · exact exact.piped other ((old _).mpr (Or.inr (Or.inr last)))
  · intro other present last
    obtain first | rfl | rest := (listed _ _).mp present
    · exact exact.last other ((old _).mpr (Or.inl first)) last
    · exact exact.last request member last
    · exact exact.last other ((old _).mpr (Or.inr (Or.inr rest))) last
  · intro subscription present
    have alive : request.connection = subscription.1 → request.last = false := by
      intro owner
      by_contra last
      have kind := exact.last request member (by simpa using last)
      obtain ⟨-, stays⟩ | ⟨asks, -⟩ := mem_carryOut.mp present
      · simp [SubsRequest.takes, kind, owner] at stays
      · rw [kind] at asks
        cases asks
    by_cases same : request.connection = subscription.1
    · refine ⟨{ here with ended := request.last }, ?_, alive same⟩
      rw [← same]
      exact List.getElem?_set_self within
    · obtain ⟨stays, -⟩ | ⟨-, owner⟩ := mem_carryOut.mp present
      · obtain ⟨there, known, living⟩ := exact.living subscription stays
        exact ⟨there, by rw [List.getElem?_set_ne same, known], living⟩
      · exact absurd owner same
  · intro other there present closed living
    by_cases same : request.connection = other
    · subst same
      rw [List.getElem?_set_self within] at present
      obtain rfl := Option.some.inj present
      obtain ⟨final, outstanding, owner, last, unchanged⟩ :=
        exact.ending request.connection here found closed going
      obtain first | rfl | rest := (old _).mp outstanding
      · exact ⟨final, (listed _ _).mpr (Or.inl first), owner, last, unchanged⟩
      · exact absurd last (by simpa using living)
      · exact ⟨final, (listed _ _).mpr (Or.inr (Or.inr rest)), owner, last, unchanged⟩
    · rw [List.getElem?_set_ne same] at present
      obtain ⟨final, outstanding, owner, last, unchanged⟩ :=
        exact.ending other there present closed living
      obtain first | rfl | rest := (old _).mp outstanding
      · exact ⟨final, (listed _ _).mpr (Or.inl first), owner, last, unchanged⟩
      · exact absurd owner same
      · exact ⟨final, (listed _ _).mpr (Or.inr (Or.inr rest)), owner, last, unchanged⟩

/-- An answered request is counted. -/
theorem Exact.complete {index : Nat} (exact : before.Exact)
    (stepped : (system maxSubscriptions).step before (.complete index) = some after) :
    after.Exact := by
  obtain ⟨request, n, asked, changed, rfl⟩ := complete_step stepped
  have member := List.mem_of_getElem? asked
  refine ⟨?_, ?_, ?_, exact.living, ?_⟩
  · simp only [counted, exact.piped request member, exact.count, JsNumber.plus, due,
      due_eraseIdx asked, SubsRequest.due_some changed, if_true]
    congr 1
    push_cast
    exact sub_add _ _ _
  · exact fun other present => exact.piped other (List.mem_of_mem_eraseIdx present)
  · exact fun other present => exact.last other (List.mem_of_mem_eraseIdx present)
  · intro connection here found closed going
    obtain ⟨final, outstanding, owner, last, unchanged⟩ :=
      exact.ending connection here found closed going
    obtain ⟨front, back, whole, erased, -⟩ := exists_split asked
    refine ⟨final, ?_, owner, last, unchanged⟩
    rw [whole] at outstanding
    obtain first | rfl | rest := List.mem_append.mp outstanding |>.imp_right List.mem_cons.mp
    · exact erased ▸ List.mem_append_left _ first
    · rw [changed] at unchanged
      cases unchanged
    · exact erased ▸ List.mem_append_right _ rest

/-- A step that is counted keeps the counter exact. -/
theorem exact_step {event : Event} (exact : before.Exact) (counts : Counts event)
    (stepped : (system maxSubscriptions).step before event = some after) : after.Exact := by
  cases event with
  | connect topics =>
      obtain rfl : topics = [] := counts
      exact exact.connect stepped
  | request connection kind =>
      obtain ⟨here, found, opened, rfl⟩ := request_step stepped
      obtain ⟨topic, rfl, refused, answers, same⟩ | ⟨granted, same⟩ :=
        request_cases maxSubscriptions before connection kind
      · rw [same]
        exact ⟨exact.count, exact.piped, exact.last, exact.living, exact.ending⟩
      · rw [same]
        exact exact.pass connection kind
  | finish connection => exact exact.finish stepped
  | carryOut index => exact exact.carryOut stepped
  | complete index => exact exact.complete stepped
  | fail index message => exact counts.elim

/-- Each reached state of a run without failures has an exact counter. -/
theorem exact_of_reached {state : ActiveSubscriptions}
    (reached : (system maxSubscriptions).ReachableUnder (fun _ event => Counts event) state) :
    state.Exact :=
  reached.invariant Exact.initial fun _ _ _ exact counts stepped => exact_step exact counts stepped

/-- Without an outstanding request every subscription is that of an open connection. -/
theorem Exact.total {state : ActiveSubscriptions} (exact : state.Exact)
    (settled : state.outstanding = []) : state.total = state.subs.size := by
  refine List.countP_eq_length.mpr fun subscription member => ?_
  obtain ⟨here, found, going⟩ := exact.living subscription member
  rw [isOpen, found, Option.any_some]
  by_contra closed
  obtain ⟨request, outstanding, -⟩ :=
    exact.ending subscription.1 here found (by simpa using closed) going
  rw [settled] at outstanding
  cases outstanding

end ActiveSubscriptions

open ActiveSubscriptions in
/-- In every run without subscriptions of tokens and without failures the counter is the total
number of subscribed topics whenever no request is outstanding, and it refuses a new topic exactly
when this total has reached the limit. -/
theorem subscriptions_counted {maxSubscriptions : Nat} {state : ActiveSubscriptions}
    (reached : (system maxSubscriptions).ReachableUnder (fun _ event => Counts event) state)
    (settled : state.outstanding = []) :
    state.count = .finite state.total ∧ ∀ connection topic,
      state.refuses maxSubscriptions connection topic = true ↔
        maxSubscriptions ≤ state.total ∧ (connection, topic) ∉ state.subs := by
  have exact := exact_of_reached reached
  have count : state.count = .finite state.total := by
    rw [exact.count, due, settled, exact.total settled]
    simp
  refine ⟨count, fun connection topic => ?_⟩
  rw [refuses, count, JsNumber.atLeast]
  simp

namespace ActiveSubscriptions

/-- Two clients subscribe and unsubscribe, and one of them goes away. -/
def sampleCounted : List Event :=
  [.connect [], .connect [], .request 0 (.subscribe (text "a")), .request 1 (.subscribe (text "b")),
    .carryOut 1, .complete 1, .request 1 (.subscribe (text "b")), .carryOut 0, .finish 0,
    .complete 0, .carryOut 1, .carryOut 0, .complete 0, .complete 0]

end ActiveSubscriptions

open ActiveSubscriptions in
theorem subscriptions_counted_sample : ∃ state,
    (system 1).run (system 1).initial sampleCounted = some state ∧
    state.outstanding = [] ∧ state.count = .finite state.total ∧ ∀ connection topic,
      state.refuses 1 connection topic = true ↔
        1 ≤ state.total ∧ (connection, topic) ∉ state.subs := by
  have runs : ((system 1).run (system 1).initial sampleCounted).map
      (fun state => decide (state.outstanding = [])) = some true := by decide +kernel
  have counts : (system 1).AllSteps (fun _ event => Counts event) (system 1).initial
      sampleCounted := by decide +kernel
  obtain ⟨state, ran, settled⟩ := Option.map_eq_some_iff.mp runs
  have settled := of_decide_eq_true settled
  exact ⟨state, ran, settled,
    subscriptions_counted (TransitionSystem.ReachableUnder.initial.run counts ran) settled⟩

open ActiveSubscriptions in
/-- A subscription of a token is not counted and its end is, and a failure makes the counter no
number. -/
theorem subscriptions_miscounted :
    (∃ state, (system 1).run (system 1).initial
      [.connect [text "a"], .carryOut 0, .complete 0] = some state ∧
      state.outstanding = [] ∧ state.count = .finite 0 ∧ state.total = 1 ∧
      state.refuses 1 0 (text "b") = false) ∧
    (∃ state, (system 1).run (system 1).initial
      [.connect [text "a"], .carryOut 0, .complete 0, .finish 0, .carryOut 0, .complete 0] =
        some state ∧
      state.outstanding = [] ∧ state.count = .finite (-1) ∧ state.total = 0) ∧
    ∃ state, (system 1).run (system 1).initial
      [.connect [], .request 0 (.subscribe (text "a")), .fail 0 (text "dummy"),
        .request 0 (.subscribe (text "a")), .carryOut 0, .complete 0] = some state ∧
      state.outstanding = [] ∧ state.count = .nan ∧ state.total = 1 ∧
      state.refuses 1 0 (text "b") = false := by
  refine ⟨⟨_, rfl, ?_⟩, ⟨_, rfl, ?_⟩, ⟨_, rfl, ?_⟩⟩
  all_goals decide +kernel

end Centro
