import Centro.Construction.LimitActive
import Centro.Library.Trace
import Mathlib.Data.Finset.Card
import Mathlib.Data.List.Basic

namespace Centro

open Library

namespace ActiveSubscriptions

variable {maxSubscriptions : Nat} {before after : ActiveSubscriptions}

/-- A request waits to be carried out. -/
theorem request_step {connection : Nat} {kind : SubsKind}
    (stepped : (system maxSubscriptions).step before (.request connection kind) = some after) :
    ∃ here, before.connections[connection]? = some here ∧ here.opened = true ∧
      after = before.request maxSubscriptions connection kind := by
  obtain ⟨here, found, stepped⟩ := Option.bind_eq_some_iff.mp stepped
  by_cases opened : here.opened = true
  · rw [if_pos opened] at stepped
    exact ⟨here, found, opened, (Option.some.inj stepped).symm⟩
  · rw [if_neg opened] at stepped
    cases stepped

/-- The end of a connection asks to unsubscribe it from all topics. -/
theorem finish_step {connection : Nat}
    (stepped : (system maxSubscriptions).step before (.finish connection) = some after) :
    ∃ here, before.connections[connection]? = some here ∧ here.opened = true ∧
      after = { before with
        connections := before.connections.set connection { here with opened := false }
        outstanding := before.outstanding ++
          [{ connection, kind := .unsubscribeAll, last := true }] } := by
  obtain ⟨here, found, stepped⟩ := Option.bind_eq_some_iff.mp stepped
  by_cases opened : here.opened = true
  · rw [if_pos opened] at stepped
    exact ⟨here, found, opened, (Option.some.inj stepped).symm⟩
  · rw [if_neg opened] at stepped
    cases stepped

/-- A request is carried out while its connection is open. -/
theorem carryOut_step {index : Nat}
    (stepped : (system maxSubscriptions).step before (.carryOut index) = some after) :
    ∃ request here, before.outstanding[index]? = some request ∧
      before.connections[request.connection]? = some here ∧
      request.changed = none ∧ here.ended = false ∧
      after = { before with
        connections := before.connections.set request.connection
          { here with ended := request.last }
        subs := (request.carryOut before.subs).2
        outstanding := before.outstanding.set index
          { request with changed := some (request.carryOut before.subs).1 } } := by
  obtain ⟨request, asked, stepped⟩ := Option.bind_eq_some_iff.mp stepped
  obtain ⟨here, found, stepped⟩ := Option.bind_eq_some_iff.mp stepped
  by_cases possible : request.changed = none ∧ here.ended = false
  · rw [if_pos possible] at stepped
    exact ⟨request, here, asked, found, possible.1, possible.2, (Option.some.inj stepped).symm⟩
  · rw [if_neg possible] at stepped
    cases stepped

/-- A request that was carried out completes. -/
theorem complete_step {index : Nat}
    (stepped : (system maxSubscriptions).step before (.complete index) = some after) :
    ∃ request n, before.outstanding[index]? = some request ∧ request.changed = some n ∧
      after = { before with
        count := before.counted request (some (request.change n))
        outstanding := before.outstanding.eraseIdx index
        answers := before.answers ++ [(request.connection, .done n)] } := by
  obtain ⟨request, asked, stepped⟩ := Option.bind_eq_some_iff.mp stepped
  obtain ⟨n, changed, stepped⟩ := Option.bind_eq_some_iff.mp stepped
  exact ⟨request, n, asked, changed, (Option.some.inj stepped).symm⟩

/-- A request that was not carried out may fail. -/
theorem fail_step {index : Nat} {message : JsString}
    (stepped : (system maxSubscriptions).step before (.fail index message) = some after) :
    ∃ request, before.outstanding[index]? = some request ∧ request.changed = none ∧
      after = { before with
        count := before.counted request none
        outstanding := before.outstanding.eraseIdx index
        answers := before.answers ++ [(request.connection, .error message)] } := by
  obtain ⟨request, asked, stepped⟩ := Option.bind_eq_some_iff.mp stepped
  by_cases possible : request.changed = none
  · rw [if_pos possible] at stepped
    exact ⟨request, asked, possible, (Option.some.inj stepped).symm⟩
  · rw [if_neg possible] at stepped
    cases stepped

/-- What is carried out adds only what was asked for. -/
theorem mem_carryOut {request : SubsRequest} {subs : OrderedSet (Nat × JsString)}
    {subscription : Nat × JsString} :
    subscription ∈ (request.carryOut subs).2 ↔
      (subscription ∈ subs ∧ request.takes subscription = false) ∨
        request.kind = .subscribe subscription.2 ∧ request.connection = subscription.1 := by
  obtain ⟨connection, kind, piped, last, changed⟩ := request
  obtain ⟨owner, topic⟩ := subscription
  cases kind with
  | subscribe asked =>
      simp only [SubsRequest.carryOut, SubsRequest.takes]
      split
      · next present =>
          constructor
          · exact fun member => Or.inl ⟨member, trivial⟩
          · rintro (⟨member, -⟩ | ⟨⟨⟩, rfl⟩)
            · exact member
            · exact present
      · simp [eq_comm, and_comm]
  | unsubscribe asked => simp [SubsRequest.carryOut]
  | unsubscribeAll => simp [SubsRequest.carryOut]

/-- A request that the extension does not refuse is passed on. -/
theorem request_cases (maxSubscriptions : Nat) (state : ActiveSubscriptions) (connection : Nat)
    (kind : SubsKind) :
    (∃ topic, kind = .subscribe topic ∧ state.refuses maxSubscriptions connection topic = true ∧
      ∃ answers, state.request maxSubscriptions connection kind = { state with answers }) ∨
    (∀ topic, kind = .subscribe topic →
      state.refuses maxSubscriptions connection topic = false) ∧
      state.request maxSubscriptions connection kind = state.pass { connection, kind } := by
  cases kind with
  | subscribe topic =>
      cases refused : state.refuses maxSubscriptions connection topic with
      | true =>
          refine Or.inl ⟨topic, rfl, refused, ?_⟩
          exact ⟨_, by rw [request, if_pos refused]⟩
      | false =>
          refine Or.inr ⟨?_, by rw [request, if_neg (by simp [refused])]⟩
          rintro other ⟨⟩
          exact refused
  | unsubscribe topic =>
      refine Or.inr ⟨?_, rfl⟩
      intro other same
      cases same
  | unsubscribeAll =>
      refine Or.inr ⟨?_, rfl⟩
      intro other same
      cases same

end ActiveSubscriptions
end Centro
