import Centro.Construction.Server
import Centro.Proof.Connection.Lift

namespace Centro

open Library

namespace Service

variable {runtime : Runtime} {service after : Service}

/-- A call of `dstroy` leaves `_closing` alone. -/
theorem dstroy_closing (number : Nat) (now : Bool) :
    (service.dstroy runtime number now).closing = service.closing := by
  rcases dstroy_cases runtime service number now with ⟨_, same⟩ | ⟨_, _, put⟩
  · rw [same]
  · rw [put]
    rfl

/-- The destruction of all connections leaves `_closing` alone. -/
theorem destroyAll_closing : (service.destroyAll runtime).closing = service.closing := by
  let same : Service → Prop := fun other => other.closing = service.closing
  have kept : same (service.destroyAll runtime) :=
    destroyAll_invariant rfl fun _ number _ same => (dstroy_closing number true).trans same
  exact kept

/-- Only the server itself begins to close. -/
theorem step_closing {event : Event} (stepped : service.step runtime event = some after)
    (other : event ≠ .beginClosing) : after.closing = service.closing := by
  cases event with
  | transportConnected transport handshakes channel alreadyClosed draws now =>
      obtain ⟨closure, _, rfl⟩ := transportConnected_eq_some.mp stepped
      rfl
  | connection number move =>
      rw [step, withClosure_eq_some] at stepped
      obtain ⟨_, closure, _, _, rfl⟩ := stepped
      rfl
  | change authz uri rev =>
      obtain rfl := Option.some.inj stepped
      let same : Service → Prop := fun other => other.closing = service.closing
      have kept : same (service.change runtime uri rev) :=
        change_invariant authz rfl fun _ number _ same => (dstroy_closing number false).trans same
      exact kept
  | beginClosing => exact absurd rfl other
  | destroyAll =>
      obtain rfl := Option.some.inj stepped
      exact destroyAll_closing

end Service

namespace KeyedService

variable {runtime : Runtime} {state after : KeyedService}

/-- A step takes one step of the service, or none. -/
theorem step_service {event : Event} (stepped : state.step runtime event = some after) :
    after.service = state.service ∨ ∃ move, state.service.step runtime move = some after.service ∧
      (event = .service move ∨ ∃ authz uri rev, move = .change authz uri rev) := by
  cases event with
  | service move =>
      simp only [step, Option.ite_none_right_eq_some] at stepped
      obtain ⟨service, ran, rfl⟩ := Option.map_eq_some_iff.mp stepped.2
      refine Or.inr ⟨move, ?_, Or.inl rfl⟩
      split <;> exact ran
  | addPubKey authz uri rev =>
      obtain ⟨keystore, _, rfl⟩ := Option.map_eq_some_iff.mp stepped
      exact Or.inl rfl
  | removePubKey authz uri announced =>
      obtain ⟨keystore, _, rfl⟩ := Option.map_eq_some_iff.mp stepped
      exact Or.inl rfl
  | deliver authz =>
      simp only [step] at stepped
      cases changes : (state.keystores authz).changes with
      | nil => simp [changes] at stepped
      | cons change rest =>
          simp only [changes] at stepped
          obtain ⟨service, ran, rfl⟩ := Option.map_eq_some_iff.mp stepped
          exact Or.inr ⟨_, ran, Or.inr ⟨_, _, _, rfl⟩⟩

/-- Only the start of the shutdown sets `_closing`. -/
theorem step_closing {event : Event} (stepped : state.step runtime event = some after)
    (other : event ≠ .service .beginClosing) : after.service.closing = state.service.closing := by
  rcases step_service stepped with same | ⟨move, ran, rfl | ⟨authz, uri, rev, rfl⟩⟩
  · rw [same]
  · exact Service.step_closing ran fun begins => other (congrArg Event.service begins)
  · exact Service.step_closing ran (by simp)

end KeyedService

end Centro
