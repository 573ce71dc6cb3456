import Centro.Proof.Connection.Effects

namespace Centro

open Library

/-- Outside calls of `dstroy` lead from one state of a connection to another. -/
inductive Dstroyed (runtime : Runtime) (first : Connection) : Connection → Prop where
  | refl : Dstroyed runtime first first
  | step {last : Connection} (shared : Shared) (now : Bool) : Dstroyed runtime first last →
      Dstroyed runtime first (Closure.dstroy runtime ⟨shared, last⟩ now).connection

namespace Service

variable {runtime : Runtime} {service after : Service}

/-- A callback of a connection runs on its variables and puts them back. -/
theorem withClosure_eq_some {number : Nat} {body : Closure → Option Closure} :
    service.withClosure number body = some after ↔
      ∃ connection closure, service.connections[number]? = some connection ∧
        body ⟨service.shared, connection⟩ = some closure ∧ after = service.put number closure := by
  simp only [withClosure, Option.bind_eq_bind, Option.bind_eq_some_iff, Option.some.injEq]
  constructor
  · rintro ⟨connection, here, closure, ran, rfl⟩
    exact ⟨connection, closure, here, ran, rfl⟩
  · rintro ⟨connection, closure, here, ran, rfl⟩
    exact ⟨connection, here, closure, ran, rfl⟩

/-- One connection is replaced, and the others stay. -/
theorem put_connections {number other : Nat} {connection : Connection} {closure : Closure}
    (here : service.connections[number]? = some connection) :
    (service.put number closure).connections[other]? =
      if other = number then some closure.connection else service.connections[other]? := by
  have inside : number < service.connections.length := (List.getElem?_eq_some_iff.mp here).1
  simp only [put, List.getElem?_set]
  by_cases same : number = other
  · simp [same, same ▸ inside]
  · simp [same, Ne.symm same]

/-- An outside call of `dstroy` reaches only the connection it is for. -/
theorem dstroy_cases (runtime : Runtime) (service : Service) (number : Nat) (now : Bool) :
    (service.connections[number]? = none ∧ service.dstroy runtime number now = service) ∨
      ∃ connection, service.connections[number]? = some connection ∧
        service.dstroy runtime number now =
          service.put number (Closure.dstroy runtime ⟨service.shared, connection⟩ now) := by
  unfold dstroy withClosure
  cases here : service.connections[number]? with
  | none => exact Or.inl ⟨rfl, by simp⟩
  | some connection => exact Or.inr ⟨connection, rfl, by simp⟩

/-- These are the variables of a call of `transport_connected` before it runs. -/
def fresh (number : Nat) (transport : Transport) (handshakes : List Handshake) (channel : Channel) :
    Connection :=
  { number, transport, handshakes, channel }

/-- The new stream of a `transportConnected` event works on its own variables. -/
theorem transportConnected_eq_some {transport : Transport} {handshakes : List Handshake}
    {channel : Channel} {alreadyClosed : Bool} {draws : List JsString} {now : Int} :
    service.transportConnected runtime transport handshakes channel alreadyClosed draws now =
        some after ↔
      ∃ closure, Closure.transportConnected runtime
          ⟨service.shared, fresh service.connections.length transport handshakes channel⟩
          service.closing alreadyClosed draws now = some closure ∧
        after = { service with
          shared := closure.shared
          connections := service.connections ++ [closure.connection] } := by
  have last : (service.connections ++ [fresh service.connections.length transport handshakes
      channel])[service.connections.length]? =
        some (fresh service.connections.length transport handshakes channel) := by simp
  unfold transportConnected
  dsimp only
  rw [withClosure_eq_some]
  constructor
  · rintro ⟨connection, closure, here, ran, rfl⟩
    obtain rfl := Option.some.inj (last.symm.trans here)
    exact ⟨closure, ran, by simp [put]⟩
  · rintro ⟨closure, ran, rfl⟩
    exact ⟨_, closure, last, ran, by simp [put]⟩

/-- The loops over connections call `dstroy` for these ones. -/
def Dstroys (service : Service) : Event → Nat → Prop
  | .change _ uri rev, number => ∃ record ∈ service.shared.registered uri,
      record.connection = number ∧ record.rev ≠ rev
  | .destroyAll, number => ∃ connid, service.shared.connids.get connid = some number
  | _, _ => False

/-- A property holds after `change` when each call of `dstroy` in its loop keeps it. -/
theorem change_invariant {property : Service → Prop} (authz : Nat) {uri : Uri} {rev : Rev}
    (noticed : property (service.notice (.uriRevisionChange uri)))
    (kept : ∀ after number, service.Dstroys (.change authz uri rev) number → property after →
      property (after.dstroy runtime number false)) :
    property (service.change runtime uri rev) := by
  have same : (service.notice (.uriRevisionChange uri)).shared.connections =
      service.shared.connections := rfl
  unfold change
  dsimp only
  rw [same]
  cases found : service.shared.connections.get uri with
  | none => exact noticed
  | some conns =>
      refine visitPresent_invariant (fun after record member holds _ => ?_) noticed
      split
      · next differs =>
          apply kept after record.connection _ holds
          refine ⟨record, ?_, rfl, differs⟩
          rw [Shared.registered, found]
          exact member
      · exact holds

/-- A property holds after `_close` when each call of `dstroy` in its loop keeps it. -/
theorem destroyAll_invariant {property : Service → Prop} (start : property service)
    (kept : ∀ after number, service.Dstroys .destroyAll number → property after →
      property (after.dstroy runtime number true)) :
    property (service.destroyAll runtime) := by
  refine visitPresent_invariant (fun after entry member holds _ => ?_) start
  exact kept after entry.2 ⟨entry.1, OrderedMap.get_eq_some.mpr member⟩ holds

/-- The loops take a connection along a trail of calls of `dstroy`. -/
def Trail (runtime : Runtime) (number : Nat) (first : Connection) (service : Service) : Prop :=
  ∃ last, service.connections[number]? = some last ∧ Dstroyed runtime first last

/-- Another call of `dstroy` continues the trail. -/
theorem Trail.dstroy {number other : Nat} {first : Connection}
    (trail : Trail runtime number first service) (now : Bool) :
    Trail runtime number first (service.dstroy runtime other now) := by
  obtain ⟨last, there, trail⟩ := trail
  rcases dstroy_cases runtime service other now with ⟨_, same⟩ | ⟨found, present, put⟩
  · rw [same]
    exact ⟨last, there, trail⟩
  · rw [put]
    by_cases same : number = other
    · subst same
      obtain rfl := Option.some.inj (there.symm.trans present)
      exact ⟨_, by rw [put_connections present, if_pos rfl], .step service.shared now trail⟩
    · exact ⟨last, by rw [put_connections present, if_neg same]; exact there, trail⟩

/-- A call of `dstroy` for another connection changes nothing here. -/
theorem dstroy_other {number other : Nat} {now : Bool} {first : Connection}
    (here : service.connections[number]? = some first) (differs : number ≠ other) :
    (service.dstroy runtime other now).connections[number]? = some first := by
  rcases dstroy_cases runtime service other now with ⟨_, same⟩ | ⟨_, present, put⟩
  · rw [same]
    exact here
  · rw [put, put_connections present, if_neg differs]
    exact here

/-- A step takes a connection through the one event meant for it, or destroys it in a loop, or
leaves it alone. -/
theorem step_connection {event : Event} (stepped : service.step runtime event = some after)
    {number : Nat} {first : Connection} (here : service.connections[number]? = some first) :
    (∃ move closure, event = .connection number move ∧
      Closure.step runtime ⟨service.shared, first⟩ move = some closure ∧
      after.connections[number]? = some closure.connection) ∨
    (service.Dstroys event number ∧ Trail runtime number first after) ∨
    after.connections[number]? = some first := by
  have inside : number < service.connections.length := (List.getElem?_eq_some_iff.mp here).1
  cases event with
  | transportConnected transport handshakes channel alreadyClosed draws now =>
      obtain ⟨closure, _, rfl⟩ := transportConnected_eq_some.mp stepped
      exact Or.inr (Or.inr (by simp [List.getElem?_append_left inside, here]))
  | connection other move =>
      rw [step, withClosure_eq_some] at stepped
      obtain ⟨found, closure, present, ran, rfl⟩ := stepped
      by_cases same : number = other
      · subst same
        obtain rfl := Option.some.inj (here.symm.trans present)
        exact Or.inl ⟨move, closure, rfl, ran, by rw [put_connections present, if_pos rfl]⟩
      · exact Or.inr (Or.inr (by rw [put_connections present, if_neg same]; exact here))
  | change authz uri rev =>
      obtain rfl := Option.some.inj stepped
      by_cases meant : service.Dstroys (.change authz uri rev) number
      · refine Or.inr (Or.inl ⟨meant, ?_⟩)
        exact change_invariant authz ⟨first, here, .refl⟩ fun _ _ _ trail => trail.dstroy false
      · refine Or.inr (Or.inr ?_)
        let untouched : Service → Prop := fun other => other.connections[number]? = some first
        have kept : untouched (service.change runtime uri rev) := by
          apply change_invariant authz
          · exact here
          · intro after other visited still
            exact dstroy_other still fun same => meant (same ▸ visited)
        exact kept
  | beginClosing =>
      obtain rfl := Option.some.inj stepped
      exact Or.inr (Or.inr here)
  | destroyAll =>
      obtain rfl := Option.some.inj stepped
      by_cases meant : service.Dstroys .destroyAll number
      · refine Or.inr (Or.inl ⟨meant, ?_⟩)
        exact destroyAll_invariant ⟨first, here, .refl⟩ fun _ _ _ trail => trail.dstroy true
      · refine Or.inr (Or.inr ?_)
        let untouched : Service → Prop := fun other => other.connections[number]? = some first
        have kept : untouched (service.destroyAll runtime) := by
          apply destroyAll_invariant
          · exact here
          · intro after other visited still
            exact dstroy_other still fun same => meant (same ▸ visited)
        exact kept

/-- A call of `dstroy` adds no connection. -/
theorem dstroy_length (number : Nat) (now : Bool) :
    (service.dstroy runtime number now).connections.length = service.connections.length := by
  rcases dstroy_cases runtime service number now with ⟨_, same⟩ | ⟨_, _, put⟩
  · rw [same]
  · simp [put, Service.put]

/-- A connection that a step brings along has just been connected. -/
theorem step_fresh {event : Event} (stepped : service.step runtime event = some after)
    {number : Nat} {last : Connection} (absent : service.connections[number]? = none)
    (present : after.connections[number]? = some last) :
    ∃ transport handshakes channel alreadyClosed draws now closure,
      event = .transportConnected transport handshakes channel alreadyClosed draws now ∧
      Closure.transportConnected runtime
        ⟨service.shared, fresh number transport handshakes channel⟩ service.closing alreadyClosed
        draws now = some closure ∧
      closure.connection = last ∧ number = service.connections.length := by
  have outside : service.connections.length ≤ number := List.getElem?_eq_none_iff.mp absent
  have unchanged : after.connections.length = service.connections.length → False := by
    intro same
    have inside := (List.getElem?_eq_some_iff.mp present).1
    omega
  cases event with
  | transportConnected transport handshakes channel alreadyClosed draws now =>
      obtain ⟨closure, ran, rfl⟩ := transportConnected_eq_some.mp stepped
      have inside := (List.getElem?_eq_some_iff.mp present).1
      obtain rfl : number = service.connections.length := by
        simp only [List.length_append, List.length_singleton] at inside
        omega
      exact ⟨transport, handshakes, channel, alreadyClosed, draws, now, closure, rfl, ran,
        by simpa using present, rfl⟩
  | connection other move =>
      rw [step, withClosure_eq_some] at stepped
      obtain ⟨_, _, _, _, rfl⟩ := stepped
      exact (unchanged (by simp [put])).elim
  | change authz uri rev =>
      obtain rfl := Option.some.inj stepped
      let same : Service → Prop := fun other =>
        other.connections.length = service.connections.length
      have kept : same (service.change runtime uri rev) :=
        change_invariant authz rfl fun _ _ _ same => (dstroy_length _ _).trans same
      exact (unchanged kept).elim
  | beginClosing =>
      obtain rfl := Option.some.inj stepped
      exact (unchanged rfl).elim
  | destroyAll =>
      obtain rfl := Option.some.inj stepped
      let same : Service → Prop := fun other =>
        other.connections.length = service.connections.length
      have kept : same (service.destroyAll runtime) :=
        destroyAll_invariant rfl fun _ _ _ same => (dstroy_length _ _).trans same
      exact (unchanged kept).elim

end Service
end Centro
