import Centro.Proof.Connection.Moves

namespace Centro

open Library

/-- A trail of calls of `dstroy` ends in this state of a connection and has at least one call. -/
def Destroyed (runtime : Runtime) (first last : Connection) : Prop :=
  ∃ middle shared now, Dstroyed runtime first middle ∧
    last = (Closure.dstroy runtime ⟨shared, middle⟩ now).connection

namespace Closure

variable {runtime : Runtime} {closure : Closure}

/-- After a call of `dstroy` the connection is destroyed or closed. -/
theorem dstroy_gone (now : Bool) : (closure.dstroy runtime now).connection.destroyed = true ∨
    (closure.dstroy runtime now).connection.closed = true := by
  rw [dstroy_connection]
  split
  · next gone => exact Bool.or_eq_true_iff.mp gone
  · split
    · exact Or.inl rfl
    · exact Or.inl rfl

end Closure

namespace Connection

variable {runtime : Runtime}

/-- A connection that is still open has been destroyed. -/
def Condemned (connection : Connection) : Prop :=
  connection.Open → connection.destroyed = true

/-- A call of `dstroy` condemns its connection. -/
theorem condemned_of_dstroy {shared : Shared} {connection : Connection} (now : Bool) :
    (Closure.dstroy runtime ⟨shared, connection⟩ now).connection.Condemned := by
  rintro ⟨_, unclosed⟩
  rcases Closure.dstroy_gone now with destroyed | closed
  · exact destroyed
  · exact absurd (unclosed.symm.trans closed) Bool.false_ne_true

/-- No event opens a connection again. -/
theorem Moves.condemned {origin before after : Connection} {event : ConnectionEvent}
    (moves : Moves runtime origin (some event) before after) (holds : before.Condemned) :
    after.Condemned := by
  induction moves with
  | refl => exact holds
  | tail _ move ih =>
      cases move with
      | accept connid unaccepted idle joins => cases joins
      | close => exact fun isOpen => Bool.noConfusion isOpen.2
      | destroyed => exact fun _ => rfl
      | _ => exact ih

end Connection

/-- A condemned connection stays condemned. -/
theorem Dstroyed.condemned {runtime : Runtime} {first last : Connection}
    (trail : Dstroyed runtime first last) (holds : first.Condemned) : last.Condemned := by
  cases trail with
  | refl => exact holds
  | step shared now => exact Connection.condemned_of_dstroy now

namespace Service

open Connection

variable {runtime : Runtime} {service after : Service}

/-- Calls of `dstroy` have destroyed this connection. -/
def Reached (runtime : Runtime) (number : Nat) (first : Connection) (service : Service) : Prop :=
  ∃ last, service.connections[number]? = some last ∧ Destroyed runtime first last

/-- The connection of a call of `dstroy` is reached by it. -/
theorem reached_of_trail {number : Nat} {now : Bool} {first last : Connection}
    (there : service.connections[number]? = some last) (trail : Dstroyed runtime first last) :
    Reached runtime number first (service.dstroy runtime number now) := by
  rcases dstroy_cases runtime service number now with ⟨absent, _⟩ | ⟨found, present, put⟩
  · rw [absent] at there
    cases there
  · obtain rfl := Option.some.inj (there.symm.trans present)
    rw [put]
    exact ⟨_, by rw [put_connections present, if_pos rfl], last, service.shared, now, trail, rfl⟩

/-- A connection that a loop has reached stays reached. -/
theorem Reached.dstroy {number other : Nat} {first : Connection}
    (reached : Reached runtime number first service) (now : Bool) :
    Reached runtime number first (service.dstroy runtime other now) := by
  obtain ⟨last, there, middle, shared, before, trail, same⟩ := reached
  by_cases own : number = other
  · subst own
    exact reached_of_trail there (same ▸ .step shared before trail)
  · exact ⟨last, dstroy_other there own, middle, shared, before, trail, same⟩

/-- A loop of calls of `dstroy` destroys a connection that it is meant for and that it sees while
the connection is untouched. -/
theorem Sound.loop_destroys {α : Type} (sound : service.Sound) {number : Nat} {first : Connection}
    (here : service.connections[number]? = some first) {present : Service → α → Bool}
    {body : Service → α → Service} {items : List α} {target : α} (member : target ∈ items)
    (bodies : ∀ after item, body after item = after ∨
      ∃ other now, body after item = after.dstroy runtime other now)
    (aims : ∀ after, ∃ now, body after target = after.dstroy runtime number now)
    (visible : ∀ after : Service, after.Sound → after.connections[number]? = some first →
      present after target = true) :
    Reached runtime number first (visitPresent present body service items) := by
  -- Until its turn comes, the connection is untouched or another visit has destroyed it.
  let waiting : Service → Prop := fun after => after.Sound ∧
    (after.connections[number]? = some first ∨ Reached runtime number first after)
  have kept : ∀ after item, waiting after → waiting (body after item) := by
    rintro after item ⟨sound, state⟩
    rcases bodies after item with same | ⟨other, now, destroys⟩
    · rw [same]
      exact ⟨sound, state⟩
    · rw [destroys]
      refine ⟨sound.dstroy other now, ?_⟩
      rcases state with untouched | reached
      · by_cases own : number = other
        · rw [← own]
          exact Or.inr (reached_of_trail untouched .refl)
        · exact Or.inl (dstroy_other untouched own)
      · exact Or.inr (reached.dstroy now)
  have meets : ∀ after, waiting after → Reached runtime number first (body after target) := by
    rintro after ⟨_, state⟩
    obtain ⟨now, destroys⟩ := aims after
    rw [destroys]
    rcases state with untouched | reached
    · exact reached_of_trail untouched .refl
    · exact reached.dstroy now
  refine visitPresent_reaches waiting
    (fun after item => item = target → Reached runtime number first after) ?_ ?_ ?_ ?_
    ⟨sound, Or.inl here⟩ target member rfl
  · exact fun after item _ holds _ => kept after item holds
  · rintro after _ _ holds _ rfl
    exact meets after holds
  · rintro after _ _ ⟨sound, untouched | reached⟩ gone rfl
    · exact absurd (gone.symm.trans (visible after sound untouched)) Bool.false_ne_true
    · exact reached
  · intro after item other done is
    rcases bodies after item with same | ⟨number, now, destroys⟩
    · rw [same]
      exact done is
    · rw [destroys]
      exact (done is).dstroy now

/-- The loop of `close_transports` destroys every open connection. -/
theorem Sound.destroyAll_destroys (sound : service.Sound) {number : Nat} {first : Connection}
    (here : service.connections[number]? = some first) (isOpen : first.Open) :
    Reached runtime number first (service.destroyAll runtime) := by
  have known : ∀ {after : Service}, after.Sound → after.connections[number]? = some first →
      after.shared.connids.get first.connid = some number := fun sound there =>
    sound.connids.mpr ⟨first, there, isOpen, rfl⟩
  have member := OrderedMap.get_eq_some.mp (known sound here)
  apply sound.loop_destroys here member
  · exact fun after item => Or.inr ⟨_, _, rfl⟩
  · exact fun after => ⟨true, rfl⟩
  · exact fun after sound there => decide_eq_true (known sound there)

/-- Once the loop has run, a connection is open only while the transport destroys it. -/
theorem Sound.destroyAll_condemns (sound : service.Sound) :
    ∀ connection ∈ (service.destroyAll runtime).connections, connection.Condemned := by
  intro last member
  obtain ⟨number, present⟩ := List.getElem?_of_mem member
  have stepped : service.step runtime .destroyAll = some (service.destroyAll runtime) := rfl
  cases here : service.connections[number]? with
  | none =>
      obtain ⟨_, _, _, _, _, _, _, other, _⟩ := step_fresh stepped here present
      cases other
  | some first =>
      by_cases isOpen : first.Open
      · have destroys : Reached runtime number first (service.destroyAll runtime) :=
          sound.destroyAll_destroys here isOpen
        obtain ⟨found, there, middle, shared, now, _, rfl⟩ := destroys
        obtain rfl := Option.some.inj (present.symm.trans there)
        exact condemned_of_dstroy now
      · have before : first.Condemned := fun still => absurd still isOpen
        rcases step_connection stepped here with ⟨_, _, other, _⟩ | ⟨_, found, there, trail⟩ | there
        · cases other
        · obtain rfl := Option.some.inj (present.symm.trans there)
          exact trail.condemned before
        · obtain rfl := Option.some.inj (present.symm.trans there)
          exact before

/-- While the server rejects new streams, no connection comes to stay. -/
theorem Sound.condemned_step (sound : service.Sound) {event : Event}
    (rejects : ∀ transport handshakes channel alreadyClosed draws now,
      event = .transportConnected transport handshakes channel alreadyClosed draws now →
        service.closing = true)
    (all : ∀ connection ∈ service.connections, connection.Condemned)
    (stepped : service.step runtime event = some after) :
    ∀ connection ∈ after.connections, connection.Condemned := by
  intro last member
  obtain ⟨number, present⟩ := List.getElem?_of_mem member
  cases here : service.connections[number]? with
  | none =>
      obtain ⟨transport, handshakes, channel, _, _, _, closure, rfl, ran, rfl, _⟩ :=
        step_fresh stepped here present
      rw [rejects _ _ _ _ _ _ rfl] at ran
      obtain rfl := Option.some.inj ran
      exact condemned_of_dstroy false
  | some first =>
      have known := List.mem_of_getElem? here
      rcases step_connection stepped here with ⟨move, closure, _, ran, there⟩ |
          ⟨_, found, there, trail⟩ | there
      · obtain rfl := Option.some.inj (present.symm.trans there)
        have moves := Closure.step_moves ran (sound.started first known)
        exact moves.condemned (all first known)
      · obtain rfl := Option.some.inj (present.symm.trans there)
        exact trail.condemned (all first known)
      · obtain rfl := Option.some.inj (present.symm.trans there)
        exact all last known

end Service
end Centro
