import Centro.Proof.Connection.Moves

namespace Centro

open Library

/-- These calls neither control nor subscribe the connection, and they do not answer its client. -/
def Call.reticent : Call → Bool
  | .accessControl _ | .subscribe _ _ | .reply _ _ => false
  | _ => true

namespace Connection

variable {runtime : Runtime} {connection : Connection}

/-- All other calls of a connection are among these. -/
def told (runtime : Runtime) (connection : Connection) : List Call :=
  .accessControl (connection.accessControlOptions runtime) ::
    .reply (connection.greeting runtime) version :: connection.subscribeCalls runtime

/-- The server has subscribed a connection in service to the topics of its tokens and no others. It
controls such a connection by its tokens and answers the client with its greeting. -/
structure Greets (runtime : Runtime) (connection : Connection) : Prop where
  served : connection.mqserver = true →
    connection.phase = .processed ∧ ∀ call ∈ connection.subscribeCalls runtime,
      call ∈ connection.calls
  known : ∀ call ∈ connection.calls, call.reticent = true ∨
    connection.mqserver = true ∧ call ∈ connection.told runtime

/-- Later calls that are reticent do not matter. -/
theorem Greets.append {after : Connection} (holds : connection.Greets runtime)
    (mqserver : after.mqserver = connection.mqserver) (phase : after.phase = connection.phase)
    (subscribeCalls : after.subscribeCalls runtime = connection.subscribeCalls runtime)
    (told : after.told runtime = connection.told runtime) {more : List Call}
    (calls : after.calls = connection.calls ++ more) (reticent : ∀ call ∈ more, call.reticent = true) :
    after.Greets runtime where
  served serves := by
    obtain ⟨processed, subscribed⟩ := holds.served (mqserver ▸ serves)
    refine ⟨phase.trans processed, ?_⟩
    rw [subscribeCalls, calls]
    exact fun call member => List.mem_append_left _ (subscribed call member)
  known := by
    rw [mqserver, told, calls]
    intro call member
    rcases List.mem_append.mp member with old | new
    · exact holds.known call old
    · exact .inl (reticent call new)

/-- Nothing was told before the connection went into service. -/
theorem Greets.unserved {after : Connection} (holds : connection.Greets runtime)
    (unserved : connection.mqserver = false) (mqserver : after.mqserver = connection.mqserver)
    (calls : after.calls = connection.calls) : after.Greets runtime where
  served serves := by
    rw [mqserver, unserved] at serves
    cases serves
  known := by
    rw [calls]
    intro call member
    rcases holds.known call member with reticent | ⟨serves, _⟩
    · exact .inl reticent
    · rw [unserved] at serves
      cases serves

/-- A connection whose tokens are not all processed is not in service. -/
theorem Greets.unprocessed (holds : connection.Greets runtime)
    (phase : connection.phase ≠ .processed) : connection.mqserver = false := by
  by_contra serves
  exact phase (holds.served (by simpa using serves)).1

/-- Every move replies with the greeting of its own connection. -/
theorem Greets.move {origin before after : Connection} {event : Option ConnectionEvent}
    (holds : before.Greets runtime) (move : Move runtime origin event before after) :
    after.Greets runtime := by
  have next : ∀ {token}, before.phase.Next token → before.phase ≠ .processed := by
    intro token next processed
    rw [processed] at next
    exact next
  cases move with
  | log made plain told =>
      by_cases reticent : made.reticent = true
      · exact holds.append rfl rfl rfl rfl rfl fun call member => by
          rw [List.mem_singleton.mp member]
          exact reticent
      · cases made with
        | reply greeting sent =>
            obtain ⟨serves, rfl, rfl⟩ := told greeting sent rfl
            refine ⟨fun serves => ?_, fun call member => ?_⟩
            · obtain ⟨processed, subscribed⟩ := holds.served serves
              exact ⟨processed, fun call member => List.mem_append_left _ (subscribed call member)⟩
            · rcases List.mem_append.mp member with old | new
              · exact holds.known call old
              · rw [List.mem_singleton.mp new]
                exact .inr ⟨serves, List.mem_cons_of_mem _ List.mem_cons_self⟩
        | accessControl options => cases plain
        | subscribe topic toExisting => cases plain
        | _ => exact absurd rfl reticent
  | timeouts => exact holds.append rfl rfl rfl rfl (List.append_nil _).symm (by simp)
  | accept connid unaccepted idle =>
      exact holds.unserved (holds.unprocessed (by rw [idle]; nofun)) rfl rfl
  | close =>
      refine holds.append rfl rfl rfl rfl rfl ?_
      intro call member
      simp only [closeCalls, List.mem_append, List.mem_singleton] at member
      rcases member with (cleared | rfl) | departure
      · obtain ⟨record, _, rfl⟩ := List.mem_map.mp cleared
        rfl
      · rfl
      · obtain ⟨entry, _, rfl⟩ := List.mem_map.mp departure
        rfl
  | dstroy => exact holds.append rfl rfl rfl rfl rfl (by simp [Call.reticent])
  | destroy => exact holds.append rfl rfl rfl rfl rfl (by simp [Call.reticent])
  | destroyed => exact holds.append rfl rfl rfl rfl (List.append_nil _).symm (by simp)
  | register token hs here => exact holds.unserved (holds.unprocessed (next here)) rfl rfl
  | answer token failure waits =>
      exact holds.unserved (holds.unprocessed (by rw [waits]; nofun)) rfl rfl
  | skip token here => exact holds.unserved (holds.unprocessed (next here)) rfl rfl
  | process =>
      exact ⟨fun serves => ⟨rfl, (holds.served serves).2⟩, holds.known⟩
  | enter enters isOpen processed =>
      refine ⟨fun _ => ⟨processed, fun call member => ?_⟩, fun call member => ?_⟩
      · refine List.mem_append_right _ (List.mem_append_left _ (List.mem_append_right _ member))
      · rcases List.mem_append.mp member with old | new
        · exact (holds.known call old).imp id fun told => ⟨rfl, told.2⟩
        · simp only [serviceCalls, List.mem_append, List.mem_cons, List.not_mem_nil, or_false] at new
          rcases new with ((rfl | rfl) | subscribed) | rfl
          · exact .inr ⟨rfl, List.mem_cons_self⟩
          · exact .inl rfl
          · exact .inr ⟨rfl, List.mem_cons_of_mem _ (List.mem_cons_of_mem _ subscribed)⟩
          · exact .inl rfl
  | handshaken => exact holds.append rfl rfl rfl rfl (List.append_nil _).symm (by simp)
  | announce hsdata =>
      refine holds.append rfl rfl rfl rfl rfl ?_
      intro call member
      rcases List.mem_append.mp member with connect | arrival
      · rw [List.mem_singleton.mp connect]
        rfl
      · obtain ⟨entry, _, rfl⟩ := List.mem_map.mp arrival
        rfl
  | ack topic =>
      refine holds.append rfl rfl rfl rfl rfl ?_
      intro call member
      rw [List.mem_singleton.mp member]
      unfold Connection.ackCall
      dsimp only
      split <;> rfl

end Connection

namespace Service

variable {runtime : Runtime} {service : Service}

/-- In every reachable state a connection has only sent its own greeting. -/
theorem greets_of_reachable (reached : (system runtime).Reachable service) {number : Nat}
    {connection : Connection} (here : service.connections[number]? = some connection) :
    connection.Greets runtime := by
  refine connection_invariant (fun connection => connection.Greets runtime) (fun _ _ => True)
    ?_ ?_ (fun _ _ _ _ _ _ _ _ => trivial) (fun _ _ _ _ _ => trivial) reached here
  · intro number transport handshakes channel
    exact ⟨nofun, by simp [fresh]⟩
  · intro origin event before after _ _ holds move
    exact holds.move move

/-- The reply to a client tells it the greeting of its connection, and the server has subscribed the
connection to exactly the topics of its tokens. -/
theorem replied_of_reachable (reached : (system runtime).Reachable service) {number : Nat}
    {connection : Connection} (here : service.connections[number]? = some connection)
    {greeting : Greeting} {sent : Nat} (replied : .reply greeting sent ∈ connection.calls) :
    greeting = connection.greeting runtime ∧ sent = version ∧ ∀ topic toExisting,
      .subscribe topic toExisting ∈ connection.calls ↔
        .subscribe topic toExisting ∈ connection.subscribeCalls runtime := by
  have holds := greets_of_reachable reached here
  rcases holds.known _ replied with reticent | ⟨serves, told⟩
  · cases reticent
  · obtain ⟨rfl, rfl⟩ : greeting = connection.greeting runtime ∧ sent = version := by
      simpa [Connection.told, Connection.subscribeCalls] using told
    refine ⟨rfl, rfl, fun topic toExisting => ⟨fun member => ?_, ?_⟩⟩
    · rcases holds.known _ member with reticent | ⟨_, told⟩
      · cases reticent
      · simpa [Connection.told] using told
    · exact (holds.served serves).2 _

/-- The access control of a connection has its options from the tokens of this connection. -/
theorem controlled_of_reachable (reached : (system runtime).Reachable service) {number : Nat}
    {connection : Connection} (here : service.connections[number]? = some connection)
    {options : AccessControlOptions} (made : .accessControl options ∈ connection.calls) :
    options = connection.accessControlOptions runtime := by
  rcases (greets_of_reachable reached here).known _ made with reticent | ⟨_, told⟩
  · cases reticent
  · simpa [Connection.told, Connection.subscribeCalls] using told

end Service
end Centro
