import Centro.Proof.Connection.Moves
import Centro.Proof.Server.Phases

namespace Centro

open Library

namespace Connection

variable {runtime : Runtime} {first last : Connection}

/-- After its last token a connection registers no more records. -/
theorem continues_processed (continues : Service.Continues runtime first last)
    (processed : first.phase = .processed) :
    last.phase = .processed ∧ ∀ record ∈ last.hsConns, record ∈ first.hsConns := by
  induction continues with
  | refl => exact ⟨processed, fun _ member => member⟩
  | tail _ move ih =>
      obtain ⟨phase, hsConns⟩ := ih
      obtain ⟨_, _, move⟩ := move
      cases move with
      | close => exact ⟨phase, fun record member => absurd member (OrderedSet.not_mem_empty record)⟩
      | register token hs next =>
          rw [phase] at next
          exact next.elim
      | answer token failure waits =>
          rw [phase] at waits
          cases waits
      | skip token next =>
          rw [phase] at next
          exact next.elim
      | process => exact ⟨rfl, hsConns⟩
      | _ => exact ⟨phase, hsConns⟩

/-- The server rejected the connection when it was handed over. -/
def Rejected (connection : Connection) : Prop :=
  connection.accepted = false ∧ ∃ mqserver now, .destroy mqserver now ∈ connection.calls

/-- A rejected connection is not accepted later. -/
theorem Rejected.continues (rejected : first.Rejected)
    (continues : Service.Continues runtime first last) : last.Rejected := by
  induction continues with
  | refl => exact rejected
  | tail _ move ih =>
      obtain ⟨unaccepted, mqserver, now, member⟩ := ih
      obtain ⟨_, _, move⟩ := move
      cases move with
      | accept connid _ idle joins => cases joins
      | timeouts => exact ⟨unaccepted, mqserver, now, member⟩
      | destroyed => exact ⟨unaccepted, mqserver, now, member⟩
      | register => exact ⟨unaccepted, mqserver, now, member⟩
      | answer => exact ⟨unaccepted, mqserver, now, member⟩
      | skip => exact ⟨unaccepted, mqserver, now, member⟩
      | process => exact ⟨unaccepted, mqserver, now, member⟩
      | handshaken => exact ⟨unaccepted, mqserver, now, member⟩
      | _ => exact ⟨unaccepted, mqserver, now, List.mem_append_left _ member⟩

end Connection

namespace Closure

variable {runtime : Runtime} {closure after : Closure}

/-- While the server closes, a stream that is handed over is destroyed at once. -/
theorem transportConnected_rejected {number : Nat} {transport : Transport}
    {handshakes : List Handshake} {channel : Channel} {shared : Shared} {alreadyClosed : Bool}
    {draws : List JsString} {now : Int}
    (connected : transportConnected runtime
      ⟨shared, Service.fresh number transport handshakes channel⟩ true alreadyClosed draws now =
        some after) : after.connection.Rejected := by
  obtain rfl := Option.some.inj connected
  unfold Connection.Rejected
  rw [dstroy_connection]
  simp [Service.fresh, destroyCalls]

end Closure

namespace Service

variable {runtime : Runtime} {service after : Service}

/-- Since the first state no connection has joined the server. -/
structure Shrunk (first service : Service) : Prop where
  ids : ∀ connid number, service.shared.connids.get connid = some number →
    first.shared.connids.get connid = some number
  known : ∀ (number : Nat) old, first.connections[number]? = some old →
    ∃ connection, service.connections[number]? = some connection ∧
      (old.phase = .processed → connection.phase = .processed ∧
        ∀ record ∈ connection.hsConns, record ∈ old.hsConns)
  later : ∀ (number : Nat) connection, first.connections.length ≤ number →
    service.connections[number]? = some connection → connection.Rejected

theorem Shrunk.refl (service : Service) : service.Shrunk service where
  ids := fun _ _ found => found
  known := fun _ old here => ⟨old, here, fun processed => ⟨processed, fun _ member => member⟩⟩
  later := by
    intro number connection outside here
    rw [List.getElem?_eq_none_iff.mpr outside] at here
    cases here

/-- A step that rejects a new stream lets no connection join. -/
theorem Shrunk.step {first : Service} (shrunk : first.Shrunk service) (sound : service.Sound)
    {event : Event} (stepped : service.step runtime event = some after)
    (rejects : ∀ transport handshakes channel alreadyClosed draws now,
      event = .transportConnected transport handshakes channel alreadyClosed draws now →
        service.closing = true) : first.Shrunk after where
  ids := fun connid number found =>
    shrunk.ids connid number ((sound.drains stepped rejects).ids connid number found)
  known := by
    intro number old known
    obtain ⟨connection, here, stays⟩ := shrunk.known number old known
    obtain ⟨last, there, continues⟩ := sound.step_continues stepped here
    refine ⟨last, there, fun processed => ?_⟩
    obtain ⟨phase, hsConns⟩ := stays processed
    obtain ⟨phase, fewer⟩ := Connection.continues_processed continues phase
    exact ⟨phase, fun record member => hsConns record (fewer record member)⟩
  later := by
    intro number connection outside there
    cases here : service.connections[number]? with
    | none =>
        obtain ⟨_, _, _, _, _, _, _, rfl, ran, rfl, _⟩ := step_fresh stepped here there
        rw [rejects _ _ _ _ _ _ rfl] at ran
        exact Closure.transportConnected_rejected ran
    | some before =>
        obtain ⟨found, present, continues⟩ := sound.step_continues stepped here
        obtain rfl := Option.some.inj (there.symm.trans present)
        exact (shrunk.later number before outside here).continues continues

/-- A record that was not registered before belongs to a connection that was processing its tokens. -/
theorem Shrunk.registered {first : Service} (shrunk : first.Shrunk service) (start : first.Sound)
    (sound : service.Sound) {uri : Uri} {record : Record}
    (member : record ∈ service.shared.registered uri) :
    record ∈ first.shared.registered uri ∨ ∃ connection,
      first.connections[record.connection]? = some connection ∧ connection.Open ∧
        connection.phase ≠ .processed := by
  obtain ⟨same, connection, inside, isOpen, held⟩ := sound.mem_registered.mp member
  obtain ⟨number, here⟩ := List.getElem?_of_mem inside
  have owner : record.connection = number := by
    have entry : (service.connections.map Connection.entry)[number]? = some connection.entry := by
      rw [List.getElem?_map, here, Option.map_some]
    exact sound.registry.owned number connection.entry entry record held
  have listed := shrunk.ids _ _ (sound.connids.mpr ⟨connection, here, isOpen, rfl⟩)
  obtain ⟨old, known, wasOpen, _⟩ := start.connids.mp listed
  by_cases processed : old.phase = .processed
  · obtain ⟨last, present, stays⟩ := shrunk.known number old known
    obtain rfl := Option.some.inj (here.symm.trans present)
    have held := (stays processed).2 record held
    exact Or.inl (start.mem_registered.mpr ⟨same, old, List.mem_of_getElem? known, wasOpen, held⟩)
  · exact Or.inr ⟨old, owner ▸ known, wasOpen, processed⟩

end Service

namespace Server

variable {runtime : Runtime} {setup : Setup} {server after : Server}

/-- A transport hands a stream over only while `_closing` is set. -/
def Refuses (server : Server) : Event → Prop
  | .keyed (.service (.transportConnected _ _ _ _ _ _)) => server.closing = true
  | _ => True

/-- No step takes `_closing` back. -/
theorem step_closing {event : Event} (stepped : Stepped runtime setup server event after)
    (closing : server.closing = true) : after.closing = true := by
  unfold Server.closing at closing ⊢
  rcases step_keyed stepped with same | begun | ⟨move, _, ran⟩ | destroyed
  · rw [same]
    exact closing
  · rw [begun]
  · rcases KeyedService.step_service ran with same | ⟨move, moved, _⟩
    · rw [same]
      exact closing
    · by_cases begins : move = .beginClosing
      · subst begins
        rw [← Option.some.inj moved]
      · exact (Service.step_closing moved begins).trans closing
  · rw [destroyed]
    exact Service.destroyAll_closing.trans closing

/-- From a call of `close` on, no stream is handed over while `_closing` is unset. -/
theorem refuses_of_closing (closing : server.closing = true) (events : List Event) :
    (system runtime setup).AllSteps Refuses server events := by
  induction events generalizing server with
  | nil => trivial
  | cons event rest ih =>
      intro next stepped
      refine ⟨?_, ih (step_closing (step_cases stepped) closing)⟩
      unfold Refuses
      split
      · exact closing
      · trivial

/-- A step under the condition lets no connection join. -/
theorem shrunk_step {first : Service} (shrunk : first.Shrunk server.keyed.service)
    (sound : server.keyed.service.Sound) {event : Event} (refuses : server.Refuses event)
    (stepped : Stepped runtime setup server event after) : first.Shrunk after.keyed.service := by
  rcases step_keyed stepped with same | begun | ⟨move, rfl, ran⟩ | destroyed
  · rw [same]
    exact shrunk
  · rw [begun]
    exact ⟨shrunk.ids, shrunk.known, shrunk.later⟩
  · rcases KeyedService.step_service ran with same | ⟨move, moved, caused⟩
    · rw [same]
      exact shrunk
    · apply shrunk.step sound moved
      rintro _ _ _ _ _ _ rfl
      rcases caused with rfl | ⟨_, _, _, other⟩
      · exact refuses
      · cases other
  · rw [destroyed]
    have last : server.keyed.service.step runtime .destroyAll =
        some (server.keyed.service.destroyAll runtime) := rfl
    exact shrunk.step sound last (by simp)

/-- Nothing is added in a run that refuses all streams. -/
theorem shrunk_run {first : Service} {events : List Event}
    (reached : (system runtime setup).Reachable server)
    (shrunk : first.Shrunk server.keyed.service)
    (refuses : (system runtime setup).AllSteps Refuses server events)
    (ran : (system runtime setup).run server events = some after) :
    first.Shrunk after.keyed.service := by
  induction events generalizing server with
  | nil =>
      obtain rfl : server = after := by simpa [TransitionSystem.run] using ran
      exact shrunk
  | cons event rest ih =>
      obtain ⟨next, stepped, ran⟩ := Option.bind_eq_some_iff.mp ran
      obtain ⟨here, later⟩ := refuses next stepped
      have moved := shrunk_step shrunk (sound_of_reachable reached) here (step_cases stepped)
      exact ih (.step reached trivial stepped) moved later ran

/-- While the server closes, no id is added to `_connids`, only a connection that was processing its
tokens adds records to `_connections`, and each new stream is destroyed instead of accepted. -/
theorem registered_while_closing {events : List Event}
    (reached : (system runtime setup).Reachable server)
    (refuses : (system runtime setup).AllSteps Refuses server events)
    (ran : (system runtime setup).run server events = some after) :
    (∀ connid number, after.connids.get connid = some number →
      server.connids.get connid = some number) ∧
    (∀ uri record, record ∈ after.keyed.service.shared.registered uri →
      record ∈ server.keyed.service.shared.registered uri ∨ ∃ connection,
        server.keyed.service.connections[record.connection]? = some connection ∧
          connection.Open ∧ connection.phase ≠ .processed) ∧
    (∀ number connection, server.keyed.service.connections.length ≤ number →
      after.keyed.service.connections[number]? = some connection →
        connection.accepted = false ∧ ∃ mqserver now, .destroy mqserver now ∈ connection.calls) := by
  have shrunk := shrunk_run reached (.refl _) refuses ran
  have start := sound_of_reachable reached
  have last : (system runtime setup).Reachable after :=
    reached.run (TransitionSystem.allSteps_true _ _) ran
  exact ⟨shrunk.ids, fun _ _ => shrunk.registered start (sound_of_reachable last), shrunk.later⟩

/-- A stream is handed over after a call of `close`. -/
theorem registered_while_closing_sample : ∃ server after,
    (system sampleRuntime { transports := [{}], fsq := some true }).run {}
      [.authorized none 0, .start (.transportReady none), .tick 0, .close] = some server ∧
    (system sampleRuntime { transports := [{}], fsq := some true }).run server
      [.keyed (.service (.transportConnected { config := {} } [sampleHandshake] {} false
        [sampleConnid] 0))] = some after ∧
    (∀ connid number, after.connids.get connid = some number →
      server.connids.get connid = some number) ∧
    (∀ uri record, record ∈ after.keyed.service.shared.registered uri →
      record ∈ server.keyed.service.shared.registered uri ∨ ∃ connection,
        server.keyed.service.connections[record.connection]? = some connection ∧
          connection.Open ∧ connection.phase ≠ .processed) ∧
    (∀ number connection, server.keyed.service.connections.length ≤ number →
      after.keyed.service.connections[number]? = some connection →
        connection.accepted = false ∧ ∃ mqserver now, .destroy mqserver now ∈ connection.calls) := by
  obtain ⟨server, ran, closing, after, later⟩ : ∃ server,
      (system sampleRuntime { transports := [{}], fsq := some true }).run {}
        [.authorized none 0, .start (.transportReady none), .tick 0, .close] = some server ∧
      server.closing = true ∧ ∃ after,
      (system sampleRuntime { transports := [{}], fsq := some true }).run server
        [.keyed (.service (.transportConnected { config := {} } [sampleHandshake] {} false
          [sampleConnid] 0))] = some after :=
    ⟨_, rfl, rfl, _, rfl⟩
  exact ⟨server, after, ran, later, registered_while_closing (TransitionSystem.reachable_of_run ran)
    (refuses_of_closing closing _) later⟩

/-- The second token of this connection has a URI of its own. -/
def secondHandshake : Handshake :=
  { sampleHandshake with uri := text "mailto:bar@example.com" }

/-- After a call of `close` the second token of a connection is registered. After a failed start
the server closes itself, but it still accepts a stream. -/
theorem registers_while_closing :
    (∃ server after,
      (system sampleRuntime { transports := [{}], fsq := some true }).run {}
        [.authorized none 0, .start (.transportReady none), .tick 0,
         .keyed (.service (.transportConnected { config := {} } [sampleHandshake, secondHandshake] {}
           false [sampleConnid] 0)),
         .keyed (.addPubKey 0 sampleHandshake.uri (text "1")),
         .keyed (.service (.connection 0 (.gotPubKey (.ok (some (text "1")))))),
         .close] = some server ∧ server.closing = true ∧
      server.step sampleRuntime { transports := [{}], fsq := some true }
        (.keyed (.service (.connection 0 (.resume 0)))) = some after ∧
      ∃ record, record ∈ after.keyed.service.shared.registered secondHandshake.uri ∧
        record ∉ server.keyed.service.shared.registered secondHandshake.uri) ∧
    (∃ server after,
      (system sampleRuntime { transports := [{}, {}], fsq := some true }).run {}
        [.authorized none 0, .start (.transportReady none),
         .start (.transportReady (some (text "dummy"))), .tick 0] = some server ∧
      server.lifecycle.shutdown = .closingAuthz none ∧
      server.step sampleRuntime { transports := [{}, {}], fsq := some true }
        (.keyed (.service (.transportConnected { config := {} } [sampleHandshake] {} false
          [sampleConnid] 0))) = some after ∧
      server.connids.get sampleConnid = none ∧ after.connids.get sampleConnid = some 0) := by
  constructor
  · refine ⟨_, _, rfl, rfl, rfl, ⟨0, 1, secondHandshake.uri, secondHandshake.rev⟩, ?_, ?_⟩
    · decide
    · decide
  · exact ⟨_, _, rfl, rfl, rfl, rfl, by decide⟩

end Server
end Centro
