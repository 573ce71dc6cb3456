import Centro.Proof.Connection.Isolation
import Centro.Library.Trace

namespace Centro

open Library

namespace Call

def isDstroy : Call → Bool
  | .dstroy _ => true
  | _ => false

/-- These calls put a connection into service or announce it. -/
def isService : Call → Bool
  | .mqlobberServer _ | .subscribe _ _ | .preConnect _ | .connect _ _ => true
  | .publish (.connect _) _ _ _ => true
  | _ => false

end Call

namespace Connection

/-- No call of `dstroy` came before any call that puts the connection into service. -/
def NeverRevived (connection : Connection) : Prop :=
  NeverAfter (fun call : Call => call.isDstroy = true) (fun call => call.isService = true)
    connection.calls

instance (connection : Connection) : Decidable connection.NeverRevived :=
  inferInstanceAs (Decidable (NeverAfter _ _ _))

/-- The last lookup succeeds on an open connection, or the client sends a valid handshake, only if
`dstroy` was not called before. -/
def ServedInTime (connection : Connection) (event : ConnectionEvent) : Prop :=
  (connection.Enters (some event) ∧ connection.closed = false) ∨
    (∃ hsdata, Announces hsdata (some event)) → ∀ call ∈ connection.calls, call.isDstroy = false

variable {runtime : Runtime}

/-- A connection is put into service without a call of `dstroy`. -/
theorem isDstroy_serviceCalls (connection : Connection) :
    ∀ call ∈ connection.serviceCalls runtime, call.isDstroy = false := by
  intro call member
  simp only [serviceCalls, List.mem_append, List.mem_cons, List.not_mem_nil, or_false] at member
  rcases member with ((rfl | rfl) | subscribed) | rfl
  · rfl
  · rfl
  · obtain ⟨hs, _, listed⟩ := List.mem_flatMap.mp subscribed
    obtain ⟨entry, _, rfl⟩ := List.mem_map.mp listed
    rfl
  · rfl

/-- The close of a connection puts nothing into service. -/
theorem isService_closeCalls (connection : Connection) :
    ∀ call ∈ connection.closeCalls runtime, call.isService = false := by
  intro call member
  simp only [closeCalls, List.mem_append, List.mem_singleton] at member
  rcases member with (cleared | rfl) | departure
  · obtain ⟨record, _, rfl⟩ := List.mem_map.mp cleared
    rfl
  · rfl
  · obtain ⟨entry, _, rfl⟩ := List.mem_map.mp departure
    rfl

/-- An acknowledgement puts nothing into service. -/
theorem isService_ackCall (connection : Connection) (topic : JsString) :
    (connection.ackCall runtime topic).isService = false := by
  unfold ackCall
  dsimp only
  split <;> rfl

/-- The presence messages of an arrival come without a call of `dstroy`. -/
theorem isDstroy_arrivalCalls (connection : Connection) :
    ∀ call ∈ connection.arrivalCalls runtime, call.isDstroy = false := by
  intro call member
  obtain ⟨entry, _, rfl⟩ := List.mem_map.mp member
  rfl

/-- Calls that put nothing into service revive no connection. -/
theorem NeverRevived.idle {before after : Connection} (never : before.NeverRevived)
    {more : List Call} (calls : after.calls = before.calls ++ more)
    (idle : ∀ call ∈ more, call.isService = false) : after.NeverRevived := by
  have absent : ∀ call ∈ more, ¬call.isService = true := by
    intro call member
    simp [idle call member]
  unfold NeverRevived
  rw [calls, neverAfter_append]
  exact ⟨never, neverAfter_of_absent absent, fun _ => absent⟩

/-- A connection may be put into service while `dstroy` was not called. -/
theorem NeverRevived.serve {before after : Connection} (never : before.NeverRevived)
    {more : List Call} (calls : after.calls = before.calls ++ more)
    (unmarked : ∀ call ∈ more, call.isDstroy = false)
    (inTime : ∀ call ∈ before.calls, call.isDstroy = false) : after.NeverRevived := by
  unfold NeverRevived
  rw [calls, neverAfter_append]
  refine ⟨never, neverAfter_of_unmarked ?_, ?_⟩
  · intro call member
    simp [unmarked call member]
  · rintro ⟨call, member, destroyed⟩
    exact Bool.noConfusion ((inTime call member).symm.trans destroyed)

/-- Each move keeps a destroyed connection out of service under the condition. -/
theorem NeverRevived.move {origin before after : Connection} {event : Option ConnectionEvent}
    (never : before.NeverRevived) (permits : Service.Permits ServedInTime origin event)
    (move : Move runtime origin event before after) : after.NeverRevived := by
  cases move with
  | log made plain =>
      refine never.idle rfl ?_
      intro call member
      rw [List.mem_singleton.mp member]
      cases made <;> simp_all [Call.plain, Call.isService]
  | timeouts => exact never
  | accept => exact never
  | close => exact never.idle rfl (isService_closeCalls before)
  | dstroy => exact never.idle rfl (by simp [Call.isService])
  | destroy => exact never.idle rfl (by simp [Call.isService])
  | destroyed => exact never
  | register => exact never
  | answer => exact never
  | skip => exact never
  | process => exact never
  | handshaken => exact never
  | ack topic =>
      refine never.idle rfl ?_
      intro call member
      rw [List.mem_singleton.mp member]
      exact isService_ackCall before topic
  | enter enters isOpen processed calls unclosed =>
      refine never.serve rfl (isDstroy_serviceCalls before) ?_
      rw [calls]
      cases event with
      | none =>
          obtain ⟨_, _, _, _, rfl⟩ := permits
          simp [Service.fresh]
      | some cause => exact permits (Or.inl ⟨enters, unclosed⟩)
  | announce hsdata announces served shaken unshaken greeting calls =>
      refine never.serve rfl ?_ ?_
      · intro call member
        rcases List.mem_append.mp member with connect | arrival
        · rw [List.mem_singleton.mp connect]
          rfl
        · exact isDstroy_arrivalCalls before call arrival
      · rw [calls]
        cases event with
        | none => exact absurd announces.1 (by simp)
        | some cause =>
            have undestroyed := permits (Or.inr ⟨hsdata, announces⟩)
            intro call member
            rcases List.mem_append.mp member with old | new
            · exact undestroyed call old
            · rw [List.mem_singleton.mp new]
              rfl

end Connection

/-- No connection is served too late. -/
def Service.ServesInTime (service : Service) : Service.Event → Prop
  | .connection number move => ∀ connection, service.connections[number]? = some connection →
      connection.ServedInTime move
  | _ => True

/-- In every run in which no connection is served too late, no destroyed connection is put into
service. -/
theorem destroyed_never_served {runtime : Runtime} {service : Service}
    (reached : (Service.system runtime).ReachableUnder Service.ServesInTime service) {number : Nat}
    {connection : Connection} (here : service.connections[number]? = some connection) :
    connection.NeverRevived := by
  have looped : ∀ (connection : Connection) (now : Bool),
      connection.ServedInTime (.dstroy now) := by
    intro connection now late
    rcases late with ⟨⟨none | ⟨_, resumes⟩, _⟩, _⟩ | ⟨_, sent, _⟩
    · cases none
    · cases resumes
    · cases sent
  refine Service.connection_invariant Connection.NeverRevived Connection.ServedInTime ?_ ?_ ?_ ?_
    reached here
  · intro number transport handshakes channel
    exact neverAfter_nil
  · intro origin event before after _ permits never move
    exact never.move permits move
  · intro service event number connection move meets here brings
    cases brings with
    | own _ meant =>
        subst meant
        exact meets connection here
    | loop now => exact looped connection now
  · intro connection shared now later _
    exact looped _ later

/-- A key changes after its connection was put into service. -/
theorem destroyed_never_served_sample : ∃ service connection,
    (Service.system sampleRuntime).run {}
      [.transportConnected { config := {} } [sampleHandshake] {} false [sampleConnid] 0,
       .connection 0 (.gotPubKey (.ok (some (text "1")))),
       .connection 0 (.resume 0),
       .change 0 (text "mailto:foo@example.com") (some (text "2"))] = some service ∧
    service.connections[0]? = some connection ∧
    (connection.mqserver, connection.destroyed) = (true, true) ∧ connection.NeverRevived := by
  have destroyed : (((Service.system sampleRuntime).run {}
      [.transportConnected { config := {} } [sampleHandshake] {} false [sampleConnid] 0,
       .connection 0 (.gotPubKey (.ok (some (text "1")))),
       .connection 0 (.resume 0),
       .change 0 (text "mailto:foo@example.com") (some (text "2"))]).bind
        fun service => service.connections[0]?).map
          (fun connection => (connection.mqserver, connection.destroyed)) = some (true, true) := by
    decide
  obtain ⟨connection, found, flags⟩ := Option.map_eq_some_iff.mp destroyed
  obtain ⟨service, ran, here⟩ := Option.bind_eq_some_iff.mp found
  have reached : (Service.system sampleRuntime).ReachableUnder Service.ServesInTime service := by
    apply TransitionSystem.ReachableUnder.initial.run _ ran
    refine fun first stepped => ⟨trivial, fun second stepped' => ⟨?_, fun third _ => ⟨?_, fun _ _ =>
      ⟨trivial, trivial⟩⟩⟩⟩
    · rintro connection _ (⟨⟨none | ⟨_, resumes⟩, _⟩, _⟩ | ⟨_, sent, _⟩)
      · cases none
      · cases resumes
      · cases sent
    · obtain rfl := Option.some.inj stepped
      obtain rfl := Option.some.inj stepped'
      intro connection here _
      obtain rfl := Option.some.inj here
      decide
  exact ⟨service, connection, ran, here, flags, destroyed_never_served reached here⟩

/-- The server destroys a connection whose lookup still runs, the transport takes its time, and
the lookup succeeds. -/
theorem destroyed_served : ∃ service connection,
    (Service.system sampleRuntime).run {}
      [.transportConnected { config := {} } [sampleHandshake] {} false [sampleConnid] 0,
       .beginClosing, .destroyAll,
       .connection 0 (.gotPubKey (.ok (some (text "1")))),
       .connection 0 (.resume 0)] = some service ∧
    service.connections[0]? = some connection ∧ ¬connection.NeverRevived := by
  have revived : (((Service.system sampleRuntime).run {}
      [.transportConnected { config := {} } [sampleHandshake] {} false [sampleConnid] 0,
       .beginClosing, .destroyAll,
       .connection 0 (.gotPubKey (.ok (some (text "1")))),
       .connection 0 (.resume 0)]).bind fun service => service.connections[0]?).map
        (fun connection => decide connection.NeverRevived) = some false := by decide
  obtain ⟨connection, found, revived⟩ := Option.map_eq_some_iff.mp revived
  obtain ⟨service, ran, here⟩ := Option.bind_eq_some_iff.mp found
  exact ⟨service, connection, ran, here, of_decide_eq_false revived⟩

end Centro
