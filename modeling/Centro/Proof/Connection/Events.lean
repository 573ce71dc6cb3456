import Centro.Proof.Connection.Destroyed

namespace Centro

open Library

namespace Call

def isDisconnect : Call → Bool
  | .disconnect _ => true
  | _ => false

def isPreConnect : Call → Bool
  | .preConnect _ => true
  | _ => false

/-- The connection got its `MQlobberServer`, which these calls set up. -/
def isSetup : Call → Bool
  | .accessControl _ | .mqlobberServer _ | .subscribe _ _ | .preConnect _ => true
  | _ => false

/-- These calls are none of the events of a connection and set nothing up. -/
def Mute (call : Call) : Prop :=
  call.isDisconnect = false ∧ call.isPreConnect = false ∧ call.isConnect = false ∧
    call.isSetup = false

end Call

namespace Connection

variable {runtime : Runtime}

/-- The events of a connection come at most once and in order, and a closed connection is not set
up any more. -/
structure Lives (connection : Connection) : Prop where
  joined : connection.closed = true → connection.accepted = true
  served : connection.mqserver = true → connection.phase = .processed
  disconnects : connection.calls.filter Call.isDisconnect =
    if connection.closed then [.disconnect connection.connid] else []
  greets : connection.calls.countP Call.isPreConnect = if connection.mqserver then 1 else 0
  connects : connection.calls.countP Call.isConnect ≤ if connection.handshaken then 1 else 0
  order : OnlyAfter (fun call : Call => call.isPreConnect = true)
    (fun call => call.isConnect = true) connection.calls
  still : NeverAfter (fun call : Call => call.isDisconnect = true)
    (fun call => call.isSetup = true) connection.calls

/-- A connection goes on with other calls. -/
theorem Lives.mute {before after : Connection} (lives : before.Lives) {more : List Call}
    (calls : after.calls = before.calls ++ more) (mute : ∀ call ∈ more, call.Mute)
    (accepted : before.accepted = true → after.accepted = true)
    (served : after.mqserver = true → after.phase = .processed)
    (closed : after.closed = before.closed)
    (connid : before.closed = true → after.connid = before.connid)
    (mqserver : after.mqserver = before.mqserver)
    (handshaken : before.handshaken = true → after.handshaken = true) : after.Lives where
  joined is := accepted (lives.joined (closed ▸ is))
  served := served
  disconnects := by
    have none : more.filter Call.isDisconnect = [] :=
      List.filter_eq_nil_iff.mpr fun call member => by simp [(mute call member).1]
    rw [calls, List.filter_append, none, List.append_nil, lives.disconnects, closed]
    cases gone : before.closed with
    | false => rfl
    | true => rw [connid gone]
  greets := by
    have none : more.countP Call.isPreConnect = 0 :=
      List.countP_eq_zero.mpr fun call member => by simp [(mute call member).2.1]
    rw [calls, List.countP_append, none, lives.greets, mqserver, Nat.add_zero]
  connects := by
    have none : more.countP Call.isConnect = 0 :=
      List.countP_eq_zero.mpr fun call member => by simp [(mute call member).2.2.1]
    rw [calls, List.countP_append, none]
    refine lives.connects.trans ?_
    cases shaken : before.handshaken with
    | false => simp
    | true => simp [handshaken shaken]
  order := by
    rw [calls]
    refine lives.order.append fun call member connects => ?_
    simp [(mute call member).2.2.1] at connects
  still := by
    rw [calls, neverAfter_append]
    have idle : ∀ call ∈ more, ¬call.isSetup = true := fun call member => by
      simp [(mute call member).2.2.2]
    exact ⟨lives.still, neverAfter_of_absent idle, fun _ => idle⟩

/-- Mute calls are none of these events. -/
theorem mute_of_mem {calls : List Call} (mute : ∀ call ∈ calls, call.Mute) :
    calls.filter Call.isDisconnect = [] ∧ calls.countP Call.isPreConnect = 0 ∧
      calls.countP Call.isConnect = 0 ∧ ∀ call ∈ calls, ¬call.isSetup = true := by
  refine ⟨List.filter_eq_nil_iff.mpr fun call member => ?_,
    List.countP_eq_zero.mpr fun call member => ?_,
    List.countP_eq_zero.mpr fun call member => ?_, fun call member => ?_⟩
  · simp [(mute call member).1]
  · simp [(mute call member).2.1]
  · simp [(mute call member).2.2.1]
  · simp [(mute call member).2.2.2]

/-- The close of a connection emits `disconnect` between mute calls. -/
theorem mute_closeCalls (connection : Connection) (runtime : Runtime) :
    ∃ front back, connection.closeCalls runtime = front ++ .disconnect connection.connid :: back ∧
      (∀ call ∈ front, call.Mute) ∧ ∀ call ∈ back, call.Mute := by
  refine ⟨connection.clearedTimeouts, connection.departureCalls runtime, by simp [closeCalls], ?_,
    ?_⟩
  · intro call member
    obtain ⟨record, _, rfl⟩ := List.mem_map.mp member
    exact ⟨rfl, rfl, rfl, rfl⟩
  · intro call member
    obtain ⟨entry, _, rfl⟩ := List.mem_map.mp member
    exact ⟨rfl, rfl, rfl, rfl⟩

/-- A close ends the life of an open connection. -/
theorem Lives.close {connection : Connection} (lives : connection.Lives)
    (isOpen : connection.Open) :
    Lives { connection with
      closed := true
      hsConns := .empty
      timeouts := .empty
      calls := connection.calls ++ connection.closeCalls runtime } := by
  obtain ⟨front, back, same, before, after⟩ := connection.mute_closeCalls runtime
  obtain ⟨frontGone, frontGreets, frontConnects, frontSetup⟩ := mute_of_mem before
  obtain ⟨backGone, backGreets, backConnects, backSetup⟩ := mute_of_mem after
  have idle : ∀ call ∈ front ++ .disconnect connection.connid :: back, ¬call.isSetup = true := by
    intro call member
    rcases List.mem_append.mp member with inside | inside
    · exact frontSetup call inside
    · rcases List.mem_cons.mp inside with rfl | inside
      · simp [Call.isSetup]
      · exact backSetup call inside
  rw [same]
  refine ⟨fun _ => isOpen.1, lives.served, ?_, ?_, ?_, ?_, ?_⟩
  · rw [List.filter_append, lives.disconnects, isOpen.2]
    simp [frontGone, backGone, List.filter_cons, Call.isDisconnect]
  · rw [List.countP_append, lives.greets]
    simp [frontGreets, backGreets, Call.isPreConnect]
  · rw [List.countP_append]
    simpa [frontConnects, backConnects, Call.isConnect] using lives.connects
  · refine lives.order.append fun call member connects => ?_
    have none : (front ++ .disconnect connection.connid :: back).countP Call.isConnect = 0 := by
      simp [frontConnects, backConnects, Call.isConnect]
    exact absurd connects (List.countP_eq_zero.mp none call member)
  · rw [neverAfter_append]
    exact ⟨lives.still, neverAfter_of_absent idle, fun _ => idle⟩

/-- A connection that goes into service emits `pre_connect` and no other of these events. -/
theorem serviceCalls_events (connection : Connection) (runtime : Runtime) :
    (connection.serviceCalls runtime).filter Call.isDisconnect = [] ∧
      (connection.serviceCalls runtime).countP Call.isPreConnect = 1 ∧
      (connection.serviceCalls runtime).countP Call.isConnect = 0 := by
  have subscribes : ∀ call ∈ connection.subscribeCalls runtime,
      ∃ topic toExisting, call = .subscribe topic toExisting := by
    intro call member
    obtain ⟨hs, _, listed⟩ := List.mem_flatMap.mp member
    obtain ⟨entry, _, rfl⟩ := List.mem_map.mp listed
    exact ⟨_, _, rfl⟩
  have unsubscribed : (connection.subscribeCalls runtime).countP Call.isPreConnect = 0 := by
    refine List.countP_eq_zero.mpr fun call member => ?_
    obtain ⟨topic, toExisting, rfl⟩ := subscribes call member
    simp [Call.isPreConnect]
  refine ⟨List.filter_eq_nil_iff.mpr fun call member => ?_, ?_,
    List.countP_eq_zero.mpr fun call member => ?_⟩
  · simp only [serviceCalls, List.mem_append, List.mem_cons, List.not_mem_nil, or_false] at member
    rcases member with ((rfl | rfl) | inside) | rfl
    · simp [Call.isDisconnect]
    · simp [Call.isDisconnect]
    · obtain ⟨topic, toExisting, rfl⟩ := subscribes call inside
      simp [Call.isDisconnect]
    · simp [Call.isDisconnect]
  · simp [serviceCalls, unsubscribed, Call.isPreConnect]
  · simp only [serviceCalls, List.mem_append, List.mem_cons, List.not_mem_nil, or_false] at member
    rcases member with ((rfl | rfl) | inside) | rfl
    · simp [Call.isConnect]
    · simp [Call.isConnect]
    · obtain ⟨topic, toExisting, rfl⟩ := subscribes call inside
      simp [Call.isConnect]
    · simp [Call.isConnect]

/-- The connection gets its `MQlobberServer` while it is open. -/
theorem Lives.enter {connection : Connection} (lives : connection.Lives)
    (unserved : connection.mqserver = false) (isOpen : connection.Open)
    (processed : connection.phase = .processed) :
    Lives { connection with
      mqserver := true, calls := connection.calls ++ connection.serviceCalls runtime } := by
  obtain ⟨gone, greets, connects⟩ := connection.serviceCalls_events runtime
  have quiet : connection.calls.filter Call.isDisconnect = [] := by
    rw [lives.disconnects, isOpen.2]
    rfl
  refine ⟨lives.joined, fun _ => processed, ?_, ?_, ?_, ?_, ?_⟩
  · rw [List.filter_append, gone, List.append_nil]
    exact lives.disconnects
  · rw [List.countP_append, greets, lives.greets, unserved]
    rfl
  · rw [List.countP_append, connects]
    exact lives.connects
  · exact lives.order.append fun call member connect =>
      absurd connect (List.countP_eq_zero.mp connects call member)
  · rw [neverAfter_append]
    refine ⟨lives.still, neverAfter_of_unmarked fun call member => ?_, ?_⟩
    · exact List.filter_eq_nil_iff.mp gone call member
    · rintro ⟨call, member, disconnects⟩
      exact absurd disconnects (List.filter_eq_nil_iff.mp quiet call member)

/-- The server emits `connect` after the reply and announces the arrival. -/
theorem Lives.announce {origin connection : Connection} {greeting : Greeting}
    (lives : connection.Lives) (first : origin.Lives) (served : connection.mqserver = true)
    (shaken : connection.handshaken = true) (unshaken : origin.handshaken = false)
    (calls : connection.calls = origin.calls ++ [.reply greeting version]) (hsdata : List UInt8) :
    Lives { connection with
      calls := connection.calls ++ ([.connect connection.connid hsdata] ++
        connection.arrivalCalls runtime) } := by
  have mute : ∀ call ∈ connection.arrivalCalls runtime, call.Mute := by
    intro call member
    obtain ⟨entry, _, rfl⟩ := List.mem_map.mp member
    exact ⟨rfl, rfl, rfl, rfl⟩
  obtain ⟨gone, greets, connects, setup⟩ := mute_of_mem mute
  have none : connection.calls.countP Call.isConnect = 0 := by
    have before := first.connects
    rw [unshaken] at before
    rw [calls, List.countP_append, Nat.le_zero.mp before]
    rfl
  have idle : ∀ call ∈ [.connect connection.connid hsdata] ++ connection.arrivalCalls runtime,
      ¬call.isSetup = true := by
    intro call member
    rcases List.mem_append.mp member with inside | inside
    · rw [List.mem_singleton.mp inside]
      simp [Call.isSetup]
    · exact setup call inside
  refine ⟨lives.joined, lives.served, ?_, ?_, ?_, ?_, ?_⟩
  · rw [List.filter_append, List.filter_append, gone, lives.disconnects]
    simp [Call.isDisconnect]
  · rw [List.countP_append, List.countP_append, greets, lives.greets]
    simp [Call.isPreConnect]
  · rw [List.countP_append, List.countP_append, connects, none, shaken]
    simp [Call.isConnect]
  · refine lives.order.append fun call member _ => ?_
    have greeted : 0 < connection.calls.countP Call.isPreConnect := by
      rw [lives.greets, served]
      exact Nat.one_pos
    exact List.countP_pos_iff.mp greeted
  · rw [neverAfter_append]
    exact ⟨lives.still, neverAfter_of_absent idle, fun _ => idle⟩

/-- A new connection has not lived yet. -/
theorem lives_fresh (number : Nat) (transport : Transport) (handshakes : List Handshake)
    (channel : Channel) : (Service.fresh number transport handshakes channel).Lives where
  joined := nofun
  served := nofun
  disconnects := rfl
  greets := rfl
  connects := Nat.le_refl 0
  order := onlyAfter_nil
  still := neverAfter_nil

/-- Each move keeps the order of the events. -/
theorem Lives.move {origin before after : Connection} {event : Option ConnectionEvent}
    (first : origin.Lives) (lives : before.Lives) (move : Move runtime origin event before after) :
    after.Lives := by
  cases move with
  | log made plain =>
      refine lives.mute rfl ?_ id lives.served rfl (fun _ => rfl) rfl id
      intro call member
      rw [List.mem_singleton.mp member]
      cases made <;> first | exact ⟨rfl, rfl, rfl, rfl⟩ | exact absurd plain (by simp [Call.plain])
  | timeouts => exact ⟨lives.joined, lives.served, lives.disconnects, lives.greets, lives.connects,
      lives.order, lives.still⟩
  | accept connid unaccepted idle =>
      refine lives.mute (List.append_nil _).symm (by simp) (fun _ => rfl) lives.served rfl ?_ rfl id
      intro closed
      simp [lives.joined closed] at unaccepted
  | close isOpen => exact lives.close isOpen
  | dstroy | destroy =>
      refine lives.mute rfl ?_ id lives.served rfl (fun _ => rfl) rfl id
      intro call member
      rw [List.mem_singleton.mp member]
      exact ⟨rfl, rfl, rfl, rfl⟩
  | destroyed => exact ⟨lives.joined, lives.served, lives.disconnects, lives.greets, lives.connects,
      lives.order, lives.still⟩
  | register token hs next =>
      refine lives.mute (List.append_nil _).symm (by simp) id ?_ rfl (fun _ => rfl) rfl id
      intro served
      rw [lives.served served] at next
      exact next.elim
  | answer token failure waits =>
      refine lives.mute (List.append_nil _).symm (by simp) id ?_ rfl (fun _ => rfl) rfl id
      intro served
      simp [lives.served served] at waits
  | skip token next =>
      refine lives.mute (List.append_nil _).symm (by simp) id ?_ rfl (fun _ => rfl) rfl id
      intro served
      rw [lives.served served] at next
      exact next.elim
  | process =>
      exact lives.mute (List.append_nil _).symm (by simp) id (fun _ => rfl) rfl (fun _ => rfl) rfl
        id
  | enter enters isOpen processed calls =>
      refine lives.enter ?_ isOpen processed
      obtain ⟨_, token, next, _⟩ := enters
      have unserved : origin.mqserver = false := by
        refine Bool.eq_false_iff.mpr fun served => ?_
        rw [first.served served] at next
        exact next
      have greets := lives.greets
      rw [calls, first.greets, unserved] at greets
      exact Bool.eq_false_iff.mpr fun served => by simp [served] at greets
  | handshaken =>
      exact lives.mute (List.append_nil _).symm (by simp) id lives.served rfl (fun _ => rfl) rfl
        fun _ => rfl
  | announce hsdata announces served shaken unshaken greeting calls =>
      exact lives.announce first served shaken unshaken calls (hsdata.drop 4)
  | ack topic =>
      refine lives.mute rfl ?_ id lives.served rfl (fun _ => rfl) rfl id
      intro call member
      rw [List.mem_singleton.mp member]
      unfold ackCall
      dsimp only
      split <;> exact ⟨rfl, rfl, rfl, rfl⟩

end Connection

namespace Service

variable {runtime : Runtime} {service after : Service}

/-- Each connection emits `pre_connect`, `connect` and `disconnect` at most once, and `disconnect`
exactly when it is closed. It emits `connect` only after `pre_connect`, and after `disconnect` it is
not set up any more. -/
theorem connection_lives (reached : (system runtime).Reachable service) {number : Nat}
    {connection : Connection} (here : service.connections[number]? = some connection) :
    connection.calls.filter Call.isDisconnect =
      (if connection.closed then [.disconnect connection.connid] else []) ∧
    connection.calls.countP Call.isPreConnect ≤ 1 ∧
    connection.calls.countP Call.isConnect ≤ 1 ∧
    OnlyAfter (fun call : Call => call.isPreConnect = true) (fun call => call.isConnect = true)
      connection.calls ∧
    NeverAfter (fun call : Call => call.isDisconnect = true) (fun call => call.isSetup = true)
      connection.calls := by
  have lives : connection.Lives := by
    refine connection_invariant Connection.Lives (fun _ _ => True) Connection.lives_fresh ?_ ?_ ?_
      reached here
    · exact fun origin event before after first _ lives move => first.move lives move
    · exact fun _ _ _ _ _ _ _ _ => trivial
    · exact fun _ _ _ _ _ => trivial
  refine ⟨lives.disconnects, lives.greets.le.trans ?_, lives.connects.trans ?_, lives.order,
    lives.still⟩
  · split <;> omega
  · split <;> omega

/-- A client connects and leaves. -/
theorem connection_lives_sample : ∃ service connection,
    (system sampleRuntime).run {}
      [.transportConnected { config := {} } [sampleHandshake] {} false [sampleConnid] 0,
       .connection 0 (.gotPubKey (.ok (some (text "1")))), .connection 0 (.resume 0),
       .connection 0 (.handshake [0, 0, 0, 2]), .connection 0 .closed] = some service ∧
    service.connections[0]? = some connection ∧
    connection.calls.filter Call.isDisconnect = [.disconnect connection.connid] ∧
    connection.calls.countP Call.isPreConnect ≤ 1 ∧
    connection.calls.countP Call.isConnect ≤ 1 ∧
    OnlyAfter (fun call : Call => call.isPreConnect = true) (fun call => call.isConnect = true)
      connection.calls ∧
    NeverAfter (fun call : Call => call.isDisconnect = true) (fun call => call.isSetup = true)
      connection.calls := by
  have closed : (((system sampleRuntime).run {}
      [.transportConnected { config := {} } [sampleHandshake] {} false [sampleConnid] 0,
       .connection 0 (.gotPubKey (.ok (some (text "1")))), .connection 0 (.resume 0),
       .connection 0 (.handshake [0, 0, 0, 2]), .connection 0 .closed]).bind
        fun service => service.connections[0]?).map Connection.closed = some true := by decide
  obtain ⟨connection, found, gone⟩ := Option.map_eq_some_iff.mp closed
  obtain ⟨service, ran, here⟩ := Option.bind_eq_some_iff.mp found
  have lives := connection_lives (TransitionSystem.reachable_of_run ran) here
  rw [if_pos gone] at lives
  exact ⟨service, connection, ran, here, lives⟩

/-- A stream is handed over and accepted while no connection is open. -/
def begins (service : Service) : Event → Bool
  | .transportConnected _ _ _ _ _ _ =>
      !service.closing && service.shared.connids.size = 0
  | _ => false

/-- The events `empty` so far, and one more to come if a connection is open. -/
def periods (service : Service) : Nat :=
  service.shared.notices.count .empty + if service.shared.connids.size = 0 then 0 else 1

/-- The event `empty` ends a period, and nothing else does. -/
theorem periods_drains {before after : Shared} (drains : before.Drains after) :
    after.notices.count .empty + (if after.connids.size = 0 then 0 else 1) =
      before.notices.count .empty + if before.connids.size = 0 then 0 else 1 := by
  have stays := drains.stays
  rw [drains.emptied]
  by_cases start : before.connids.size = 0
  · simp [start, stays start]
  · by_cases last : after.connids.size = 0 <;> simp [start, last]

/-- An accepted stream adds its id, and the ids only drain in the rest of the call. -/
theorem accepted_drains (sound : service.Sound) {transport : Transport}
    {handshakes : List Handshake} {channel : Channel} {alreadyClosed : Bool}
    {draws : List JsString} {now : Int} (accepting : service.closing = false)
    (connected : service.transportConnected runtime transport handshakes channel alreadyClosed draws
      now = some after) :
    ∃ middle : Shared, middle.connids.size ≠ 0 ∧ middle.notices = service.shared.notices ∧
      middle.Drains after.shared := by
  obtain ⟨closure, ran, rfl⟩ := transportConnected_eq_some.mp connected
  have wide := sound.append transport handshakes channel
  have registered := wide.closure List.getElem?_concat_length
  unfold Closure.transportConnected at ran
  rw [accepting, if_neg (by simp)] at ran
  obtain ⟨connid, drawn, ran⟩ := Option.bind_eq_some_iff.mp ran
  obtain rfl := Option.some.inj ran
  let number := service.connections.length
  let joined : Closure :=
    { shared := { service.shared with connids := service.shared.connids.set connid number }
      connection := { fresh number transport handshakes channel with connid, accepted := true } }
  have unused : service.shared.connids.get connid = none := by
    simpa [OrderedMap.has] using List.find?_some drawn
  have added := registered.registry.accept registered.here rfl rfl unused
  rw [List.set_set] at added
  have accepted : joined.Registered joined.shared ((service.connections ++
      [fresh number transport handshakes channel]).map Connection.entry) number :=
    ⟨registered.inside, added, fun _ => rfl, .refl _⟩
  refine ⟨joined.shared, fun none => ?_, rfl, ?_⟩
  · have missing := OrderedMap.size_eq_zero.mp none connid
    simp [joined] at missing
  · dsimp only
    split
    · refine ((accepted.connClosed ⟨rfl, rfl⟩).nextHandshake ?_ 0 now).drains
      rw [Closure.connClosed_connection]
    · exact (accepted.nextHandshake rfl 0 now).drains

/-- A period begins when a stream is accepted while no connection is open. -/
theorem periods_step {event : Event} (sound : service.Sound)
    (stepped : service.step runtime event = some after) :
    after.periods = service.periods + if service.begins event then 1 else 0 := by
  by_cases accepts : service.closing = false ∧
      ∃ transport handshakes channel alreadyClosed draws now,
        event = .transportConnected transport handshakes channel alreadyClosed draws now
  · obtain ⟨accepting, transport, handshakes, channel, alreadyClosed, draws, now, rfl⟩ := accepts
    obtain ⟨middle, some, notices, drains⟩ := accepted_drains sound accepting stepped
    rw [periods, periods_drains drains, notices, if_neg some, periods, begins, accepting]
    by_cases start : service.shared.connids.size = 0 <;> simp [start]
  · have drains := sound.drains stepped fun _ _ _ _ _ _ is =>
      Bool.not_eq_false _ ▸ fun accepting => accepts ⟨accepting, _, _, _, _, _, _, is⟩
    have quiet : service.begins event = false := by
      cases event with
      | transportConnected transport handshakes channel alreadyClosed draws now =>
          have closing : service.closing = true := Bool.not_eq_false _ ▸ fun accepting =>
            accepts ⟨accepting, _, _, _, _, _, _, rfl⟩
          simp [begins, closing]
      | connection number event | change authz uri rev | beginClosing | destroyAll => rfl
    rw [periods, periods_drains drains, quiet]
    rfl

instance (connection : Connection) : Decidable connection.Open :=
  inferInstanceAs (Decidable (_ ∧ _))

/-- The server emits `empty` once for each period in which connections were open without a break,
when this ends. -/
theorem empty_balanced (events : List Event)
    (ran : (system runtime).run (system runtime).initial events = some service) :
    service.shared.notices.count .empty +
      (if ∃ connection ∈ service.connections, connection.Open then 1 else 0) =
      (system runtime).countSteps begins (system runtime).initial events := by
  have sound := sound_of_reachable (TransitionSystem.reachable_of_run ran)
  have balanced : service.periods =
      0 + (system runtime).countSteps begins (system runtime).initial events :=
    @TransitionSystem.countSteps_eq _ _ (system runtime) begins Sound periods
      (fun _ _ _ sound stepped => sound.step stepped)
      (fun _ _ _ sound stepped => periods_step sound stepped) events _ _ Sound.initial ran
  rw [Nat.zero_add] at balanced
  rw [← balanced, periods]
  congr 1
  by_cases none : service.shared.connids.size = 0
  · have unopened := sound.connids_empty.mp none
    rw [if_neg, if_pos none]
    rintro ⟨connection, member, isOpen⟩
    exact unopened connection member isOpen
  · rw [if_pos, if_neg none]
    by_contra closed
    refine none (sound.connids_empty.mpr fun connection member isOpen => ?_)
    exact closed ⟨connection, member, isOpen⟩

/-- A connection opens and closes, and another one stays open. -/
theorem empty_balanced_sample : ∃ service,
    (system sampleRuntime).run {}
      [.transportConnected { config := {} } [sampleHandshake] {} false [sampleConnid] 0,
       .connection 0 .closed,
       .transportConnected { config := {} } [sampleHandshake] {} false [sampleConnid] 0] =
        some service ∧
    service.shared.notices.count .empty = 1 ∧
    service.shared.notices.count .empty +
      (if ∃ connection ∈ service.connections, connection.Open then 1 else 0) = 2 := by
  have noted : ((system sampleRuntime).run {}
      [.transportConnected { config := {} } [sampleHandshake] {} false [sampleConnid] 0,
       .connection 0 .closed,
       .transportConnected { config := {} } [sampleHandshake] {} false [sampleConnid] 0]).map
        (fun service => service.shared.notices.count .empty) = some 1 := by decide
  obtain ⟨service, ran, one⟩ := Option.map_eq_some_iff.mp noted
  exact ⟨service, ran, one, (empty_balanced _ ran).trans (by decide)⟩

end Service
end Centro
