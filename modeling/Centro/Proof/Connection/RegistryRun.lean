import Centro.Proof.Connection.Registry
import Centro.Proof.Connection.Lift

namespace Centro

open Library

/-- A closure works on the entry at its number, it is accepted before its tokens are processed, and
the ids have only drained so far. -/
structure Closure.Registered (first : Shared) (entries : List Entry) (number : Nat)
    (closure : Closure) : Prop where
  inside : number < entries.length
  registry : Registry closure.shared (entries.set number closure.connection.entry)
  started : closure.connection.phase ≠ .idle → closure.connection.accepted = true
  drains : first.Drains closure.shared

namespace Closure.Registered

variable {first : Shared} {runtime : Runtime} {entries : List Entry} {number : Nat} {closure : Closure}

/-- The entry of a connection is at its place. -/
theorem here (registered : closure.Registered first entries number) :
    (entries.set number closure.connection.entry)[number]? = some closure.connection.entry := by
  simp [registered.inside]

/-- A connection keeps its number. -/
theorem number_eq (registered : closure.Registered first entries number) :
    closure.connection.number = number :=
  registered.registry.numbered number _ registered.here

/-- A change of other variables keeps the registry. -/
theorem quiet (registered : closure.Registered first entries number) {next : Closure}
    (shared : next.shared = closure.shared)
    (entry : next.connection.entry = closure.connection.entry)
    (started : next.connection.phase ≠ .idle → next.connection.accepted = true) :
    next.Registered first entries number where
  inside := registered.inside
  registry := by rw [shared, entry]; exact registered.registry
  started := started
  drains := shared ▸ registered.drains

/-- A call changes nothing about what is registered. -/
theorem call (registered : closure.Registered first entries number) (made : Call) :
    (closure.call made).Registered first entries number :=
  registered.quiet rfl rfl registered.started

theorem callAll (registered : closure.Registered first entries number) (made : List Call) :
    (closure.callAll made).Registered first entries number :=
  registered.quiet rfl rfl registered.started

/-- A close takes the id and the records of the connection out. -/
theorem connClosed (registered : closure.Registered first entries number)
    (isOpen : closure.connection.Open) :
    (closure.connClosed runtime).Registered first entries number where
  inside := registered.inside
  registry := by
    have closed := registered.registry.close registered.here isOpen
    rw [List.set_set] at closed
    have entry : (closure.connClosed runtime).connection.entry =
        { closure.connection.entry with closed := true, hsConns := .empty } := by
      rw [Closure.connClosed_connection]
      rfl
    rw [entry]
    simp only [Closure.connClosed, Connection.foldl_clearTimeout]
    rw [Shared.foldl_unregister_connids]
    split
    · exact closed.notice (by simp)
    · exact closed
  started := by
    rw [Closure.connClosed_connection]
    exact registered.started
  drains := by
    obtain rfl := registered.number_eq
    have present : closure.shared.connids.get closure.connection.connid =
        some closure.connection.number :=
      (registered.registry.connids _ _).mpr ⟨_, registered.here, isOpen, rfl⟩
    refine registered.drains.trans (.delete present ?_ ?_)
    · simp only [Closure.connClosed, Connection.foldl_clearTimeout, Shared.foldl_unregister_connids]
      split <;> rfl
    · simp only [Closure.connClosed, Connection.foldl_clearTimeout, Shared.foldl_unregister_connids]
      split
      · simp [Shared.foldl_unregister_count]
      · simp [Shared.foldl_unregister_count]

/-- The destroy function takes out what a close takes out. -/
theorem invokeDestroy (registered : closure.Registered first entries number)
    (unclosed : closure.connection.closed = false) (now : Bool) :
    (closure.invokeDestroy runtime now).Registered first entries number := by
  have noted := registered.call (.destroy closure.connection.mqserver now)
  have reported : (if (closure.connection.channel.closes && closure.connection.accepted) = true then
      (closure.call (.destroy closure.connection.mqserver now)).connClosed runtime
      else closure.call (.destroy closure.connection.mqserver now)).Registered first entries number := by
    split
    · next closes =>
        rw [Bool.and_eq_true] at closes
        exact noted.connClosed ⟨closes.2, unclosed⟩
    · exact noted
  unfold Closure.invokeDestroy
  dsimp only
  split
  · exact reported.call _
  · exact reported

/-- A call of `dstroy` keeps the registry exact. -/
theorem dstroy (registered : closure.Registered first entries number) (now : Bool) :
    (closure.dstroy runtime now).Registered first entries number := by
  have noted := registered.call (.dstroy now)
  unfold Closure.dstroy
  dsimp only
  split
  · next live =>
      simp only [Bool.and_eq_true, Bool.not_eq_true'] at live
      have destroyed : ((closure.call (.dstroy now)).invokeDestroy runtime now).Registered first
          entries number := noted.invokeDestroy live.2 now
      exact destroyed.quiet rfl rfl destroyed.started
  · exact noted

/-- The handshake of a token adds its record. -/
theorem processHandshake (registered : closure.Registered first entries number)
    (accepted : closure.connection.accepted = true) (token : Nat) (hs : Handshake) (now : Int) :
    (closure.processHandshake runtime token hs now).Registered first entries number := by
  unfold Closure.processHandshake
  split
  · exact registered.quiet rfl rfl fun _ => accepted
  · next unclosed =>
      have isOpen : closure.connection.entry.Open :=
        ⟨accepted, (Bool.not_eq_true _).mp unclosed⟩
      let record : Record :=
        { connection := closure.connection.number, token := token, uri := hs.uri, rev := hs.rev }
      have owner : record.connection = number := registered.number_eq
      have added := registered.registry.register registered.here isOpen owner
      rw [List.set_set] at added
      refine ⟨registered.inside, ?_, fun _ => ?_, ?_⟩
      · cases hs.payload.ack <;> cases hs.payload.presence <;> cases hs.payload.exp <;> exact added
      · cases hs.payload.ack <;> cases hs.payload.presence <;> cases hs.payload.exp <;> exact accepted
      · have drains : first.Drains (closure.shared.register record) :=
          registered.drains.trans (.of_connids rfl rfl)
        cases hs.payload.ack <;> cases hs.payload.presence <;> cases hs.payload.exp <;> exact drains

/-- The end of the handshakes keeps the registry exact. -/
theorem processedHandshakes (registered : closure.Registered first entries number)
    (accepted : closure.connection.accepted = true) (failure : Option Failure) :
    (closure.processedHandshakes runtime failure).Registered first entries number := by
  have done : Closure.Registered first entries number
      { closure with connection.phase := .processed } :=
    registered.quiet rfl rfl fun _ => accepted
  unfold Closure.processedHandshakes
  cases failure with
  | some failure => exact (done.call _).dstroy false
  | none =>
      dsimp only
      split
      · exact done.call _
      · exact done.quiet rfl rfl fun _ => accepted

/-- The next handshake keeps the registry exact. -/
theorem nextHandshake (registered : closure.Registered first entries number)
    (accepted : closure.connection.accepted = true) (token : Nat) (now : Int) :
    (closure.nextHandshake runtime token now).Registered first entries number := by
  unfold Closure.nextHandshake
  split
  · exact registered.processHandshake accepted token _ now
  · exact registered.processedHandshakes accepted none

/-- A timer that fires keeps the registry exact. -/
theorem timeout (registered : closure.Registered first entries number) {token : Nat} {now : Int}
    {next : Closure} (fired : closure.timeout runtime token now = some next) :
    next.Registered first entries number := by
  unfold Closure.timeout at fired
  obtain ⟨timer, _, fired⟩ := Option.bind_eq_some_iff.mp fired
  obtain ⟨hs, _, fired⟩ := Option.bind_eq_some_iff.mp fired
  cases timer with
  | schedule =>
      obtain ⟨exp, _, fired⟩ := Option.bind_eq_some_iff.mp fired
      obtain rfl := Option.some.inj fired
      exact registered.quiet rfl rfl registered.started
  | action =>
      obtain rfl := Option.some.inj fired
      refine Closure.Registered.dstroy ?_ false
      exact registered.quiet rfl rfl registered.started

/-- The handshake of a client keeps the registry exact. -/
theorem handshake (registered : closure.Registered first entries number) (hsdata : List UInt8) :
    (closure.handshake runtime hsdata).Registered first entries number := by
  have marked : Closure.Registered first entries number
      { closure with connection.handshaken := true } :=
    registered.quiet rfl rfl registered.started
  unfold Closure.handshake
  dsimp only
  split
  · exact marked.call _
  · split
    · exact ((marked.call _).call _).dstroy false
    · exact ((marked.call _).call _).callAll _

/-- Each event of a connection keeps the registry. -/
theorem step (registered : closure.Registered first entries number) {event : ConnectionEvent}
    {next : Closure} (stepped : closure.step runtime event = some next) :
    next.Registered first entries number := by
  cases event with
  | gotPubKey result =>
      simp only [Closure.step] at stepped
      split at stepped
      · next token waiting =>
          obtain ⟨hs, _, rfl⟩ := Option.map_eq_some_iff.mp stepped
          exact registered.quiet rfl rfl fun _ => registered.started (by simp [waiting])
      · cases stepped
  | resume now =>
      simp only [Closure.step] at stepped
      split at stepped
      · next waiting =>
          obtain rfl := Option.some.inj stepped
          exact registered.processedHandshakes (registered.started (by simp [waiting])) _
      · next waiting =>
          obtain rfl := Option.some.inj stepped
          exact registered.nextHandshake (registered.started (by simp [waiting])) _ now
      · cases stepped
  | timeout token now => exact registered.timeout stepped
  | closed =>
      simp only [Closure.step, Option.ite_none_right_eq_some, Option.some.injEq] at stepped
      obtain ⟨isOpen, rfl⟩ := stepped
      exact registered.connClosed (by simpa [Connection.Open] using isOpen)
  | handshake hsdata =>
      simp only [Closure.step, Option.ite_none_right_eq_some, Option.some.injEq] at stepped
      obtain ⟨_, rfl⟩ := stepped
      exact registered.handshake hsdata
  | ack topic =>
      simp only [Closure.step, Option.ite_none_right_eq_some, Option.some.injEq] at stepped
      obtain ⟨_, rfl⟩ := stepped
      exact registered.call _
  | dstroy now =>
      obtain rfl := Option.some.inj stepped
      exact registered.dstroy now

/-- A new stream is rejected while the server closes. Otherwise it is accepted, perhaps closed at
once, and then processed. -/
theorem transportConnected (registered : closure.Registered first entries number)
    (unaccepted : closure.connection.accepted = false)
    (unclosed : closure.connection.closed = false) {closing alreadyClosed : Bool}
    {draws : List JsString} {now : Int} {next : Closure}
    (connected : closure.transportConnected runtime closing alreadyClosed draws now = some next) :
    ∃ second, next.Registered second entries number ∧ (closing = true → second = first) := by
  unfold Closure.transportConnected at connected
  split at connected
  · obtain rfl := Option.some.inj connected
    exact ⟨first, registered.dstroy false, fun _ => rfl⟩
  · next rejected =>
      obtain ⟨connid, drawn, connected⟩ := Option.bind_eq_some_iff.mp connected
      obtain rfl := Option.some.inj connected
      have unused : closure.shared.connids.get connid = none := by
        simpa [OrderedMap.has] using List.find?_some drawn
      have added := registered.registry.accept registered.here unaccepted unclosed unused
      rw [List.set_set] at added
      let joined : Closure := { closure with
        shared.connids := closure.shared.connids.set connid closure.connection.number
        connection.connid := connid
        connection.accepted := true }
      have accepted : joined.Registered joined.shared entries number := by
        obtain rfl := registered.number_eq
        exact ⟨registered.inside, added, fun _ => rfl, .refl _⟩
      refine ⟨joined.shared, ?_, fun closing => absurd closing rejected⟩
      dsimp only
      split
      · refine (accepted.connClosed ⟨rfl, unclosed⟩).nextHandshake ?_ 0 now
        rw [Closure.connClosed_connection]
      · exact accepted.nextHandshake rfl 0 now

end Closure.Registered

/-- The registry invariant holds of the whole service. -/
structure Service.Sound (service : Service) : Prop where
  registry : Registry service.shared (service.connections.map Connection.entry)
  started : ∀ connection ∈ service.connections,
    connection.phase ≠ .idle → connection.accepted = true

namespace Service

variable {runtime : Runtime} {service after : Service}

theorem Sound.initial : Sound {} := ⟨Registry.initial, by simp⟩

/-- Each connection of a sound service starts its closures from a sound registry. -/
theorem Sound.closure (sound : service.Sound) {number : Nat} {connection : Connection}
    (here : service.connections[number]? = some connection) :
    Closure.Registered service.shared (service.connections.map Connection.entry) number
      ⟨service.shared, connection⟩ where
  inside := by
    rw [List.length_map]
    exact (List.getElem?_eq_some_iff.mp here).1
  registry := by
    have mapped : (service.connections.map Connection.entry)[number]? = some connection.entry := by
      rw [List.getElem?_map, here, Option.map_some]
    obtain ⟨inside, entry⟩ := List.getElem?_eq_some_iff.mp mapped
    rw [← entry, List.set_getElem_self]
    exact sound.registry
  started := sound.started connection (List.mem_of_getElem? here)
  drains := .refl _

/-- A closure that ends with a sound registry leaves a sound service. -/
theorem Sound.put (sound : service.Sound) {first : Shared} {number : Nat} {closure : Closure}
    (registered : closure.Registered first (service.connections.map Connection.entry) number) :
    (service.put number closure).Sound where
  registry := by
    simp only [Service.put, List.map_set]
    exact registered.registry
  started := by
    intro connection member
    rcases List.mem_or_eq_of_mem_set member with before | rfl
    · exact sound.started connection before
    · exact registered.started

/-- A call of `dstroy` keeps the service sound. -/
theorem Sound.dstroy (sound : service.Sound) (number : Nat) (now : Bool) :
    (service.dstroy runtime number now).Sound := by
  rcases dstroy_cases runtime service number now with ⟨_, same⟩ | ⟨connection, here, put⟩
  · rw [same]
    exact sound
  · rw [put]
    exact sound.put ((sound.closure here).dstroy now)

/-- An event about a known uri keeps the service sound. -/
theorem Sound.notice (sound : service.Sound) {emitted : Notice}
    (known : ∀ uri, emitted ≠ .unknownUri uri) : (service.notice emitted).Sound :=
  ⟨sound.registry.notice known, sound.started⟩

/-- A new connection is not registered yet. -/
theorem Sound.append (sound : service.Sound) (transport : Transport) (handshakes : List Handshake)
    (channel : Channel) :
    Sound { service with connections := service.connections ++
      [fresh service.connections.length transport handshakes channel] } where
  registry := by
    rw [List.map_append]
    exact sound.registry.append (by simp [fresh, Connection.entry]) rfl OrderedSet.not_mem_empty
  started := by
    intro connection member
    rcases List.mem_append.mp member with before | last
    · exact sound.started connection before
    · obtain rfl := List.mem_singleton.mp last
      exact fun started => absurd rfl started

/-- Each step of the service keeps the registry. -/
theorem Sound.step (sound : service.Sound) {event : Event}
    (stepped : service.step runtime event = some after) : after.Sound := by
  cases event with
  | transportConnected transport handshakes channel alreadyClosed draws now =>
      rw [Service.step, transportConnected, withClosure_eq_some] at stepped
      obtain ⟨connection, closure, here, ran, rfl⟩ := stepped
      have wide := sound.append transport handshakes channel
      have last : connection = fresh service.connections.length transport handshakes channel := by
        simpa [fresh] using here.symm
      subst last
      obtain ⟨_, registered, _⟩ := (wide.closure here).transportConnected rfl rfl ran
      exact wide.put registered
  | connection number move =>
      rw [Service.step, withClosure_eq_some] at stepped
      obtain ⟨connection, closure, here, ran, rfl⟩ := stepped
      exact sound.put ((sound.closure here).step ran)
  | change authz uri rev =>
      obtain rfl := Option.some.inj stepped
      exact change_invariant authz (sound.notice (by simp)) fun _ number _ sound =>
        sound.dstroy number false
  | beginClosing =>
      obtain rfl := Option.some.inj stepped
      exact ⟨sound.registry, sound.started⟩
  | destroyAll =>
      obtain rfl := Option.some.inj stepped
      exact destroyAll_invariant sound fun _ number _ sound => sound.dstroy number true

/-- The ids only drain when `dstroy` is called. -/
theorem Sound.dstroy_drains (sound : service.Sound) (number : Nat) (now : Bool) :
    service.shared.Drains (service.dstroy runtime number now).shared := by
  rcases dstroy_cases runtime service number now with ⟨_, same⟩ | ⟨connection, here, put⟩
  · rw [same]
    exact .refl _
  · rw [put]
    exact ((sound.closure here).dstroy now).drains

/-- The ids only drain as long as no stream is accepted. -/
theorem Sound.drains (sound : service.Sound) {event : Event}
    (stepped : service.step runtime event = some after)
    (rejects : ∀ transport handshakes channel alreadyClosed draws now,
      event = .transportConnected transport handshakes channel alreadyClosed draws now →
        service.closing = true) : service.shared.Drains after.shared := by
  let drained : Service → Prop := fun other => other.Sound ∧ service.shared.Drains other.shared
  have kept : ∀ (number : Nat) (now : Bool) (other : Service), drained other →
      drained (other.dstroy runtime number now) := fun number now other holds =>
    ⟨holds.1.dstroy number now, holds.2.trans (holds.1.dstroy_drains number now)⟩
  cases event with
  | transportConnected transport handshakes channel alreadyClosed draws now =>
      rw [Service.step, transportConnected, withClosure_eq_some] at stepped
      obtain ⟨connection, closure, here, ran, rfl⟩ := stepped
      have wide := sound.append transport handshakes channel
      have last : connection = fresh service.connections.length transport handshakes channel := by
        simpa [fresh] using here.symm
      subst last
      obtain ⟨_, registered, same⟩ := (wide.closure here).transportConnected rfl rfl ran
      obtain rfl := same (rejects _ _ _ _ _ _ rfl)
      exact registered.drains
  | connection number move =>
      rw [Service.step, withClosure_eq_some] at stepped
      obtain ⟨connection, closure, here, ran, rfl⟩ := stepped
      exact ((sound.closure here).step ran).drains
  | change authz uri rev =>
      obtain rfl := Option.some.inj stepped
      have start : drained (service.notice (.uriRevisionChange uri)) := by
        refine ⟨sound.notice (by simp), .of_connids rfl ?_⟩
        simp [Service.notice]
      have last : drained (service.change runtime uri rev) :=
        change_invariant authz start fun other number _ holds => kept number false other holds
      exact last.2
  | beginClosing =>
      obtain rfl := Option.some.inj stepped
      exact .refl _
  | destroyAll =>
      obtain rfl := Option.some.inj stepped
      have last : drained (service.destroyAll runtime) :=
        destroyAll_invariant ⟨sound, .refl _⟩ fun other number _ holds => kept number true other holds
      exact last.2

/-- The registry is exact in every reachable state. -/
theorem sound_of_reachable (reached : (system runtime).Reachable service) : service.Sound :=
  reached.invariant .initial fun _ _ _ sound _ stepped => sound.step stepped

/-- A connection is found by its number exactly when its entry is. -/
theorem exists_entry {service : Service} {number : Nat} {property : Entry → Prop} :
    (∃ entry, (service.connections.map Connection.entry)[number]? = some entry ∧ property entry) ↔
      ∃ connection, service.connections[number]? = some connection ∧ property connection.entry := by
  simp only [List.getElem?_map, Option.map_eq_some_iff]
  constructor
  · rintro ⟨_, ⟨connection, here, rfl⟩, holds⟩
    exact ⟨connection, here, holds⟩
  · rintro ⟨connection, here, holds⟩
    exact ⟨_, ⟨connection, here, rfl⟩, holds⟩

/-- The records in the set for a URI are the ones that open connections hold for it. -/
theorem Sound.mem_registered (sound : service.Sound) {uri : Uri} {record : Record} :
    record ∈ service.shared.registered uri ↔ record.uri = uri ∧
      ∃ connection ∈ service.connections, connection.Open ∧ record ∈ connection.hsConns := by
  rw [sound.registry.records, exists_entry]
  refine and_congr_right fun _ => ?_
  constructor
  · rintro ⟨connection, here, isOpen, member⟩
    exact ⟨connection, List.mem_of_getElem? here, isOpen, member⟩
  · rintro ⟨connection, inside, isOpen, member⟩
    obtain ⟨number, here⟩ := List.getElem?_of_mem inside
    have entry : (service.connections.map Connection.entry)[number]? = some connection.entry := by
      rw [List.getElem?_map, here, Option.map_some]
    have owner := sound.registry.owned number connection.entry entry record member
    exact ⟨connection, owner ▸ here, isOpen, member⟩

/-- The ids are those of the open connections. -/
theorem Sound.connids (sound : service.Sound) {connid : JsString} {number : Nat} :
    service.shared.connids.get connid = some number ↔
      ∃ connection, service.connections[number]? = some connection ∧ connection.Open ∧
        connection.connid = connid := by
  rw [sound.registry.connids, exists_entry]
  rfl

/-- A set in `_connections` is never empty. -/
theorem Sound.isSome_connections (sound : service.Sound) {uri : Uri} :
    (service.shared.connections.get uri).isSome ↔
      ∃ connection ∈ service.connections, connection.Open ∧
        ∃ record ∈ connection.hsConns, record.uri = uri := by
  constructor
  · intro present
    obtain ⟨conns, found⟩ := Option.isSome_iff_exists.mp present
    have some := sound.registry.nonempty uri conns found
    rw [ne_eq, OrderedSet.size_eq_zero, not_forall] at some
    obtain ⟨record, member⟩ := some
    have inside : record ∈ service.shared.registered uri := by
      rw [Shared.registered, found]
      exact not_not.mp member
    obtain ⟨same, connection, known, isOpen, held⟩ := sound.mem_registered.mp inside
    exact ⟨connection, known, isOpen, record, held, same⟩
  · rintro ⟨connection, known, isOpen, record, held, same⟩
    have inside := sound.mem_registered.mpr ⟨same, connection, known, isOpen, held⟩
    cases found : service.shared.connections.get uri with
    | none =>
        rw [Shared.registered, found] at inside
        exact absurd inside (OrderedSet.not_mem_empty record)
    | some conns => rfl

/-- No id is known when no connection is open. -/
theorem Sound.connids_empty (sound : service.Sound) : service.shared.connids.size = 0 ↔
    ∀ connection ∈ service.connections, ¬connection.Open := by
  rw [OrderedMap.size_eq_zero]
  constructor
  · intro none connection member isOpen
    obtain ⟨number, here⟩ := List.getElem?_of_mem member
    have present := sound.connids.mpr ⟨connection, here, isOpen, rfl⟩
    cases (none connection.connid).symm.trans present
  · intro none connid
    cases found : service.shared.connids.get connid with
    | none => rfl
    | some number =>
        obtain ⟨connection, here, isOpen, _⟩ := sound.connids.mp found
        exact absurd isOpen (none connection (List.mem_of_getElem? here))

/-- Without an open connection no record is left. -/
theorem Sound.connections_empty (sound : service.Sound)
    (none : ∀ connection ∈ service.connections, ¬connection.Open) :
    service.shared.connections.size = 0 := by
  apply OrderedMap.size_eq_zero.mpr
  intro uri
  cases found : service.shared.connections.get uri with
  | none => rfl
  | some conns =>
      obtain ⟨connection, known, isOpen, _⟩ := sound.isSome_connections.mp
        (Option.isSome_iff_exists.mpr ⟨conns, found⟩)
      exact absurd isOpen (none connection known)

end Service
end Centro
