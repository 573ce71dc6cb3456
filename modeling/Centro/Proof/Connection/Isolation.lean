import Centro.Proof.Connection.Moves

namespace Centro

open Library

/-- The message engine gets these topics with a call. -/
def Call.topics : Call → List JsString
  | .accessControl options => options.publishAllow ++ options.publishDisallow ++
      options.subscribeAllow ++ options.subscribeDisallow ++ options.block
  | .subscribe topic _ => [topic]
  | .publish _ topic _ _ => [topic]
  | _ => []

namespace Connection

/-- The key is the hash of an issuer of the connection. -/
def OwnKey (runtime : Runtime) (connection : Connection) (key : JsString) : Prop :=
  ∃ hs ∈ connection.handshakes, key = (runtime.sha256hex hs.payload.iss).digits

/-- The first word of the topic is the hash of an issuer of the connection. -/
def InScope (runtime : Runtime) (connection : Connection) (topic : JsString) : Prop :=
  ∃ hs ∈ connection.handshakes,
    FirstWord runtime.fsq.separator (runtime.sha256hex hs.payload.iss).digits topic

/-- A connection without privileges stays in its scope. -/
structure Scoped (runtime : Runtime) (connection : Connection) : Prop where
  presence : ∀ entry ∈ connection.presence.entries, connection.OwnKey runtime entry.1
  ackPrefixes : ∀ key ackPrefix, connection.ackPrefixes.get key = some ackPrefix →
    connection.OwnKey runtime key
  calls : ∀ call ∈ connection.calls, ∀ topic ∈ call.topics, connection.InScope runtime topic

variable {runtime : Runtime} {connection : Connection}

/-- A topic behind the hash of an own issuer and the separator is in scope. -/
theorem inScope_append (clean : runtime.fsq.separator ∉ hexDigits) {key : JsString}
    (own : connection.OwnKey runtime key) (rest : JsString) :
    connection.InScope runtime (key ++ runtime.fsq.separator :: rest) := by
  obtain ⟨hs, member, rfl⟩ := own
  refine ⟨hs, member, firstWord_append rest ?_⟩
  intro inside
  exact clean ((runtime.sha256hex hs.payload.iss).hex _ inside)

/-- What follows an own key and a separator is in scope. -/
theorem inScope_withSeparator (clean : runtime.fsq.separator ∉ hexDigits)
    (unprivileged : connection.transport.config.privileged = false) {key : JsString}
    (own : connection.OwnKey runtime key) (rest : JsString) :
    connection.InScope runtime (connection.withSeparator runtime key ++ rest) := by
  have inside := inScope_append clean own rest
  simpa [withSeparator, unprivileged] using inside

/-- The prefix of a token is an own key. -/
theorem ownKey_keyPrefix (unprivileged : connection.transport.config.privileged = false)
    {hs : Handshake} (member : hs ∈ connection.handshakes) :
    connection.OwnKey runtime (connection.keyPrefix runtime hs) :=
  ⟨hs, member, by simp [keyPrefix, unprivileged]⟩

/-- What follows the prefix of a token is in scope. -/
theorem inScope_hsPrefix (clean : runtime.fsq.separator ∉ hexDigits)
    (unprivileged : connection.transport.config.privileged = false) {hs : Handshake}
    (member : hs ∈ connection.handshakes) (rest : JsString) :
    connection.InScope runtime (connection.hsPrefix runtime hs ++ rest) :=
  inScope_withSeparator clean unprivileged (ownKey_keyPrefix unprivileged member) rest

/-- The topics of all tokens are in scope. -/
theorem inScope_aggregateTopics (clean : runtime.fsq.separator ∉ hexDigits)
    (unprivileged : connection.transport.config.privileged = false)
    {select : AccessControlClaim → List JsString} {topic : JsString}
    (member : topic ∈ connection.aggregateTopics runtime select) :
    connection.InScope runtime topic := by
  obtain ⟨hs, known, inside⟩ := List.mem_flatMap.mp member
  obtain ⟨claimed, _, rfl⟩ := List.mem_map.mp inside
  exact inScope_hsPrefix clean unprivileged known _

/-- Everything that a connection hands over when it enters service is in scope. -/
theorem inScope_serviceCalls (clean : runtime.fsq.separator ∉ hexDigits)
    (unprivileged : connection.transport.config.privileged = false) :
    ∀ call ∈ connection.serviceCalls runtime, ∀ topic ∈ call.topics,
      connection.InScope runtime topic := by
  intro call member topic inside
  simp only [serviceCalls, List.mem_append, List.mem_cons, List.not_mem_nil, or_false] at member
  rcases member with ((rfl | rfl) | subscribed) | rfl
  · simp only [Call.topics, accessControlOptions, List.mem_append] at inside
    rcases inside with (((allow | disallow) | allow) | disallow) | block
    · exact inScope_aggregateTopics clean unprivileged allow
    · exact inScope_aggregateTopics clean unprivileged disallow
    · exact inScope_aggregateTopics clean unprivileged allow
    · exact inScope_aggregateTopics clean unprivileged disallow
    · exact inScope_aggregateTopics clean unprivileged block
  · simp [Call.topics] at inside
  · obtain ⟨hs, known, listed⟩ := List.mem_flatMap.mp subscribed
    obtain ⟨entry, _, rfl⟩ := List.mem_map.mp listed
    obtain rfl := List.mem_singleton.mp inside
    exact inScope_hsPrefix clean unprivileged known _
  · simp [Call.topics] at inside

/-- A presence message goes to a topic in scope. -/
theorem inScope_presenceCall (clean : runtime.fsq.separator ∉ hexDigits)
    (unprivileged : connection.transport.config.privileged = false) (purpose : Purpose)
    {key : JsString} (own : connection.OwnKey runtime key) (message : PresenceMessage) :
    ∀ topic ∈ (connection.presenceCall runtime purpose key message).topics,
      connection.InScope runtime topic := by
  intro topic inside
  obtain rfl := List.mem_singleton.mp inside
  exact inScope_withSeparator clean unprivileged own _

/-- The acknowledged topic is free text, but its first part must be a known key. -/
theorem Scoped.ackCall (holds : connection.Scoped runtime)
    (clean : runtime.fsq.separator ∉ hexDigits)
    (unprivileged : connection.transport.config.privileged = false) (topic : JsString) :
    ∀ published ∈ (connection.ackCall runtime topic).topics,
      connection.InScope runtime published := by
  unfold Connection.ackCall
  dsimp only
  split
  · simp [Call.topics]
  · next ackPrefix known =>
      intro published inside
      obtain rfl := List.mem_singleton.mp inside
      rw [List.append_assoc]
      exact inScope_withSeparator clean unprivileged (holds.ackPrefixes _ _ known) _

/-- Later calls that stay in scope keep a connection in scope. -/
theorem Scoped.append {after : Connection} (holds : connection.Scoped runtime)
    (handshakes : after.handshakes = connection.handshakes)
    (presence : after.presence = connection.presence)
    (ackPrefixes : after.ackPrefixes = connection.ackPrefixes) {more : List Call}
    (calls : after.calls = connection.calls ++ more)
    (inside : ∀ call ∈ more, ∀ topic ∈ call.topics, connection.InScope runtime topic) :
    after.Scoped runtime where
  presence := by
    unfold OwnKey
    rw [presence, handshakes]
    exact holds.presence
  ackPrefixes := by
    unfold OwnKey
    rw [ackPrefixes, handshakes]
    exact holds.ackPrefixes
  calls := by
    unfold InScope
    rw [calls, handshakes]
    intro call member
    rcases List.mem_append.mp member with old | new
    · exact holds.calls call old
    · exact inside call new

/-- A connection that makes no call stays in its scope. -/
theorem Scoped.quiet {after : Connection} (holds : connection.Scoped runtime)
    (handshakes : after.handshakes = connection.handshakes)
    (presence : after.presence = connection.presence)
    (ackPrefixes : after.ackPrefixes = connection.ackPrefixes)
    (calls : after.calls = connection.calls) : after.Scoped runtime :=
  holds.append handshakes presence ackPrefixes (calls.trans (List.append_nil _).symm) (by simp)

/-- Presence messages stay in scope. -/
theorem inScope_arrivalCalls (clean : runtime.fsq.separator ∉ hexDigits)
    (unprivileged : connection.transport.config.privileged = false)
    (holds : connection.Scoped runtime) :
    (∀ call ∈ connection.arrivalCalls runtime, ∀ topic ∈ call.topics,
      connection.InScope runtime topic) ∧
    ∀ call ∈ connection.departureCalls runtime, ∀ topic ∈ call.topics,
      connection.InScope runtime topic := by
  constructor
  · intro call member
    obtain ⟨entry, known, rfl⟩ := List.mem_map.mp member
    exact inScope_presenceCall clean unprivileged _ (holds.presence entry known) _
  · intro call member
    obtain ⟨entry, known, rfl⟩ := List.mem_map.mp member
    exact inScope_presenceCall clean unprivileged _ (holds.presence entry known) _

/-- A token that is registered keeps the connection in its scope. -/
theorem Scoped.register (holds : connection.Scoped runtime)
    (unprivileged : connection.transport.config.privileged = false) {token : Nat} {hs : Handshake}
    (member : hs ∈ connection.handshakes) : (connection.registered runtime token hs).Scoped runtime where
  presence := by
    have own : connection.OwnKey runtime (connection.keyPrefix runtime hs) :=
      ownKey_keyPrefix unprivileged member
    intro entry
    unfold registered
    cases hs.payload.presence with
    | none => exact holds.presence entry
    | some presence =>
        intro inside
        have listed := OrderedMap.mem_entries_set.mp inside
        split at listed
        · next same => exact same ▸ own
        · exact holds.presence entry listed
  ackPrefixes := by
    have own : connection.OwnKey runtime (connection.keyPrefix runtime hs) :=
      ownKey_keyPrefix unprivileged member
    intro key ackPrefix
    unfold registered
    cases hs.payload.ack with
    | none => exact holds.ackPrefixes key ackPrefix
    | some claimed =>
        intro found
        simp only [OrderedMap.get_set] at found
        split at found
        · next same => exact same ▸ own
        · exact holds.ackPrefixes key ackPrefix found
  calls := holds.calls

/-- Each move keeps a connection without privileges in its scope. -/
theorem Scoped.move {origin before after : Connection} {event : Option ConnectionEvent}
    (clean : runtime.fsq.separator ∉ hexDigits)
    (unprivileged : before.transport.config.privileged = false) (holds : before.Scoped runtime)
    (move : Move runtime origin event before after) : after.Scoped runtime := by
  have topicless : ∀ {call : Call}, call.topics = [] → ∀ made ∈ [call], ∀ topic ∈ made.topics,
      before.InScope runtime topic := by
    intro call none made member topic inside
    rw [List.mem_singleton.mp member, none] at inside
    exact absurd inside List.not_mem_nil
  cases move with
  | log made plain =>
      refine holds.append rfl rfl rfl rfl ?_
      apply topicless
      cases made <;> simp_all [Call.plain, Call.topics]
  | timeouts => exact holds.quiet rfl rfl rfl rfl
  | accept => exact holds.quiet rfl rfl rfl rfl
  | close =>
      refine holds.append rfl rfl rfl rfl ?_
      intro call member topic inside
      simp only [closeCalls, List.mem_append, List.mem_singleton] at member
      rcases member with (cleared | rfl) | departure
      · obtain ⟨record, _, rfl⟩ := List.mem_map.mp cleared
        simp [Call.topics] at inside
      · simp [Call.topics] at inside
      · exact (inScope_arrivalCalls clean unprivileged holds).2 call departure topic inside
  | dstroy => exact holds.append rfl rfl rfl rfl (topicless rfl)
  | destroy => exact holds.append rfl rfl rfl rfl (topicless rfl)
  | destroyed => exact holds.quiet rfl rfl rfl rfl
  | register token hs _ here => exact holds.register unprivileged (List.mem_of_getElem? here)
  | answer => exact holds.quiet rfl rfl rfl rfl
  | skip => exact holds.quiet rfl rfl rfl rfl
  | process => exact holds.quiet rfl rfl rfl rfl
  | enter => exact holds.append rfl rfl rfl rfl (inScope_serviceCalls clean unprivileged)
  | handshaken => exact holds.quiet rfl rfl rfl rfl
  | announce hsdata =>
      refine holds.append rfl rfl rfl rfl ?_
      intro call member topic inside
      rcases List.mem_append.mp member with connect | arrival
      · rw [List.mem_singleton.mp connect] at inside
        simp [Call.topics] at inside
      · exact (inScope_arrivalCalls clean unprivileged holds).1 call arrival topic inside
  | ack topic =>
      refine holds.append rfl rfl rfl rfl ?_
      intro call member
      rw [List.mem_singleton.mp member]
      exact holds.ackCall clean unprivileged topic

end Connection

/-- Every connection without privileges stays in its scope. -/
theorem Service.scoped_of_reachable {runtime : Runtime} {service : Service}
    (clean : runtime.fsq.separator ∉ hexDigits) (reached : (system runtime).Reachable service)
    {number : Nat} {connection : Connection}
    (here : service.connections[number]? = some connection)
    (unprivileged : connection.transport.config.privileged = false) :
    connection.Scoped runtime := by
  have each : connection.transport.config.privileged = false → connection.Scoped runtime := by
    refine connection_invariant
      (fun connection => connection.transport.config.privileged = false → connection.Scoped runtime)
      (fun _ _ => True) ?_ ?_ (fun _ _ _ _ _ _ _ _ => trivial) (fun _ _ _ _ _ => trivial) reached here
    · intro number transport handshakes channel _
      refine ⟨?_, ?_, ?_⟩ <;> simp [fresh]
    · intro origin event before after _ _ holds move unprivileged
      rw [move.constant.2.1] at unprivileged
      exact (holds unprivileged).move clean unprivileged move
  exact each unprivileged

/-- The module `mqlobber-access-control` decides which requests of a client it permits. A topic
must match a pattern that is allowed. -/
structure AccessControl (runtime : Runtime) where
  permitsPublish : AccessControlOptions → JsString → Bool
  permitsSubscribe : AccessControlOptions → JsString → Bool
  publishAllowed : ∀ options topic, permitsPublish options topic = true →
    ∃ pattern ∈ options.publishAllow,
      matchTopic runtime.fsq.wildcards runtime.fsq.separator pattern topic = true
  subscribeAllowed : ∀ options topic, permitsSubscribe options topic = true →
    ∃ pattern ∈ options.subscribeAllow,
      matchTopic runtime.fsq.wildcards runtime.fsq.separator pattern topic = true

namespace Connection

variable {runtime : Runtime}

/-- The client may publish to the topic, or the server publishes to it on behalf of the client. -/
def Publishes (access : AccessControl runtime) (connection : Connection) (topic : JsString) : Prop :=
  (∃ options, .accessControl options ∈ connection.calls ∧
    access.permitsPublish options topic = true) ∨
  ∃ purpose options data, .publish purpose topic options data ∈ connection.calls

/-- The client may subscribe to the topic, or the server subscribes the client to it. -/
def Subscribes (access : AccessControl runtime) (connection : Connection) (topic : JsString) : Prop :=
  (∃ options, .accessControl options ∈ connection.calls ∧
    access.permitsSubscribe options topic = true) ∨
  ∃ toExisting, .subscribe topic toExisting ∈ connection.calls

/-- No hash is a wildcard. -/
def PlainWildcards (runtime : Runtime) : Prop :=
  (∀ unit ∈ runtime.fsq.wildcards.one, unit ∉ hexDigits) ∧
    ∀ unit ∈ runtime.fsq.wildcards.some, unit ∉ hexDigits

/-- A hash is not a plain wildcard. -/
theorem digits_ne {word : JsString} (plain : ∀ unit ∈ word, unit ∉ hexDigits) (digest : Digest) :
    digest.digits ≠ word := by
  rintro rfl
  have long := digest.length
  cases digits : digest.digits with
  | nil => simp [digits] at long
  | cons unit rest =>
      have inside : unit ∈ digest.digits := digits ▸ List.mem_cons_self
      exact plain unit inside (digest.hex unit inside)

/-- A topic that a pattern in scope matches is in scope. -/
theorem InScope.matched {connection : Connection} (plain : PlainWildcards runtime)
    {pattern topic : JsString} (inside : connection.InScope runtime pattern)
    (matched : matchTopic runtime.fsq.wildcards runtime.fsq.separator pattern topic = true) :
    connection.InScope runtime topic := by
  obtain ⟨hs, member, first⟩ := inside
  exact ⟨hs, member, matchTopic_firstWord first (digits_ne plain.1 _) (digits_ne plain.2 _) matched⟩

/-- A connection publishes only in its scope. -/
theorem Publishes.inScope {access : AccessControl runtime} {connection : Connection}
    (holds : connection.Scoped runtime) (plain : PlainWildcards runtime) {topic : JsString}
    (published : connection.Publishes access topic) : connection.InScope runtime topic := by
  rcases published with ⟨options, member, permitted⟩ | ⟨purpose, options, data, member⟩
  · obtain ⟨pattern, allowed, matched⟩ := access.publishAllowed options topic permitted
    have inside := holds.calls _ member pattern (by simp [Call.topics, allowed])
    exact inside.matched plain matched
  · exact holds.calls _ member topic (List.mem_singleton.mpr rfl)

/-- A connection subscribes only in its scope. -/
theorem Subscribes.inScope {access : AccessControl runtime} {connection : Connection}
    (holds : connection.Scoped runtime) (plain : PlainWildcards runtime) {topic : JsString}
    (subscribed : connection.Subscribes access topic) : connection.InScope runtime topic := by
  rcases subscribed with ⟨options, member, permitted⟩ | ⟨toExisting, member⟩
  · obtain ⟨pattern, allowed, matched⟩ := access.subscribeAllowed options topic permitted
    have inside := holds.calls _ member pattern (by simp [Call.topics, allowed])
    exact inside.matched plain matched
  · exact holds.calls _ member topic (List.mem_singleton.mpr rfl)

/-- The connections have no issuer in common, and the hash tells their issuers apart. -/
def Apart (runtime : Runtime) (first second : Connection) : Prop :=
  ∀ hs ∈ first.handshakes, ∀ other ∈ second.handshakes,
    hs.payload.iss ≠ other.payload.iss ∧
      ((runtime.sha256hex hs.payload.iss).digits = (runtime.sha256hex other.payload.iss).digits →
        hs.payload.iss = other.payload.iss)

/-- Connections without a common issuer have no topic in common. -/
theorem Apart.not_inScope {first second : Connection} (apart : Apart runtime first second)
    {topic : JsString} (left : first.InScope runtime topic) (right : second.InScope runtime topic) :
    False := by
  obtain ⟨hs, own, one⟩ := left
  obtain ⟨other, known, two⟩ := right
  obtain ⟨differs, injective⟩ := apart hs own other known
  exact differs (injective (one.unique two))

end Connection

/-- Every topic of a connection starts with the hash of an own issuer, and connections without a
common issuer never share a topic and never get a message from each other. -/
theorem issuer_isolation {runtime : Runtime} (access : AccessControl runtime)
    (clean : runtime.fsq.separator ∉ hexDigits) (plain : Connection.PlainWildcards runtime)
    {service : Service} (reached : (Service.system runtime).Reachable service) {number : Nat}
    {connection : Connection} (here : service.connections[number]? = some connection)
    (unprivileged : connection.transport.config.privileged = false) :
    (∀ call ∈ connection.calls, ∀ topic ∈ call.topics, connection.InScope runtime topic) ∧
    ∀ (other : Nat) (peer : Connection), service.connections[other]? = some peer →
      peer.transport.config.privileged = false → connection.Apart runtime peer → ∀ topic,
      (connection.Publishes access topic → ¬peer.Publishes access topic ∧
        ∀ pattern, peer.Subscribes access pattern →
          matchTopic runtime.fsq.wildcards runtime.fsq.separator pattern topic = false) ∧
      (connection.Subscribes access topic → ¬peer.Subscribes access topic) := by
  have holds := Service.scoped_of_reachable clean reached here unprivileged
  refine ⟨holds.calls, ?_⟩
  intro other peer there equal apart topic
  have same := Service.scoped_of_reachable clean reached there equal
  refine ⟨fun published => ⟨fun again => ?_, fun pattern subscribed => ?_⟩, fun subscribed again => ?_⟩
  · exact apart.not_inScope (published.inScope holds plain) (again.inScope same plain)
  · by_contra matched
    have inside := (subscribed.inScope same plain).matched plain
      ((Bool.not_eq_false _).mp matched)
    exact apart.not_inScope (published.inScope holds plain) inside
  · exact apart.not_inScope (subscribed.inScope holds plain) (again.inScope same plain)

/-- This access control permits what an allowed pattern matches and no disallowed one does. -/
def sampleAccess : AccessControl sampleRuntime where
  permitsPublish := fun options topic =>
    options.publishAllow.any (matchTopic ⟨text "*", text "#"⟩ (codeUnit '.') · topic) &&
      !options.publishDisallow.any (matchTopic ⟨text "*", text "#"⟩ (codeUnit '.') · topic)
  permitsSubscribe := fun options topic =>
    options.subscribeAllow.any (matchTopic ⟨text "*", text "#"⟩ (codeUnit '.') · topic) &&
      !options.subscribeDisallow.any (matchTopic ⟨text "*", text "#"⟩ (codeUnit '.') · topic)
  publishAllowed := by
    intro options topic permitted
    exact List.any_eq_true.mp (Bool.and_eq_true_iff.mp permitted).1
  subscribeAllowed := by
    intro options topic permitted
    exact List.any_eq_true.mp (Bool.and_eq_true_iff.mp permitted).1

/-- This token is of the issuer `bar`. -/
def peerHandshake : Handshake :=
  { sampleHandshake with
    payload := { sampleHandshake.payload with iss := text "bar" }
    uri := text "mailto:bar@example.com" }

/-- A client of each issuer enters service and sends its handshake, and the first one acknowledges a
message. -/
def sampleService : List Service.Event :=
  [.transportConnected { config := {} } [sampleHandshake] {} false [sampleConnid] 0,
   .transportConnected { config := {} } [peerHandshake] {} false [codeUnit '1' :: sampleConnid] 0,
   .connection 0 (.gotPubKey (.ok (some (text "1")))),
   .connection 0 (.resume 0),
   .connection 1 (.gotPubKey (.ok (some (text "1")))),
   .connection 1 (.resume 0),
   .connection 0 (.handshake [0, 0, 0, 2]),
   .connection 1 (.handshake [0, 0, 0, 2]),
   .connection 0 (.ack ((sampleRuntime.sha256hex (text "foo")).digits ++ text ".a"))]

/-- The server tells here that the first client is there. -/
def joined : JsString := (sampleRuntime.sha256hex (text "foo")).digits ++ text ".join"

/-- This call publishes on the topic. -/
def Call.isPublish (topic : JsString) : Call → Bool
  | .publish _ published _ _ => published = topic
  | _ => false

/-- A published topic is found among the calls. -/
theorem publishes_of_any {runtime : Runtime} (access : AccessControl runtime)
    {connection : Connection} {topic : JsString}
    (told : connection.calls.any (Call.isPublish topic) = true) :
    connection.Publishes access topic := by
  obtain ⟨call, member, published⟩ := List.any_eq_true.mp told
  cases call with
  | publish purpose same options data =>
      obtain rfl := of_decide_eq_true published
      exact Or.inr ⟨purpose, options, data, member⟩
  | _ => cases published

theorem issuer_isolation_sample : ∃ service connection peer,
    (Service.system sampleRuntime).run {} sampleService = some service ∧
    service.connections[0]? = some connection ∧ service.connections[1]? = some peer ∧
    (∀ call ∈ connection.calls, ∀ topic ∈ call.topics, connection.InScope sampleRuntime topic) ∧
    connection.Publishes sampleAccess joined ∧ ∀ topic,
      (connection.Publishes sampleAccess topic → ¬peer.Publishes sampleAccess topic ∧
        ∀ pattern, peer.Subscribes sampleAccess pattern →
          matchTopic sampleRuntime.fsq.wildcards sampleRuntime.fsq.separator pattern topic = false) ∧
      (connection.Subscribes sampleAccess topic → ¬peer.Subscribes sampleAccess topic) := by
  have served : (((Service.system sampleRuntime).run {} sampleService).bind fun service =>
      service.connections[0]?.bind fun connection => service.connections[1]?.map fun peer =>
        [(connection.transport.config.privileged, connection.handshakes,
            connection.calls.any (Call.isPublish joined)),
          (peer.transport.config.privileged, peer.handshakes, true)]) =
      some [(false, [sampleHandshake], true), (false, [peerHandshake], true)] := by
    decide
  obtain ⟨service, ran, found⟩ := Option.bind_eq_some_iff.mp served
  obtain ⟨connection, here, found⟩ := Option.bind_eq_some_iff.mp found
  obtain ⟨peer, there, same⟩ := Option.map_eq_some_iff.mp found
  simp only [List.cons.injEq, Prod.mk.injEq, and_true] at same
  obtain ⟨⟨unprivileged, first, told⟩, equal, second⟩ := same
  have plain : Connection.PlainWildcards sampleRuntime :=
    ⟨List.forall_mem_singleton.mpr (by decide), List.forall_mem_singleton.mpr (by decide)⟩
  have apart : connection.Apart sampleRuntime peer := by
    rw [Connection.Apart, first, second]
    decide
  obtain ⟨own, isolated⟩ := issuer_isolation sampleAccess (by decide) plain
    (TransitionSystem.reachable_of_run ran) here unprivileged
  exact ⟨service, connection, peer, ran, here, there, own, publishes_of_any sampleAccess told,
    isolated 1 peer there equal apart⟩

end Centro
