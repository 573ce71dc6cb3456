import Centro.Proof.Client.Sweep
import Centro.Proof.Connection.Greeting
import Centro.Proof.Number
import Centro.Proof.Replace

namespace Centro

open Library

namespace Client

variable {client : Client} {topic : JsString}

/-- The topics of a fresh client come in the order of their places and have no handlers. -/
structure Fresh (client : Client) : Prop where
  empty : ∀ entry ∈ client.subs.entries, entry.2.handlers = .empty ∧ entry.2.place < client.places
  sorted : client.subs.entries.Pairwise fun first second => first.2.place < second.2.place
  idle : client.requests = []

theorem Fresh.setHandlers (fresh : client.Fresh) (topic : JsString) :
    (client.setHandlers topic .empty).Fresh ∧
      (client.setHandlers topic .empty).prefixes = client.prefixes ∧
      (client.setHandlers topic .empty).self = client.self ∧
      ∀ other, other ∈ (client.setHandlers topic .empty).subs.keys ↔
        other ∈ client.subs.keys ∨ other = topic := by
  unfold Client.setHandlers
  cases found : client.subs.get topic with
  | some subscribers =>
      have empty := (fresh.empty _ (OrderedMap.get_eq_some.mp found)).1
      have same : { subscribers with handlers := OrderedSet.empty } = subscribers := by
        rw [← empty]
      simp only [same, OrderedMap.set_of_get found]
      refine ⟨fresh, trivial, trivial, fun other => ⟨.inl, ?_⟩⟩
      rintro (inside | rfl)
      · exact inside
      · exact OrderedMap.mem_keys.mpr ⟨_, found⟩
  | none =>
      have entries := OrderedMap.entries_set_of_absent
        { place := client.places, handlers := OrderedSet.empty } found
      refine ⟨⟨?_, ?_, fresh.idle⟩, rfl, rfl, fun other => ?_⟩
      · intro entry member
        rw [entries] at member
        rcases List.mem_append.mp member with old | new
        · exact ⟨(fresh.empty entry old).1, Nat.lt_succ_of_lt (fresh.empty entry old).2⟩
        · rw [List.mem_singleton.mp new]
          exact ⟨rfl, Nat.lt_succ_self _⟩
      · rw [entries, List.pairwise_append]
        refine ⟨fresh.sorted, List.pairwise_singleton _ _, ?_⟩
        intro entry member last single
        rw [List.mem_singleton.mp single]
        exact (fresh.empty entry member).2
      · simp only [OrderedMap.keys, entries, List.map_append, List.map_cons, List.map_nil,
          List.mem_append, List.mem_singleton]

/-- After the handshake the topics are those that the reply lists. -/
theorem ready_fresh (greeting : Greeting) :
    (Client.ready greeting).Fresh ∧ (Client.ready greeting).prefixes = greeting.prefixes ∧
      (Client.ready greeting).self = greeting.connid ∧
      ∀ topic, topic ∈ (Client.ready greeting).subs.keys ↔
        topic ∈ ({ self := greeting.connid, prefixes := greeting.prefixes } : Client).preSubscribed
          (greeting.subscriptions.getD []) := by
  have each : ∀ (topics : List JsString) (client : Client), client.Fresh →
      (topics.foldl (fun client topic => client.setHandlers topic .empty) client).Fresh ∧
      (topics.foldl (fun client topic => client.setHandlers topic .empty) client).prefixes =
        client.prefixes ∧
      (topics.foldl (fun client topic => client.setHandlers topic .empty) client).self =
        client.self ∧
      ∀ topic, topic ∈ (topics.foldl (fun client topic =>
          client.setHandlers topic .empty) client).subs.keys ↔
        topic ∈ client.subs.keys ∨ topic ∈ topics := by
    intro topics
    induction topics with
    | nil => exact fun client fresh => ⟨fresh, rfl, rfl, by simp⟩
    | cons topic rest ih =>
        intro client fresh
        obtain ⟨here, prefixes, self, keys⟩ := fresh.setHandlers topic
        obtain ⟨later, same, own, more⟩ := ih _ here
        refine ⟨later, same.trans prefixes, own.trans self, fun other => ?_⟩
        refine (more other).trans ?_
        rw [keys, or_assoc, List.mem_cons]
  obtain ⟨fresh, prefixes, self, keys⟩ := each
    (({ self := greeting.connid, prefixes := greeting.prefixes } : Client).preSubscribed
      (greeting.subscriptions.getD []))
    { self := greeting.connid, prefixes := greeting.prefixes }
    ⟨by simp, by simp, rfl⟩
  refine ⟨fresh, prefixes, self, fun topic => (keys topic).trans ?_⟩
  simp [OrderedMap.keys]

end Client

/-- The token lists this topic in its claim. -/
def Handshake.Claims (hs : Handshake) (topic : JsString) : Prop :=
  ∃ toExisting, (topic, toExisting) ∈ hs.payload.subscribe.getD []

namespace Connection

variable {runtime : Runtime} {connection : Connection}

/-- The client has the prefix of a token at the place of the token. -/
theorem element_of_token {client : Client}
    (prefixes : client.prefixes = (connection.greeting runtime).prefixes) {index : Nat}
    {hs : Handshake} (here : connection.handshakes[index]? = some hs) :
    client.element (some index) = connection.hsPrefix runtime hs := by
  simp [Client.element, prefixes, greeting, here]

/-- The client reads the topics of each token behind the prefix of the token. -/
theorem mem_preSubscribed {client : Client}
    (prefixes : client.prefixes = (connection.greeting runtime).prefixes) {topic : JsString} :
    topic ∈ client.preSubscribed ((connection.greeting runtime).subscriptions.getD []) ↔
      ∃ hs ∈ connection.handshakes, ∃ listed, hs.Claims listed ∧
        topic = connection.hsPrefix runtime hs ++ listed := by
  have claimed : (connection.greeting runtime).subscriptions.getD [] =
      connection.handshakes.map (fun hs => hs.payload.subscribe.getD []) ∨
      (connection.greeting runtime).subscriptions.getD [] = [] ∧
        ∀ hs ∈ connection.handshakes, hs.payload.subscribe.getD [] = [] := by
    simp only [greeting, subscriptions]
    split
    · next all =>
        right
        simpa using all
    · exact .inl rfl
  rcases claimed with listed | ⟨none, idle⟩
  · rw [listed]
    simp only [Client.preSubscribed, List.mem_flatMap, List.mem_map, Prod.exists,
      List.mk_mem_zipIdx_iff_getElem?, List.getElem?_map, Option.map_eq_some_iff]
    constructor
    · rintro ⟨subscription, index, ⟨hs, here, rfl⟩, listed, toExisting, inside, rfl⟩
      exact ⟨hs, List.mem_of_getElem? here, listed, ⟨toExisting, inside⟩, by
        rw [element_of_token prefixes here]⟩
    · rintro ⟨hs, member, listed, ⟨toExisting, inside⟩, rfl⟩
      obtain ⟨index, here⟩ := List.mem_iff_getElem?.mp member
      exact ⟨_, index, ⟨hs, here, rfl⟩, listed, toExisting, inside, by
        rw [element_of_token prefixes here]⟩
  · rw [none]
    simp only [Client.preSubscribed, List.zipIdx_nil, List.flatMap_nil, List.not_mem_nil, false_iff]
    rintro ⟨hs, member, listed, ⟨toExisting, inside⟩, _⟩
    rw [idle hs member] at inside
    cases inside

/-- The server subscribes the connection to these topics. -/
theorem mem_subscribeCalls {topic : JsString} :
    (∃ toExisting, .subscribe topic toExisting ∈ connection.subscribeCalls runtime) ↔
      ∃ hs ∈ connection.handshakes, ∃ listed, hs.Claims listed ∧
        topic = connection.hsPrefix runtime hs ++ replaceSelf connection.connid listed := by
  simp only [subscribeCalls, List.mem_flatMap, List.mem_map, Call.subscribe.injEq, Prod.exists]
  constructor
  · rintro ⟨toExisting, hs, member, listed, flag, inside, rfl, rfl⟩
    exact ⟨hs, member, listed, ⟨flag, inside⟩, rfl⟩
  · rintro ⟨hs, member, listed, ⟨flag, inside⟩, rfl⟩
    exact ⟨flag, hs, member, listed, flag, inside, rfl, rfl⟩

/-- All prefixes of a connection have the same length. -/
theorem length_hsPrefix (hs other : Handshake) :
    (connection.hsPrefix runtime hs).length = (connection.hsPrefix runtime other).length := by
  unfold hsPrefix withSeparator keyPrefix
  split <;> simp [Digest.length]

/-- The topics that the client takes for subscribed are those that the server has subscribed exactly
when no topic of a token contains the placeholder. -/
theorem same_topics_iff (runtime : Runtime) (drawn : connection.connid.length = 64) :
    (∀ topic,
      (∃ hs ∈ connection.handshakes, ∃ listed, hs.Claims listed ∧
        topic = connection.hsPrefix runtime hs ++ listed) ↔
      ∃ hs ∈ connection.handshakes, ∃ listed, hs.Claims listed ∧
        topic = connection.hsPrefix runtime hs ++ replaceSelf connection.connid listed) ↔
    ∀ hs ∈ connection.handshakes, ∀ listed, hs.Claims listed →
      ¬placeholder <:+: listed := by
  constructor
  · intro same
    -- The replacement makes a topic longer, so a shortest such topic would come from a shorter one.
    have shorter : ∀ length, ∀ hs ∈ connection.handshakes, ∀ listed, hs.Claims listed →
        listed.length = length → ¬placeholder <:+: listed := by
      intro length
      induction length using Nat.strong_induction_on with
      | _ length ih =>
          intro hs member listed claims size inside
          obtain ⟨other, known, source, claimed, equal⟩ :=
            (same _).mp ⟨hs, member, listed, claims, rfl⟩
          obtain ⟨_, replaced⟩ := List.append_inj equal (length_hsPrefix hs other)
          by_cases plain : placeholder <:+: source
          · have some : occurrences source ≠ 0 := fun none =>
              occurrences_eq_zero.mp none plain
            have longer := measure_replaceSelf List.length
              (fun _ _ => List.length_append) connection.connid source
            rw [← replaced, drawn, show placeholder.length = 7 from rfl] at longer
            exact ih source.length (by omega) other known source claimed rfl plain
          · rw [replaceSelf_eq_self _ plain] at replaced
            exact plain (replaced ▸ inside)
    exact fun hs member listed claims => shorter _ hs member listed claims rfl
  · intro plain topic
    refine exists_congr fun hs => and_congr_right fun member => exists_congr fun listed =>
      and_congr_right fun claims => ?_
    rw [replaceSelf_eq_self _ (plain hs member listed claims)]

end Connection

namespace Application

/-- The client and the server have the same topics, so a later `subscribe` to a topic of a token asks
the server for nothing, and a later `unsubscribe` of it or of all topics of the token asks the server
to unsubscribe what it has subscribed. -/
structure PreSubscriptionsAgree (runtime : Runtime) (connection : Connection)
    (application : Application) (number : Nat) : Prop where
  topics : ∀ client, application.clients[number]? = some client → ∀ topic,
    client.subs.has topic = true ↔ ∃ toExisting, .subscribe topic toExisting ∈ connection.calls
  subscribes : ∀ (index : Nat) hs topic handler after client,
    connection.handshakes[index]? = some hs → hs.Claims topic →
      application.step (.call number .subscribe
        { first := .number (.finite index), second := .string topic, third := .function handler }) =
          some after → after.clients[number]? = some client → client.requests = []
  unsubscribes : ∀ (index : Nat) hs topic after client,
    connection.handshakes[index]? = some hs → hs.Claims topic →
      application.step (.call number .unsubscribe
        { first := .number (.finite index), second := .string topic }) = some after →
        after.clients[number]? = some client → client.requests =
          [{ topic := connection.hsPrefix runtime hs ++ replaceSelf connection.connid topic
             kind := .unsubscribe .all }]
  sweeps : ∀ (index : Nat) hs topic after,
    connection.handshakes[index]? = some hs → hs.Claims topic →
      application.step (.call number .unsubscribe { first := .number (.finite index) }) =
        some after → ∃ count last client sweep,
          system.run after (List.replicate count (.response number 0 true)) = some last ∧
            last.clients[number]? = some client ∧ client.requests =
              [{ topic := connection.hsPrefix runtime hs ++ replaceSelf connection.connid topic
                 kind := .unsubscribe .all, sweep }]

variable {application after : Application} {number : Nat} {client : Client}

/-- A call of a function of a client runs it on the state of the client. -/
theorem step_call {operation : Operation} {arguments : Arguments} {left : Session}
    (here : application.clients[number]? = some client)
    (ran : operation.run { number, client, centroSubs := application.centroSubs
                           calls := application.calls } arguments = some left)
    (stepped : application.step (.call number operation arguments) = some after) :
    after = application.put left := by
  simp only [step, session?, here, Option.map_some, Option.bind_eq_bind, Option.bind_some, ran,
    Option.some.injEq] at stepped
  exact stepped.symm

/-- The client has left its new state. -/
theorem put_client {left : Session} (here : application.clients[number]? = some client)
    (own : left.number = number) {other : Client}
    (there : (application.put left).clients[number]? = some other) : other = left.client := by
  have bound := (List.getElem?_eq_some_iff.mp here).1
  subst own
  simp only [put, List.getElem?_set_self bound] at there
  exact (Option.some.inj there).symm

/-- A fresh client scopes the topic of a token without the placeholder as the server does. -/
theorem scopedTopic_ready {runtime : Runtime} {connection : Connection} {index : Nat}
    {hs : Handshake} {topic : JsString} (here : connection.handshakes[index]? = some hs)
    (plain : ¬placeholder <:+: topic) :
    (Client.ready (connection.greeting runtime)).scopedTopic (.finite index) topic =
      connection.hsPrefix runtime hs ++ topic := by
  obtain ⟨_, prefixes, _, _⟩ := Client.ready_fresh (connection.greeting runtime)
  rw [Client.scopedTopic, JsNumber.index_natCast, Connection.element_of_token prefixes here,
    replaceSelf_eq_self _ plain]

/-- A fresh client has a place and no handlers for each topic that a token lists. -/
theorem get_ready (runtime : Runtime) {connection : Connection} {hs : Handshake} {topic : JsString}
    (member : hs ∈ connection.handshakes) (claims : hs.Claims topic) :
    ∃ place, (Client.ready (connection.greeting runtime)).subs.get
      (connection.hsPrefix runtime hs ++ topic) = some { place, handlers := .empty } := by
  obtain ⟨fresh, prefixes, _, keys⟩ := Client.ready_fresh (connection.greeting runtime)
  have listed : connection.hsPrefix runtime hs ++ topic ∈
      (Client.ready (connection.greeting runtime)).subs.keys := by
    rw [keys]
    exact (Connection.mem_preSubscribed rfl).mpr ⟨hs, member, topic, claims, rfl⟩
  obtain ⟨⟨place, handlers⟩, found⟩ := OrderedMap.mem_keys.mp listed
  obtain rfl : handlers = .empty := (fresh.empty _ (OrderedMap.get_eq_some.mp found)).1
  exact ⟨place, found⟩

theorem inside_ready {runtime : Runtime} {connection : Connection} {index : Nat} {hs : Handshake}
    (here : connection.handshakes[index]? = some hs) :
    (JsNumber.finite index).atLeast
      (Client.ready (connection.greeting runtime)).prefixes.length = false := by
  obtain ⟨_, prefixes, _, _⟩ := Client.ready_fresh (connection.greeting runtime)
  have bound := (List.getElem?_eq_some_iff.mp here).1
  rw [prefixes, JsNumber.atLeast_natCast]
  simpa [Connection.greeting] using bound

section Later

variable {runtime : Runtime} {connection : Connection} {index : Nat} {hs : Handshake}
  {topic : JsString}

/-- A `subscribe` to a topic of a token asks the server for nothing. -/
theorem subscribe_ready {handler : Nat} {other : Client}
    (fresh : application.clients[number]? = some (Client.ready (connection.greeting runtime)))
    (here : connection.handshakes[index]? = some hs) (claims : hs.Claims topic)
    (plain : ¬placeholder <:+: topic)
    (stepped : application.step (.call number .subscribe
      { first := .number (.finite index), second := .string topic, third := .function handler }) =
        some after) (there : after.clients[number]? = some other) : other.requests = [] := by
  obtain ⟨place, found⟩ := get_ready runtime (List.mem_of_getElem? here) claims
  rcases wrapped : application.centroSubs.wrap number handler (.finite index)
    (connection.hsPrefix runtime hs ++ topic) with ⟨handler2, left⟩
  let session : Session :=
    { number, client := Client.ready (connection.greeting runtime)
      centroSubs := application.centroSubs, calls := application.calls }
  have ran : Operation.run .subscribe session
      { first := .number (.finite index), second := .string topic, third := .function handler } =
        some (({ session with centroSubs := left }).passSubscribe
          (connection.hsPrefix runtime hs ++ topic) handler2) := by
    simp only [Operation.run, Session.subscribe, Arguments.shift, session, inside_ready here,
      scopedTopic_ready here plain, wrapped, Bool.false_eq_true, if_false]
  obtain rfl := step_call fresh ran stepped
  obtain rfl := put_client fresh rfl there
  change (Client.origSubscribe _ _ _).requests = []
  rw [Client.origSubscribe, if_pos (by simp [session, OrderedMap.has, found]),
    Client.subscribed_requests]
  exact (Client.ready_fresh _).1.idle

/-- An `unsubscribe` of a topic of a token asks the server about that topic. -/
theorem unsubscribe_ready {other : Client}
    (fresh : application.clients[number]? = some (Client.ready (connection.greeting runtime)))
    (here : connection.handshakes[index]? = some hs) (claims : hs.Claims topic)
    (plain : ¬placeholder <:+: topic)
    (stepped : application.step (.call number .unsubscribe
      { first := .number (.finite index), second := .string topic }) = some after)
    (there : after.clients[number]? = some other) :
    other.requests =
      [{ topic := connection.hsPrefix runtime hs ++ topic, kind := .unsubscribe .all }] := by
  obtain ⟨place, found⟩ := get_ready runtime (List.mem_of_getElem? here) claims
  let session : Session :=
    { number, client := Client.ready (connection.greeting runtime)
      centroSubs := application.centroSubs, calls := application.calls }
  have silent : session.unsubAll (connection.hsPrefix runtime hs ++ topic) = session :=
    Session.unsubAll_of_empty (by simp [session, Client.handlersOf, found])
  have asks : (Client.ready (connection.greeting runtime)).asks
      (connection.hsPrefix runtime hs ++ topic) .all = true := by simp [Client.asks, found]
  have ran : Operation.run .unsubscribe session
      { first := .number (.finite index), second := .string topic } =
        some (session.passUnsubscribe (connection.hsPrefix runtime hs ++ topic) .all none) := by
    simp only [Operation.run, Session.unsubscribe, Arguments.shift, session, inside_ready here,
      scopedTopic_ready here plain, Bool.false_eq_true, if_false]
    exact congrArg (fun left : Session => some (left.passUnsubscribe _ .all none)) silent
  obtain rfl := step_call fresh ran stepped
  obtain rfl := put_client fresh rfl there
  simp only [session, Session.passUnsubscribe, Session.call, Client.origUnsubscribe, asks, if_true,
    Client.ask, (Client.ready_fresh (connection.greeting runtime)).1.idle, List.nil_append]

/-- An `unsubscribe` of all topics of a token asks the server about each of them. -/
theorem sweep_ready
    (fresh : application.clients[number]? = some (Client.ready (connection.greeting runtime)))
    (here : connection.handshakes[index]? = some hs) (claims : hs.Claims topic)
    (stepped : application.step (.call number .unsubscribe { first := .number (.finite index) }) =
      some after) :
    ∃ count last client sweep,
      system.run after (List.replicate count (.response number 0 true)) = some last ∧
        last.clients[number]? = some client ∧ client.requests =
          [{ topic := connection.hsPrefix runtime hs ++ topic, kind := .unsubscribe .all, sweep }] := by
  obtain ⟨isFresh, prefixes, _, _⟩ := Client.ready_fresh (connection.greeting runtime)
  obtain ⟨place, found⟩ := get_ready runtime (List.mem_of_getElem? here) claims
  let session : Session :=
    { number, client := Client.ready (connection.greeting runtime)
      centroSubs := application.centroSubs, calls := application.calls }
  have ran : Operation.run .unsubscribe session { first := .number (.finite index) } =
      some (session.sweep { scope := connection.hsPrefix runtime hs, place := 0 }) := by
    simp only [Operation.run, Session.unsubscribe, Arguments.shift, session, inside_ready here,
      Bool.false_eq_true, if_false, JsNumber.index_natCast, Connection.element_of_token prefixes here]
  obtain ⟨count, last, sweep, acknowledged, requests⟩ := @Session.sweep_reaches
    (connection.hsPrefix runtime hs) _ session 0 [] rfl (by simp) isFresh.sorted
    (fun entry inside => ⟨Nat.zero_le _, (isFresh.empty entry inside).1⟩) isFresh.idle _
    (OrderedMap.get_eq_some.mp found) (by simp)
  have known : application.session? number = some session := by
    simp [session?, fresh, session]
  obtain rfl := step_call fresh ran stepped
  obtain ⟨ended, acknowledges, there⟩ := run_acknowledged
    (session?_put known (session.follows_sweep _).number) acknowledged
  obtain ⟨client, listed, rfl⟩ := Option.map_eq_some_iff.mp there
  exact ⟨count, ended, client, sweep, acknowledges, listed, requests⟩

end Later

/-- The pre-subscriptions of a fresh client agree with those of the server exactly when no topic in
a `subscribe` claim contains the placeholder. -/
theorem preSubscriptions_agree_iff {runtime : Runtime} {service : Service}
    (reached : (Service.system runtime).Reachable service) {place : Nat} {connection : Connection}
    (known : service.connections[place]? = some connection) {greeting : Greeting} {sent : Nat}
    (replied : .reply greeting sent ∈ connection.calls) (drawn : connection.connid.length = 64)
    (fresh : application.clients[number]? = some (Client.ready greeting)) :
    PreSubscriptionsAgree runtime connection application number ↔
      ∀ hs ∈ connection.handshakes, ∀ topic, hs.Claims topic → ¬placeholder <:+: topic := by
  obtain ⟨rfl, _, subscribed⟩ := Service.replied_of_reachable reached known replied
  obtain ⟨isFresh, prefixes, _, keys⟩ := Client.ready_fresh (connection.greeting runtime)
  have client : ∀ topic, (Client.ready (connection.greeting runtime)).subs.has topic = true ↔
      ∃ hs ∈ connection.handshakes, ∃ listed, hs.Claims listed ∧
        topic = connection.hsPrefix runtime hs ++ listed := by
    intro topic
    rw [OrderedMap.has, Option.isSome_iff_exists, ← OrderedMap.mem_keys, keys]
    exact Connection.mem_preSubscribed rfl
  have server : ∀ topic, (∃ toExisting, .subscribe topic toExisting ∈ connection.calls) ↔
      ∃ hs ∈ connection.handshakes, ∃ listed, hs.Claims listed ∧
        topic = connection.hsPrefix runtime hs ++ replaceSelf connection.connid listed := by
    intro topic
    rw [← Connection.mem_subscribeCalls]
    exact exists_congr fun toExisting => subscribed topic toExisting
  constructor
  · intro agrees
    refine (Connection.same_topics_iff runtime drawn).mp fun topic => ?_
    rw [← client, ← server]
    exact agrees.topics _ fresh topic
  · intro plain
    have same := (Connection.same_topics_iff runtime drawn).mpr plain
    constructor
    · intro other there topic
      obtain rfl := Option.some.inj (fresh.symm.trans there)
      rw [client, server]
      exact same topic
    · intro index hs topic handler after other here claims stepped there
      exact subscribe_ready fresh here claims (plain hs (List.mem_of_getElem? here) topic claims)
        stepped there
    · intro index hs topic after other here claims stepped there
      have clean := plain hs (List.mem_of_getElem? here) topic claims
      rw [replaceSelf_eq_self _ clean]
      exact unsubscribe_ready fresh here claims clean stepped there
    · intro index hs topic after here claims stepped
      rw [replaceSelf_eq_self _ (plain hs (List.mem_of_getElem? here) topic claims)]
      exact sweep_ready fresh here claims stepped

/-- The server answers the client of a connection with one token. -/
def sampleGreeted (hs : Handshake) : List Service.Event :=
  [.transportConnected { config := {} } [hs] {} false [sampleConnid] 0,
   .connection 0 (.gotPubKey (.ok hs.rev)),
   .connection 0 (.resume 0),
   .connection 0 (.handshake [0, 0, 0, 2])]

/-- This token asks for a topic without the placeholder. -/
def plainHandshake : Handshake :=
  { sampleHandshake with payload.subscribe := some [(text "a", true)] }

theorem preSubscriptions_agree_iff_sample : ∃ service connection application,
    (Service.system sampleRuntime).run {} (sampleGreeted plainHandshake) = some service ∧
    service.connections[0]? = some connection ∧
    system.run {} [.ready (connection.greeting sampleRuntime)] = some application ∧
    (PreSubscriptionsAgree sampleRuntime connection application 0 ↔
      ∀ hs ∈ connection.handshakes, ∀ topic, hs.Claims topic → ¬placeholder <:+: topic) := by
  obtain ⟨service, connection, ran, here, replied, drawn⟩ : ∃ service connection,
      (Service.system sampleRuntime).run {} (sampleGreeted plainHandshake) = some service ∧
      service.connections[0]? = some connection ∧
      .reply (connection.greeting sampleRuntime) version ∈ connection.calls ∧
      connection.connid.length = 64 := ⟨_, _, rfl, rfl, by decide, rfl⟩
  exact ⟨service, connection, _, ran, here, rfl, preSubscriptions_agree_iff
    (TransitionSystem.reachable_of_run ran) here replied drawn rfl⟩

/-- The token of this client asks for a topic with the placeholder, which the client does not
replace. -/
theorem preSubscriptions_disagree : ∃ service connection application client topic,
    (Service.system sampleRuntime).run {} (sampleGreeted sampleHandshake) = some service ∧
    service.connections[0]? = some connection ∧
    .reply (connection.greeting sampleRuntime) version ∈ connection.calls ∧
    system.run {} [.ready (connection.greeting sampleRuntime)] = some application ∧
    application.clients[0]? = some client ∧ client.subs.has topic = true ∧
    ∀ toExisting, .subscribe topic toExisting ∉ connection.calls :=
  ⟨_, _, _, _, (sampleRuntime.sha256hex (text "foo")).digits ++ text ".a.$\x7bself\x7d", rfl, rfl,
    by decide, rfl, rfl, by decide, by decide⟩

end Application
end Centro
