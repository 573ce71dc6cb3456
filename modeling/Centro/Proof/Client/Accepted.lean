import Centro.Construction.Handshake
import Centro.Proof.Authorization.Verified
import Centro.Proof.Connection.Greeting
import Centro.Proof.Connection.Limits

namespace Centro

open Library

/-- A transport with this configuration accepted the tokens, and the server sent its reply to the
client for which the transport used them. -/
structure Replies (runtime : Runtime) (config : Config) (infos : List TokenInfo)
    (tokens : List JsString) (greeting : Greeting) (sent : Nat) : Prop where
  accepted : ∃ (authorization : Authorization) (number : Nat) (attempt : Attempt),
    (Authorization.system runtime).Reachable authorization ∧
    authorization.attempts[number]? = some attempt ∧ attempt.config = config ∧
    .cb2 none infos tokens ∈ attempt.calls
  replied : ∃ (service : Service) (place : Nat) (connection : Connection),
    (Service.system runtime).Reachable service ∧
    service.connections[place]? = some connection ∧ connection.transport.config = config ∧
    connection.handshakes = infos.map Handshake.ofInfo ∧ .reply greeting sent ∈ connection.calls

variable {runtime : Runtime} {config : Config} {connection : Connection}

/-- The client accepts every topic that the server accepts. -/
theorem test_patternConfig {topic : JsString} (accepted : (getTopicPattern config).test topic = true) :
    (getTopicPattern (patternConfig config)).test topic = true := by
  obtain ⟨words, wildcards, length⟩ := (test_getTopicPattern config topic).mp accepted
  refine (test_getTopicPattern _ topic).mpr ⟨?_, ?_, length⟩
  · by_cases none : config.maxWords = 0
    · have default : (patternConfig config).maxWords = 100 := if_pos none
      have few := count_of_mem_reMaxWords none words
      refine (mem_reMaxWords (by omega)).mpr ?_
      rw [default]
      exact Nat.lt_of_le_of_lt few (by decide)
    · have same : (patternConfig config).maxWords = config.maxWords := if_neg none
      rw [mem_reMaxWords (by omega)] at words ⊢
      rwa [same]
  · refine Nat.le_trans wildcards ?_
    by_cases none : config.maxWildcardSomes = 0
    · exact none ▸ Nat.zero_le _
    · exact Nat.le_of_eq (if_neg none).symm

/-- No digit begins a surrogate pair. -/
theorem codePoints_append {front : JsString} (plain : ∀ unit ∈ front, unit ∈ hexDigits)
    (last : CodeUnit) : codePoints (front ++ [last]) = front.length + 1 := by
  induction front with
  | nil => rfl
  | cons unit rest ih =>
      have low : ¬0xd800 ≤ unit := by
        have all : (hexDigits.all fun digit => !decide (0xd800 ≤ digit)) = true := by decide
        simpa using List.all_eq_true.mp all unit (plain unit List.mem_cons_self)
      have later := ih fun other member => plain other (List.mem_cons_of_mem _ member)
      cases same : rest ++ [last] with
      | nil => simp at same
      | cons second tail =>
          rw [List.cons_append, same, codePoints, if_neg fun pair => low pair.1, ← same, later,
            List.length_cons]
          omega

/-- A prefix has 65 characters or none. -/
theorem scope_hsPrefix (hs : Handshake) :
    HandshakeSchema.scope (.string (connection.hsPrefix runtime hs)) = true := by
  cases privileged : connection.transport.config.privileged with
  | false =>
      have length := codePoints_append (Digest.hex (runtime.sha256hex hs.payload.iss))
        runtime.fsq.separator
      rw [Digest.length] at length
      rw [Connection.hsPrefix_eq privileged]
      simp [HandshakeSchema.scope, HandshakeSchema.string, Schema.both, Schema.oneOf, Schema.string,
        Schema.lengths, length]
  | true =>
      have empty : connection.hsPrefix runtime hs = [] := by
        simp [Connection.hsPrefix, Connection.withSeparator, Connection.keyPrefix, privileged]
      rw [empty]
      rfl

/-- Of a `subscribe` claim that the server accepted, the client checks nothing new but the number of
topics. -/
theorem subscription_iff {json : Json CodeUnit} (valid : TokenSchema.preSubscribe config json = true) :
    HandshakeSchema.subscription config (subscriptionData (Claims.preSubscribe json)) = true ↔
      json.members.length ≤ config.maxSubscriptions := by
  cases json with
  | object members =>
      obtain ⟨_, _, each⟩ := Schema.object_eq_true.mp valid
      have boolean : ∀ name value, (name, value) ∈ members →
          (getTopicPattern config).test name = true ∧ ∃ flag, value = .bool flag := by
        intro name value member
        obtain ⟨_, patterns, known⟩ := each name value member
        have accepted : (getTopicPattern config).test name = true := by simpa using known
        have typed := patterns _ _ (List.mem_singleton_self _) accepted
        cases value with
        | bool flag => exact ⟨accepted, flag, rfl⟩
        | _ => cases typed
      have length : (Claims.preSubscribe (.object members)).length = members.length := by
        refine List.filterMap_length_eq_length.mpr fun (name, value) member => ?_
        obtain ⟨_, flag, rfl⟩ := boolean name value member
        rfl
      rw [HandshakeSchema.subscription, subscriptionData, Schema.object_eq_true, List.length_map, length]
      constructor
      · exact fun all => all.2.1 _ rfl
      · intro few
        refine ⟨nofun, fun bound same => Option.some.inj same ▸ few, fun name value member => ?_⟩
        obtain ⟨⟨topic, toExisting⟩, claimed, same⟩ := List.mem_map.mp member
        obtain ⟨rfl, rfl⟩ := Prod.mk.inj same
        obtain ⟨⟨topic, value⟩, listed, read⟩ := List.mem_filterMap.mp claimed
        obtain ⟨accepted, flag, rfl⟩ := boolean topic value listed
        obtain ⟨rfl, rfl⟩ := Prod.mk.inj (Option.some.inj read)
        have accepts := test_patternConfig accepted
        exact ⟨by simp, by simp [Schema.boolean], .inr (.inr ⟨_, _, List.mem_singleton_self _, accepts⟩)⟩
  | _ => cases valid

/-- The number of topics in the `subscribe` claim of a token. -/
def TokenInfo.subscribed (info : TokenInfo) : Nat :=
  (readMember "subscribe" info.payload).members.length

/-- A token without the claim has no topics. -/
theorem subscription_ofInfo {info : TokenInfo} {required : List String}
    (valid : authzTokenSchema config required info.payload = true) :
    HandshakeSchema.subscription config
        (subscriptionData ((Payload.ofJson info.payload).subscribe.getD [])) = true ↔
      info.subscribed ≤ config.maxSubscriptions := by
  rw [TokenInfo.subscribed, readMember, Payload.ofJson]
  cases found : info.payload.member (text "subscribe") with
  | none =>
      refine iff_of_true ?_ (Nat.zero_le _)
      exact Schema.object_eq_true.mpr (by simp)
  | some value =>
      have known : (text "subscribe", TokenSchema.preSubscribe config) ∈
          [(text "exp", Schema.integer none),
           (text "iss", TokenSchema.text config.maxIssuerLength),
           (text "access_control", TokenSchema.accessControl config),
           (text "subscribe", TokenSchema.preSubscribe config),
           (text "ack", TokenSchema.ack config),
           (text "presence", TokenSchema.presence config)] := by simp
      exact subscription_iff (Schema.object_member valid known found)

section Greetings

variable {infos : List TokenInfo} {tokens : List JsString}

/-- The reply has a prefix for each token. -/
theorem scopes_greeting (length : infos.length = tokens.length)
    (handshakes : connection.handshakes = infos.map Handshake.ofInfo) :
    HandshakeSchema.scopes tokens.length
      (.array ((connection.greeting runtime).prefixes.map .string)) = true := by
  have size : ((connection.greeting runtime).prefixes.map (Json.string (α := CodeUnit))).length =
      tokens.length := by
    simp [Connection.greeting, handshakes, length]
  simp only [HandshakeSchema.scopes, Schema.both, Schema.minItems, Schema.array, size]
  simp [Connection.greeting, scope_hsPrefix]

/-- Each member of the reply has its schema. -/
def Greeting.entries (config : Config) (count : Nat) (greeting : Greeting) :
    List (JsString × Schema CodeUnit × Json CodeUnit) :=
  [(text "self", HandshakeSchema.string, .string greeting.connid),
    (text "prefixes", HandshakeSchema.scopes count, .array (greeting.prefixes.map .string))] ++
  (greeting.subscriptions.map fun listed =>
    (text "subscriptions", Schema.array (some count) (HandshakeSchema.subscription config),
      Json.array (listed.map subscriptionData))).toList ++
  [(text "version", HandshakeSchema.version, .number version)]

/-- The client checks the prefixes and the subscriptions of the reply. -/
theorem handshakeSchema_hsdata {greeting : Greeting} :
    handshakeSchema config (some (.array tokens)) (greeting.hsdata version) = true ↔
      HandshakeSchema.scopes tokens.length (.array (greeting.prefixes.map .string)) = true ∧
      ∀ listed, greeting.subscriptions = some listed →
        Schema.array (some tokens.length) (HandshakeSchema.subscription config)
          (.array (listed.map subscriptionData)) = true := by
  have distinct : (((HandshakeSchema.properties config tokens.length).map
      fun member => (text member.1, member.2)).map Prod.fst).Nodup := by
    simp only [HandshakeSchema.properties, List.map_cons, List.map_nil]
    decide
  have data : greeting.hsdata version = .object
      ((greeting.entries config tokens.length).map fun entry => (entry.1, entry.2.2)) := by
    rw [Greeting.hsdata, Greeting.entries]
    cases greeting.subscriptions <;> rfl
  have self : HandshakeSchema.string (.string greeting.connid) = true := rfl
  have number : HandshakeSchema.version (.number version) = true := by decide
  rw [data, handshakeSchema, TokenSchema.closed, numPrefixes, Schema.object_closed distinct,
    Greeting.entries]
  · cases greeting.subscriptions with
    | none => simp [self, number]
    | some listed => simp [self, number]
  · rw [Greeting.entries]
    cases greeting.subscriptions <;> simp [HandshakeSchema.properties]
  · rw [Greeting.entries]
    cases greeting.subscriptions <;> simp

/-- The client checks nothing that the server has not checked but the number of topics. -/
theorem handshakeSchema_iff (length : infos.length = tokens.length)
    (handshakes : connection.handshakes = infos.map Handshake.ofInfo) {required : List String}
    (valid : ∀ info ∈ infos, authzTokenSchema config required info.payload = true) :
    handshakeSchema config (some (.array tokens)) ((connection.greeting runtime).hsdata version) =
        true ↔ ∀ info ∈ infos, info.subscribed ≤ config.maxSubscriptions := by
  have each : (∀ info ∈ infos, HandshakeSchema.subscription config
      (subscriptionData ((Payload.ofJson info.payload).subscribe.getD [])) = true) ↔
          ∀ info ∈ infos, info.subscribed ≤ config.maxSubscriptions :=
    forall₂_congr fun info member => subscription_ofInfo (valid info member)
  rw [handshakeSchema_hsdata, and_iff_right (scopes_greeting length handshakes), ← each]
  have listed : (connection.handshakes.map fun hs => hs.payload.subscribe.getD []) =
      infos.map fun info => (Payload.ofJson info.payload).subscribe.getD [] := by
    rw [handshakes, List.map_map]
    rfl
  rw [Connection.greeting, Connection.subscriptions, listed]
  by_cases empty : (infos.map fun info =>
      (Payload.ofJson info.payload).subscribe.getD []).all List.isEmpty = true
  · rw [if_pos empty]
    refine iff_of_true nofun fun info member => ?_
    rw [List.isEmpty_iff.mp (List.all_eq_true.mp empty _ (List.mem_map_of_mem member))]
    exact Schema.object_eq_true.mpr (by simp)
  · rw [if_neg empty]
    simp [Schema.array, length]

/-- The client finds no error exactly in a reply of its schema. -/
theorem handshakeError_eq_none {errorsText : Json CodeUnit → JsString} {token : Option TokenOption}
    {hsdata : Json CodeUnit} : handshakeError errorsText config token (.ok hsdata) = none ↔
      handshakeSchema config token hsdata = true := by
  rw [handshakeError]
  cases handshakeSchema config token hsdata with
  | false => cases errorSchema hsdata <;> simp
  | true => simp

/-- The client of the HTTP transport accepts the reply of its own server exactly when no token has
more topics than the connection may subscribe to. -/
theorem reply_accepted_iff (same : config =
      { runtime.config with privileged := config.privileged, allowedAlgs := config.allowedAlgs })
    {greeting : Greeting} {sent : Nat} (replies : Replies runtime config infos tokens greeting sent)
    (errorsText : Json CodeUnit → JsString) :
    handshakeError errorsText config (Http.token tokens) (.ok (greeting.hsdata sent)) = none ↔
      ∀ info ∈ infos, info.subscribed ≤ config.maxSubscriptions := by
  obtain ⟨authorization, number, attempt, reached, here, rfl, accepted⟩ := replies.accepted
  obtain ⟨service, place, connection, served, there, _, handshakes, replied⟩ := replies.replied
  have admitted := ((sound_of_reachable reached).2 number attempt here).settled.admitted _ _ accepted
  obtain ⟨rfl, rfl, _⟩ := Service.replied_of_reachable served there replied
  have valid : ∀ info ∈ infos,
      authzTokenSchema attempt.config ["iss", "access_control"] info.payload = true := by
    rw [same]
    exact admitted.schema
  rw [handshakeError_eq_none, Http.token]
  exact handshakeSchema_iff admitted.length handshakes valid

end Greetings

/-- This token asks for two topics. -/
def crowdedInfo : TokenInfo :=
  { sampleInfo with
    payload := .object (sampleInfo.payload.members ++
      [(text "subscribe", .object [(text "a", .bool true), (text "b", .bool true)])]) }

/-- A client of this server can have one subscription or two. -/
def crowdedRuntime (two : Bool) : Runtime :=
  { sampleRuntime with
    config := { maxSubscriptions := if two then 2 else 1, maxWords := 2, maxTopicLength := some 2 } }

def crowdedGreeting : Greeting where
  connid := sampleConnid
  prefixes := [(sampleRuntime.sha256hex (text "foo")).digits ++ text "."]
  subscriptions := some [[(text "a", true), (text "b", true)]]

/-- A token with two subscriptions has this reply. -/
theorem replies_crowded (two : Bool) :
    Replies (crowdedRuntime two) (crowdedRuntime two).config [crowdedInfo] [text "token"]
      crowdedGreeting version where
  accepted := by
    refine ⟨_, 0, _, TransitionSystem.reachable_of_run (show (Authorization.system _).run {}
      ([.transportAuthorize (crowdedRuntime two).config false none,
        .attempt 0 (.gotTokens none (.joined (text "token")))] ++
        (verifications [crowdedInfo]).map (.attempt 0)) = some _ from rfl), rfl, ?_, ?_⟩
    · cases two <;> rfl
    · refine List.mem_of_getElem? (show _[5]? = some _ from ?_)
      cases two <;> rfl
  replied := by
    refine ⟨_, 0, _, TransitionSystem.reachable_of_run (show (Service.system _).run {}
      [.transportConnected { config := (crowdedRuntime two).config }
          [.ofInfo crowdedInfo] {} false [sampleConnid] 0,
        .connection 0 (.gotPubKey (.ok crowdedInfo.rev)),
        .connection 0 (.resume 0),
        .connection 0 (.handshake [0, 0, 0, 2])] = some _ from rfl), rfl, rfl, rfl, ?_⟩
    exact List.mem_of_getElem? (show _[6]? = _ from rfl)

theorem reply_accepted_iff_sample :
    handshakeError sampleRuntime.errorsText (crowdedRuntime true).config (Http.token [text "token"])
        (.ok (crowdedGreeting.hsdata version)) = none ↔
      ∀ info ∈ [crowdedInfo], info.subscribed ≤ 2 :=
  reply_accepted_iff rfl (replies_crowded true) sampleRuntime.errorsText

/-- The server accepts two topics as it has its own bound for them, and its reply then has more than
the client allows. -/
theorem reply_refused :
    Replies (crowdedRuntime false) (crowdedRuntime false).config [crowdedInfo] [text "token"]
      crowdedGreeting version ∧
    handshakeError sampleRuntime.errorsText (crowdedRuntime false).config (Http.token [text "token"])
      (.ok (crowdedGreeting.hsdata version)) = some (text "data should be object") :=
  ⟨replies_crowded false, by decide⟩

end Centro
