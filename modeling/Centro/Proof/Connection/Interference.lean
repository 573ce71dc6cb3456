import Centro.Proof.Connection.Greeting
import Centro.Proof.Connection.Isolation
import Centro.Proof.Connection.Limits

namespace Centro

open Library

/-- The access control gets five lists of patterns. -/
inductive AccessList where
  | publishAllow
  | publishDisallow
  | subscribeAllow
  | subscribeDisallow
  | block

namespace AccessList

/-- A token has its part of the list in this claim. -/
def claimed : AccessList → AccessControlClaim → List JsString
  | .publishAllow, claim => claim.publish.allow
  | .publishDisallow, claim => claim.publish.disallow
  | .subscribeAllow, claim => claim.subscribe.allow
  | .subscribeDisallow, claim => claim.subscribe.disallow
  | .block, claim => claim.block.getD []

/-- The options have the whole list. -/
def patterns (options : AccessControlOptions) : AccessList → List JsString
  | .publishAllow => options.publishAllow
  | .publishDisallow => options.publishDisallow
  | .subscribeAllow => options.subscribeAllow
  | .subscribeDisallow => options.subscribeDisallow
  | .block => options.block

end AccessList

/-- AMQP writes its wildcards in this way. -/
def amqp : Wildcards CodeUnit := ⟨text "*", text "#"⟩

/-- The topic matches one of the patterns. -/
def Matches (separator : CodeUnit) (patterns : List JsString) (topic : JsString) : Prop :=
  ∃ pattern ∈ patterns, matchTopic amqp separator pattern topic = true

namespace Connection

variable {runtime : Runtime} {connection : Connection} {hs other : Handshake} {topic : JsString}
  {separator : CodeUnit}

/-- These are the patterns of one token. -/
def ownTopics (runtime : Runtime) (connection : Connection)
    (select : AccessControlClaim → List JsString) (hs : Handshake) : List JsString :=
  (select hs.payload.accessControl).map fun topic =>
    connection.hsPrefix runtime hs ++ replaceSelf connection.connid topic

/-- A list of the access control has the topics of each token in their order. -/
theorem patterns_accessControlOptions (list : AccessList) :
    list.patterns (connection.accessControlOptions runtime) =
      connection.handshakes.flatMap (connection.ownTopics runtime list.claimed) := by
  cases list <;> rfl

/-- The tokens have different issuers, and the hashes tell these apart. -/
structure DistinctIssuers (runtime : Runtime) (connection : Connection) : Prop where
  issuers : (connection.handshakes.map fun hs => hs.payload.iss).Nodup
  injective : ∀ hs ∈ connection.handshakes, ∀ other ∈ connection.handshakes,
    (runtime.sha256hex hs.payload.iss).digits = (runtime.sha256hex other.payload.iss).digits →
      hs.payload.iss = other.payload.iss

/-- The hash at the begin of a pattern is no wildcard, and it is compared as a whole, wherever the
separator cuts the pattern. -/
theorem same_digits (unprivileged : connection.transport.config.privileged = false)
    (scope : FirstWord separator (runtime.sha256hex hs.payload.iss).digits topic) {rest : JsString}
    (matched : matchTopic amqp separator (connection.hsPrefix runtime other ++ rest) topic = true) :
    (runtime.sha256hex hs.payload.iss).digits = (runtime.sha256hex other.payload.iss).digits := by
  rw [hsPrefix_eq unprivileged, List.append_assoc] at matched
  generalize runtime.sha256hex other.payload.iss = digest at matched ⊢
  generalize [runtime.fsq.separator] ++ rest = tail at matched
  have first := firstWord_takeWhile separator (digest.digits ++ tail)
  have part : (digest.digits ++ tail).takeWhile (· ≠ separator) <+: digest.digits ++ tail :=
    List.takeWhile_prefix _
  generalize (digest.digits ++ tail).takeWhile (· ≠ separator) = word at first part
  have apart : ∀ mark ∉ hexDigits, word ≠ [mark] := by
    rintro mark unknown rfl
    cases digits : digest.digits with
    | nil => exact absurd (digits ▸ digest.length) (by decide)
    | cons digit more =>
        rw [digits, List.cons_append, List.cons_prefix_cons] at part
        apply unknown
        rw [part.1]
        exact digest.hex digit (digits ▸ List.mem_cons_self)
  have same : (runtime.sha256hex hs.payload.iss).digits = word := by
    apply scope.unique
    exact matchTopic_firstWord first (apart _ (by decide)) (apart _ (by decide)) matched
  have front : digest.digits <+: digest.digits ++ tail := List.prefix_append _ _
  rw [same]
  apply (List.prefix_of_prefix_length_le part front _).eq_of_length
  · rw [← same, Digest.length, Digest.length]
  · rw [← same, Digest.length, Digest.length]

/-- A topic of a token matches patterns of this token only. -/
theorem matches_iff (unprivileged : connection.transport.config.privileged = false)
    (distinct : connection.DistinctIssuers runtime) (member : hs ∈ connection.handshakes)
    (scope : FirstWord separator (runtime.sha256hex hs.payload.iss).digits topic)
    (list : AccessList) :
    Matches separator (list.patterns (connection.accessControlOptions runtime)) topic ↔
      Matches separator (connection.ownTopics runtime list.claimed hs) topic := by
  rw [patterns_accessControlOptions]
  constructor
  · rintro ⟨pattern, listed, matched⟩
    obtain ⟨other, known, own⟩ := List.mem_flatMap.mp listed
    obtain ⟨claimed, _, rfl⟩ := List.mem_map.mp own
    have equal := distinct.injective hs member other known (same_digits unprivileged scope matched)
    obtain rfl := List.inj_on_of_nodup_map distinct.issuers member known equal
    exact ⟨_, own, matched⟩
  · rintro ⟨pattern, own, matched⟩
    exact ⟨pattern, List.mem_flatMap.mpr ⟨hs, member, own⟩, matched⟩

/-- The flag is in force when a token sets it. -/
theorem aggregateBool_iff {select : PublishClaim → Option Bool} {handshakes : List Handshake} :
    aggregateBool select false handshakes = true ↔
      ∃ hs ∈ handshakes, select hs.payload.accessControl.publish = some true := by
  induction handshakes with
  | nil => simp [aggregateBool]
  | cons hs rest ih =>
      rw [aggregateBool, List.exists_mem_cons_iff, ← ih]
      cases select hs.payload.accessControl.publish with
      | none => simp
      | some set => cases set <;> simp

/-- What the options say on the topics of a token comes from this token alone. Another connection
with the same id and other tokens beside it says the same, and only two flags come from all tokens
together. -/
structure Undisturbed (runtime : Runtime) (connection : Connection) (options : AccessControlOptions) :
    Prop where
  alone : ∀ hs ∈ connection.handshakes, ∀ separator topic,
    FirstWord separator (runtime.sha256hex hs.payload.iss).digits topic → ∀ list : AccessList,
      Matches separator (list.patterns options) topic ↔
        Matches separator (connection.ownTopics runtime list.claimed hs) topic
  decisions : ∀ {service : Service} {number : Nat} {peer : Connection}
    {others : AccessControlOptions}, (Service.system runtime).Reachable service →
    service.connections[number]? = some peer → peer.transport.config.privileged = false →
    peer.DistinctIssuers runtime → .accessControl others ∈ peer.calls →
    peer.connid = connection.connid → ∀ hs ∈ connection.handshakes, hs ∈ peer.handshakes →
      ∀ separator topic,
        FirstWord separator (runtime.sha256hex hs.payload.iss).digits topic → ∀ list : AccessList,
          Matches separator (list.patterns options) topic ↔
            Matches separator (list.patterns others) topic
  disallowSingle : options.disallowSingle = true ↔ ∃ hs ∈ connection.handshakes,
    hs.payload.accessControl.publish.disallowSingle = some true
  disallowMulti : options.disallowMulti = true ↔ ∃ hs ∈ connection.handshakes,
    hs.payload.accessControl.publish.disallowMulti = some true
  limits : options.maxDataLength = connection.transport.config.maxPublishDataLength ∧
    options.maxPublications = connection.transport.config.maxPublications ∧
    options.maxSubscriptions = connection.transport.config.maxSubscriptions ∧
    options.maxTopicLength = connection.transport.config.maxTopicLength.map (65 + ·)

/-- The tokens of a connection do not interfere when their issuers differ. -/
theorem tokens_undisturbed {service : Service} (reached : (Service.system runtime).Reachable service)
    {number : Nat} (here : service.connections[number]? = some connection)
    (unprivileged : connection.transport.config.privileged = false)
    (distinct : connection.DistinctIssuers runtime) {options : AccessControlOptions}
    (made : .accessControl options ∈ connection.calls) :
    connection.Undisturbed runtime options := by
  obtain rfl := Service.controlled_of_reachable reached here made
  have alone : ∀ hs ∈ connection.handshakes, ∀ separator topic,
      FirstWord separator (runtime.sha256hex hs.payload.iss).digits topic → ∀ list : AccessList,
        Matches separator (list.patterns (connection.accessControlOptions runtime)) topic ↔
          Matches separator (connection.ownTopics runtime list.claimed hs) topic :=
    fun hs member separator topic scope list => matches_iff unprivileged distinct member scope list
  refine ⟨alone, ?_, aggregateBool_iff, aggregateBool_iff, rfl, rfl, rfl, ?_⟩
  · intro service number peer others served there equal apart controlled same hs member also
      separator topic scope list
    obtain rfl := Service.controlled_of_reachable served there controlled
    have own : peer.ownTopics runtime list.claimed hs = connection.ownTopics runtime list.claimed hs := by
      rw [ownTopics, ownTopics, hsPrefix_eq equal, hsPrefix_eq unprivileged, same]
    rw [alone hs member separator topic scope list, matches_iff equal apart also scope list, own]
  · simp [accessControlOptions, unprivileged]

/-- This token is from another issuer, allows all topics and sets a flag. -/
def sampleSecond : Handshake where
  payload :=
    { iss := text "bar"
      accessControl :=
        { publish := { allow := [text "#"], disallow := [], disallowSingle := some true }
          subscribe := { allow := [text "#"], disallow := [] } } }
  uri := text "mailto:bar@example.com"
  rev := none

/-- A client with two tokens enters service. -/
def sampleTwoTokens : List Service.Event :=
  [.transportConnected { config := {} } [sampleHandshake, sampleSecond] {} false [sampleConnid] 0,
   .connection 0 (.gotPubKey (.ok sampleHandshake.rev)),
   .connection 0 (.resume 0),
   .connection 0 (.gotPubKey (.ok sampleSecond.rev)),
   .connection 0 (.resume 0)]

theorem tokens_undisturbed_sample : ∃ service connection options,
    (Service.system sampleRuntime).run {} sampleTwoTokens = some service ∧
    service.connections[0]? = some connection ∧ .accessControl options ∈ connection.calls ∧
    connection.handshakes.length = 2 ∧ connection.Undisturbed sampleRuntime options := by
  obtain ⟨service, connection, ran, here, made, tokens, unprivileged⟩ : ∃ service connection,
      (Service.system sampleRuntime).run {} sampleTwoTokens = some service ∧
      service.connections[0]? = some connection ∧
      .accessControl (connection.accessControlOptions sampleRuntime) ∈ connection.calls ∧
      connection.handshakes = [sampleHandshake, sampleSecond] ∧
      connection.transport.config.privileged = false := ⟨_, _, rfl, rfl, by decide, rfl, rfl⟩
  have distinct : connection.DistinctIssuers sampleRuntime := by
    constructor
    · rw [tokens]
      decide
    · rw [tokens]
      decide
  exact ⟨service, connection, _, ran, here, made, by rw [tokens]; rfl,
    tokens_undisturbed (TransitionSystem.reachable_of_run ran) here unprivileged distinct made⟩

end Connection
end Centro
