import Centro.Construction.Claims
import Centro.Proof.Authorization.Verified
import Centro.Proof.Client.Scope
import Centro.Proof.Frame

namespace Centro

open Library

/-- The server uses this scope for a verified token. -/
def TokenInfo.scope (runtime : Runtime) (config : Config) (info : TokenInfo) : JsString :=
  if config.privileged then []
  else (runtime.sha256hex (Payload.ofJson info.payload).iss).digits ++ [runtime.fsq.separator]

/-- The reply to a client has the scope and the `subscribe` claim of each token at its place, and an
operation of the client with that place acts in that scope. -/
structure Greeting.Indexed (runtime : Runtime) (config : Config) (infos : List TokenInfo)
    (greeting : Greeting) : Prop where
  scopes : greeting.prefixes = infos.map (TokenInfo.scope runtime config)
  subscriptions : ∀ listed, greeting.subscriptions = some listed →
    listed = infos.map fun info => (Payload.ofJson info.payload).subscribe.getD []
  operations : ∀ (index : Nat) info, infos[index]? = some info →
    ∀ {events before number operation arguments after},
      Application.system.run {} events = some before →
      (Application.greetings events)[number]? = some greeting →
      before.step (.call number operation arguments) = some after →
      arguments.shift.1 = .finite index →
        before.Passes number
          (arguments.Names greeting.connid (info.scope runtime config))
          (·.scope = info.scope runtime config) after

variable {runtime : Runtime} {connection : Connection} {infos : List TokenInfo}

/-- The scope of a token is the prefix that `process_handshake` sets. -/
theorem hsPrefix_ofInfo (info : TokenInfo) : connection.hsPrefix runtime (.ofInfo info) =
    info.scope runtime connection.transport.config := by
  unfold Connection.hsPrefix Connection.withSeparator Connection.keyPrefix TokenInfo.scope
  split <;> rfl

/-- The greeting of a connection has everything at the place of its token. -/
theorem greeting_indexed (tokens : connection.handshakes = infos.map Handshake.ofInfo) :
    (connection.greeting runtime).Indexed runtime connection.transport.config infos := by
  have scopes : (connection.greeting runtime).prefixes =
      infos.map (TokenInfo.scope runtime connection.transport.config) := by
    rw [Connection.greeting, tokens, List.map_map]
    exact List.map_congr_left fun info _ => hsPrefix_ofInfo info
  refine ⟨scopes, ?_, ?_⟩
  · intro listed sent
    simp only [Connection.greeting, Connection.subscriptions, tokens, List.map_map] at sent
    split at sent
    · cases sent
    · exact (Option.some.inj sent).symm
  · intro index info here events before number operation arguments after ran greeted stepped place
    obtain ⟨client, there, self, prefixes⟩ := Application.client_of_greeting ran greeted
    obtain ⟨session, left, found, called, rfl⟩ := Application.call_step stepped
    obtain ⟨same, known, rfl⟩ := Option.map_eq_some_iff.mp found
    obtain rfl := Option.some.inj (there.symm.trans known)
    have listed : client.prefixes[index]? =
        some (info.scope runtime connection.transport.config) := by
      rw [prefixes, scopes, List.getElem?_map, here]
      rfl
    have inside := (List.getElem?_eq_some_iff.mp listed).1
    have small : arguments.shift.1.atLeast client.prefixes.length = false := by
      rw [place, JsNumber.atLeast_natCast]
      exact decide_eq_false (Nat.not_le.mpr inside)
    have read : client.element arguments.shift.1.index =
        info.scope runtime connection.transport.config := by
      rw [place, JsNumber.index_natCast, Client.element, Option.bind_some, listed]
      rfl
    have passes := Session.run_passes (by exact small) called
    rw [read, self] at passes
    exact .of_session found passes

/-- The server reads the tokens that a client sends. Every attempt accepts them when they are
verified and accepts no others, and the reply to the client then has what belongs to each of them at
its place. -/
def TokenPlacesAgree (maxSize : Nat) (option : TokenOption) (events : List StreamEvent) : Prop :=
  ∃ presented, (readFrame maxSize events).calls.map frameTokens = [(none, presented)] ∧
    presented.tokens = some option.tokens ∧
    ∀ {runtime : Runtime} {authorization : Authorization} {number : Nat} {attempt : Attempt},
      (Authorization.system runtime).Reachable authorization →
      authorization.attempts[number]? = some attempt →
      (attempt.authzEnded = false → number ∈ authorization.pendingAuthzDestroys → ∀ infos,
        Verifies runtime attempt.config option.tokens infos → ∃ after last,
          (Authorization.system runtime).run authorization
            ((.gotTokens none presented :: verifications infos).map (.attempt number)) =
              some after ∧ after.attempts[number]? = some last ∧
          .cb2 none infos option.tokens ∈ last.calls) ∧
      ((∀ other, .gotTokens none other ∈ attempt.calls → other = presented) →
        ∀ infos tokens, .cb2 none infos tokens ∈ attempt.calls → tokens = option.tokens ∧
          Admitted runtime attempt.config attempt.calls infos tokens ∧
          ∀ {service : Service} {place : Nat} {connection : Connection} {greeting : Greeting}
            {answer : Nat}, (Service.system runtime).Reachable service →
            service.connections[place]? = some connection →
            connection.transport.config = attempt.config →
            connection.handshakes = infos.map Handshake.ofInfo →
            .reply greeting answer ∈ connection.calls →
              greeting.prefixes.length = option.tokens.length ∧
              greeting.Indexed runtime attempt.config infos)

/-- From the client to the server and back, every token keeps its place, however the bytes of the
stream are cut. -/
theorem token_places_agree {option : TokenOption} (nonempty : option.tokens ≠ [])
    (plain : ∀ token ∈ option.tokens, token ≠ [] ∧ codeUnit ',' ∉ token ∧ WellFormed token)
    {maxSize : Nat} (sendable : Sendable maxSize (bufferFrom (getStokens option)))
    {frame : Bytes} (sent : streamAuth option = some frame) {rest : Bytes}
    {bursts : List (List Bytes)} (brought : bursts.flatten.flatten = frame ++ rest)
    (events : List StreamEvent) :
    TokenPlacesAgree maxSize option (bursts.map .readable ++ events) := by
  have called := readFrame_encoded sendable sent brought events
  have found := tokens_getStokens nonempty plain
  refine ⟨_, ?_, found, ?_⟩
  · rw [called]
    rfl
  · intro runtime authorization number attempt reached here
    constructor
    · intro unended pending infos verifies
      exact Authorization.verified_accepted reached here unended pending found nonempty verifies
    · intro only infos tokens accepted
      obtain ⟨_, each⟩ := sound_of_reachable reached
      have admitted := (each number attempt here).settled.admitted infos tokens accepted
      obtain ⟨other, member, read⟩ := admitted.presented
      obtain rfl := only other member
      obtain rfl := Option.some.inj (read.symm.trans found)
      refine ⟨rfl, admitted, ?_⟩
      intro service place connection greeting answer served there config handshakes replied
      obtain ⟨rfl, _⟩ := Service.replied_of_reachable served there replied
      have indexed := @greeting_indexed runtime _ _ handshakes
      rw [config] at indexed
      refine ⟨?_, indexed⟩
      rw [indexed.scopes, List.length_map]
      exact admitted.length

theorem token_places_agree_sample : TokenPlacesAgree maxSizeDefault
    (.array [text "a", text "b"])
    ([[[0, 0], [0, 3, 97]], [[44, 98, 9]]].map .readable ++ [.ended]) := by
  refine token_places_agree (by decide) ?_ ⟨by decide, .inr (by decide)⟩ rfl
    (show List.flatten _ = [0, 0, 0, 3, 97, 44, 98] ++ [9] from rfl) _
  intro token member
  rcases List.mem_cons.mp member with rfl | last
  · exact ⟨by decide, by decide, ['a'], rfl⟩
  · rw [List.mem_singleton.mp last]
    exact ⟨by decide, by decide, ['b'], rfl⟩

/-- Two tokens can be too large together when neither is too long alone. -/
theorem streamAuth_refused {count : Nat} (large : maxSizeDefault < 2 * count + 1)
    (small : 2 * count + 1 < 2 ^ 32) : ∃ frame message,
      streamAuth (.array [List.replicate count (codeUnit 'a'), List.replicate count (codeUnit 'b')]) =
        some frame ∧ (readFrame maxSizeDefault [.readable [frame]]).calls.map frameTokens =
          [(some (.error message), .missing)] := by
  have joined : getStokens (.array [List.replicate count (codeUnit 'a'),
      List.replicate count (codeUnit 'b')]) =
        List.replicate count (codeUnit 'a') ++ text "," ++ List.replicate count (codeUnit 'b') := by
    rw [getStokens, TokenOption.tokens, join_cons _ _ (List.cons_ne_nil _ _)]
    simp [join]
  have size : (bufferFrom (getStokens (.array [List.replicate count (codeUnit 'a'),
      List.replicate count (codeUnit 'b')]))).length = 2 * count + 1 := by
    rw [joined, length_bufferFrom]
    · simp only [List.length_append, List.length_replicate]
      change count + 1 + count = _
      omega
    · intro unit member
      simp only [List.mem_append, List.mem_replicate] at member
      rcases member with (⟨_, rfl⟩ | comma) | ⟨_, rfl⟩
      · decide
      · rw [List.mem_singleton.mp comma]
        decide
      · decide
  rw [streamAuth]
  generalize bufferFrom _ = message at size
  have encoded : encodeFrame message = some (uint32BE message.length ++ message) :=
    if_pos (size.symm ▸ small)
  exact ⟨_, _, encoded, congrArg (List.map frameTokens)
    (readFrame_refused (by decide) (size.symm ▸ large) encoded)⟩

/-- The call passes verified tokens on to the transport. -/
def AuthzCall.accepts : AuthzCall → Bool
  | .cb2 none _ _ => true
  | _ => false

/-- Another issuer signed this token. -/
def otherInfo : TokenInfo := { sampleInfo with uri := text "mailto:bar@example.com" }

/-- The server reads another token for a string with a lone surrogate, it reads nothing from a frame
that is too large, and a transport with privileges refuses a second verified token. -/
theorem token_places_disagree :
    (∃ frame presented, streamAuth (.string [0xd800]) = some frame ∧
      (readFrame maxSizeDefault [.readable [frame]]).calls.map frameTokens = [(none, presented)] ∧
      presented.tokens = some [[0xfffd]]) ∧
    (∃ frame message,
      streamAuth (.array [List.replicate 600000 (codeUnit 'a'),
        List.replicate 600000 (codeUnit 'b')]) = some frame ∧
      (readFrame maxSizeDefault [.readable [frame]]).calls.map frameTokens =
        [(some (.error message), .missing)]) ∧
    ∃ authorization attempt, (Authorization.system sampleRuntime).run {}
        ([.transportAuthorize { privileged := true } false none,
          .attempt 0 (.gotTokens none (.joined (text "a,b")))] ++
          (verifications [sampleInfo, otherInfo]).map (.attempt 0)) = some authorization ∧
      authorization.attempts[0]? = some attempt ∧
      attempt.calls.countP AuthzCall.isCb2 = 1 ∧
      attempt.calls.all (fun call => !call.accepts) = true := by
  refine ⟨⟨_, .joined [0xfffd], rfl, rfl, by decide⟩, ?_, ?_⟩
  · exact streamAuth_refused (by decide) (by decide)
  · have refused : (((Authorization.system sampleRuntime).run {}
        ([.transportAuthorize { privileged := true } false none,
          .attempt 0 (.gotTokens none (.joined (text "a,b")))] ++
          (verifications [sampleInfo, otherInfo]).map (.attempt 0))).bind
        fun authorization => authorization.attempts[0]?).map
        (fun attempt => (attempt.calls.countP AuthzCall.isCb2,
          attempt.calls.all fun call => !call.accepts)) = some (1, true) := by decide
    obtain ⟨attempt, found, same⟩ := Option.map_eq_some_iff.mp refused
    obtain ⟨authorization, ran, here⟩ := Option.bind_eq_some_iff.mp found
    exact ⟨authorization, attempt, ran, here, congrArg Prod.fst same, congrArg Prod.snd same⟩

end Centro
