import Centro.Proof.Authorization.Attempt

namespace Centro

open Library

/-- The tokens keep all limits, and these answers of the authorizer pass all checks. -/
structure Verifies (runtime : Runtime) (config : Config) (tokens : List JsString)
    (infos : List TokenInfo) : Prop where
  maxTokens : config.maxTokens ≠ 0 → tokens.length ≤ config.maxTokens
  maxTokenLength : ∀ token ∈ tokens, config.maxTokenLength ≠ 0 → token.length ≤ config.maxTokenLength
  length : infos.length = tokens.length
  schema : ∀ info ∈ infos,
    authzTokenSchema runtime.config ["iss", "access_control"] info.payload = true
  distinct : (infos.map TokenInfo.uri).Nodup
  privileged : config.privileged = true → infos.length = 1

/-- The authorizer verifies the tokens one after the other. -/
def verifications (infos : List TokenInfo) : List AttemptEvent :=
  infos.flatMap fun info => [.authorized (.ok info), .resume]

/-- Valid payloads with new URIs pass the last check. -/
theorem checkHandshakes_of_valid {runtime : Runtime} {infos : List TokenInfo} {uris : List Uri}
    (schema : ∀ info ∈ infos,
      authzTokenSchema runtime.config ["iss", "access_control"] info.payload = true)
    (distinct : (infos.map TokenInfo.uri).Nodup) (apart : ∀ info ∈ infos, info.uri ∉ uris) :
    checkHandshakes runtime uris infos = none := by
  induction infos generalizing uris with
  | nil => rfl
  | cons info rest ih =>
      rw [List.map_cons, List.nodup_cons] at distinct
      rw [checkHandshakes, schema info List.mem_cons_self, Bool.not_true, if_neg Bool.false_ne_true,
        if_neg (apart info List.mem_cons_self)]
      refine ih (fun other member => schema other (List.mem_cons_of_mem _ member)) distinct.2 ?_
      intro other member known
      rcases List.mem_cons.mp known with same | old
      · exact distinct.1 (same ▸ List.mem_map_of_mem member)
      · exact apart other (List.mem_cons_of_mem _ member) old

namespace AuthzClosure

variable {runtime : Runtime} {closure last : AuthzClosure}

/-- One attempt is a system of its own. -/
def system (runtime : Runtime) (initial : AuthzClosure) :
    TransitionSystem AuthzClosure AttemptEvent where
  initial := initial
  step := step runtime

/-- The attempt has verified all its tokens and ends with them. -/
theorem finish_verified {infos : List TokenInfo} {tokens : List JsString}
    (verifies : Verifies runtime closure.attempt.config tokens infos)
    (handshakes : closure.attempt.handshakes = infos) (presented : closure.attempt.tokens = tokens)
    (pending : closure.attempt.number ∈ closure.pendingAuthzDestroys) :
    .cb2 none infos tokens ∈ (closure.finish runtime).attempt.calls := by
  have single : (closure.attempt.config.privileged && decide (infos.length > 1)) = false := by
    cases privileged : closure.attempt.config.privileged with
    | false => rfl
    | true => simp [verifies.privileged privileged]
  have passes : checkHandshakes runtime [] infos = none :=
    checkHandshakes_of_valid verifies.schema verifies.distinct fun _ _ => List.not_mem_nil
  simp only [finish, handshakes, single, Bool.false_eq_true, if_false, passes, presented]
  rw [cb_attempt]
  refine List.mem_append_right _ ?_
  simp [reportCalls, AuthzClosure.pending, pending]

/-- The loop over the tokens comes to its end when the authorizer verifies each of them. -/
theorem nextToken_verified (initial : AuthzClosure) {tokens : List JsString}
    (infos : List TokenInfo) {done : List TokenInfo} {closure : AuthzClosure}
    (verifies : Verifies runtime closure.attempt.config tokens (done ++ infos))
    (handshakes : closure.attempt.handshakes = done) (presented : closure.attempt.tokens = tokens)
    (pending : closure.attempt.number ∈ closure.pendingAuthzDestroys) :
    ∃ last, (system runtime initial).run (closure.nextToken runtime) (verifications infos) =
        some last ∧ .cb2 none (done ++ infos) tokens ∈ last.attempt.calls := by
  induction infos generalizing done closure with
  | nil =>
      rw [List.append_nil] at verifies ⊢
      have ended : tokens[done.length]? = none :=
        List.getElem?_eq_none_iff.mpr (Nat.le_of_eq verifies.length.symm)
      refine ⟨_, rfl, ?_⟩
      unfold nextToken
      rw [handshakes, presented, ended]
      exact finish_verified verifies handshakes presented pending
  | cons info rest ih =>
      have inside : done.length < tokens.length := by
        have length := verifies.length
        simp only [List.length_append, List.length_cons] at length
        omega
      have short := verifies.maxTokenLength _ (List.getElem_mem inside)
      have asked : closure.nextToken runtime =
          ({ closure with attempt.verification := .authorizing }).call
            (.authorize done.length tokens[done.length] closure.attempt.config.allowedAlgs) := by
        unfold nextToken
        rw [handshakes, presented, List.getElem?_eq_getElem inside]
        dsimp only
        rw [if_neg fun long => Nat.not_lt.mpr (short long.1) long.2]
      have together : done ++ info :: rest = (done ++ [info]) ++ rest := by simp
      rw [together] at verifies ⊢
      rw [asked]
      refine Exists.imp ?_ (@ih (done ++ [info])
        { closure with
          attempt := { closure.attempt with
            verification := .calledBack (.ok info)
            handshakes := done ++ [info]
            calls := closure.attempt.calls ++
              [.authorize done.length tokens[done.length] closure.attempt.config.allowedAlgs] ++
              [.authorized done.length (.ok info)] } } verifies rfl presented pending)
      rintro last ⟨ran, accepted⟩
      refine ⟨?_, accepted⟩
      rw [← ran]
      simp only [verifications, List.flatMap_cons, List.cons_append, List.nil_append,
        TransitionSystem.run, system, step, call, Option.bind_some, handshakes]

/-- Verified tokens are accepted when they are presented in time. -/
theorem gotTokens_verified (initial : AuthzClosure) {closure : AuthzClosure}
    {presented : Presented} {tokens : List JsString} {infos : List TokenInfo}
    (unended : closure.attempt.authzEnded = false) (fresh : closure.attempt.handshakes = [])
    (pending : closure.attempt.number ∈ closure.pendingAuthzDestroys)
    (found : presented.tokens = some tokens) (nonempty : tokens ≠ [])
    (verifies : Verifies runtime closure.attempt.config tokens infos) :
    ∃ last, (system runtime initial).run closure
        (.gotTokens none presented :: verifications infos) = some last ∧
      .cb2 none infos tokens ∈ last.attempt.calls := by
  have some : tokens.length ≠ 0 := fun none => nonempty (List.length_eq_zero_iff.mp none)
  have few : ¬(closure.attempt.config.maxTokens ≠ 0 ∧
      tokens.length > closure.attempt.config.maxTokens) :=
    fun many => Nat.not_lt.mpr (verifies.maxTokens many.1) many.2
  obtain ⟨last, ran, accepted⟩ := @nextToken_verified runtime initial tokens infos []
    { closure with
      attempt := { closure.attempt with
        authzEnded := true
        tokens := tokens
        calls := closure.attempt.calls ++ [.gotTokens none presented] } }
    verifies fresh rfl pending
  refine ⟨last, ?_, accepted⟩
  rw [← ran]
  simp only [TransitionSystem.run, system, step, Option.bind_some, gotTokens, call, unended, found,
    some, few, Bool.false_eq_true, if_false]

end AuthzClosure

namespace Authorization

variable {runtime : Runtime} {authorization : Authorization} {number : Nat} {attempt : Attempt}

/-- A run of one attempt is a run of the whole. -/
theorem run_attempt (initial : AuthzClosure) {events : List AttemptEvent} {last : AuthzClosure}
    (here : authorization.attempts[number]? = some attempt)
    (ran : (AuthzClosure.system runtime initial).run
      ⟨authorization.pendingAuthzDestroys, attempt⟩ events = some last) :
    ∃ after, (system runtime).run authorization (events.map (.attempt number)) = some after ∧
      after.attempts[number]? = some last.attempt := by
  induction events generalizing authorization attempt with
  | nil =>
      obtain rfl := Option.some.inj ran
      exact ⟨authorization, rfl, here⟩
  | cons event rest ih =>
      obtain ⟨middle, stepped, later⟩ := Option.bind_eq_some_iff.mp ran
      have bound := (List.getElem?_eq_some_iff.mp here).1
      obtain ⟨after, further, there⟩ := @ih (authorization.put number middle) middle.attempt
        (List.getElem?_set_self bound) later
      refine ⟨after, Option.bind_eq_some_iff.mpr ⟨_, ?_, further⟩, there⟩
      change AuthzClosure.step runtime _ event = some middle at stepped
      change Authorization.step runtime authorization (.attempt number event) = _
      simp only [step, here, stepped, Option.bind_eq_bind, Option.bind_some, put]

/-- From every reached state, an attempt that is not over accepts verified tokens. -/
theorem verified_accepted (reached : (system runtime).Reachable authorization)
    (here : authorization.attempts[number]? = some attempt) (unended : attempt.authzEnded = false)
    (pending : number ∈ authorization.pendingAuthzDestroys) {presented : Presented}
    {tokens : List JsString} (found : presented.tokens = some tokens) (nonempty : tokens ≠ [])
    {infos : List TokenInfo} (verifies : Verifies runtime attempt.config tokens infos) :
    ∃ after last, (system runtime).run authorization
        ((.gotTokens none presented :: verifications infos).map (.attempt number)) = some after ∧
      after.attempts[number]? = some last ∧ .cb2 none infos tokens ∈ last.calls := by
  obtain ⟨numbered, each⟩ := sound_of_reachable reached
  have own := numbered.number number attempt here
  have fresh : attempt.handshakes = [] := by
    cases each number attempt here with
    | reading _ _ _ none => exact none
    | authorizing ended => rw [unended] at ended; cases ended
    | refused _ ended => rw [unended] at ended; cases ended
    | verified _ ended => rw [unended] at ended; cases ended
    | finished ended => rw [unended] at ended; cases ended
  obtain ⟨last, ran, accepted⟩ := @AuthzClosure.gotTokens_verified runtime
    ⟨authorization.pendingAuthzDestroys, attempt⟩ ⟨authorization.pendingAuthzDestroys, attempt⟩
    presented tokens infos unended fresh (own.symm ▸ pending) found nonempty verifies
  obtain ⟨after, ran, there⟩ := run_attempt _ here ran
  exact ⟨after, last.attempt, ran, there, accepted⟩

end Authorization
end Centro
