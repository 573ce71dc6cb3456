import Centro.Proof.Authorization.Lift
import Centro.Library.Trace

namespace Centro

open Library

namespace AuthzCall

def isAuthzEnd : AuthzCall → Bool
  | .authzEnd _ _ _ => true
  | _ => false

def isCb2 : AuthzCall → Bool
  | .cb2 _ _ _ => true
  | _ => false

def isDestroy : AuthzCall → Bool
  | .destroy _ => true
  | _ => false

end AuthzCall

section Report

variable {url pending : Bool} {err : Option AuthzError} {handshakes : List TokenInfo}
  {tokens : List JsString}

/-- A report emits one `authz_end`. -/
theorem countP_authzEnd_reportCalls :
    (reportCalls url pending err handshakes tokens).countP AuthzCall.isAuthzEnd = 1 := by
  unfold reportCalls
  cases err <;> cases url <;> cases pending <;> rfl

/-- A report calls `cb2` only while the attempt is pending. -/
theorem countP_cb2_reportCalls :
    (reportCalls url pending err handshakes tokens).countP AuthzCall.isCb2 =
      if pending then 1 else 0 := by
  unfold reportCalls
  cases err <;> cases url <;> cases pending <;> rfl

/-- A report destroys no stream. -/
theorem isDestroy_reportCalls :
    ∀ call ∈ reportCalls url pending err handshakes tokens, call.isDestroy = false := by
  unfold reportCalls
  cases err <;> cases url <;> cases pending <;> simp [AuthzCall.isDestroy]

/-- The callback gets what the report is about. -/
theorem cb2_mem_reportCalls {other : Option AuthzError} {infos : List TokenInfo}
    {presented : List JsString}
    (member : .cb2 other infos presented ∈ reportCalls url pending err handshakes tokens) :
    pending = true ∧ other = err ∧ infos = handshakes ∧ presented = tokens := by
  unfold reportCalls at member
  cases pending with
  | false => cases err <;> cases url <;> simp at member
  | true => cases err <;> cases url <;> simpa using member

end Report

/-- A transport accepts tokens only if all of this holds of them. -/
structure Admitted (runtime : Runtime) (config : Config) (calls : List AuthzCall)
    (handshakes : List TokenInfo) (tokens : List JsString) : Prop where
  presented : ∃ presented, .gotTokens none presented ∈ calls ∧ presented.tokens = some tokens
  nonempty : tokens ≠ []
  maxTokens : config.maxTokens ≠ 0 → tokens.length ≤ config.maxTokens
  maxTokenLength : ∀ token ∈ tokens, config.maxTokenLength ≠ 0 → token.length ≤ config.maxTokenLength
  length : handshakes.length = tokens.length
  verified : ∀ (index : Nat) (token : JsString), tokens[index]? = some token →
    ∃ info, handshakes[index]? = some info ∧
      .authorize index token config.allowedAlgs ∈ calls ∧ .authorized index (.ok info) ∈ calls
  schema : ∀ info ∈ handshakes,
    authzTokenSchema runtime.config ["iss", "access_control"] info.payload = true
  distinct : (handshakes.map TokenInfo.uri).Nodup
  privileged : config.privileged = true → handshakes.length = 1

namespace Admitted

variable {runtime : Runtime} {config : Config} {calls more : List AuthzCall}
  {handshakes : List TokenInfo} {tokens : List JsString}

/-- Later calls take nothing back. -/
theorem append (admitted : Admitted runtime config calls handshakes tokens) :
    Admitted runtime config (calls ++ more) handshakes tokens where
  presented := by
    obtain ⟨presented, member, same⟩ := admitted.presented
    exact ⟨presented, List.mem_append_left _ member, same⟩
  nonempty := admitted.nonempty
  maxTokens := admitted.maxTokens
  maxTokenLength := admitted.maxTokenLength
  length := admitted.length
  verified := by
    intro index token here
    obtain ⟨info, there, asked, answered⟩ := admitted.verified index token here
    exact ⟨info, there, List.mem_append_left _ asked, List.mem_append_left _ answered⟩
  schema := admitted.schema
  distinct := admitted.distinct
  privileged := admitted.privileged

end Admitted

/-- The tokens pass the last check only if each payload has the right form and no URI comes twice. -/
theorem checkHandshakes_eq_none {runtime : Runtime} {handshakes : List TokenInfo} {uris : List Uri}
    (passes : checkHandshakes runtime uris handshakes = none) :
    (∀ info ∈ handshakes,
      authzTokenSchema runtime.config ["iss", "access_control"] info.payload = true) ∧
    (handshakes.map TokenInfo.uri).Nodup ∧ ∀ info ∈ handshakes, info.uri ∉ uris := by
  induction handshakes generalizing uris with
  | nil => simp
  | cons hs rest ih =>
      unfold checkHandshakes at passes
      split at passes
      · cases passes
      · next valid =>
          split at passes
          · cases passes
          · next fresh =>
              obtain ⟨schema, distinct, apart⟩ := ih passes
              refine ⟨?_, ?_, ?_⟩
              · intro info member
                rcases List.mem_cons.mp member with rfl | inside
                · simpa using valid
                · exact schema info inside
              · rw [List.map_cons, List.nodup_cons]
                refine ⟨?_, distinct⟩
                intro again
                obtain ⟨info, inside, same⟩ := List.mem_map.mp again
                exact apart info inside (same ▸ List.mem_cons_self)
              · intro info member
                rcases List.mem_cons.mp member with rfl | inside
                · exact fresh
                · exact fun known => apart info inside (List.mem_cons_of_mem _ known)

/-- The attempt has reported nothing so far, and a pending attempt was not destroyed. -/
structure Quiet (pending : Bool) (calls : List AuthzCall) : Prop where
  unreported : ∀ call ∈ calls, call.isAuthzEnd = false ∧ call.isCb2 = false
  untouched : pending = true → ∀ call ∈ calls, call.isDestroy = false

/-- The attempt has reported its outcome, once and not after it was destroyed. -/
structure Settled (runtime : Runtime) (config : Config) (calls : List AuthzCall) : Prop where
  authzEnd : calls.countP AuthzCall.isAuthzEnd ≤ 1
  cb2 : calls.countP AuthzCall.isCb2 ≤ 1
  order : NeverAfter (fun call => call.isDestroy = true) (fun call => call.isCb2 = true) calls
  admitted : ∀ handshakes tokens, .cb2 none handshakes tokens ∈ calls →
    Admitted runtime config calls handshakes tokens

section History

variable {runtime : Runtime} {config : Config} {pending : Bool} {calls more : List AuthzCall}

/-- Calls that report nothing and destroy nothing keep an attempt quiet. -/
theorem Quiet.append (quiet : Quiet pending calls)
    (unreported : ∀ call ∈ more, call.isAuthzEnd = false ∧ call.isCb2 = false)
    (untouched : pending = true → ∀ call ∈ more, call.isDestroy = false) :
    Quiet pending (calls ++ more) where
  unreported := by
    intro call member
    rcases List.mem_append.mp member with old | new
    · exact quiet.unreported call old
    · exact unreported call new
  untouched := by
    intro waits call member
    rcases List.mem_append.mp member with old | new
    · exact quiet.untouched waits call old
    · exact untouched waits call new

theorem Quiet.forget (quiet : Quiet pending calls) : Quiet false calls :=
  ⟨quiet.unreported, fun waits => Bool.noConfusion waits⟩

/-- A quiet attempt has emitted no `authz_end`. -/
theorem Quiet.countP_authzEnd (quiet : Quiet pending calls) :
    calls.countP AuthzCall.isAuthzEnd = 0 := by
  apply List.countP_eq_zero.mpr
  intro call member
  simp [(quiet.unreported call member).1]

/-- A quiet attempt has not called `cb2`. -/
theorem Quiet.countP_cb2 (quiet : Quiet pending calls) : calls.countP AuthzCall.isCb2 = 0 := by
  apply List.countP_eq_zero.mpr
  intro call member
  simp [(quiet.unreported call member).2]

theorem Quiet.neverAfter (quiet : Quiet pending calls) :
    NeverAfter (fun call => call.isDestroy = true) (fun call => call.isCb2 = true) calls := by
  apply neverAfter_of_absent
  intro call member
  simp [(quiet.unreported call member).2]

/-- A quiet attempt has nothing to settle yet. -/
theorem Quiet.settled (quiet : Quiet pending calls) : Settled runtime config calls where
  authzEnd := by
    rw [quiet.countP_authzEnd]
    omega
  cb2 := by
    rw [quiet.countP_cb2]
    omega
  order := quiet.neverAfter
  admitted := by
    intro handshakes tokens member
    exact absurd (quiet.unreported _ member).2 (by simp [AuthzCall.isCb2])

/-- The report itself settles the attempt. -/
theorem Quiet.report (quiet : Quiet pending calls) (url : Bool) {err : Option AuthzError}
    {handshakes : List TokenInfo} {tokens : List JsString}
    (admitted : err = none → Admitted runtime config calls handshakes tokens) :
    Settled runtime config (calls ++ reportCalls url pending err handshakes tokens) where
  authzEnd := by
    rw [List.countP_append, quiet.countP_authzEnd, countP_authzEnd_reportCalls]
  cb2 := by
    rw [List.countP_append, quiet.countP_cb2, countP_cb2_reportCalls]
    split <;> omega
  order := by
    rw [neverAfter_append]
    refine ⟨quiet.neverAfter, ?_, ?_⟩
    · apply neverAfter_of_unmarked
      intro call member
      simp [isDestroy_reportCalls call member]
    · rintro ⟨earlier, member, destroyed⟩ later inside reported
      cases pending with
      | false =>
          have none : (reportCalls url false err handshakes tokens).countP AuthzCall.isCb2 = 0 :=
            countP_cb2_reportCalls
          exact List.countP_eq_zero.mp none later inside reported
      | true =>
          have kept := quiet.untouched rfl earlier member
          exact Bool.noConfusion (kept.symm.trans destroyed)
  admitted := by
    intro infos presented member
    rcases List.mem_append.mp member with old | new
    · exact absurd (quiet.unreported _ old).2 (by simp [AuthzCall.isCb2])
    · obtain ⟨_, accepted, rfl, rfl⟩ := cb2_mem_reportCalls new
      exact (admitted accepted.symm).append

/-- Calls that report nothing keep what was settled. -/
theorem Settled.append (settled : Settled runtime config calls)
    (unreported : ∀ call ∈ more, call.isAuthzEnd = false ∧ call.isCb2 = false) :
    Settled runtime config (calls ++ more) where
  authzEnd := by
    have none : more.countP AuthzCall.isAuthzEnd = 0 := by
      apply List.countP_eq_zero.mpr
      intro call member
      simp [(unreported call member).1]
    rw [List.countP_append, none]
    exact settled.authzEnd
  cb2 := by
    have none : more.countP AuthzCall.isCb2 = 0 := by
      apply List.countP_eq_zero.mpr
      intro call member
      simp [(unreported call member).2]
    rw [List.countP_append, none]
    exact settled.cb2
  order := by
    rw [neverAfter_append]
    have absent : ∀ call ∈ more, ¬call.isCb2 = true := by
      intro call member
      simp [(unreported call member).2]
    exact ⟨settled.order, neverAfter_of_absent absent, fun _ => absent⟩
  admitted := by
    intro handshakes tokens member
    rcases List.mem_append.mp member with old | new
    · exact (settled.admitted handshakes tokens old).append
    · exact absurd (unreported _ new).2 (by simp [AuthzCall.isCb2])

/-- The authorizer was asked about the token at the index, which is not too long. -/
def Asked (config : Config) (tokens : List JsString) (calls : List AuthzCall) (index : Nat) : Prop :=
  ∃ token, tokens[index]? = some token ∧
    (config.maxTokenLength ≠ 0 → token.length ≤ config.maxTokenLength) ∧
    .authorize index token config.allowedAlgs ∈ calls

/-- The list of tokens has the right length, and the authorizer verified the first ones. -/
structure Listed (config : Config) (tokens : List JsString) (handshakes : List TokenInfo)
    (calls : List AuthzCall) : Prop where
  presented : ∃ presented, .gotTokens none presented ∈ calls ∧ presented.tokens = some tokens
  nonempty : tokens ≠ []
  maxTokens : config.maxTokens ≠ 0 → tokens.length ≤ config.maxTokens
  accepted : ∀ (index : Nat) (info : TokenInfo), handshakes[index]? = some info →
    Asked config tokens calls index ∧ .authorized index (.ok info) ∈ calls

variable {tokens : List JsString} {handshakes : List TokenInfo}

/-- More calls leave what was asked before. -/
theorem Asked.append {index : Nat} (asked : Asked config tokens calls index) :
    Asked config tokens (calls ++ more) index := by
  obtain ⟨token, here, short, member⟩ := asked
  exact ⟨token, here, short, List.mem_append_left _ member⟩

/-- More calls leave the answers that are listed. -/
theorem Listed.append (listed : Listed config tokens handshakes calls) :
    Listed config tokens handshakes (calls ++ more) where
  presented := by
    obtain ⟨presented, member, same⟩ := listed.presented
    exact ⟨presented, List.mem_append_left _ member, same⟩
  nonempty := listed.nonempty
  maxTokens := listed.maxTokens
  accepted := by
    intro index info here
    obtain ⟨asked, member⟩ := listed.accepted index info here
    exact ⟨asked.append, List.mem_append_left _ member⟩

/-- The next verified token goes to the end of the list. -/
theorem Listed.accept (listed : Listed config tokens handshakes calls) {info : TokenInfo}
    (asked : Asked config tokens calls handshakes.length)
    (answered : .authorized handshakes.length (.ok info) ∈ calls) :
    Listed config tokens (handshakes ++ [info]) calls where
  presented := listed.presented
  nonempty := listed.nonempty
  maxTokens := listed.maxTokens
  accepted := by
    intro index other here
    rw [List.getElem?_append] at here
    split at here
    · exact listed.accepted index other here
    · obtain ⟨inside, rfl⟩ := List.getElem?_eq_some_iff.mp here
      have last : index = handshakes.length := by
        have : index - handshakes.length = 0 := by simpa using inside
        omega
      subst last
      simpa using And.intro asked answered

/-- All tokens were verified when no token is left. -/
theorem Listed.admitted (listed : Listed config tokens handshakes calls)
    (finished : tokens[handshakes.length]? = none)
    (allowed : config.privileged = true → ¬handshakes.length > 1)
    (checked : checkHandshakes runtime [] handshakes = none) :
    Admitted runtime config calls handshakes tokens := by
  have enough : tokens.length ≤ handshakes.length := List.getElem?_eq_none_iff.mp finished
  have within : handshakes.length ≤ tokens.length := by
    by_contra more
    have inside : tokens.length < handshakes.length := by omega
    obtain ⟨⟨token, here, _⟩, _⟩ :=
      listed.accepted tokens.length handshakes[tokens.length] (List.getElem?_eq_getElem inside)
    simp at here
  have same : handshakes.length = tokens.length := by omega
  have reach : ∀ (index : Nat) (token : JsString), tokens[index]? = some token →
      ∃ info, handshakes[index]? = some info ∧ Asked config tokens calls index ∧
        .authorized index (.ok info) ∈ calls := by
    intro index token here
    have inside : index < handshakes.length := by
      have := (List.getElem?_eq_some_iff.mp here).1
      omega
    have there := List.getElem?_eq_getElem inside
    obtain ⟨asked, answered⟩ := listed.accepted index _ there
    exact ⟨_, there, asked, answered⟩
  obtain ⟨schema, distinct, _⟩ := checkHandshakes_eq_none checked
  exact {
    presented := listed.presented
    nonempty := listed.nonempty
    maxTokens := listed.maxTokens
    maxTokenLength := by
      intro token member
      obtain ⟨index, inside, rfl⟩ := List.getElem_of_mem member
      obtain ⟨_, _, ⟨token, here, short, _⟩, _⟩ := reach index _ (List.getElem?_eq_getElem inside)
      have equal := Option.some.inj ((List.getElem?_eq_getElem inside).symm.trans here)
      rw [equal]
      exact short
    length := same
    verified := by
      intro index token here
      obtain ⟨info, there, ⟨other, again, _, asked⟩, answered⟩ := reach index token here
      obtain rfl := Option.some.inj (here.symm.trans again)
      exact ⟨info, there, asked, answered⟩
    schema := schema
    distinct := distinct
    privileged := by
      intro privileged
      have few := allowed privileged
      have some : tokens.length ≠ 0 := fun empty => listed.nonempty (List.length_eq_zero_iff.mp empty)
      omega }

end History

/-- An attempt is in one of these phases. -/
inductive Attempt.Sound (runtime : Runtime) (pending : Bool) (attempt : Attempt) : Prop where
  | reading (ended : attempt.authzEnded = false) (idle : attempt.verification = .idle)
      (quiet : Quiet pending attempt.calls) (none : attempt.handshakes = [])
  | authorizing (ended : attempt.authzEnded = true) (waits : attempt.verification = .authorizing)
      (quiet : Quiet pending attempt.calls)
      (listed : Listed attempt.config attempt.tokens attempt.handshakes attempt.calls)
      (asked : Asked attempt.config attempt.tokens attempt.calls attempt.handshakes.length)
  | refused (err : ErrorValue) (ended : attempt.authzEnded = true)
      (refusal : attempt.verification = .calledBack (.error err)) (quiet : Quiet pending attempt.calls)
  | verified (info : TokenInfo) (ended : attempt.authzEnded = true)
      (answer : attempt.verification = .calledBack (.ok info)) (quiet : Quiet pending attempt.calls)
      (listed : Listed attempt.config attempt.tokens attempt.handshakes attempt.calls)
      (asked : Asked attempt.config attempt.tokens attempt.calls attempt.handshakes.length)
      (answered : .authorized attempt.handshakes.length (.ok info) ∈ attempt.calls)
  | finished (ended : attempt.authzEnded = true) (done : attempt.verification = .finished)
      (settled : Settled runtime attempt.config attempt.calls)

namespace AuthzClosure

variable {runtime : Runtime} {closure next : AuthzClosure}

/-- An attempt that fails has reported nothing before. -/
theorem fail_sound (ended : closure.attempt.authzEnded = true)
    (quiet : Quiet closure.pending closure.attempt.calls) (err : ErrorValue) :
    (closure.fail runtime err).attempt.Sound runtime (closure.fail runtime err).pending := by
  rw [fail_attempt]
  refine Attempt.Sound.finished ?_ rfl ?_
  · exact ended
  · apply Quiet.report
    · exact quiet.append (by simp [AuthzCall.isAuthzEnd, AuthzCall.isCb2])
        (by simp [AuthzCall.isDestroy])
    · exact fun none => by cases none

/-- The end of the loop reports what was verified. -/
theorem finish_sound (ended : closure.attempt.authzEnded = true)
    (quiet : Quiet closure.pending closure.attempt.calls)
    (listed : Listed closure.attempt.config closure.attempt.tokens closure.attempt.handshakes
      closure.attempt.calls)
    (last : closure.attempt.tokens[closure.attempt.handshakes.length]? = none) :
    (closure.finish runtime).attempt.Sound runtime (closure.finish runtime).pending := by
  unfold finish
  dsimp only
  split
  · exact fail_sound ended quiet _
  · next allowed =>
      split
      · exact fail_sound ended quiet _
      · next checked =>
          rw [cb_attempt]
          refine Attempt.Sound.finished ?_ rfl ?_
          · exact ended
          · apply Quiet.report
            · exact quiet
            · intro _
              exact listed.admitted last (by simpa using allowed) checked

/-- The loop asks for the next token or comes to its end. -/
theorem nextToken_sound (ended : closure.attempt.authzEnded = true)
    (quiet : Quiet closure.pending closure.attempt.calls)
    (listed : Listed closure.attempt.config closure.attempt.tokens closure.attempt.handshakes
      closure.attempt.calls) :
    (closure.nextToken runtime).attempt.Sound runtime (closure.nextToken runtime).pending := by
  unfold nextToken
  dsimp only
  split
  · next last => exact finish_sound ended quiet listed last
  · next token here =>
      split
      · exact Attempt.Sound.refused (.error (text "token too long")) ended rfl quiet
      · next short =>
          have bound : closure.attempt.config.maxTokenLength ≠ 0 →
              token.length ≤ closure.attempt.config.maxTokenLength := by
            intro limited
            by_contra long
            exact short ⟨limited, by omega⟩
          refine Attempt.Sound.authorizing ?_ rfl ?_ ?_ ?_
          · exact ended
          · exact quiet.append (by simp [AuthzCall.isAuthzEnd, AuthzCall.isCb2])
              (by simp [AuthzCall.isDestroy])
          · exact listed.append
          · exact ⟨token, here, bound, by simp [call]⟩

/-- Calls that report nothing and destroy nothing keep the phase. -/
theorem call_sound (ended : closure.attempt.authzEnded = true)
    (sound : closure.attempt.Sound runtime closure.pending) {made : AuthzCall}
    (unreported : made.isAuthzEnd = false ∧ made.isCb2 = false) (mild : made.isDestroy = false) :
    (closure.call made).attempt.Sound runtime (closure.call made).pending := by
  have unreported : ∀ call ∈ [made], call.isAuthzEnd = false ∧ call.isCb2 = false := by
    simpa using unreported
  have mild : ∀ call ∈ [made], call.isDestroy = false := by simpa using mild
  cases sound with
  | reading unended => exact Bool.noConfusion (unended.symm.trans ended)
  | authorizing _ waits quiet listed asked =>
      exact .authorizing ended waits (quiet.append unreported fun _ => mild) listed.append asked.append
  | refused err _ refusal quiet =>
      exact .refused err ended refusal (quiet.append unreported fun _ => mild)
  | verified info _ answer quiet listed asked answered =>
      exact .verified info ended answer (quiet.append unreported fun _ => mild) listed.append
        asked.append (List.mem_append_left _ answered)
  | finished _ done settled => exact .finished ended done (settled.append unreported)

/-- Whoever starts `got_tokens`, only the first call counts. -/
theorem gotTokens_sound (sound : closure.attempt.Sound runtime closure.pending)
    (err : Option ErrorValue) (presented : Presented) :
    (closure.gotTokens runtime err presented).attempt.Sound runtime
      (closure.gotTokens runtime err presented).pending := by
  unfold gotTokens
  dsimp only
  split
  · next ended =>
      apply call_sound
      · exact ended
      · exact sound
      · exact ⟨rfl, rfl⟩
      · rfl
  · next unended =>
      have first : Quiet closure.pending closure.attempt.calls ∧ closure.attempt.handshakes = [] := by
        cases sound with
        | reading _ _ quiet none => exact ⟨quiet, none⟩
        | authorizing ended => exact absurd ended unended
        | refused _ ended => exact absurd ended unended
        | verified _ ended => exact absurd ended unended
        | finished ended => exact absurd ended unended
      let started : AuthzClosure :=
        { closure.call (.gotTokens err presented) with attempt.authzEnded := true }
      have quiet : Quiet started.pending started.attempt.calls :=
        first.1.append (by simp [AuthzCall.isAuthzEnd, AuthzCall.isCb2])
          (by simp [AuthzCall.isDestroy])
      have failed : ∀ err, (started.fail runtime err).attempt.Sound runtime
          (started.fail runtime err).pending := fun err => fail_sound rfl quiet err
      split
      · exact failed _
      · split
        · exact failed _
        · next tokens given =>
            split
            · exact failed _
            · next some =>
                split
                · exact failed _
                · next few =>
                    have listed : Listed closure.attempt.config tokens closure.attempt.handshakes
                        (closure.attempt.calls ++ [.gotTokens none presented]) := {
                      presented := ⟨presented, by simp, given⟩
                      nonempty := fun empty => some (congrArg List.length empty)
                      maxTokens := by
                        intro limited
                        by_contra many
                        exact few ⟨limited, Nat.lt_of_not_le many⟩
                      accepted := by
                        intro index info here
                        rw [first.2] at here
                        simp at here }
                    apply nextToken_sound
                    · rfl
                    · exact quiet
                    · exact listed

/-- A cancellation reports its error at most once. -/
theorem cancel_sound (sound : closure.attempt.Sound runtime closure.pending)
    (err : Option ErrorValue) :
    (closure.cancel runtime err).attempt.Sound runtime (closure.cancel runtime err).pending := by
  apply gotTokens_sound
  cases ended : closure.attempt.authzEnded with
  | true => exact call_sound ended sound ⟨rfl, rfl⟩ rfl
  | false =>
      cases sound with
      | reading _ idle quiet none =>
          exact .reading ended idle (quiet.append (by simp [AuthzCall.isAuthzEnd, AuthzCall.isCb2])
            (by simp [AuthzCall.isDestroy])) none
      | authorizing started => exact Bool.noConfusion (ended.symm.trans started)
      | refused _ started => exact Bool.noConfusion (ended.symm.trans started)
      | verified _ started => exact Bool.noConfusion (ended.symm.trans started)
      | finished started => exact Bool.noConfusion (ended.symm.trans started)

/-- The answer of the authorizer is only noted. -/
theorem authorized_sound (sound : closure.attempt.Sound runtime closure.pending)
    (waits : closure.attempt.verification = .authorizing) (result : Except ErrorValue TokenInfo) :
    (AuthzClosure.call { closure with attempt.verification := .calledBack result }
      (.authorized closure.attempt.handshakes.length result)).attempt.Sound runtime
        closure.pending := by
  cases sound with
  | reading _ idle => simp [waits] at idle
  | refused _ _ refusal => simp [waits] at refusal
  | verified _ _ answer => simp [waits] at answer
  | finished _ done => simp [waits] at done
  | authorizing ended _ quiet listed asked =>
      have later : Quiet closure.pending (closure.attempt.calls ++
          [.authorized closure.attempt.handshakes.length result]) :=
        quiet.append (by simp [AuthzCall.isAuthzEnd, AuthzCall.isCb2]) (by simp [AuthzCall.isDestroy])
      cases result with
      | error err => exact .refused err ended rfl later
      | ok info =>
          exact .verified info ended rfl later listed.append asked.append
            (List.mem_append_right _ (List.mem_singleton.mpr rfl))

/-- A refused token ends the attempt with its error. -/
theorem refused_sound (sound : closure.attempt.Sound runtime closure.pending) {err : ErrorValue}
    (refusal : closure.attempt.verification = .calledBack (.error err)) :
    (closure.fail runtime err).attempt.Sound runtime (closure.fail runtime err).pending := by
  cases sound with
  | reading _ idle => simp [refusal] at idle
  | authorizing _ waits => simp [refusal] at waits
  | verified _ _ answer => simp [refusal] at answer
  | finished _ done => simp [refusal] at done
  | refused _ ended _ quiet => exact fail_sound ended quiet err

/-- A verified token joins the list before the loop goes on. -/
theorem verified_sound (sound : closure.attempt.Sound runtime closure.pending) {info : TokenInfo}
    (answer : closure.attempt.verification = .calledBack (.ok info)) :
    let next := nextToken runtime { closure with
      attempt.handshakes := closure.attempt.handshakes ++ [info] }
    next.attempt.Sound runtime next.pending := by
  cases sound with
  | reading _ idle => simp [answer] at idle
  | authorizing _ waits => simp [answer] at waits
  | refused _ _ refusal => simp [answer] at refusal
  | finished _ done => simp [answer] at done
  | verified other ended same quiet listed asked answered =>
      obtain rfl : other = info := by simpa [answer] using same.symm
      have extended := listed.accept asked answered
      apply nextToken_sound
      · exact ended
      · exact quiet
      · exact extended

/-- Each event takes an attempt from one phase to another. -/
theorem step_sound (sound : closure.attempt.Sound runtime closure.pending) {event : AttemptEvent}
    (stepped : closure.step runtime event = some next) :
    next.attempt.Sound runtime next.pending := by
  cases event with
  | cancel err =>
      obtain rfl := Option.some.inj stepped
      exact cancel_sound sound err
  | gotTokens err presented =>
      obtain rfl := Option.some.inj stepped
      exact gotTokens_sound sound err presented
  | authorized result =>
      simp only [step] at stepped
      split at stepped
      · next waits =>
          obtain rfl := Option.some.inj stepped
          exact authorized_sound sound waits result
      · cases stepped
  | resume =>
      simp only [step] at stepped
      split at stepped
      · next refusal =>
          obtain rfl := Option.some.inj stepped
          exact refused_sound sound refusal
      · next answer =>
          obtain rfl := Option.some.inj stepped
          exact verified_sound sound answer
      · cases stepped

end AuthzClosure

/-- The shutdown destroys a pending attempt, which is not pending any more. -/
theorem Attempt.Sound.destroyed {runtime : Runtime} {attempt : Attempt}
    (sound : attempt.Sound runtime true) :
    (Authorization.destroyed attempt).Sound runtime false := by
  have unreported : ∀ call ∈ [AuthzCall.destroy true] ++
      (attempt.throws.map AuthzCall.warning).toList, call.isAuthzEnd = false ∧ call.isCb2 = false := by
    cases attempt.throws <;> simp [AuthzCall.isAuthzEnd, AuthzCall.isCb2]
  have later : ∀ {pending : Bool}, Quiet pending attempt.calls →
      Quiet false (attempt.calls ++ ([AuthzCall.destroy true] ++
        (attempt.throws.map AuthzCall.warning).toList)) :=
    fun quiet => quiet.forget.append unreported fun waits => Bool.noConfusion waits
  rw [Authorization.destroyed, List.append_assoc]
  cases sound with
  | reading ended idle quiet none => exact .reading ended idle (later quiet) none
  | authorizing ended waits quiet listed asked =>
      exact .authorizing ended waits (later quiet) listed.append asked.append
  | refused err ended refusal quiet => exact .refused err ended refusal (later quiet)
  | verified info ended answer quiet listed asked answered =>
      exact .verified info ended answer (later quiet) listed.append asked.append
        (List.mem_append_left _ answered)
  | finished ended done settled => exact .finished ended done (settled.append unreported)

/-- Whatever an attempt is doing, its reports are settled. -/
theorem Attempt.Sound.settled {runtime : Runtime} {attempt : Attempt} {pending : Bool}
    (sound : attempt.Sound runtime pending) : Settled runtime attempt.config attempt.calls := by
  cases sound with
  | reading _ _ quiet => exact quiet.settled
  | authorizing _ _ quiet => exact quiet.settled
  | refused _ _ _ quiet => exact quiet.settled
  | verified _ _ _ quiet => exact quiet.settled
  | finished _ _ settled => exact settled

/-- Every attempt is in one of the phases. -/
theorem sound_of_reachable {runtime : Runtime} {authorization : Authorization}
    (reached : (Authorization.system runtime).Reachable authorization) :
    authorization.Numbered ∧
      authorization.Each fun pending attempt => attempt.Sound runtime pending := by
  have start : ∀ number config url throws, Attempt.Sound runtime true
      { number, config, url, throws, calls := [.authzStart] } := by
    intro number config url throws
    refine Attempt.Sound.reading rfl rfl ⟨?_, ?_⟩ rfl
    · simp [AuthzCall.isAuthzEnd, AuthzCall.isCb2]
    · simp [AuthzCall.isDestroy]
  exact Authorization.attempt_invariant
    (fun pending attempt => attempt.Sound runtime pending) (fun _ _ => True) start
    (fun _ _ _ sound _ stepped => AuthzClosure.step_sound sound stepped)
    (fun _ sound => sound.destroyed) (fun _ _ _ _ _ _ => trivial) reached

/-- Every attempt reports at most once, never after its destruction, and accepts only tokens that
pass every check. -/
theorem authorization_sound {runtime : Runtime} {authorization : Authorization}
    (reached : (Authorization.system runtime).Reachable authorization) {number : Nat}
    {attempt : Attempt} (here : authorization.attempts[number]? = some attempt) :
    attempt.calls.countP AuthzCall.isAuthzEnd ≤ 1 ∧ attempt.calls.countP AuthzCall.isCb2 ≤ 1 ∧
      NeverAfter (fun call => call.isDestroy = true) (fun call => call.isCb2 = true) attempt.calls ∧
      ∀ handshakes tokens, .cb2 none handshakes tokens ∈ attempt.calls →
        Admitted runtime attempt.config attempt.calls handshakes tokens := by
  have settled := ((sound_of_reachable reached).2 number attempt here).settled
  exact ⟨settled.authzEnd, settled.cb2, settled.order, settled.admitted⟩

/-- This token of the issuer `foo` allows nothing. -/
def sampleInfo : TokenInfo where
  payload := .object
    [(text "iss", .string (text "foo")),
     (text "access_control", .object
      [(text "publish", .object [(text "allow", .array []), (text "disallow", .array [])]),
       (text "subscribe", .object [(text "allow", .array []), (text "disallow", .array [])])])]
  uri := text "mailto:foo@example.com"
  rev := some (text "1")

/-- A stream presents one token, and the authorizer verifies it. -/
def sampleAuthorization : List Authorization.Event :=
  [.transportAuthorize { allowedAlgs := [text "PS256"] } false none,
   .attempt 0 (.gotTokens none (.joined (text "token"))),
   .attempt 0 (.authorized (.ok sampleInfo)),
   .attempt 0 .resume]

theorem authorization_sound_sample : ∃ authorization attempt,
    (Authorization.system sampleRuntime).run {} sampleAuthorization = some authorization ∧
    authorization.attempts[0]? = some attempt ∧ attempt.calls.countP AuthzCall.isCb2 = 1 ∧
    (attempt.calls.countP AuthzCall.isAuthzEnd ≤ 1 ∧ attempt.calls.countP AuthzCall.isCb2 ≤ 1 ∧
      NeverAfter (fun call => call.isDestroy = true) (fun call => call.isCb2 = true) attempt.calls ∧
      ∀ handshakes tokens, .cb2 none handshakes tokens ∈ attempt.calls →
        Admitted sampleRuntime attempt.config attempt.calls handshakes tokens) := by
  have accepted : (((Authorization.system sampleRuntime).run {} sampleAuthorization).bind
      fun authorization => authorization.attempts[0]?).map
        (fun attempt => attempt.calls.countP AuthzCall.isCb2) = some 1 := by decide
  obtain ⟨attempt, found, one⟩ := Option.map_eq_some_iff.mp accepted
  obtain ⟨authorization, ran, here⟩ := Option.bind_eq_some_iff.mp found
  exact ⟨authorization, attempt, ran, here, one,
    authorization_sound (TransitionSystem.reachable_of_run ran) here⟩

end Centro
