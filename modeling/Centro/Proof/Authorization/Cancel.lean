import Centro.Proof.Authorization.Attempt

namespace Centro

open Library

namespace AuthzCall

def isCancel : AuthzCall → Bool
  | .cancel _ => true
  | _ => false

end AuthzCall

/-- A cancellation before the end of the authorization ends it with an error, and the transport
never gets handshakes. -/
def CancelEffective (calls : List AuthzCall) : Prop :=
  ∀ before err after, calls = before ++ .cancel err :: after →
    (∀ call ∈ before, call.isAuthzEnd = false) →
    (∃ error, .authzEnd (some error) [] [] ∈ after) ∧
      ∀ handshakes tokens, .cb2 none handshakes tokens ∉ calls

/-- The listeners do not cancel while the authorizer verifies the tokens. -/
def TimelyCancel (attempt : Attempt) : AttemptEvent → Prop
  | .cancel _ => attempt.verification = .idle ∨ attempt.verification = .finished
  | _ => True

/-- Under that condition no attempt is cancelled before it reports, except by the cancellation that
makes it report. -/
inductive Attempt.Cancellable (attempt : Attempt) : Prop where
  | unreported (busy : attempt.verification ≠ .finished)
      (begun : attempt.authzEnded = true ↔ attempt.verification ≠ .idle)
      (clean : ∀ call ∈ attempt.calls, call.isCancel = false ∧ call.isAuthzEnd = false ∧ call.isCb2 = false)
  | reported (ended : attempt.authzEnded = true) (done : attempt.verification = .finished)
      (said : ∃ call ∈ attempt.calls, call.isAuthzEnd = true)
      (effective : CancelEffective attempt.calls)

section History

variable {calls more : List AuthzCall}

/-- Calls without a cancellation leave nothing to take effect. -/
theorem cancelEffective_of_uncancelled (clean : ∀ call ∈ calls, call.isCancel = false) :
    CancelEffective calls := by
  intro before err after cut
  have cancelled := clean (.cancel err) (by simp [cut])
  exact Bool.noConfusion cancelled

/-- A single cancellation is effective when an error is reported behind it. -/
theorem cancelEffective_of_only {front back : List AuthzCall} {cancelled : Option ErrorValue}
    {error : AuthzError} (frontClean : ∀ call ∈ front, call.isCancel = false ∧ call.isCb2 = false)
    (backClean : ∀ call ∈ back, call.isCancel = false)
    (refused : ∀ handshakes tokens, .cb2 none handshakes tokens ∉ back)
    (ends : .authzEnd (some error) [] [] ∈ back) :
    CancelEffective (front ++ .cancel cancelled :: back) := by
  intro before err after cut _
  have marked : ∀ {calls : List AuthzCall}, (∀ call ∈ calls, call.isCancel = false) →
      ∀ call ∈ calls, ¬call.isCancel = true := by
    intro calls clean call member
    simp [clean call member]
  obtain ⟨_, rfl⟩ := cut_unique (marked fun call member => (frontClean call member).1)
    (marked backClean) cut rfl
  refine ⟨⟨error, ends⟩, ?_⟩
  intro handshakes tokens member
  rcases List.mem_append.mp member with old | new
  · exact Bool.noConfusion (frontClean _ old).2
  · rcases List.mem_cons.mp new with head | tail
    · cases head
    · exact refused handshakes tokens tail

/-- After a report more calls change nothing, unless they hand over handshakes. -/
theorem CancelEffective.append (effective : CancelEffective calls)
    (said : ∃ call ∈ calls, call.isAuthzEnd = true) (calm : ∀ call ∈ more, call.isCb2 = false) :
    CancelEffective (calls ++ more) := by
  intro before err after cut unsaid
  have inside : ∃ rest, calls = before ++ .cancel err :: rest ∧ after = rest ++ more := by
    rcases List.append_eq_append_iff.mp cut with ⟨middle, split, _⟩ | ⟨middle, split, rest⟩
    · obtain ⟨call, member, ends⟩ := said
      have silent := unsaid call (split ▸ List.mem_append_left _ member)
      exact Bool.noConfusion (silent.symm.trans ends)
    · cases middle with
      | nil =>
          obtain ⟨call, member, ends⟩ := said
          rw [List.append_nil] at split
          have silent := unsaid call (split ▸ member)
          exact Bool.noConfusion (silent.symm.trans ends)
      | cons head tail =>
          rw [List.cons_append, List.cons.injEq] at rest
          exact ⟨tail, by rw [split, rest.1], rest.2⟩
  obtain ⟨rest, split, same⟩ := inside
  obtain ⟨⟨error, ends⟩, never⟩ := effective before err rest split unsaid
  refine ⟨⟨error, ?_⟩, ?_⟩
  · rw [same]
    exact List.mem_append_left _ ends
  · intro handshakes tokens member
    rcases List.mem_append.mp member with old | new
    · exact never handshakes tokens old
    · exact Bool.noConfusion (calm _ new)

end History

/-- A report emits this `authz_end`. -/
theorem authzEnd_mem_reportCalls (url pending : Bool) (err : Option AuthzError)
    (handshakes : List TokenInfo) (tokens : List JsString) :
    .authzEnd err handshakes tokens ∈ reportCalls url pending err handshakes tokens := by
  simp [reportCalls]

/-- A report cancels nothing. -/
theorem isCancel_reportCalls (url pending : Bool) (err : Option AuthzError)
    (handshakes : List TokenInfo) (tokens : List JsString) :
    ∀ call ∈ reportCalls url pending err handshakes tokens, call.isCancel = false := by
  unfold reportCalls
  cases err <;> cases url <;> cases pending <;> simp [AuthzCall.isCancel]

namespace AuthzClosure

variable {runtime : Runtime} {closure next : AuthzClosure}

/-- A report without a cancellation before it meets the condition. -/
theorem report_cancellable (ended : closure.attempt.authzEnded = true)
    (done : closure.attempt.verification = .finished)
    (clean : ∀ call ∈ closure.attempt.calls, call.isCancel = false) (err : Option AuthzError)
    (handshakes : List TokenInfo) (tokens : List JsString) :
    (closure.cb err handshakes tokens).attempt.Cancellable := by
  rw [cb_attempt]
  refine Attempt.Cancellable.reported ?_ ?_ ?_ ?_
  · exact ended
  · exact done
  · exact ⟨.authzEnd err handshakes tokens,
      List.mem_append_right _ (authzEnd_mem_reportCalls _ _ _ _ _), rfl⟩
  · apply cancelEffective_of_uncancelled
    intro call member
    rcases List.mem_append.mp member with old | new
    · exact clean call old
    · exact isCancel_reportCalls _ _ _ _ _ call new

/-- An attempt that fails before any cancellation can be cancelled no more. -/
theorem fail_cancellable (ended : closure.attempt.authzEnded = true)
    (clean : ∀ call ∈ closure.attempt.calls, call.isCancel = false) (err : ErrorValue) :
    (closure.fail runtime err).attempt.Cancellable := by
  unfold fail
  apply report_cancellable
  · exact ended
  · rfl
  · intro call member
    rcases List.mem_append.mp member with old | new
    · exact clean call old
    · rw [List.mem_singleton.mp new]
      rfl

/-- The loop takes no cancellation of its own. -/
theorem nextToken_cancellable (ended : closure.attempt.authzEnded = true)
    (clean : ∀ call ∈ closure.attempt.calls, call.isCancel = false ∧ call.isAuthzEnd = false ∧ call.isCb2 = false) :
    (closure.nextToken runtime).attempt.Cancellable := by
  have uncancelled : ∀ call ∈ closure.attempt.calls, call.isCancel = false :=
    fun call member => (clean call member).1
  unfold nextToken finish
  dsimp only
  split
  · split
    · exact fail_cancellable ended uncancelled _
    · split
      · exact fail_cancellable ended uncancelled _
      · apply report_cancellable
        · exact ended
        · rfl
        · exact uncancelled
  · split
    · refine Attempt.Cancellable.unreported ?_ ?_ ?_
      · simp
      · simp [ended]
      · exact clean
    · refine Attempt.Cancellable.unreported ?_ ?_ ?_
      · simp [call]
      · simp [call, ended]
      · intro made member
        rcases List.mem_append.mp member with old | new
        · exact clean made old
        · rw [List.mem_singleton.mp new]
          exact ⟨rfl, rfl, rfl⟩

/-- Only the first call of `got_tokens` counts. -/
theorem gotTokens_cancellable (holds : closure.attempt.Cancellable) (err : Option ErrorValue)
    (presented : Presented) : (closure.gotTokens runtime err presented).attempt.Cancellable := by
  have more : ∀ made ∈ closure.attempt.calls ++ [AuthzCall.gotTokens err presented],
      made ∈ closure.attempt.calls ∨ (made.isCancel = false ∧ made.isAuthzEnd = false ∧ made.isCb2 = false) := by
    intro made member
    rcases List.mem_append.mp member with old | new
    · exact Or.inl old
    · rw [List.mem_singleton.mp new]
      exact Or.inr ⟨rfl, rfl, rfl⟩
  unfold gotTokens
  dsimp only
  split
  · cases holds with
    | unreported busy begun clean =>
        exact .unreported busy begun fun made member => (more made member).elim (clean made) id
    | reported ended done said effective =>
        refine .reported ended done ?_ (effective.append said (by simp [AuthzCall.isCb2]))
        obtain ⟨made, member, ends⟩ := said
        exact ⟨made, List.mem_append_left _ member, ends⟩
  · next unended =>
      cases holds with
      | reported ended => exact absurd ended unended
      | unreported busy begun clean =>
          have clean : ∀ made ∈ closure.attempt.calls ++ [AuthzCall.gotTokens err presented],
              made.isCancel = false ∧ made.isAuthzEnd = false ∧ made.isCb2 = false :=
            fun made member => (more made member).elim (clean made) id
          let started : AuthzClosure :=
            { closure.call (.gotTokens err presented) with attempt.authzEnded := true }
          have failed : ∀ err, (started.fail runtime err).attempt.Cancellable :=
            fun err => fail_cancellable rfl (fun made member => (clean made member).1) err
          split
          · exact failed _
          · split
            · exact failed _
            · split
              · exact failed _
              · split
                · exact failed _
                · apply nextToken_cancellable
                  · rfl
                  · exact clean

/-- An error that comes first is reported at once. -/
theorem gotTokens_error (unended : closure.attempt.authzEnded = false) (err : ErrorValue)
    (presented : Presented) : closure.gotTokens runtime (some err) presented =
      AuthzClosure.fail runtime
        { closure.call (.gotTokens (some err) presented) with attempt.authzEnded := true } err := by
  have same : (closure.call (.gotTokens (some err) presented)).attempt.authzEnded = false := unended
  unfold gotTokens
  dsimp only
  rw [if_neg]
  rw [same]
  exact Bool.false_ne_true

/-- A cancellation that comes first is reported at once. -/
theorem cancel_attempt (unended : closure.attempt.authzEnded = false) (err : Option ErrorValue) :
    let cancelled := err.getD (.error (text "cancelled"))
    (closure.cancel runtime err).attempt = { closure.attempt with
      authzEnded := true
      verification := .finished
      calls := closure.attempt.calls ++ .cancel err ::
        ([.gotTokens (some cancelled) .missing, .warning cancelled.text] ++
          reportCalls closure.attempt.url closure.pending
            (some (authzError runtime.config cancelled)) [] []) } := by
  have closed : (closure.call (.cancel err)).attempt.authzEnded = false := unended
  rw [cancel, gotTokens_error closed, fail_attempt]
  simp only [call, List.append_assoc, List.cons_append, List.nil_append]
  rfl

/-- A cancellation in time takes effect. -/
theorem cancel_cancellable (holds : closure.attempt.Cancellable) (err : Option ErrorValue)
    (timely : TimelyCancel closure.attempt (.cancel err)) :
    (closure.cancel runtime err).attempt.Cancellable := by
  cases holds with
  | reported ended done said effective =>
      apply gotTokens_cancellable
      refine .reported ended done ?_ (effective.append said (by simp [AuthzCall.isCb2]))
      obtain ⟨made, member, ends⟩ := said
      exact ⟨made, List.mem_append_left _ member, ends⟩
  | unreported busy begun clean =>
      have idle : closure.attempt.verification = .idle := timely.resolve_right busy
      have unended : closure.attempt.authzEnded = false := by
        cases ended : closure.attempt.authzEnded with
        | false => rfl
        | true => exact absurd idle (begun.mp ended)
      rw [cancel_attempt unended]
      let error := authzError runtime.config (err.getD (.error (text "cancelled")))
      have ends := authzEnd_mem_reportCalls closure.attempt.url closure.pending (some error) [] []
      refine .reported rfl rfl ?_ ?_
      · exact ⟨.authzEnd (some error) [] [], List.mem_append_right _
          (List.mem_cons_of_mem _ (List.mem_append_right _ ends)), rfl⟩
      · apply cancelEffective_of_only
        · exact fun made member => ⟨(clean made member).1, (clean made member).2.2⟩
        · intro made member
          rcases List.mem_append.mp member with first | last
          · simp only [List.mem_cons, List.not_mem_nil, or_false] at first
            rcases first with rfl | rfl <;> rfl
          · exact isCancel_reportCalls _ _ _ _ _ made last
        · intro handshakes tokens member
          rcases List.mem_append.mp member with first | last
          · simp at first
          · have same := (cb2_mem_reportCalls last).2.1
            cases same
        · exact List.mem_append_right _ ends

/-- Each event that meets the condition keeps cancellations effective. -/
theorem step_cancellable (holds : closure.attempt.Cancellable) {event : AttemptEvent}
    (timely : TimelyCancel closure.attempt event)
    (stepped : closure.step runtime event = some next) : next.attempt.Cancellable := by
  cases event with
  | cancel err =>
      obtain rfl := Option.some.inj stepped
      exact cancel_cancellable holds err timely
  | gotTokens err presented =>
      obtain rfl := Option.some.inj stepped
      exact gotTokens_cancellable holds err presented
  | authorized result =>
      simp only [step] at stepped
      split at stepped
      · next waits =>
          obtain rfl := Option.some.inj stepped
          cases holds with
          | reported _ done => simp [waits] at done
          | unreported _ begun clean =>
              have ended : closure.attempt.authzEnded = true := begun.mpr (by simp [waits])
              refine .unreported (by simp [call]) (by simp [call, ended]) ?_
              intro made member
              rcases List.mem_append.mp member with old | new
              · exact clean made old
              · rw [List.mem_singleton.mp new]
                exact ⟨rfl, rfl, rfl⟩
      · cases stepped
  | resume =>
      simp only [step] at stepped
      split at stepped
      · next answer =>
          obtain rfl := Option.some.inj stepped
          cases holds with
          | reported _ done => simp [answer] at done
          | unreported _ begun clean =>
              have ended : closure.attempt.authzEnded = true := begun.mpr (by simp [answer])
              exact fail_cancellable ended (fun made member => (clean made member).1) _
      · next answer =>
          obtain rfl := Option.some.inj stepped
          cases holds with
          | reported _ done => simp [answer] at done
          | unreported _ begun clean =>
              have ended : closure.attempt.authzEnded = true := begun.mpr (by simp [answer])
              apply nextToken_cancellable
              · exact ended
              · exact clean
      · cases stepped

end AuthzClosure

/-- The destruction of a pending attempt keeps what its cancellation did. -/
theorem Attempt.Cancellable.destroyed {attempt : Attempt} (holds : attempt.Cancellable) :
    (Authorization.destroyed attempt).Cancellable := by
  have calm : ∀ call ∈ [AuthzCall.destroy true] ++ (attempt.throws.map AuthzCall.warning).toList,
      call.isCancel = false ∧ call.isAuthzEnd = false ∧ call.isCb2 = false := by
    cases attempt.throws <;> simp [AuthzCall.isCancel, AuthzCall.isAuthzEnd, AuthzCall.isCb2]
  rw [Authorization.destroyed, List.append_assoc]
  cases holds with
  | unreported busy begun clean =>
      refine .unreported busy begun ?_
      intro made member
      rcases List.mem_append.mp member with old | new
      · exact clean made old
      · exact calm made new
  | reported ended done said effective =>
      refine .reported ended done ?_ (effective.append said fun made member => (calm made member).2.2)
      obtain ⟨made, member, ends⟩ := said
      exact ⟨made, List.mem_append_left _ member, ends⟩

/-- No attempt is cancelled while its tokens are verified. -/
def Authorization.TimelyCancels (authorization : Authorization) : Authorization.Event → Prop
  | .attempt number move => ∀ attempt, authorization.attempts[number]? = some attempt →
      TimelyCancel attempt move
  | _ => True

/-- In every run without such a cancellation each cancellation is effective. -/
theorem cancel_effective {runtime : Runtime} {authorization : Authorization}
    (reached : (Authorization.system runtime).ReachableUnder Authorization.TimelyCancels
      authorization)
    {number : Nat} {attempt : Attempt} (here : authorization.attempts[number]? = some attempt) :
    CancelEffective attempt.calls := by
  have start : ∀ number config url throws, Attempt.Cancellable
      { number, config, url, throws, calls := [.authzStart] } := by
    intro number config url throws
    refine .unreported (by simp) (by simp) ?_
    simp [AuthzCall.isCancel, AuthzCall.isAuthzEnd, AuthzCall.isCb2]
  have each := Authorization.attempt_invariant (fun _ attempt => attempt.Cancellable) TimelyCancel
    start (fun _ _ _ holds timely stepped => AuthzClosure.step_cancellable holds timely stepped)
    (fun _ holds => holds.destroyed) (fun _ _ attempt _ timely here => timely attempt here) reached
  cases each.2 number attempt here with
  | unreported _ _ clean =>
      exact cancelEffective_of_uncancelled fun made member => (clean made member).1
  | reported _ _ _ effective => exact effective

/-- A listener cancels at once. -/
theorem cancel_effective_sample : ∃ authorization attempt,
    (Authorization.system sampleRuntime).run {}
      [.transportAuthorize {} true none, .attempt 0 (.cancel none)] = some authorization ∧
    authorization.attempts[0]? = some attempt ∧ CancelEffective attempt.calls := by
  have made : (((Authorization.system sampleRuntime).run {}
      [.transportAuthorize {} true none, .attempt 0 (.cancel none)]).bind
        fun authorization => authorization.attempts[0]?).isSome = true := by decide
  obtain ⟨attempt, found⟩ := Option.isSome_iff_exists.mp made
  obtain ⟨authorization, ran, here⟩ := Option.bind_eq_some_iff.mp found
  have reached : (Authorization.system sampleRuntime).ReachableUnder Authorization.TimelyCancels
      authorization := by
    apply TransitionSystem.ReachableUnder.initial.run _ ran
    intro first stepped
    obtain rfl := Option.some.inj stepped
    refine ⟨trivial, fun last _ => ⟨?_, trivial⟩⟩
    intro attempt here
    obtain rfl := Option.some.inj here
    exact Or.inl rfl
  exact ⟨authorization, attempt, ran, here, cancel_effective reached here⟩

/-- A cancellation while the authorizer verifies the only token is ignored. -/
theorem cancel_ignored : ∃ authorization attempt,
    (Authorization.system sampleRuntime).run {}
      [.transportAuthorize { allowedAlgs := [text "PS256"] } false none,
       .attempt 0 (.gotTokens none (.joined (text "token"))),
       .attempt 0 (.cancel none),
       .attempt 0 (.authorized (.ok sampleInfo)),
       .attempt 0 .resume] = some authorization ∧
    authorization.attempts[0]? = some attempt ∧ ¬CancelEffective attempt.calls := by
  have calls : (((Authorization.system sampleRuntime).run {}
      [.transportAuthorize { allowedAlgs := [text "PS256"] } false none,
       .attempt 0 (.gotTokens none (.joined (text "token"))),
       .attempt 0 (.cancel none),
       .attempt 0 (.authorized (.ok sampleInfo)),
       .attempt 0 .resume]).bind fun authorization => authorization.attempts[0]?).map Attempt.calls =
      some ([.authzStart, .gotTokens none (.joined (text "token")),
          .authorize 0 (text "token") [text "PS256"]] ++
        .cancel none :: [.gotTokens (some (.error (text "cancelled"))) .missing,
          .authorized 0 (.ok sampleInfo), .authzEnd none [sampleInfo] [text "token"],
          .cb2 none [sampleInfo] [text "token"]]) := rfl
  obtain ⟨attempt, found, calls⟩ := Option.map_eq_some_iff.mp calls
  obtain ⟨authorization, ran, here⟩ := Option.bind_eq_some_iff.mp found
  refine ⟨authorization, attempt, ran, here, ?_⟩
  intro effective
  obtain ⟨_, never⟩ := effective _ _ _ calls (by simp [AuthzCall.isAuthzEnd])
  apply never [sampleInfo] [text "token"]
  rw [calls]
  simp

end Centro
