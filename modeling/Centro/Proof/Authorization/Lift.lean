import Centro.Construction.Authorization

namespace Centro

open Library

/-- The last calls of an attempt report its outcome. -/
def reportCalls (url pending : Bool) (err : Option AuthzError) (handshakes : List TokenInfo)
    (tokens : List JsString) : List AuthzCall :=
  (match err with
    | some err => if url then [] else [AuthzCall.write handshakeHeader (.object
        [(text "error", .string err.message), (text "version", .number version)])]
    | none => []) ++
  [.authzEnd err handshakes tokens] ++ (if pending then [.cb2 err handshakes tokens] else [])

namespace AuthzClosure

variable {runtime : Runtime} {closure next : AuthzClosure}

/-- The destroy function of the attempt is pending. -/
def pending (closure : AuthzClosure) : Bool :=
  decide (closure.attempt.number ∈ closure.pendingAuthzDestroys)

/-- A report changes these variables and no others. -/
theorem cb_attempt (err : Option AuthzError) (handshakes : List TokenInfo) (tokens : List JsString) :
    (closure.cb err handshakes tokens).attempt = { closure.attempt with
      calls := closure.attempt.calls ++
        reportCalls closure.attempt.url closure.pending err handshakes tokens } := by
  unfold cb reportCalls pending
  cases err with
  | none =>
      by_cases member : closure.attempt.number ∈ closure.pendingAuthzDestroys
      · simp [call, member]
      · simp [call, member]
  | some err =>
      by_cases member : closure.attempt.number ∈ closure.pendingAuthzDestroys
      · cases url : closure.attempt.url <;> simp [call, member, url]
      · cases url : closure.attempt.url <;> simp [call, member, url]

/-- A report takes the attempt, and no other, out of the pending ones. -/
theorem mem_cb (err : Option AuthzError) (handshakes : List TokenInfo) (tokens : List JsString)
    {number : Nat} :
    number ∈ (closure.cb err handshakes tokens).pendingAuthzDestroys ↔
      number ∈ closure.pendingAuthzDestroys ∧ number ≠ closure.attempt.number := by
  have same : ∀ absent : closure.attempt.number ∉ closure.pendingAuthzDestroys,
      number ∈ closure.pendingAuthzDestroys ↔
        number ∈ closure.pendingAuthzDestroys ∧ number ≠ closure.attempt.number := by
    intro absent
    constructor
    · intro member
      exact ⟨member, fun equal => absent (equal ▸ member)⟩
    · exact And.left
  unfold cb
  cases err with
  | none =>
      by_cases member : closure.attempt.number ∈ closure.pendingAuthzDestroys
      · simp [call, member]
      · simpa [call, member] using same member
  | some err =>
      by_cases member : closure.attempt.number ∈ closure.pendingAuthzDestroys
      · cases url : closure.attempt.url <;> simp [call, member, url]
      · cases url : closure.attempt.url <;> simpa [call, member, url] using same member

/-- A failure is a warning and a report. -/
theorem fail_attempt (err : ErrorValue) : (closure.fail runtime err).attempt =
    { closure.attempt with
      verification := .finished
      calls := closure.attempt.calls ++ [.warning err.text] ++ reportCalls closure.attempt.url
        closure.pending (some (authzError runtime.config err)) [] [] } := by
  unfold fail
  rw [cb_attempt]
  rfl

/-- A closure keeps its number and leaves other attempts pending or not, as they were. -/
structure Local (closure next : AuthzClosure) : Prop where
  number : next.attempt.number = closure.attempt.number
  others : ∀ other, other ≠ closure.attempt.number →
    (other ∈ next.pendingAuthzDestroys ↔ other ∈ closure.pendingAuthzDestroys)

/-- A step that leaves the set of pending attempts alone is local. -/
theorem Local.quiet (number : next.attempt.number = closure.attempt.number)
    (pending : next.pendingAuthzDestroys = closure.pendingAuthzDestroys) : closure.Local next where
  number := number
  others := by
    intro other _
    rw [pending]

/-- A change of other variables before the closure runs does not matter. -/
theorem Local.after {first : AuthzClosure} (own : closure.Local next)
    (number : closure.attempt.number = first.attempt.number)
    (pending : closure.pendingAuthzDestroys = first.pendingAuthzDestroys) : first.Local next where
  number := own.number.trans number
  others := by
    intro other differs
    rw [own.others other (number ▸ differs), pending]

/-- A report takes its own attempt out of the pending ones. -/
theorem cb_local (err : Option AuthzError) (handshakes : List TokenInfo) (tokens : List JsString) :
    closure.Local (closure.cb err handshakes tokens) where
  number := by rw [cb_attempt]
  others := by
    intro other differs
    rw [mem_cb]
    exact and_iff_left differs

theorem fail_local (err : ErrorValue) : closure.Local (closure.fail runtime err) := by
  unfold fail
  exact (cb_local _ _ _).after rfl rfl

theorem finish_local : closure.Local (closure.finish runtime) := by
  unfold finish
  dsimp only
  split
  · exact fail_local _
  · split
    · exact fail_local _
    · exact (cb_local _ _ _).after rfl rfl

theorem nextToken_local : closure.Local (closure.nextToken runtime) := by
  unfold nextToken
  dsimp only
  split
  · exact finish_local
  · split
    · exact Local.quiet rfl rfl
    · exact Local.quiet rfl rfl

/-- What the function `got_tokens` does is local. -/
theorem gotTokens_local (err : Option ErrorValue) (presented : Presented) :
    closure.Local (closure.gotTokens runtime err presented) := by
  unfold gotTokens
  dsimp only
  split
  · exact Local.quiet rfl rfl
  · split
    · exact (fail_local _).after rfl rfl
    · split
      · exact (fail_local _).after rfl rfl
      · split
        · exact (fail_local _).after rfl rfl
        · split
          · exact (fail_local _).after rfl rfl
          · exact nextToken_local.after rfl rfl

/-- Every step of an attempt is local. -/
theorem step_local {event : AttemptEvent} (stepped : closure.step runtime event = some next) :
    closure.Local next := by
  cases event with
  | cancel err =>
      obtain rfl := Option.some.inj stepped
      exact (gotTokens_local _ _).after rfl rfl
  | gotTokens err presented =>
      obtain rfl := Option.some.inj stepped
      exact gotTokens_local err presented
  | authorized result =>
      simp only [step] at stepped
      split at stepped
      · obtain rfl := Option.some.inj stepped
        exact Local.quiet rfl rfl
      · cases stepped
  | resume =>
      simp only [step] at stepped
      split at stepped
      · obtain rfl := Option.some.inj stepped
        exact fail_local _
      · obtain rfl := Option.some.inj stepped
        exact nextToken_local.after rfl rfl
      · cases stepped

end AuthzClosure

namespace Authorization

variable {runtime : Runtime} {authorization : Authorization}

/-- Each attempt has the number of its place, and only attempts that were made are pending. -/
structure Numbered (authorization : Authorization) : Prop where
  number : ∀ (number : Nat) (attempt : Attempt),
    authorization.attempts[number]? = some attempt → attempt.number = number
  pending : ∀ number ∈ authorization.pendingAuthzDestroys, number < authorization.attempts.length

/-- A new attempt comes last. -/
theorem of_transportAuthorize {config : Config} {url : Bool} {throws : Option JsString}
    {number : Nat} {attempt : Attempt}
    (here : (authorization.transportAuthorize config url throws).attempts[number]? = some attempt) :
    authorization.attempts[number]? = some attempt ∨ (number = authorization.attempts.length ∧
      attempt = { number, config, url, throws, calls := [.authzStart] }) := by
  rw [transportAuthorize, List.getElem?_append] at here
  split at here
  · exact Or.inl here
  · next outside =>
      obtain ⟨inside, rfl⟩ := List.getElem?_eq_some_iff.mp here
      have only : number - authorization.attempts.length = 0 := by simpa using inside
      obtain rfl : number = authorization.attempts.length := by omega
      exact Or.inr ⟨rfl, by simp⟩

/-- The shutdown destroys the attempts that are pending and leaves the others. -/
theorem of_shutdown {number : Nat} {attempt : Attempt}
    (here : authorization.shutdown.attempts[number]? = some attempt) :
    ∃ old, authorization.attempts[number]? = some old ∧ attempt =
      if old.number ∈ authorization.pendingAuthzDestroys then destroyed old else old := by
  simp only [Authorization.shutdown, List.getElem?_map, Option.map_eq_some_iff] at here
  obtain ⟨old, present, same⟩ := here
  exact ⟨old, present, same.symm⟩

/-- The closures of an attempt have run. -/
def put (authorization : Authorization) (number : Nat) (closure : AuthzClosure) : Authorization where
  pendingAuthzDestroys := closure.pendingAuthzDestroys
  attempts := authorization.attempts.set number closure.attempt

/-- One attempt is replaced, and the others stay. -/
theorem of_put {number other : Nat} {attempt : Attempt} {closure : AuthzClosure}
    (here : (authorization.put number closure).attempts[other]? = some attempt) :
    (other = number ∧ attempt = closure.attempt) ∨
      (other ≠ number ∧ authorization.attempts[other]? = some attempt) := by
  rw [put, List.getElem?_set] at here
  split at here
  · next same =>
      split at here
      · exact Or.inl ⟨same.symm, (Option.some.inj here).symm⟩
      · cases here
  · next differs => exact Or.inr ⟨Ne.symm differs, here⟩

namespace Numbered

/-- At first there is no attempt. -/
theorem initial : Numbered {} where
  number := by
    intro number attempt here
    simp at here
  pending := fun number member => absurd member (OrderedSet.not_mem_empty number)

/-- A new attempt gets the next number. -/
theorem transportAuthorize (numbered : authorization.Numbered) (config : Config) (url : Bool)
    (throws : Option JsString) : (authorization.transportAuthorize config url throws).Numbered where
  number := by
    intro number attempt here
    rcases of_transportAuthorize here with old | ⟨_, rfl⟩
    · exact numbered.number number attempt old
    · rfl
  pending := by
    intro number member
    simp only [Authorization.transportAuthorize, OrderedSet.mem_add, List.length_append,
      List.length_singleton] at member ⊢
    rcases member with old | rfl
    · have := numbered.pending number old
      omega
    · omega

/-- A replaced attempt keeps its number. -/
theorem put (numbered : authorization.Numbered) {number : Nat} {attempt : Attempt}
    (here : authorization.attempts[number]? = some attempt) {closure : AuthzClosure}
    (own : AuthzClosure.Local ⟨authorization.pendingAuthzDestroys, attempt⟩ closure) :
    (authorization.put number closure).Numbered where
  number := by
    intro other found present
    rcases of_put present with ⟨rfl, rfl⟩ | ⟨_, old⟩
    · exact own.number.trans (numbered.number other attempt here)
    · exact numbered.number other found old
  pending := by
    intro other member
    have named : attempt.number = number := numbered.number number attempt here
    rw [Authorization.put, List.length_set]
    by_cases same : other = attempt.number
    · have inside := (List.getElem?_eq_some_iff.mp here).1
      omega
    · exact numbered.pending other ((own.others other same).mp member)

/-- The shutdown renumbers nothing. -/
theorem shutdown (numbered : authorization.Numbered) : authorization.shutdown.Numbered where
  number := by
    intro number attempt here
    obtain ⟨old, present, rfl⟩ := of_shutdown here
    split
    · exact numbered.number number old present
    · exact numbered.number number old present
  pending := fun number member => absurd member (OrderedSet.not_mem_empty number)

end Numbered

/-- An attempt and whether it is pending have this property. -/
def Each (property : Bool → Attempt → Prop) (authorization : Authorization) : Prop :=
  ∀ (number : Nat) (attempt : Attempt), authorization.attempts[number]? = some attempt →
    property (decide (number ∈ authorization.pendingAuthzDestroys)) attempt

namespace Each

variable {property : Bool → Attempt → Prop}

/-- A new attempt has the property from its start. -/
theorem transportAuthorize (each : authorization.Each property) {config : Config} {url : Bool}
    {throws : Option JsString} (made : ∀ number, property true
      { number, config, url, throws, calls := [.authzStart] }) :
    (authorization.transportAuthorize config url throws).Each property := by
  intro number attempt here
  rcases of_transportAuthorize here with old | ⟨rfl, rfl⟩
  · have inside := (List.getElem?_eq_some_iff.mp old).1
    have differs : number ≠ authorization.attempts.length := by omega
    have same := each number attempt old
    simpa [Authorization.transportAuthorize, differs] using same
  · simpa [Authorization.transportAuthorize] using made authorization.attempts.length

/-- The property holds of the closure of each attempt. -/
theorem closure (numbered : authorization.Numbered) (each : authorization.Each property)
    {number : Nat} {attempt : Attempt} (here : authorization.attempts[number]? = some attempt) :
    property (AuthzClosure.pending ⟨authorization.pendingAuthzDestroys, attempt⟩) attempt := by
  have start := each number attempt here
  rwa [← numbered.number number attempt here] at start

/-- The other attempts stay as they were. -/
theorem put (numbered : authorization.Numbered) (each : authorization.Each property)
    {number : Nat} {attempt : Attempt} (here : authorization.attempts[number]? = some attempt)
    {closure : AuthzClosure}
    (own : AuthzClosure.Local ⟨authorization.pendingAuthzDestroys, attempt⟩ closure)
    (finish : property closure.pending closure.attempt) :
    (authorization.put number closure).Each property := by
  have named : attempt.number = number := numbered.number number attempt here
  intro other found present
  rcases of_put present with ⟨rfl, rfl⟩ | ⟨differs, old⟩
  · have same : closure.attempt.number = other := own.number.trans named
    rw [AuthzClosure.pending, same] at finish
    exact finish
  · have unchanged := own.others other (by simpa [named] using differs)
    simpa only [Authorization.put, unchanged] using each other found old

/-- The shutdown keeps a property that destruction keeps. -/
theorem shutdown (numbered : authorization.Numbered) (each : authorization.Each property)
    (shut : ∀ attempt, property true attempt → property false (destroyed attempt)) :
    authorization.shutdown.Each property := by
  intro number attempt here
  obtain ⟨old, present, rfl⟩ := of_shutdown here
  have start := each number old present
  rw [numbered.number number old present]
  by_cases member : number ∈ authorization.pendingAuthzDestroys
  · simp only [member, decide_true] at start
    simpa [Authorization.shutdown, member] using shut old start
  · simp only [member, decide_false] at start
    simpa [Authorization.shutdown, member] using start

end Each

/-- A property of each attempt holds in every reached state when a new attempt has it, each event
of an attempt keeps it, and the shutdown keeps it. -/
theorem attempt_invariant {allowed : Authorization → Event → Prop}
    (property : Bool → Attempt → Prop) (permitted : Attempt → AttemptEvent → Prop)
    (made : ∀ number config url throws,
      property true { number, config, url, throws, calls := [.authzStart] })
    (kept : ∀ closure event next, property closure.pending closure.attempt →
      permitted closure.attempt event → AuthzClosure.step runtime closure event = some next →
      property next.pending next.attempt)
    (shut : ∀ attempt, property true attempt → property false (destroyed attempt))
    (permits : ∀ authorization number attempt move,
      allowed authorization (.attempt number move) →
      authorization.attempts[number]? = some attempt → permitted attempt move)
    (reached : (system runtime).ReachableUnder allowed authorization) :
    authorization.Numbered ∧ authorization.Each property := by
  have none : Each property {} := by
    intro number attempt here
    simp at here
  let both : Authorization → Prop := fun state => state.Numbered ∧ state.Each property
  suffices holds : both authorization from holds
  refine reached.invariant ⟨.initial, none⟩ ?_
  rintro before event after ⟨numbered, each⟩ meets stepped
  cases event with
  | transportAuthorize config url throws =>
      obtain rfl := Option.some.inj stepped
      exact ⟨numbered.transportAuthorize config url throws,
        each.transportAuthorize fun number => made number config url throws⟩
  | attempt number move =>
      obtain ⟨attempt, here, stepped⟩ := Option.bind_eq_some_iff.mp stepped
      obtain ⟨closure, ran, stepped⟩ := Option.bind_eq_some_iff.mp stepped
      obtain rfl := Option.some.inj stepped
      have own := AuthzClosure.step_local ran
      have finish := kept _ move closure (Each.closure numbered each here)
        (permits before number attempt move meets here) ran
      exact ⟨numbered.put here own, Each.put numbered each here own finish⟩
  | shutdown =>
      obtain rfl := Option.some.inj stepped
      exact ⟨numbered.shutdown, Each.shutdown numbered each shut⟩

end Authorization
end Centro
