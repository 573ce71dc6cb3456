import Centro.Proof.Client.Scope

namespace Centro

open Library

variable {client : Client} {connid topic scope : JsString}

/-- A handler gets the topic that was published with the same scope. -/
theorem Client.unscoped_scopedTopic {n : JsNumber} (length : client.self.length = 64)
    (hex : ∀ digit ∈ client.self, digit ∈ hexDigits) (absent : ¬client.self <:+: topic)
    (detached : Detached topic) (own : scope.length = (client.element n.index).length) :
    client.unscoped scope (client.scopedTopic n topic) = topic := by
  have full : client.self ≠ [] := by
    intro empty
    simp [empty] at length
  have rest : (client.scopedTopic n topic).drop scope.length = replaceSelf client.self topic := by
    rw [Client.scopedTopic, own, List.drop_left]
  rw [Client.unscoped, rest, if_neg full, split_replaceSelf full hex absent detached]
  exact join_split (by decide) topic

/-- A call of `publish` with a topic for one of the tokens is passed on. -/
theorem Session.publish_eq {session left : Session} {arguments : Arguments}
    (ran : session.publish arguments = some left)
    (small : arguments.shift.1.atLeast session.client.prefixes.length = false)
    (named : arguments.topic = some topic) :
    ∃ options, left = session.call
      (.publish session.number (session.client.scopedTopic arguments.shift.1 topic) options) := by
  have second : arguments.shift.2.second = .string topic := by
    unfold Arguments.topic at named
    split at named
    · next other found => rw [found, Option.some.inj named]
    · cases named
  simp only [publish, small, Bool.false_eq_true, if_false, second] at ran
  exact ⟨_, (Option.some.inj ran).symm⟩

namespace Application

variable {before published later after : Application} {number : Nat}

/-- The prefixes of these tokens are as long as the one of the given token, so the token itself is
one of them. -/
def SameScope (greeting : Greeting) (index : Nat) (n : JsNumber) : Prop :=
  ∃ other scope own, n.index = some other ∧ greeting.prefixes[other]? = some scope ∧
    greeting.prefixes[index]? = some own ∧ scope.length = own.length

/-- In every run a client keeps the data of its handshake. -/
theorem client_kept {events : List Event} (ran : system.run before events = some after)
    (here : before.clients[number]? = some client) :
    ∃ kept, after.clients[number]? = some kept ∧ kept.self = client.self ∧
      kept.prefixes = client.prefixes := by
  have data := congrArg (·[number]?) (run_data ran)
  have listed :
      number < (before.clients.map fun client => (client.self, client.prefixes)).length := by
    simpa using (List.getElem?_eq_some_iff.mp here).1
  simp only [List.getElem?_append_left listed, List.getElem?_map, here, Option.map_some,
    Option.map_eq_some_iff, Prod.mk.injEq] at data
  exact data

/-- A closure that its map holds passes the topic on without its scope, and no other one does. -/
theorem deliver_eq {place : Nat} {handler2 : Handler2} {own : Nat}
    (made : later.centroSubs.created[place]? = some handler2)
    (here : later.clients[handler2.client]? = some client)
    (token : handler2.n.index = some own) (listed : client.prefixes[own]? = some scope) :
    later.deliver place topic = some
      (if (later.centroSubs.handlers handler2.handlers).get handler2.topic = some handler2 then
        { later with calls := later.calls ++ [.invoke handler2 (client.unscoped scope topic)] }
      else later) := by
  simp only [deliver, made, here, token, listed, Option.bind_eq_bind, Option.bind_some]
  split <;> rfl

/-- In every run, a handler that a client subscribed for one of its tokens is called with the topic
that the client published for this token, as long as its map holds its closure. The topic does not
contain the connection id, and no hexadecimal digit stands before a placeholder. -/
theorem topic_restored {events more : List Event} {greeting : Greeting} {arguments : Arguments}
    {index : Nat} (ran : system.run {} events = some before)
    (greeted : (greetings events)[number]? = some greeting)
    (length : greeting.connid.length = 64) (hex : ∀ digit ∈ greeting.connid, digit ∈ hexDigits)
    (token : arguments.shift.1.index = some index) (inside : index < greeting.prefixes.length)
    (named : arguments.topic = some topic) (absent : ¬greeting.connid <:+: topic)
    (detached : Detached topic)
    (stepped : before.step (.call number .publish arguments) = some published)
    (ranOn : system.run published more = some later) :
    ∃ passed options,
      published.calls = before.calls ++ [.publish number passed options] ∧
      ∀ place handler2, later.centroSubs.created[place]? = some handler2 →
        handler2.client = number → SameScope greeting index handler2.n →
        later.step (.deliver place passed) = some
          (if (later.centroSubs.handlers handler2.handlers).get handler2.topic = some handler2 then
            { later with calls := later.calls ++ [.invoke handler2 topic] }
          else later) := by
  obtain ⟨client, here, self, prefixes⟩ := client_of_greeting ran greeted
  obtain ⟨session, left, found, called, rfl⟩ := call_step stepped
  obtain ⟨same, known, rfl⟩ := Option.map_eq_some_iff.mp found
  obtain rfl := Option.some.inj (here.symm.trans known)
  have small : arguments.shift.1.atLeast client.prefixes.length = false := by
    rw [JsNumber.index_eq_some.mp token, JsNumber.atLeast_natCast, prefixes]
    simpa using inside
  obtain ⟨options, rfl⟩ := Session.publish_eq called small named
  refine ⟨_, options, rfl, fun place handler2 made mine same => ?_⟩
  obtain ⟨other, scope, own, read, known, listed, size⟩ := same
  have whole : system.run before (.call number .publish arguments :: more) = some later :=
    Option.bind_eq_some_iff.mpr ⟨_, stepped, ranOn⟩
  obtain ⟨kept, there, keptSelf, keptPrefixes⟩ := client_kept whole here
  have data := keptPrefixes.trans prefixes
  have told := keptSelf.trans self
  have restored : kept.unscoped scope (client.scopedTopic arguments.shift.1 topic) = topic := by
    have same : client.scopedTopic arguments.shift.1 topic =
        kept.scopedTopic arguments.shift.1 topic := by
      rw [Client.scopedTopic, Client.scopedTopic, Client.element, Client.element, keptSelf,
        keptPrefixes]
    rw [same]
    refine Client.unscoped_scopedTopic (told ▸ length) (told ▸ hex) (told ▸ absent) detached ?_
    simp [Client.element, token, data, listed, size]
  have shown := @deliver_eq _ (client.scopedTopic arguments.shift.1 topic) _ _ place _ _ made
    (mine ▸ there) read (data.symm ▸ known)
  rwa [restored] at shown

/-- A client publishes a topic with its own id for a token, and its handler for the token gets
it. -/
theorem topic_restored_sample : ∃ before published passed options after,
    system.run {} [.ready
        { connid := sampleConnid, prefixes := [text "a."], subscriptions := none },
      .call 0 .subscribe { first := .string (text "#"), second := .function 0 },
      .response 0 0 true] = some before ∧
    before.step (.call 0 .publish { first := .string (placeholder ++ placeholder) }) =
      some published ∧
    published.calls = before.calls ++ [.publish 0 passed options] ∧
    published.step (.deliver 0 passed) = some after ∧
    after.calls = published.calls ++
      [.invoke ⟨0, 0, 0, .zero, text "a.#", 0⟩ (placeholder ++ placeholder)] := by
  obtain ⟨before, published, ran, stepped, made, held⟩ : ∃ before published,
      system.run {} [.ready
          { connid := sampleConnid, prefixes := [text "a."], subscriptions := none },
        .call 0 .subscribe { first := .string (text "#"), second := .function 0 },
        .response 0 0 true] = some before ∧
      before.step (.call 0 .publish { first := .string (placeholder ++ placeholder) }) =
        some published ∧
      published.centroSubs.created[0]? = some ⟨0, 0, 0, .zero, text "a.#", 0⟩ ∧
      (published.centroSubs.handlers 0).get (text "a.#") =
        some ⟨0, 0, 0, .zero, text "a.#", 0⟩ :=
    ⟨_, _, rfl, rfl, rfl, rfl⟩
  obtain ⟨passed, options, calls, restored⟩ := topic_restored ran rfl (by decide)
    (hex_of_all (by decide))
    rfl Nat.one_pos rfl (by decide) (detached_of_all (by decide)) stepped
    (show system.run published [] = some published from rfl)
  have delivered := restored 0 _ made rfl ⟨0, _, _, rfl, rfl, rfl, rfl⟩
  rw [if_pos held] at delivered
  exact ⟨before, published, passed, options, _, ran, stepped, calls, delivered, rfl⟩

end Application
end Centro
