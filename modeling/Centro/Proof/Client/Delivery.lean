import Centro.Proof.Client.Handlers
import Centro.Proof.Client.Operations
import Centro.Library.Trace
import Mathlib.Data.List.Induction

namespace Centro

open Library

/-- This call is about a handler and a topic of a client. -/
def ClientCall.About (client handler : Nat) (topic : JsString) : ClientCall → Prop
  | .subscribe number other handler2 =>
      number = client ∧ handler2.handler = handler ∧ other = topic
  | .unsub number second other => number = client ∧ second = handler ∧ other = topic
  | _ => False

/-- The closure that is registered after a call, if another one was before. -/
def ClientCall.register (client handler : Nat) (topic : JsString) (held : Option Handler2) :
    ClientCall → Option Handler2
  | .subscribe number other handler2 =>
      if number = client ∧ handler2.handler = handler ∧ other = topic then some handler2 else held
  | .unsub number second other =>
      if number = client ∧ second = handler ∧ other = topic then none else held
  | _ => held

/-- A call about another handler does not change what is registered. -/
theorem ClientCall.register_of_other {client handler : Nat} {topic : JsString}
    {held : Option Handler2} {call : ClientCall} (other : ¬call.About client handler topic) :
    call.register client handler topic held = held := by
  cases call <;> simp only [register] <;> exact if_neg other

/-- The closure that the calls so far leave registered. -/
def registered (calls : List ClientCall) (client handler : Nat) (topic : JsString) :
    Option Handler2 :=
  calls.foldl (ClientCall.register client handler topic) none

/-- The last call decides what is registered. -/
theorem registered_concat (calls : List ClientCall) (call : ClientCall) (client handler : Nat)
    (topic : JsString) :
    registered (calls ++ [call]) client handler topic =
      call.register client handler topic (registered calls client handler topic) := by
  simp [registered]

/-- The last call about the handler and the topic was the `subscribe` of the registered closure. -/
theorem registered_eq_some {calls : List ClientCall} {client handler : Nat} {topic : JsString}
    {handler2 : Handler2} (held : registered calls client handler topic = some handler2) :
    ∃ earlier later, calls = earlier ++ .subscribe client topic handler2 :: later ∧
      ∀ call ∈ later, ¬call.About client handler topic := by
  induction calls using List.reverseRecOn with
  | nil => cases held
  | append_singleton calls call ih =>
      rw [registered_concat] at held
      by_cases about : call.About client handler topic
      · cases call with
        | subscribe number other made =>
            obtain ⟨rfl, same, rfl⟩ := about
            rw [ClientCall.register, if_pos ⟨rfl, same, rfl⟩] at held
            obtain rfl := Option.some.inj held
            exact ⟨calls, [], rfl, by simp⟩
        | unsub number second other =>
            obtain ⟨rfl, rfl, rfl⟩ := about
            rw [ClientCall.register, if_pos ⟨rfl, rfl, rfl⟩] at held
            cases held
        | _ => exact about.elim
      · rw [ClientCall.register_of_other about] at held
        obtain ⟨earlier, later, rfl, clean⟩ := ih held
        refine ⟨earlier, later ++ [call], by simp, ?_⟩
        simp only [List.mem_append, List.mem_singleton]
        rintro item (inside | rfl)
        · exact clean item inside
        · exact about

/-- Nothing is registered until the next `subscribe`. -/
theorem registered_append_eq_none {calls more : List ClientCall} {client handler : Nat}
    {topic : JsString} (ended : registered calls client handler topic = none)
    (idle : ∀ handler2, .subscribe client topic handler2 ∈ more → handler2.handler ≠ handler) :
    registered (calls ++ more) client handler topic = none := by
  induction more using List.reverseRecOn with
  | nil => simpa using ended
  | append_singleton more call ih =>
      have before := ih fun handler2 member => idle handler2 (List.mem_append_left _ member)
      rw [← List.append_assoc, registered_concat, before]
      cases call with
      | subscribe number other handler2 =>
          refine ClientCall.register_of_other ?_
          rintro ⟨rfl, same, rfl⟩
          exact idle handler2 (by simp) same
      | unsub number second other => simp [ClientCall.register]
      | _ => rfl

/-- A handler is invoked through one of its closures. -/
def ClientCall.invokes (client handler : Nat) (topic : JsString) : ClientCall → Bool
  | .invoke handler2 _ =>
      handler2.client = client && handler2.handler = handler && handler2.topic = topic
  | _ => false

/-- Closures that exist already are not stored again. -/
structure CentroSubs.Ages (before after : CentroSubs) : Prop where
  created : before.created <+: after.created
  mapped : ∀ {client handler topic handler2},
    after.mapped client handler topic = some handler2 →
      handler2.number < before.created.length →
        before.mapped client handler topic = some handler2

theorem CentroSubs.Ages.refl (subs : CentroSubs) : subs.Ages subs :=
  ⟨List.prefix_refl _, fun held _ => held⟩

/-- The ages of maps compose. -/
theorem CentroSubs.Ages.trans {before middle after : CentroSubs} (first : before.Ages middle)
    (second : middle.Ages after) : before.Ages after :=
  ⟨first.created.trans second.created, fun held old => first.mapped
    (second.mapped held (lt_of_lt_of_le old first.created.length_le)) old⟩

/-- The calls explain what the properties hold. -/
structure Registers (subs : CentroSubs) (calls : List ClientCall) : Prop where
  sound : subs.Sound
  mapped : ∀ client handler topic,
    subs.mapped client handler topic = registered calls client handler topic

namespace Session

variable {session after : Session}

/-- A function of a client only makes calls that keep the properties explained, and does not invoke
a handler. -/
structure Follows (before after : Session) : Prop where
  number : after.number = before.number
  calls : ∃ made, after.calls = before.calls ++ made ∧
    ∀ client handler topic, made.countP (ClientCall.invokes client handler topic) = 0
  registers : Registers before.centroSubs before.calls → Registers after.centroSubs after.calls
  ages : Registers before.centroSubs before.calls → before.centroSubs.Ages after.centroSubs

theorem Follows.refl (session : Session) : session.Follows session :=
  ⟨rfl, ⟨[], by simp⟩, id, fun _ => .refl _⟩

/-- What follows can be followed again. -/
theorem Follows.trans {middle : Session} (first : session.Follows middle)
    (second : middle.Follows after) : session.Follows after where
  number := second.number.trans first.number
  calls := by
    obtain ⟨made, grown, silent⟩ := first.calls
    obtain ⟨more, further, quiet⟩ := second.calls
    refine ⟨made ++ more, by rw [further, grown, List.append_assoc], ?_⟩
    intro client handler topic
    rw [List.countP_append, silent, quiet]
  registers registers := second.registers (first.registers registers)
  ages registers := (first.ages registers).trans (second.ages (first.registers registers))

/-- A call that is about no handler changes nothing. -/
theorem follows_call {call : ClientCall} (number : after.number = session.number)
    (subs : after.centroSubs = session.centroSubs) (calls : after.calls = session.calls ++ [call])
    (neutral : ∀ client handler topic, ¬call.About client handler topic)
    (silent : ∀ client handler topic, call.invokes client handler topic = false) :
    session.Follows after where
  number := number
  calls := ⟨[call], calls, by simp [silent]⟩
  registers registers := by
    refine ⟨subs ▸ registers.sound, ?_⟩
    intro client handler topic
    rw [subs, calls, registered_concat, ClientCall.register_of_other (neutral _ _ _),
      registers.mapped]
  ages _ := by
    rw [subs]
    exact .refl _

/-- The function `unsub` follows its session. -/
theorem follows_unsub (session : Session) (topic : JsString) (handler : Nat) :
    session.Follows (session.unsub topic handler).2 := by
  rcases ran : session.centroSubs.unsub session.number handler topic with ⟨target, left⟩
  have result : session.unsub topic handler = (target, { session with
      centroSubs := left
      calls := session.calls ++ [.unsub session.number handler topic] }) := by
    simp only [unsub, ran, call]
  rw [result]
  refine ⟨rfl, ⟨_, rfl, by simp [ClientCall.invokes]⟩, fun registers => ?_, fun registers => ?_⟩
  · obtain ⟨sound, _, _, mapped⟩ := registers.sound.unsub ran
    refine ⟨sound, ?_⟩
    intro client second elsewhere
    rw [registered_concat, ClientCall.register, mapped, registers.mapped]
    simp only [eq_comm]
  · obtain ⟨_, created, _, mapped⟩ := registers.sound.unsub ran
    refine ⟨created ▸ List.prefix_refl _, ?_⟩
    intro client second elsewhere handler2 held _
    rw [mapped] at held
    split at held
    · cases held
    · exact held

/-- A list of changes that each only make such calls. -/
theorem follows_foldl {α : Type*} {body : Session → α → Session}
    (each : ∀ (session : Session) item, session.Follows (body session item)) (items : List α)
    (session : Session) : session.Follows (items.foldl body session) := by
  induction items generalizing session with
  | nil => exact .refl session
  | cons item rest ih => exact (each session item).trans (ih _)

theorem follows_unsubAll (session : Session) (topic : JsString) :
    session.Follows (session.unsubAll topic) :=
  follows_foldl (fun session (handler2 : Handler2) => session.follows_unsub topic handler2.handler)
    _ session

/-- A topic that is passed on to `unsubscribe` changes no map. -/
theorem follows_passUnsubscribe (session : Session) (topic : JsString) (target : Target)
    (sweep : Option Sweep) : session.Follows (session.passUnsubscribe topic target sweep) :=
  follows_call rfl rfl rfl (fun _ _ _ => id) fun _ _ _ => rfl

theorem follows_sweep (session : Session) (sweep : Sweep) :
    session.Follows (session.sweep sweep) := by
  unfold Session.sweep
  split
  · exact .refl session
  · exact (session.follows_unsubAll _).trans (follows_passUnsubscribe _ _ _ _)

/-- The call of `subscribe` stores the closure that it passes on. -/
theorem follows_wrap {session : Session} {handler : Nat} {n : JsNumber} {topic : JsString}
    {handler2 : Handler2} {left : CentroSubs}
    (ran : session.centroSubs.wrap session.number handler n topic = (handler2, left)) :
    session.Follows (({ session with centroSubs := left }).passSubscribe topic handler2) := by
  refine ⟨rfl, ⟨_, rfl, by simp [ClientCall.invokes]⟩, fun registers => ?_, fun registers => ?_⟩
  · obtain ⟨sound, _, rfl, _, mapped, _⟩ := registers.sound.wrap ran
    refine ⟨sound, ?_⟩
    intro client second elsewhere
    refine (mapped client second elsewhere).trans ?_
    refine Eq.trans ?_ (registered_concat _ _ _ _ _).symm
    simp only [ClientCall.register, registers.mapped, eq_comm]
  · obtain ⟨_, _, _, _, mapped, reused | ⟨fresh, number, created⟩⟩ := registers.sound.wrap ran
    · exact reused.2 ▸ .refl _
    · refine ⟨⟨[handler2], created.symm⟩, ?_⟩
      intro client second elsewhere other held old
      have stored := (mapped client second elsewhere).symm.trans held
      split at stored
      · obtain rfl := Option.some.inj stored
        omega
      · exact stored

/-- Every operation follows its session. -/
theorem follows_run {operation : Application.Operation} {arguments : Arguments}
    (ran : operation.run session arguments = some after) : session.Follows after := by
  cases run_cases ran with
  | refused => exact follows_call rfl rfl rfl (fun _ _ _ => id) fun _ _ _ => rfl
  | published => exact follows_call rfl rfl rfl (fun _ _ _ => id) fun _ _ _ => rfl
  | subscribed _ _ wrapped => exact follows_wrap wrapped
  | swept => exact follows_sweep _ _
  | unsubscribedAll =>
      exact (session.follows_unsubAll _).trans (follows_passUnsubscribe _ _ _ _)
  | unsubscribed => exact (session.follows_unsub _ _).trans (follows_passUnsubscribe _ _ _ _)

/-- The answer of the server makes calls only when it lets a loop go on. -/
theorem follows_response {index : Nat} {ok : Bool} (ran : session.response index ok = some after) :
    session.Follows after := by
  obtain ⟨request, _, answers⟩ := response_cases ran
  have same : ∀ client : Client, session.Follows { session with client } := fun client =>
    ⟨rfl, ⟨[], by simp⟩, id, fun _ => .refl _⟩
  cases answers with
  | refused => exact same _
  | subscribed => exact same _
  | unsubscribed => exact same _
  | swept => exact (same _).trans (follows_sweep _ _)

end Session

namespace Application

variable {application after : Application}

/-- A step adds a client, runs functions of one client, or calls a closure. -/
theorem step_cases {event : Event} (stepped : application.step event = some after) :
    (∃ greeting, after = { application with
      clients := application.clients ++ [Client.ready greeting] }) ∨
    (∃ number session left, application.session? number = some session ∧
      session.Follows left ∧ after = application.put left) ∨
    ∃ number topic, event = .deliver number topic ∧
      application.deliver number topic = some after := by
  cases event with
  | ready greeting => exact .inl ⟨greeting, (Option.some.inj stepped).symm⟩
  | call number operation arguments =>
      obtain ⟨session, left, found, ran, put⟩ := call_step stepped
      exact .inr (.inl ⟨number, session, left, found, Session.follows_run ran, put⟩)
  | response number index ok =>
      obtain ⟨session, left, found, ran, put⟩ := response_step stepped
      exact .inr (.inl ⟨number, session, left, found, Session.follows_response ran, put⟩)
  | deliver number topic => exact .inr (.inr ⟨number, topic, rfl, stepped⟩)

/-- A closure that its map does not hold does nothing. -/
theorem deliver_cases {number : Nat} {topic : JsString}
    (delivered : application.deliver number topic = some after) :
    after = application ∨ ∃ handler2 shown,
      application.centroSubs.created[number]? = some handler2 ∧
      (application.centroSubs.handlers handler2.handlers).get handler2.topic = some handler2 ∧
      after = { application with calls := application.calls ++ [.invoke handler2 shown] } := by
  obtain ⟨handler2, made, delivered⟩ := Option.bind_eq_some_iff.mp delivered
  obtain ⟨client, _, delivered⟩ := Option.bind_eq_some_iff.mp delivered
  split at delivered
  · next held =>
      split at delivered
      · exact .inr ⟨handler2, _, made, held, (Option.some.inj delivered).symm⟩
      · exact .inl (Option.some.inj delivered).symm
  · exact .inl (Option.some.inj delivered).symm

/-- The closure that a call invokes was registered at the time. -/
def Current (before : List ClientCall) (call : ClientCall) : Prop :=
  ∀ handler2 topic, call = .invoke handler2 topic →
    registered before handler2.client handler2.handler handler2.topic = some handler2

/-- The calls explain the properties and every invocation. -/
structure Explained (application : Application) : Prop where
  registers : Registers application.centroSubs application.calls
  invoked : Justified Current application.calls

/-- A step explains each delivery by the calls before it. -/
theorem Explained.step {event : Event} (explained : application.Explained)
    (stepped : application.step event = some after) : after.Explained := by
  rcases step_cases stepped with ⟨greeting, rfl⟩ | ⟨number, session, left, found, follows, rfl⟩ |
    ⟨number, topic, _, delivered⟩
  · exact ⟨explained.registers, explained.invoked⟩
  · obtain ⟨client, _, rfl⟩ := Option.map_eq_some_iff.mp found
    obtain ⟨made, grown, silent⟩ := follows.calls
    refine ⟨follows.registers explained.registers, ?_⟩
    change Justified Current left.calls
    rw [grown]
    refine explained.invoked.append (justified_of_forall ?_)
    rintro call member before handler2 topic rfl
    have absent := List.countP_eq_zero.mp
      (silent handler2.client handler2.handler handler2.topic) _ member
    simp [ClientCall.invokes] at absent
  · rcases deliver_cases delivered with rfl | ⟨handler2, shown, _, held, rfl⟩
    · exact explained
    · have mapped := explained.registers.sound.get_iff.mp held
      constructor
      · refine ⟨explained.registers.sound, ?_⟩
        intro client handler topic
        rw [registered_concat, ClientCall.register_of_other id, explained.registers.mapped]
      · refine explained.invoked.concat ?_
        intro other topic same
        obtain ⟨rfl, _⟩ := ClientCall.invoke.inj same
        rw [← explained.registers.mapped, mapped]

/-- In every reachable state each delivery is explained by the calls before it. -/
theorem explained_of_reachable (reached : system.Reachable application) :
    application.Explained := by
  refine reached.invariant ?_ ?_
  · exact ⟨⟨CentroSubs.sound_empty, fun _ _ _ => rfl⟩, justified_nil⟩
  · intro before event after explained _ stepped
    exact explained.step stepped

/-- No step makes a map younger. -/
theorem step_ages {event : Event} (explained : application.Explained)
    (stepped : application.step event = some after) :
    application.centroSubs.Ages after.centroSubs := by
  rcases step_cases stepped with ⟨greeting, rfl⟩ | ⟨number, session, left, found, follows, rfl⟩ |
    ⟨number, topic, _, delivered⟩
  · exact .refl _
  · obtain ⟨client, _, rfl⟩ := Option.map_eq_some_iff.mp found
    exact follows.ages explained.registers
  · rcases deliver_cases delivered with rfl | ⟨handler2, shown, _, _, rfl⟩ <;> exact .refl _

/-- A step invokes a handler only when it calls the closure that the property holds. -/
theorem step_calls {event : Event} (explained : application.Explained)
    (stepped : application.step event = some after) (client handler : Nat) (topic : JsString) :
    ∃ made, after.calls = application.calls ++ made ∧
      (made.countP (ClientCall.invokes client handler topic) = 0 ∨
        ∃ number message handler2, event = .deliver number message ∧ handler2.number = number ∧
          application.centroSubs.mapped client handler topic = some handler2 ∧
          made.countP (ClientCall.invokes client handler topic) = 1) := by
  rcases step_cases stepped with ⟨greeting, rfl⟩ | ⟨number, session, left, found, follows, rfl⟩ |
    ⟨number, message, same, delivered⟩
  · exact ⟨[], by simp, .inl rfl⟩
  · obtain ⟨_, _, rfl⟩ := Option.map_eq_some_iff.mp found
    obtain ⟨made, grown, silent⟩ := follows.calls
    exact ⟨made, grown, .inl (silent _ _ _)⟩
  · rcases deliver_cases delivered with rfl | ⟨handler2, shown, made, held, rfl⟩
    · exact ⟨[], by simp, .inl rfl⟩
    · refine ⟨[.invoke handler2 shown], rfl, ?_⟩
      have mapped := explained.registers.sound.get_iff.mp held
      have numbered := explained.registers.sound.numbered made
      by_cases own : handler2.client = client ∧ handler2.handler = handler ∧ handler2.topic = topic
      · obtain ⟨rfl, rfl, rfl⟩ := own
        exact .inr ⟨number, message, handler2, same, numbered, mapped,
          by simp [ClientCall.invokes]⟩
      · left
        simp only [List.countP_singleton, ClientCall.invokes, Bool.and_eq_true, decide_eq_true_eq,
          and_assoc, if_neg own]

/-- These closures get a message. -/
def deliveries : List Event → List Nat
  | [] => []
  | .deliver number _ :: rest => number :: deliveries rest
  | _ :: rest => deliveries rest

/-- Among closures that exist already only the one that is held in the beginning is ever effective. -/
theorem run_calls {events : List Event} {last : Application} {client handler bound current : Nat}
    {topic : JsString} (explained : application.Explained)
    (only : ∀ handler2, application.centroSubs.mapped client handler topic = some handler2 →
      handler2.number < bound → handler2.number = current)
    (grown : bound ≤ application.centroSubs.created.length)
    (old : ∀ number ∈ deliveries events, number < bound)
    (ran : system.run application events = some last) :
    ∃ made, last.calls = application.calls ++ made ∧
      made.countP (ClientCall.invokes client handler topic) ≤ (deliveries events).count current := by
  induction events generalizing application with
  | nil =>
      obtain rfl := Option.some.inj ran
      exact ⟨[], by simp⟩
  | cons event rest ih =>
      obtain ⟨next, stepped, ran⟩ := Option.bind_eq_some_iff.mp ran
      have ages := step_ages explained stepped
      have later : ∀ handler2, next.centroSubs.mapped client handler topic = some handler2 →
          handler2.number < bound → handler2.number = current := fun handler2 held early =>
        only handler2 (ages.mapped held (lt_of_lt_of_le early grown)) early
      have listed : ∀ number ∈ deliveries rest, number ∈ deliveries (event :: rest) := by
        cases event <;> simp +contextual [deliveries]
      obtain ⟨more, further, few⟩ := ih (explained.step stepped) later
        (grown.trans ages.created.length_le) (fun number member => old number (listed number member))
        ran
      obtain ⟨made, first, here⟩ := step_calls explained stepped client handler topic
      refine ⟨made ++ more, by rw [further, first, List.append_assoc], ?_⟩
      rw [List.countP_append]
      rcases here with silent | ⟨number, message, handler2, rfl, rfl, held, once⟩
      · have fewer : (deliveries rest).count current ≤ (deliveries (event :: rest)).count current := by
          cases event <;> simp [deliveries, List.count_cons]
        omega
      · have same := only handler2 held (old _ (by simp [deliveries]))
        simp only [deliveries, same, List.count_cons_self]
        omega

/-- A call of `unsubscribe` with a handler runs `unsub` before it returns. -/
theorem unsubscribe_calls {number handler : Nat} {session : Session} {n : JsNumber}
    {topic : JsString} (found : application.session? number = some session)
    (inside : n.atLeast session.client.prefixes.length = false)
    (stepped : application.step (.call number .unsubscribe
      { first := .number n, second := .string topic, third := .function handler }) = some after) :
    ∃ target, after.calls =
      application.calls ++ [.unsub number handler (session.client.scopedTopic n topic)] ++
        [.unsubscribe number (session.client.scopedTopic n topic) target] := by
  have ran : session.unsubscribe
      { first := .number n, second := .string topic, third := .function handler } =
        some ((session.unsub (session.client.scopedTopic n topic) handler).2.passUnsubscribe
          (session.client.scopedTopic n topic)
          (session.unsub (session.client.scopedTopic n topic) handler).1 none) := by
    simp [Session.unsubscribe, Arguments.shift, inside]
  simp only [step, found, Option.bind_eq_bind, Option.bind_some, Operation.run, ran,
    Option.some.injEq] at stepped
  obtain ⟨client, _, rfl⟩ := Option.map_eq_some_iff.mp found
  obtain rfl := stepped
  exact ⟨_, rfl⟩

/-- Handlers are invoked like this: only through the closure of the latest `subscribe`, not after an
`unsubscribe`, and once for each message. -/
structure DeliversOnce (application : Application) : Prop where
  latest : ∀ before handler2 shown after,
    application.calls = before ++ .invoke handler2 shown :: after →
      ∃ earlier later,
        before = earlier ++ .subscribe handler2.client handler2.topic handler2 :: later ∧
          ∀ call ∈ later, ¬call.About handler2.client handler2.handler handler2.topic
  ended : ∀ number session n topic handler unsubscribed events last made,
    application.session? number = some session →
      n.atLeast session.client.prefixes.length = false →
        system.step application (.call number .unsubscribe
          { first := .number n, second := .string topic, third := .function handler }) =
            some unsubscribed →
          system.run unsubscribed events = some last → last.calls = unsubscribed.calls ++ made →
            (∀ handler2, .subscribe number (session.client.scopedTopic n topic) handler2 ∈ made →
              handler2.handler ≠ handler) →
              made.countP (ClientCall.invokes number handler (session.client.scopedTopic n topic)) = 0
  once : ∀ events last client handler topic, system.run application events = some last →
    (deliveries events).Nodup →
      (∀ number ∈ deliveries events, number < application.centroSubs.created.length) →
        ∃ made, last.calls = application.calls ++ made ∧
          made.countP (ClientCall.invokes client handler topic) ≤ 1

/-- An application reaches only states in which handlers are invoked like this. -/
theorem delivers_once (reached : system.Reachable application) : application.DeliversOnce where
  latest before handler2 shown after cut :=
    registered_eq_some ((explained_of_reachable reached).invoked before _ after cut handler2 shown rfl)
  ended number session n topic handler unsubscribed events last made found inside stepped ran grown
      idle := by
    obtain ⟨target, calls⟩ := unsubscribe_calls found inside stepped
    have explained := explained_of_reachable
      ((TransitionSystem.ReachableUnder.step reached trivial stepped).run
        (TransitionSystem.allSteps_true _ _) ran)
    have gone : registered unsubscribed.calls number handler
        (session.client.scopedTopic n topic) = none := by
      rw [calls, registered_concat, registered_concat]
      simp [ClientCall.register]
    rw [List.countP_eq_zero]
    intro call member invokes
    obtain ⟨first, rest, rfl⟩ := List.append_of_mem member
    cases call with
    | invoke handler2 shown =>
        obtain ⟨⟨rfl, rfl⟩, same⟩ := by simpa [ClientCall.invokes] using invokes
        have current := explained.invoked (unsubscribed.calls ++ first) _ rest
          (by rw [grown, List.append_assoc]) handler2 shown rfl
        rw [same, registered_append_eq_none gone fun other listed =>
          idle other (List.mem_append_left _ listed)] at current
        cases current
    | _ => cases invokes
  once events last client handler topic ran distinct old := by
    obtain ⟨current, only⟩ : ∃ current, ∀ handler2,
        application.centroSubs.mapped client handler topic = some handler2 →
          handler2.number < application.centroSubs.created.length →
            handler2.number = current := by
      cases held : application.centroSubs.mapped client handler topic with
      | none => exact ⟨0, fun _ other => nomatch other⟩
      | some handler2 =>
          exact ⟨handler2.number, fun other same _ => by rw [Option.some.inj same]⟩
    obtain ⟨made, grown, few⟩ :=
      run_calls (explained_of_reachable reached) only le_rfl old ran
    exact ⟨made, grown, few.trans (List.nodup_iff_count_le_one.mp distinct current)⟩

/-- A closure is stored, subscribed and invoked. -/
theorem delivers_once_sample : ∃ application handler2 shown,
    system.run {}
      [.ready { connid := sampleConnid, prefixes := [text "a."], subscriptions := none },
        .call 0 .subscribe { first := .string (text "b"), second := .function 0 },
        .response 0 0 true, .deliver 0 (text "a.b")] = some application ∧
    .invoke handler2 shown ∈ application.calls ∧ application.DeliversOnce := by
  obtain ⟨application, ran, calls⟩ : ∃ application,
      system.run {}
        [.ready { connid := sampleConnid, prefixes := [text "a."], subscriptions := none },
          .call 0 .subscribe { first := .string (text "b"), second := .function 0 },
          .response 0 0 true, .deliver 0 (text "a.b")] = some application ∧
      application.calls = [.subscribe 0 (text "a.b") ⟨0, 0, 0, .zero, text "a.b", 0⟩,
        .invoke ⟨0, 0, 0, .zero, text "a.b", 0⟩ (text "b")] := ⟨_, rfl, by decide⟩
  exact ⟨application, _, _, ran, by rw [calls]; exact .tail _ (.head _),
    delivers_once (TransitionSystem.reachable_of_run ran)⟩

end Application
end Centro
