import Centro.Proof.Client.Operations
import Centro.Proof.Client.Tables

namespace Centro

open Library

namespace Session

variable {session after : Session} {exempt : Handler2 → Prop} {topic : JsString}

/-- The properties are sound and the tables of the client are consistent with them. -/
structure Tabled (exempt : Handler2 → Prop) (session : Session) : Prop where
  sound : session.centroSubs.Sound
  consistent : session.client.Consistent exempt session.number session.centroSubs

/-- The functions of a client leave the closures of other clients alone. -/
structure Frames (before after : Session) : Prop where
  number : after.number = before.number
  grown : before.centroSubs.created <+: after.centroSubs.created
  mapped : ∀ client handler topic, client ≠ before.number →
    after.centroSubs.mapped client handler topic = before.centroSubs.mapped client handler topic

theorem Frames.refl (session : Session) : session.Frames session :=
  ⟨rfl, List.prefix_refl _, fun _ _ _ _ => rfl⟩

/-- Frames compose. -/
theorem Frames.trans {middle : Session} (first : session.Frames middle)
    (second : middle.Frames after) : session.Frames after where
  number := second.number.trans first.number
  grown := first.grown.trans second.grown
  mapped client handler topic other :=
    (second.mapped client handler topic (first.number ▸ other)).trans
      (first.mapped client handler topic other)

/-- A weaker exemption keeps the tables in agreement. -/
theorem Tabled.mono {more : Handler2 → Prop} (tabled : session.Tabled exempt)
    (weakens : ∀ handler2, exempt handler2 → more handler2) : session.Tabled more where
  sound := tabled.sound
  consistent :=
    { tabled.consistent with
      listed := fun member plain =>
        tabled.consistent.listed member fun spared => plain (weakens _ spared) }

/-- The closure that `unsub` finds is exempt afterwards. -/
theorem Tabled.unsub (tabled : session.Tabled exempt) (topic : JsString) (handler : Nat) :
    (session.unsub topic handler).2.Tabled (fun handler2 => exempt handler2 ∨
      session.centroSubs.mapped session.number handler topic = some handler2) ∧
      session.Frames (session.unsub topic handler).2 ∧
      ∀ handler2, (session.centroSubs.mapped session.number handler topic = some handler2 →
          (session.unsub topic handler).1 = .handler2 handler2) ∧
        ((session.unsub topic handler).1 = .handler2 handler2 →
          ¬(session.unsub topic handler).2.centroSubs.Maps handler2) := by
  rcases ran : session.centroSubs.unsub session.number handler topic with ⟨target, left⟩
  have result : session.unsub topic handler = (target, { session with
      centroSubs := left
      calls := session.calls ++ [.unsub session.number handler topic] }) := by
    simp only [Session.unsub, ran, call]
  rw [result]
  obtain ⟨sound, created, found, mapped⟩ := tabled.sound.unsub ran
  refine ⟨⟨sound, tabled.consistent.unsub tabled.sound ran⟩, ⟨rfl, ?_, ?_⟩, ?_⟩
  · exact created ▸ List.prefix_refl _
  · intro client second elsewhere other
    rw [mapped, if_neg fun same => other same.1]
  · intro handler2
    refine ⟨fun held => by rw [found, held]; rfl, ?_⟩
    intro same
    cases held : session.centroSubs.mapped session.number handler topic with
    | none =>
        rw [found, held] at same
        cases same
    | some stored =>
        rw [found, held] at same
        obtain rfl := Target.handler2.inj same
        obtain ⟨own, rfl, rfl, _⟩ := tabled.sound.mapped held
        rw [CentroSubs.Maps, mapped, if_pos ⟨own, rfl, rfl⟩]
        intro kept
        cases kept

/-- The loop exempts closures of its topic only. -/
theorem Tabled.unsubAll (tabled : session.Tabled fun _ => False) (topic : JsString) :
    (session.unsubAll topic).Tabled (fun handler2 => handler2.topic = topic) ∧
      session.Frames (session.unsubAll topic) ∧
        (session.unsubAll topic).client = session.client := by
  have all : ∀ (items : List Handler2) {session : Session},
      session.Tabled (fun handler2 => handler2.topic = topic) →
      (items.foldl (fun session handler2 => (session.unsub topic handler2.handler).2)
        session).Tabled (fun handler2 => handler2.topic = topic) ∧
      session.Frames (items.foldl
        (fun session handler2 => (session.unsub topic handler2.handler).2) session) ∧
      (items.foldl (fun session handler2 => (session.unsub topic handler2.handler).2)
        session).client = session.client := by
    intro items
    induction items with
    | nil => exact fun tabled => ⟨tabled, .refl _, rfl⟩
    | cons item rest ih =>
        intro session tabled
        obtain ⟨later, frames, _⟩ := tabled.unsub topic item.handler
        obtain ⟨ends, further, same⟩ := ih (later.mono fun handler2 spared =>
          spared.elim id fun held => (tabled.sound.mapped held).2.2.1)
        exact ⟨ends, frames.trans further, same⟩
  exact all _ (tabled.mono fun _ => False.elim)

/-- A topic that is passed on to `unsubscribe` leaves the tables in agreement again. -/
theorem Tabled.passUnsubscribe {target : Target} (tabled : session.Tabled exempt)
    (released : ∀ handler2, target = .handler2 handler2 → ¬session.centroSubs.Maps handler2)
    (covers : ∀ handler2, exempt handler2 → handler2.topic = topic ∧
      (target = .all ∨ target = .handler2 handler2)) (sweep : Option Sweep) :
    (session.passUnsubscribe topic target sweep).Tabled (fun _ => False) ∧
      session.Frames (session.passUnsubscribe topic target sweep) :=
  ⟨⟨tabled.sound, tabled.consistent.origUnsubscribe released covers sweep⟩,
    rfl, List.prefix_refl _, fun _ _ _ _ => rfl⟩

/-- All handlers of a topic go. -/
theorem Tabled.unsubscribeAll (tabled : session.Tabled fun _ => False) (topic : JsString)
    (sweep : Option Sweep) :
    ((session.unsubAll topic).passUnsubscribe topic .all sweep).Tabled (fun _ => False) ∧
      session.Frames ((session.unsubAll topic).passUnsubscribe topic .all sweep) := by
  obtain ⟨later, frames, _⟩ := tabled.unsubAll topic
  obtain ⟨ends, further⟩ := later.passUnsubscribe (fun _ same => Target.noConfusion same)
    (fun _ same => ⟨same, .inl rfl⟩) sweep
  exact ⟨ends, frames.trans further⟩

/-- Each round of a loop keeps the tables in agreement. -/
theorem Tabled.sweep (tabled : session.Tabled fun _ => False) (sweep : Sweep) :
    (session.sweep sweep).Tabled (fun _ => False) ∧ session.Frames (session.sweep sweep) := by
  unfold Session.sweep
  split
  · exact ⟨tabled, .refl _⟩
  · exact tabled.unsubscribeAll _ _

/-- A handler of a topic goes. -/
theorem Tabled.unsubscribe (tabled : session.Tabled fun _ => False) (topic : JsString)
    (handler : Nat) :
    ((session.unsub topic handler).2.passUnsubscribe topic (session.unsub topic handler).1
      none).Tabled (fun _ => False) ∧
      session.Frames ((session.unsub topic handler).2.passUnsubscribe topic
        (session.unsub topic handler).1 none) := by
  obtain ⟨later, frames, found⟩ := tabled.unsub topic handler
  obtain ⟨ends, further⟩ := later.passUnsubscribe (fun handler2 => (found handler2).2)
    (fun handler2 spared => spared.elim False.elim fun held =>
      ⟨(tabled.sound.mapped held).2.2.1, .inr ((found handler2).1 held)⟩) none
  exact ⟨ends, frames.trans further⟩

/-- A new wrapper is passed on at once, so that the tables agree again. -/
theorem Tabled.wrap {handler : Nat} {n : JsNumber} {handler2 : Handler2} {left : CentroSubs}
    (tabled : session.Tabled fun _ => False)
    (ran : session.centroSubs.wrap session.number handler n topic = (handler2, left)) :
    (({ session with centroSubs := left }).passSubscribe topic handler2).Tabled (fun _ => False) ∧
      session.Frames (({ session with centroSubs := left }).passSubscribe topic handler2) := by
  obtain ⟨sound, _, _, _, mapped, reused⟩ := tabled.sound.wrap ran
  refine ⟨⟨sound, Client.Agrees.wrap tabled.consistent tabled.sound ran⟩, rfl, ?_, ?_⟩
  · rcases reused with ⟨_, rfl⟩ | ⟨_, _, created⟩
    · exact List.prefix_refl _
    · exact ⟨_, created.symm⟩
  · intro client second elsewhere other
    exact (mapped client second elsewhere).trans (if_neg fun same => other same.1)

/-- Every operation keeps the tables in agreement. -/
theorem Tabled.run {operation : Application.Operation} {arguments : Arguments}
    (tabled : session.Tabled fun _ => False) (ran : operation.run session arguments = some after) :
    after.Tabled (fun _ => False) ∧ session.Frames after := by
  have called : ∀ call : ClientCall, (session.call call).Tabled (fun _ => False) ∧
      session.Frames (session.call call) := fun call =>
    ⟨⟨tabled.sound, tabled.consistent⟩, rfl, List.prefix_refl _, fun _ _ _ _ => rfl⟩
  cases run_cases ran with
  | refused => exact called _
  | published => exact called _
  | subscribed _ _ wrapped => exact tabled.wrap wrapped
  | swept => exact tabled.sweep _
  | unsubscribedAll => exact tabled.unsubscribeAll _ _
  | unsubscribed => exact tabled.unsubscribe _ _

/-- The answer to a request keeps the tables in agreement under the condition. -/
theorem Tabled.response {index : Nat} {ok : Bool} (tabled : session.Tabled fun _ => False)
    (settles : ∀ request, session.client.requests[index]? = some request →
      ({ session.client with
        requests := session.client.requests.eraseIdx index } : Client).Settles
          session.centroSubs request ok)
    (ran : session.response index ok = some after) :
    after.Tabled (fun _ => False) ∧ session.Frames after := by
  obtain ⟨request, found, answers⟩ := response_cases ran
  have answering := Client.answering found
  have settled := settles request found
  have agrees : ∀ {client : Client}, client.Agrees session.number session.centroSubs →
      ({ session with client } : Session).Tabled (fun _ => False) ∧
        session.Frames { session with client } := fun agrees =>
    ⟨⟨tabled.sound, agrees⟩, rfl, List.prefix_refl _, fun _ _ _ _ => rfl⟩
  cases answers with
  | refused => exact agrees (Client.Agrees.rejected tabled.consistent answering settled)
  | subscribed kind =>
      exact agrees (Client.Agrees.subscribed tabled.consistent answering kind settled)
  | unsubscribed kind =>
      exact agrees (Client.Agrees.unsubscribed tabled.consistent answering kind settled)
  | swept kind =>
      obtain ⟨later, frames⟩ :=
        agrees (Client.Agrees.unsubscribed tabled.consistent answering kind settled)
      obtain ⟨ends, further⟩ := later.sweep _
      exact ⟨ends, frames.trans further⟩

end Session

namespace Application

variable {application after : Application}

/-- The answers of the server keep the tables in agreement. -/
def Settles (application : Application) : Event → Prop
  | .response number index ok => ∀ client request, application.clients[number]? = some client →
      client.requests[index]? = some request →
        ({ client with requests := client.requests.eraseIdx index } : Client).Settles
          application.centroSubs request ok
  | _ => True

/-- The tables of every client agree, and only clients that exist have closures. -/
structure Tabled (application : Application) : Prop where
  sound : application.centroSubs.Sound
  agrees : ∀ {number} {client : Client}, application.clients[number]? = some client →
    client.Agrees number application.centroSubs
  bound : ∀ {client handler topic handler2},
    application.centroSubs.mapped client handler topic = some handler2 →
      client < application.clients.length

/-- A session is one client with the maps that all clients share. -/
theorem session?_eq_some {number : Nat} {session : Session}
    (found : application.session? number = some session) :
    application.clients[number]? = some session.client ∧ session.number = number ∧
      session.centroSubs = application.centroSubs := by
  obtain ⟨client, here, rfl⟩ := Option.map_eq_some_iff.mp found
  exact ⟨here, rfl, rfl⟩

/-- The session of a client takes part in the agreement. -/
theorem Tabled.session {number : Nat} {session : Session} (tabled : application.Tabled)
    (found : application.session? number = some session) : session.Tabled fun _ => False := by
  obtain ⟨here, rfl, same⟩ := session?_eq_some found
  exact ⟨same ▸ tabled.sound, same ▸ tabled.agrees here⟩

/-- The functions of one client keep the tables of all clients in agreement. -/
theorem Tabled.put {number : Nat} {session left : Session} (tabled : application.Tabled)
    (found : application.session? number = some session) (later : left.Tabled fun _ => False)
    (frames : session.Frames left) : (application.put left).Tabled := by
  obtain ⟨here, rfl, same⟩ := session?_eq_some found
  have bound : session.number < application.clients.length :=
    (List.getElem?_eq_some_iff.mp here).1
  refine ⟨later.sound, ?_, ?_⟩
  · intro number client listed
    simp only [Application.put, frames.number] at listed
    by_cases own : number = session.number
    · subst own
      rw [List.getElem?_set_self bound] at listed
      obtain rfl := Option.some.inj listed
      exact frames.number ▸ later.consistent
    · rw [List.getElem?_set_ne (Ne.symm own)] at listed
      refine Client.Agrees.frame (tabled.agrees listed) (same ▸ frames.grown) ?_
      intro handler topic
      rw [← same]
      exact frames.mapped number handler topic own
  · intro client handler topic handler2 held
    simp only [Application.put, List.length_set]
    by_cases own : client = session.number
    · exact own ▸ bound
    · have before : application.centroSubs.mapped client handler topic = some handler2 := by
        rw [← same, ← frames.mapped client handler topic own]
        exact held
      exact tabled.bound before

/-- A new client has no handlers and no requests. -/
theorem ready_idle (greeting : Greeting) :
    (Client.ready greeting).requests = [] ∧
      ∀ topic, (Client.ready greeting).handlersOf topic = .empty := by
  unfold Client.ready
  have each : ∀ (topics : List JsString) (client : Client),
      client.requests = [] ∧ (∀ topic, client.handlersOf topic = .empty) →
      (topics.foldl (fun client topic => client.setHandlers topic .empty) client).requests = [] ∧
        ∀ topic, (topics.foldl (fun client topic =>
          client.setHandlers topic .empty) client).handlersOf topic = .empty := by
    intro topics
    induction topics with
    | nil => exact fun _ idle => idle
    | cons topic rest ih =>
        rintro client ⟨requests, handlers⟩
        refine ih _ ⟨by simpa using requests, ?_⟩
        intro other
        rw [Client.handlersOf_setHandlers, handlers]
        split <;> rfl
  exact each _ _ ⟨rfl, fun _ => rfl⟩

/-- Every event keeps the tables in agreement when its answer comes in time. -/
theorem Tabled.step {event : Event} (tabled : application.Tabled)
    (settles : application.Settles event) (stepped : application.step event = some after) :
    after.Tabled := by
  cases event with
  | ready greeting =>
      obtain rfl := Option.some.inj stepped
      obtain ⟨requests, handlers⟩ := ready_idle greeting
      refine ⟨tabled.sound, ?_, fun held => ?_⟩
      · intro number client listed
        rw [List.getElem?_append] at listed
        split at listed
        · exact tabled.agrees listed
        · rw [List.getElem?_singleton] at listed
          split at listed
          · next outside last =>
              obtain rfl := Option.some.inj listed
              constructor
              · intro topic handler2 member
                rw [handlers] at member
                exact absurd member (OrderedSet.not_mem_empty _)
              · intro request member
                rw [requests] at member
                cases member
              · intro topic handler2 member
                rw [handlers] at member
                exact absurd member (OrderedSet.not_mem_empty _)
              · intro handler2 mine held
                exact absurd (mine ▸ tabled.bound held) outside
          · cases listed
      · rw [List.length_append]
        exact Nat.lt_add_right 1 (tabled.bound held)
  | call number operation arguments =>
      obtain ⟨session, left, found, moved, rfl⟩ := call_step stepped
      obtain ⟨later, frames⟩ := (tabled.session found).run moved
      exact tabled.put found later frames
  | response number index ok =>
      obtain ⟨session, left, found, moved, rfl⟩ := response_step stepped
      obtain ⟨here, _, same⟩ := session?_eq_some found
      obtain ⟨later, frames⟩ := (tabled.session found).response
        (fun request asked => same ▸ settles _ request here asked) moved
      exact tabled.put found later frames
  | deliver number topic =>
      obtain ⟨handler2, _, delivered⟩ := Option.bind_eq_some_iff.mp stepped
      obtain ⟨client, _, delivered⟩ := Option.bind_eq_some_iff.mp delivered
      split at delivered
      · split at delivered
        · obtain rfl := Option.some.inj delivered
          exact ⟨tabled.sound, tabled.agrees, tabled.bound⟩
        · exact Option.some.inj delivered ▸ tabled
      · exact Option.some.inj delivered ▸ tabled

/-- The tables agree in every run that settles its answers in time. -/
theorem tabled_of_reachable (reached : system.ReachableUnder Settles application) :
    application.Tabled := by
  refine reached.invariant ?_ ?_
  · exact ⟨CentroSubs.sound_empty, (fun listed => nomatch listed), fun held => nomatch held⟩
  · intro before event after tabled settles stepped
    exact tabled.step settles stepped

/-- Without outstanding requests a client has a closure for a handler under a topic exactly when the
property of the handler holds that closure, there is at most one, and no map is left empty. -/
structure TablesAgree (application : Application) (number : Nat) (client : Client) : Prop where
  same : ∀ handler topic handler2,
    handler2 ∈ client.handlersOf topic ∧ handler2.handler = handler ↔
      application.centroSubs.mapped number handler topic = some handler2
  single : ∀ topic, ∀ first ∈ client.handlersOf topic, ∀ second ∈ client.handlersOf topic,
    first.handler = second.handler → first = second
  inhabited : ∀ handler centroSubs,
    application.centroSubs.clients.get handler = some centroSubs → centroSubs.size ≠ 0 ∧
      ∀ map, centroSubs.get number = some map → (application.centroSubs.handlers map).size ≠ 0

/-- The tables agree in every state that is reached when the answers of the server settle. -/
theorem tables_agree (reached : system.ReachableUnder Settles application) {number : Nat}
    {client : Client} (here : application.clients[number]? = some client)
    (quiet : client.requests = []) : application.TablesAgree number client := by
  have tabled := tabled_of_reachable reached
  have agrees := tabled.agrees here
  have idle : ∀ handler2, ¬client.Removing handler2 ∧ ¬client.Adding handler2 := by
    intro handler2
    constructor <;> rintro ⟨request, member, _⟩ <;> rw [quiet] at member <;> cases member
  have held : ∀ {topic handler2}, handler2 ∈ client.handlersOf topic →
      application.centroSubs.mapped number handler2.handler topic = some handler2 := by
    intro topic handler2 member
    obtain ⟨rfl, rfl, _⟩ := agrees.owned member
    exact (agrees.listed member id).resolve_right (idle handler2).1
  constructor
  · intro handler topic handler2
    constructor
    · rintro ⟨member, rfl⟩
      exact held member
    · intro maps
      obtain ⟨rfl, rfl, rfl, _⟩ := tabled.sound.mapped maps
      exact ⟨(agrees.backed rfl maps).resolve_right (idle handler2).2, rfl⟩
  · intro topic first member second other same
    have left := held member
    rw [same, held other] at left
    exact (Option.some.inj left).symm
  · intro handler centroSubs found
    refine ⟨tabled.sound.clientsInhabited found, ?_⟩
    intro map inside
    have owner : application.centroSubs.find number handler = some map :=
      Option.bind_eq_some_iff.mpr ⟨centroSubs, found, inside⟩
    exact tabled.sound.mapsInhabited owner

/-- The client of the samples has one token. -/
def sampleReply : Greeting := { connid := sampleConnid, prefixes := [text "a."], subscriptions := none }

def sampleSubscribe : Event :=
  .call 0 .subscribe { first := .string (text "b"), second := .function 0 }

def sampleUnsubscribe : Event :=
  .call 0 .unsubscribe { first := .string (text "b"), second := .function 0 }

/-- A subscription is acknowledged while its closure is held. -/
theorem tables_agree_sample : ∃ application client,
    system.run {} [.ready sampleReply, sampleSubscribe, .response 0 0 true] = some application ∧
    application.clients[0]? = some client ∧ client.requests = [] ∧
    application.TablesAgree 0 client := by
  obtain ⟨before, application, client, ran, stepped, whole, here, quiet⟩ :
      ∃ before application client,
        system.run {} [.ready sampleReply, sampleSubscribe] = some before ∧
        system.step before (.response 0 0 true) = some application ∧
        system.run {} [.ready sampleReply, sampleSubscribe, .response 0 0 true] =
          some application ∧
        application.clients[0]? = some client ∧ client.requests = [] :=
    ⟨_, _, _, rfl, rfl, rfl, rfl, rfl⟩
  have meets : system.AllSteps Settles system.initial [.ready sampleReply, sampleSubscribe] :=
    fun _ _ => ⟨trivial, fun _ _ => ⟨trivial, trivial⟩⟩
  have reached : system.ReachableUnder Settles before :=
    TransitionSystem.ReachableUnder.initial.run meets ran
  have settles : before.Settles (.response 0 0 true) := by
    obtain rfl := Option.some.inj ran
    intro client request listed asked
    obtain rfl := Option.some.inj listed
    obtain rfl := Option.some.inj asked
    exact .inl rfl
  exact ⟨application, client, whole, here, quiet,
    tables_agree (.step reached settles stepped) here quiet⟩

/-- An unsubscription during the request leaves a closure that nothing holds in `subs`, and a
rejected subscription leaves a closure that is not in `subs`. -/
theorem tables_disagree :
    (∃ application client handler2,
      system.run {} [.ready sampleReply, sampleSubscribe, sampleUnsubscribe, .response 0 0 true] =
        some application ∧
      application.clients[0]? = some client ∧ client.requests = [] ∧
      handler2 ∈ client.handlersOf (text "a.b") ∧
      application.centroSubs.mapped 0 handler2.handler (text "a.b") = none) ∧
    ∃ application client handler2,
      system.run {} [.ready sampleReply, sampleSubscribe, .response 0 0 false] = some application ∧
      application.clients[0]? = some client ∧ client.requests = [] ∧
      application.centroSubs.mapped 0 0 (text "a.b") = some handler2 ∧
      handler2 ∉ client.handlersOf (text "a.b") := by
  constructor
  · exact ⟨_, _, ⟨0, 0, 0, .zero, text "a.b", 0⟩, rfl, rfl, rfl, by decide, by decide⟩
  · exact ⟨_, _, ⟨0, 0, 0, .zero, text "a.b", 0⟩, rfl, rfl, rfl, by decide, by decide⟩

end Application
end Centro
