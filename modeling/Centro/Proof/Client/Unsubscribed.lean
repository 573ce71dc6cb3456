import Centro.Construction.Unsubscription
import Centro.Proof.Client.Scope

namespace Centro

open Library

namespace Client

variable {client : Client} {topic : JsString}

/-- The topics come in the order of their places. -/
structure Placed (client : Client) : Prop where
  sorted : (client.subs.entries.map fun entry => entry.2.place).Pairwise (· < ·)
  bound : ∀ place ∈ client.subs.entries.map fun entry => entry.2.place, place < client.places

/-- A client with fewer topics is still in the order of its places. -/
theorem Placed.mono {after : Client} (placed : client.Placed)
    (places : client.places ≤ after.places)
    (rest : (after.subs.entries.map fun entry => entry.2.place).Sublist
      (client.subs.entries.map fun entry => entry.2.place)) : after.Placed where
  sorted := placed.sorted.sublist rest
  bound place member := Nat.lt_of_lt_of_le (placed.bound place (rest.subset member)) places

/-- New handlers of a topic keep its place. -/
theorem Placed.setHandlers (placed : client.Placed) (topic : JsString)
    (handlers : OrderedSet Handler2) : (client.setHandlers topic handlers).Placed := by
  unfold Client.setHandlers
  cases found : client.subs.get topic with
  | some subscribers =>
      refine placed.mono (Nat.le_refl _) ?_
      have present : topic ∈ client.subs.keys := OrderedMap.mem_keys.mpr ⟨_, found⟩
      have same : ((client.subs.set topic { subscribers with handlers }).entries.map
          fun entry => entry.2.place) = client.subs.entries.map fun entry => entry.2.place := by
        unfold OrderedMap.set
        rw [dif_pos present, List.map_map]
        refine List.map_congr_left fun entry member => ?_
        by_cases here : entry.1 = topic
        · have stored : client.subs.get topic = some entry.2 :=
            OrderedMap.get_eq_some.mpr (here ▸ member)
          obtain rfl := Option.some.inj (found.symm.trans stored)
          simp [here]
        · simp [here]
      exact same ▸ List.Sublist.refl _
  | none =>
      have entries := OrderedMap.entries_set_of_absent
        { place := client.places, handlers := handlers } found
      constructor
      · rw [entries, List.map_append, List.pairwise_append]
        refine ⟨placed.sorted, List.pairwise_singleton _ _, ?_⟩
        intro place member last single
        rw [List.mem_singleton.mp single]
        exact placed.bound place member
      · intro place member
        rw [entries, List.map_append, List.mem_append] at member
        rcases member with old | new
        · exact Nat.lt_succ_of_lt (placed.bound place old)
        · rw [List.mem_singleton.mp new]
          exact Nat.lt_succ_self _

/-- The answer to `unsubscribe` keeps the order of the places. -/
theorem Placed.unsubscribed (placed : client.Placed) (topic : JsString) (target : Target) :
    (client.unsubscribed topic target).Placed := by
  unfold Client.unsubscribed
  split
  · exact placed
  · split
    · exact placed.mono (Nat.le_refl _) (List.filter_sublist.map _)
    · exact placed.setHandlers topic _

/-- A new client has its topics in order. -/
theorem placed_ready (greeting : Greeting) : (Client.ready greeting).Placed := by
  have each : ∀ (topics : List JsString) {client : Client}, client.Placed →
      (topics.foldl (fun client topic => client.setHandlers topic .empty) client).Placed := by
    intro topics
    induction topics with
    | nil => exact id
    | cons topic rest ih => exact fun placed => ih (placed.setHandlers topic .empty)
  exact each _ ⟨List.Pairwise.nil, by simp⟩

theorem Placed.ask (placed : client.Placed) (request : Request) : (client.ask request).Placed :=
  ⟨placed.sorted, placed.bound⟩

/-- The method `subscribe` puts a new topic behind the others. -/
theorem Placed.origSubscribe (placed : client.Placed) (topic : JsString) (handler2 : Handler2) :
    (client.origSubscribe topic handler2).Placed := by
  unfold Client.origSubscribe
  split
  · exact placed.setHandlers topic _
  · exact placed.ask _

theorem Placed.origUnsubscribe (placed : client.Placed) (topic : JsString) (target : Target)
    (sweep : Option Sweep) : (client.origUnsubscribe topic target sweep).Placed := by
  unfold Client.origUnsubscribe
  split
  · exact placed.ask _
  · exact placed.unsubscribed topic target

end Client

namespace Session

variable {session after : Session} {topic : JsString}

/-- A round of a loop keeps the order of the places. -/
theorem placed_sweep (placed : session.client.Placed) (sweep : Sweep) :
    (session.sweep sweep).client.Placed := by
  unfold Session.sweep
  split
  · exact placed
  · next topic subscribers found =>
      have same := (session.unsubAll_eq topic).2.1
      refine Client.Placed.origUnsubscribe ?_ _ _ _
      rw [same]
      exact placed

/-- An operation keeps the order of the places. -/
theorem placed_run {operation : Application.Operation} {arguments : Arguments}
    (placed : session.client.Placed) (ran : operation.run session arguments = some after) :
    after.client.Placed := by
  cases run_cases ran with
  | refused => exact placed
  | published => exact placed
  | subscribed => exact placed.origSubscribe _ _
  | swept => exact placed_sweep placed _
  | @unsubscribedAll topic =>
      have same := (session.unsubAll_eq (session.client.scopedTopic arguments.shift.1 topic)).2.1
      refine Client.Placed.origUnsubscribe ?_ _ _ _
      rw [same]
      exact placed
  | unsubscribed => exact placed.origUnsubscribe _ _ _

/-- An answer keeps the order of the places. -/
theorem placed_response {index : Nat} {ok : Bool} (placed : session.client.Placed)
    (ran : session.response index ok = some after) : after.client.Placed := by
  obtain ⟨request, -, answers⟩ := response_cases ran
  have fewer : Client.Placed { session.client with
      requests := session.client.requests.eraseIdx index } := ⟨placed.sorted, placed.bound⟩
  cases answers with
  | refused => exact fewer
  | subscribed => exact fewer.setHandlers _ _
  | unsubscribed => exact fewer.unsubscribed _ _
  | swept => exact placed_sweep (fewer.unsubscribed _ _) _

end Session

namespace Application

/-- In every run the topics of each client come in the order of their places. -/
theorem placed_of_reachable {application : Application} (reached : system.Reachable application)
    {number : Nat} {client : Client} (here : application.clients[number]? = some client) :
    client.Placed := by
  have all : ∀ client ∈ application.clients, client.Placed := by
    refine @TransitionSystem.ReachableUnder.invariant _ _ _ _
      (fun application => ∀ client ∈ application.clients, client.Placed) ?_ ?_ _ reached
    · exact fun client member => by cases member
    intro before event after placed _ stepped
    have put : ∀ {number : Nat} {session left : Session}, before.session? number = some session →
        (session.client.Placed → left.client.Placed) →
          ∀ client ∈ (before.put left).clients, client.Placed := by
      intro number session left found kept client member
      obtain ⟨own, known, rfl⟩ := Option.map_eq_some_iff.mp found
      rcases List.mem_or_eq_of_mem_set member with old | rfl
      · exact placed client old
      · exact kept (placed own (List.mem_of_getElem? known))
    cases event with
    | ready greeting =>
        obtain rfl := Option.some.inj stepped
        intro client member
        rcases mem_concat.mp member with old | rfl
        · exact placed client old
        · exact Client.placed_ready greeting
    | call number operation arguments =>
        obtain ⟨session, left, found, ran, rfl⟩ := call_step stepped
        exact put found fun own => Session.placed_run own ran
    | response number index ok =>
        obtain ⟨session, left, found, ran, rfl⟩ := response_step stepped
        exact put found fun own => Session.placed_response own ran
    | deliver number topic =>
        rcases deliver_cases stepped with rfl | ⟨_, _, _, _, rfl⟩ <;> exact placed
  exact all client (List.mem_of_getElem? here)

end Application

namespace Unsubscription

/-- These calls visit one topic. -/
def visit (number : Nat) (entry : JsString × Subscribers) : List ClientCall :=
  entry.2.handlers.items.map (fun handler2 => .unsub number handler2.handler entry.1) ++
    [.unsubscribe number entry.1 .all]

/-- The handlers of one topic are registered for it. -/
def pairs (entry : JsString × Subscribers) : List (Nat × JsString) :=
  entry.2.handlers.items.map fun handler2 => (handler2.handler, entry.1)

/-- The loop visits the listed topics in their order, calls back once and leaves the other topics
and everything else of the client as they were. -/
structure Ends (before : Unsubscription) (topics others : List (JsString × Subscribers))
    (after : Unsubscription) : Prop where
  sweep : after.sweep = none
  calledBack : after.calledBack = before.calledBack + 1
  client : after.session.client =
    { before.session.client with subs := after.session.client.subs }
  subs : after.session.client.subs.entries = others
  calls : after.session.calls =
    before.session.calls ++ topics.flatMap (visit before.session.number)
  unregisters : before.session.Unregisters (topics.flatMap pairs) after.session

variable {loop : Unsubscription} {scope : JsString} {place : Nat}

/-- The loop as it is when the server has acknowledged that a topic is gone. -/
def visited (loop : Unsubscription) (topic : JsString) (sweep : Sweep) : Unsubscription :=
  { loop with
    session := { loop.session.unsubAll topic with
      client := { loop.session.client with subs := loop.session.client.subs.delete topic }
      calls := (loop.session.unsubAll topic).calls ++
        [.unsubscribe loop.session.number topic .all] }
    sweep := some sweep }

/-- A loop advances by one round of its session. -/
theorem advance_session (loop : Unsubscription) (sweep : Sweep) :
    (loop.advance sweep).session = loop.session.sweep sweep := by
  rw [advance]
  split
  · next none => rw [Session.sweep, show loop.session.client.subs.entries.find? _ = _ from none]
  · rfl

/-- A round of the loop visits the next topic. -/
theorem round {entry : JsString × Subscribers}
    (found : upcoming loop.session { scope, place } = some entry) :
    (loop.advance { scope, place }).acknowledged =
      some ((loop.visited entry.1 { scope, place := entry.2.place + 1 }).advance
        { scope, place := entry.2.place + 1 }) := by
  have stored : loop.session.client.subs.get entry.1 = some entry.2 :=
    OrderedMap.get_eq_some.mpr (List.mem_of_find?_eq_some found)
  have advanced : loop.advance { scope, place } = { loop with
      session := loop.session.sweep { scope, place }
      sweep := some { scope, place := entry.2.place + 1 } } := by
    rw [advance, found]
  rw [advanced, Session.sweep_found found]
  simp [acknowledged, Client.ask, Client.unsubscribed, stored, Client.remaining, visited]

/-- The loop goes on as the client does when the server answers its last request. -/
theorem round_session {entry : JsString × Subscribers} {after : Unsubscription}
    (found : upcoming loop.session { scope, place } = some entry)
    (stepped : (loop.advance { scope, place }).acknowledged = some after) :
    (loop.advance { scope, place }).session.response loop.session.client.requests.length true =
      some after.session := by
  have stored : loop.session.client.subs.get entry.1 = some entry.2 :=
    OrderedMap.get_eq_some.mpr (List.mem_of_find?_eq_some found)
  obtain rfl := Option.some.inj ((round found).symm.trans stepped)
  rw [advance_session, advance_session, Session.sweep_found found]
  simp [Session.response, Client.ask, List.eraseIdx_append_of_length_le, Session.answered,
    Client.unsubscribed, stored, Client.remaining, visited]

/-- The state after a round has everything of the state before but one topic. -/
theorem visited_entry {entry : JsString × Subscribers} {front rest : List (JsString × Subscribers)}
    (listed : loop.session.client.subs.entries = front ++ entry :: rest) (sweep : Sweep) :
    let after := loop.visited entry.1 sweep
    after.session.client.subs.entries = front ++ rest ∧
      after.session.number = loop.session.number ∧
      after.session.calls = loop.session.calls ++ visit loop.session.number entry ∧
      loop.session.Unregisters (pairs entry) after.session := by
  have stored : loop.session.client.subs.get entry.1 = some entry.2 := by
    rw [OrderedMap.get_eq_some, listed]
    simp
  have handlers : loop.session.client.handlersOf entry.1 = entry.2.handlers := by
    simp [Client.handlersOf, stored]
  obtain ⟨number, -, calls, unregisters⟩ := loop.session.unsubAll_eq entry.1
  rw [handlers] at calls unregisters
  refine ⟨OrderedMap.entries_delete listed, number, ?_, unregisters.sound, unregisters.mapped⟩
  simp only [visited, calls, visit, List.append_assoc]

/-- The server acknowledges each request of the loop, and then it has ended. -/
theorem ends (rest : List (JsString × Subscribers)) {front : List (JsString × Subscribers)}
    (listed : loop.session.client.subs.entries = front ++ rest)
    (passed : ∀ entry ∈ front, place ≤ entry.2.place → scope.isPrefixOf entry.1 = false)
    (sorted : (rest.map fun entry => entry.2.place).Pairwise (· < ·))
    (later : ∀ entry ∈ rest, place ≤ entry.2.place) {session : Session} {initial : JsString} :
    let topics := rest.filter fun entry => scope.isPrefixOf entry.1
    ∃ last, (system session initial).run (loop.advance { scope, place })
        (List.replicate topics.length ()) = some last ∧
      loop.Ends topics (front ++ rest.filter fun entry => !scope.isPrefixOf entry.1) last := by
  induction rest generalizing loop place front with
  | nil =>
      have none : upcoming loop.session { scope, place } = none := by
        rw [upcoming, listed, List.append_nil, List.find?_eq_none]
        intro entry member
        by_cases reached : place ≤ entry.2.place
        · simp [passed entry member reached]
        · simp [reached]
      refine ⟨_, rfl, ?_⟩
      rw [advance, none]
      exact ⟨rfl, rfl, rfl, listed, (List.append_nil _).symm, id, fun _ _ _ _ => by simp⟩
  | cons head rest ih =>
      rw [List.map_cons, List.pairwise_cons] at sorted
      obtain ⟨ahead, sorted⟩ := sorted
      have reached := later head List.mem_cons_self
      have behind : ∀ entry ∈ rest, head.2.place < entry.2.place := fun entry member =>
        ahead entry.2.place (List.mem_map_of_mem member)
      cases inside : scope.isPrefixOf head.1 with
      | false =>
          obtain ⟨last, ran, ends⟩ := @ih loop place (front ++ [head])
            (by rw [listed, List.append_assoc, List.singleton_append])
            (fun entry member late => (mem_concat.mp member).elim (passed entry · late)
              fun same => same ▸ inside)
            sorted (fun entry member => Nat.le_of_lt (Nat.lt_of_le_of_lt reached (behind entry member)))
          refine ⟨last, ?_, ?_⟩
          · simpa [inside] using ran
          · simpa [inside] using ends
      | true =>
          have found : upcoming loop.session { scope, place } = some head := by
            have skipped : front.find? (fun entry =>
                decide (place ≤ entry.2.place) && scope.isPrefixOf entry.1) = none := by
              rw [List.find?_eq_none]
              intro entry member
              by_cases late : place ≤ entry.2.place
              · simp [passed entry member late]
              · simp [late]
            rw [upcoming, listed, List.find?_append, skipped, Option.none_or, List.find?_cons]
            simp [reached, inside]
          obtain ⟨entries, number, calls, unregisters⟩ :=
            visited_entry listed { scope, place := head.2.place + 1 }
          obtain ⟨last, ran, ends⟩ := @ih (loop.visited head.1 { scope, place := head.2.place + 1 })
            (head.2.place + 1) front entries
            (fun entry member late => passed entry member
              (Nat.le_trans reached (Nat.le_of_succ_le late))) sorted behind
          refine ⟨last, ?_, ends.sweep, ends.calledBack, ends.client, ?_, ?_, ?_⟩
          · rw [List.filter_cons, if_pos inside, List.length_cons, List.replicate_succ]
            exact Option.bind_eq_some_iff.mpr ⟨_, round found, ran⟩
          · rw [ends.subs]
            simp [inside]
          · rw [ends.calls, calls, number, List.append_assoc]
            simp [inside]
          · have both := unregisters.trans number ends.unregisters
            simpa [inside] using both

end Unsubscription

/-- These invariants hold for each client while its application runs. -/
structure Session.Orderly (session : Session) : Prop where
  placed : session.client.Placed
  sound : session.centroSubs.Sound

/-- A call of `unsubscribe` without a topic begins the loop. -/
theorem Unsubscription.start_session {session left : Session} {arguments : Arguments} {index : Nat}
    {scope : JsString} (token : arguments.shift.1.index = some index)
    (listed : session.client.prefixes[index]? = some scope) (unnamed : arguments.topic = none)
    (ran : session.unsubscribe arguments = some left) : (start session scope).session = left := by
  have small : arguments.shift.1.atLeast session.client.prefixes.length = false := by
    rw [JsNumber.index_eq_some.mp token, JsNumber.atLeast_natCast]
    simpa using (List.getElem?_eq_some_iff.mp listed).1
  rw [start, advance_session]
  cases Session.run_cases (show Application.Operation.unsubscribe.run session arguments = _ from ran) with
  | refused large => exact absurd large (by simp [small])
  | swept => rw [Client.element, token, Option.bind_some, listed, Option.getD_some]
  | published _ _ named | subscribed _ named | unsubscribedAll _ named | unsubscribed _ _ named =>
      rw [unnamed] at named
      cases named

open Unsubscription in
/-- A call of `unsubscribe` for a token visits each topic that begins with the prefix of the token
once and in their order, ends with one call of its callback without an error, and leaves all other
topics and registrations as they were. So each topic of another token with a prefix of the same
length stays. -/
theorem token_unsubscribed :
    (∀ application number session, Application.system.Reachable application →
      application.session? number = some session → session.Orderly) ∧
    ∀ (session left : Session) (arguments : Arguments) (index : Nat) (scope : JsString),
      session.Orderly → session.client.prefixes.Nodup → arguments.shift.1.index = some index →
      session.client.prefixes[index]? = some scope → arguments.topic = none →
      session.unsubscribe arguments = some left →
      let topics := session.client.subs.entries.filter fun entry => scope.isPrefixOf entry.1
      (system session scope).initial.session = left ∧
      ∃ last, (system session scope).run (system session scope).initial
          (List.replicate topics.length ()) = some last ∧
        Ends { session, sweep := none } topics
          (session.client.subs.entries.filter fun entry => !scope.isPrefixOf entry.1) last ∧
        ∀ other own, other ≠ index → session.client.prefixes[other]? = some own →
          own.length = scope.length → ∀ entry, own <+: entry.1 →
            (entry ∈ last.session.client.subs.entries ↔ entry ∈ session.client.subs.entries) := by
  refine ⟨fun application number session reached found => ?_, ?_⟩
  · obtain ⟨client, here, rfl⟩ := Option.map_eq_some_iff.mp found
    exact ⟨Application.placed_of_reachable reached here,
      (Application.explained_of_reachable reached).registers.sound⟩
  · intro session left arguments index scope orderly different token listed unnamed ran topics
    refine ⟨start_session token listed unnamed ran, ?_⟩
    obtain ⟨last, ranTo, ended⟩ := @ends { session, sweep := none } scope 0
      session.client.subs.entries [] rfl (fun _ member => by cases member) orderly.placed.sorted
      (fun _ _ => Nat.zero_le _) session scope
    refine ⟨last, ranTo, ended, fun other own apart known size entry begins => ?_⟩
    have foreign : scope.isPrefixOf entry.1 = false := by
      rw [Bool.eq_false_iff, ne_eq, List.isPrefixOf_iff_prefix]
      intro inside
      have same := (List.prefix_of_prefix_length_le begins inside size.le).eq_of_length size
      subst same
      obtain ⟨bound, here⟩ := List.getElem?_eq_some_iff.mp known
      exact apart ((List.getElem?_inj bound different).mp (known.trans listed.symm))
    rw [ended.subs]
    simp [foreign]

/-- A client subscribes to topics of two tokens. -/
def sampleSubscribed : List Application.Event :=
  [.ready { connid := sampleConnid, prefixes := [text "a.", text "b."], subscriptions := none },
    .call 0 .subscribe { first := .string (text "x"), second := .function 0 }, .response 0 0 true,
    .call 0 .subscribe
      { first := .number (.finite 1), second := .string (text "x"), third := .function 0 },
    .response 0 0 true,
    .call 0 .subscribe { first := .string (text "y"), second := .function 1 }, .response 0 0 true]

open Unsubscription in
theorem token_unsubscribed_sample : ∃ application session left last,
    Application.system.run {} sampleSubscribed = some application ∧
    application.session? 0 = some session ∧
    session.unsubscribe { first := .function 2 } = some left ∧
    (system session (text "a.")).run (start session (text "a.")) [(), ()] = some last ∧
    last.calledBack = 1 ∧
    ∀ entry, text "b." <+: entry.1 →
      (entry ∈ last.session.client.subs.entries ↔ entry ∈ session.client.subs.entries) := by
  obtain ⟨application, session, left, ran, found, called, two, prefixes⟩ :
      ∃ application session left,
        Application.system.run {} sampleSubscribed = some application ∧
        application.session? 0 = some session ∧
        session.unsubscribe { first := .function 2 } = some left ∧
        (session.client.subs.entries.filter fun entry =>
          (text "a.").isPrefixOf entry.1).length = 2 ∧
        session.client.prefixes = [text "a.", text "b."] := ⟨_, _, _, rfl, rfl, rfl, by decide, rfl⟩
  obtain ⟨orderly, loops⟩ := token_unsubscribed
  obtain ⟨-, last, ranTo, ended, stays⟩ := loops session left { first := .function 2 } 0 (text "a.")
    (orderly application 0 session (TransitionSystem.reachable_of_run ran) found)
    (by rw [prefixes]; decide) rfl (by rw [prefixes]; rfl) rfl called
  rw [two] at ranTo
  exact ⟨application, session, left, last, ran, found, called, ranTo, ended.calledBack,
    stays 1 (text "b.") Nat.one_ne_zero (by rw [prefixes]; rfl) rfl⟩

end Centro
