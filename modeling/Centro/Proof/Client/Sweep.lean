import Centro.Proof.Client.Delivery
import Centro.Proof.Client.Subscribers

namespace Centro

open Library

namespace Session

/-- The server acknowledges the first outstanding request a number of times. -/
def acknowledged : Nat → Session → Option Session
  | 0, session => some session
  | count + 1, session => (session.response 0 true).bind (acknowledged count)

variable {session after : Session} {topic scope : JsString}

/-- These registrations of the client are gone, and its calls of `unsub` are listed. -/
structure Unregisters (session : Session) (pairs : List (Nat × JsString)) (after : Session) :
    Prop where
  sound : session.centroSubs.Sound → after.centroSubs.Sound
  mapped : session.centroSubs.Sound → ∀ client handler topic,
    after.centroSubs.mapped client handler topic =
      if client = session.number ∧ (handler, topic) ∈ pairs then none
      else session.centroSubs.mapped client handler topic

theorem unregisters_unsub (session : Session) (topic : JsString) (handler : Nat) :
    session.Unregisters [(handler, topic)] (session.unsub topic handler).2 := by
  rcases ran : session.centroSubs.unsub session.number handler topic with ⟨target, left⟩
  have result : (session.unsub topic handler).2.centroSubs = left := by simp [unsub, ran, call]
  refine ⟨fun sound => ?_, fun sound client other elsewhere => ?_⟩
  · rw [result]
    exact (sound.unsub ran).1
  · rw [result, (sound.unsub ran).2.2.2 client other elsewhere]
    simp

theorem Unregisters.trans {middle : Session} {pairs more : List (Nat × JsString)}
    (first : session.Unregisters pairs middle) (number : middle.number = session.number)
    (second : middle.Unregisters more after) : session.Unregisters (pairs ++ more) after where
  sound sound := second.sound (first.sound sound)
  mapped sound client handler topic := by
    rw [second.mapped (first.sound sound), first.mapped sound, number]
    by_cases own : client = session.number
    · by_cases late : (handler, topic) ∈ more <;> simp [own, late]
    · simp [own]

/-- The loop over the handlers of a topic leaves the client alone. -/
theorem unsubAll_eq (session : Session) (topic : JsString) :
    (session.unsubAll topic).number = session.number ∧
      (session.unsubAll topic).client = session.client ∧
      (session.unsubAll topic).calls = session.calls ++
        (session.client.handlersOf topic).items.map (fun handler2 =>
          .unsub session.number handler2.handler topic) ∧
      session.Unregisters ((session.client.handlersOf topic).items.map fun handler2 =>
        (handler2.handler, topic)) (session.unsubAll topic) := by
  have each : ∀ (items : List Handler2) (session : Session),
      let left := items.foldl (fun session handler2 => (session.unsub topic handler2.handler).2)
        session
      left.number = session.number ∧ left.client = session.client ∧
        left.calls = session.calls ++
          items.map (fun handler2 => .unsub session.number handler2.handler topic) ∧
        session.Unregisters (items.map fun handler2 => (handler2.handler, topic)) left := by
    intro items
    induction items with
    | nil => exact fun session => ⟨rfl, rfl, (List.append_nil _).symm, id, fun _ _ _ _ => by simp⟩
    | cons item rest ih =>
        intro session
        obtain ⟨number, client, calls, unregisters⟩ := ih (session.unsub topic item.handler).2
        have first := session.unregisters_unsub topic item.handler
        refine ⟨number, client, ?_, first.trans rfl unregisters⟩
        rw [List.map_cons, List.append_cons]
        exact calls
  exact each _ session

/-- The server is asked about the next topic. -/
theorem sweep_found {sweep : Sweep} {entry : JsString × Subscribers}
    (found : (session.client.subs.entries.find? fun entry =>
      decide (sweep.place ≤ entry.2.place) && sweep.scope.isPrefixOf entry.1) = some entry) :
    session.sweep sweep = { session.unsubAll entry.1 with
      client := session.client.ask
        { topic := entry.1, kind := .unsubscribe .all
          sweep := some { scope := sweep.scope, place := entry.2.place + 1 } }
      calls := (session.unsubAll entry.1).calls ++ [.unsubscribe session.number entry.1 .all] } := by
  have stored : session.client.subs.get entry.1 = some entry.2 :=
    OrderedMap.get_eq_some.mpr (List.mem_of_find?_eq_some found)
  obtain ⟨number, client, -, -⟩ := session.unsubAll_eq entry.1
  have asks : session.client.asks entry.1 .all = true := by simp [Client.asks, stored]
  rw [Session.sweep, found]
  simp [Session.passUnsubscribe, Client.origUnsubscribe, client, number, asks, Session.call]

theorem unsubAll_of_empty (empty : session.client.handlersOf topic = .empty) :
    session.unsubAll topic = session := by
  rw [unsubAll, empty]
  rfl

/-- A loop over topics without handlers comes to each topic in its scope as the server acknowledges
the topics before. -/
theorem sweep_reaches (entries : List (JsString × Subscribers)) {session : Session} {place : Nat}
    {front : List (JsString × Subscribers)}
    (listed : session.client.subs.entries = front ++ entries)
    (passed : ∀ entry ∈ front, place ≤ entry.2.place → scope.isPrefixOf entry.1 = false)
    (sorted : entries.Pairwise fun first second => first.2.place < second.2.place)
    (later : ∀ entry ∈ entries, place ≤ entry.2.place ∧ entry.2.handlers = .empty)
    (idle : session.client.requests = []) {entry : JsString × Subscribers} (member : entry ∈ entries)
    (inside : scope.isPrefixOf entry.1 = true) :
    ∃ count last sweep, acknowledged count (session.sweep { scope, place }) = some last ∧
      last.client.requests = [{ topic := entry.1, kind := .unsubscribe .all, sweep }] := by
  induction entries generalizing session place front with
  | nil => cases member
  | cons head rest ih =>
      have before : front.find? (fun entry =>
          decide (place ≤ entry.2.place) && scope.isPrefixOf entry.1) = none := by
        rw [List.find?_eq_none]
        intro other early
        by_cases reached : place ≤ other.2.place
        · simp [passed other early reached]
        · simp [reached]
      have reached := (later head List.mem_cons_self).1
      have ordered := List.pairwise_cons.mp sorted
      by_cases here : scope.isPrefixOf head.1 = true
      · have found : session.client.subs.get head.1 = some head.2 := by
          rw [OrderedMap.get_eq_some, listed]
          simp
        have empty : session.client.handlersOf head.1 = .empty := by
          simp [Client.handlersOf, found, (later head List.mem_cons_self).2]
        let request : Request :=
          { topic := head.1, kind := .unsubscribe .all,
            sweep := some { scope, place := head.2.place + 1 } }
        have swept : session.sweep { scope, place } =
            ({ session with client := session.client.ask request }).call
              (.unsubscribe session.number head.1 .all) := by
          have next : (session.client.subs.entries.find? fun entry =>
              decide (place ≤ entry.2.place) && scope.isPrefixOf entry.1) = some head := by
            rw [listed, List.find?_append, before]
            simp [reached, here]
          rw [sweep_found next, unsubAll_of_empty empty]
          rfl
        rcases List.mem_cons.mp member with rfl | tail
        · refine ⟨0, _, request.sweep, rfl, ?_⟩
          rw [swept]
          simp [call, Client.ask, idle, request]
        · let next : Session := { session with
            client := { session.client with subs := session.client.subs.delete head.1 }
            calls := session.calls ++ [.unsubscribe session.number head.1 .all] }
          have responded : (session.sweep { scope, place }).response 0 true =
              some (next.sweep { scope, place := head.2.place + 1 }) := by
            rw [swept]
            simp [response, call, Client.ask, idle, answered, request, Client.unsubscribed, found,
              Client.remaining, next]
          obtain ⟨count, last, sweep, ran, requests⟩ := @ih next _ front
            (OrderedMap.entries_delete listed)
            (fun other early past => passed other early (Nat.le_of_lt (lt_of_le_of_lt reached past)))
            ordered.2
            (fun other late => ⟨ordered.1 other late, (later other (List.mem_cons_of_mem _ late)).2⟩)
            idle tail
          exact ⟨count + 1, last, sweep, by rw [acknowledged, responded]; exact ran, requests⟩
      · have apart : scope.isPrefixOf head.1 = false := eq_false_of_ne_true here
        have tail : entry ∈ rest := by
          rcases List.mem_cons.mp member with rfl | tail
          · exact absurd inside here
          · exact tail
        refine @ih session _ (front ++ [head]) (by simp [listed]) ?_ ordered.2
          (fun other late => later other (List.mem_cons_of_mem _ late)) idle tail
        intro other early
        rcases List.mem_append.mp early with old | new
        · exact passed other old
        · rw [List.mem_singleton.mp new]
          exact fun _ => apart

end Session

namespace Application

variable {application : Application} {number : Nat} {session : Session}

/-- The next function of the client sees what the last one left. -/
theorem session?_put {old : Session} (found : application.session? number = some old)
    (own : session.number = number) : (application.put session).session? number = some session := by
  obtain ⟨client, here, _⟩ := Option.map_eq_some_iff.mp found
  have bound := (List.getElem?_eq_some_iff.mp here).1
  subst own
  simp [session?, put, List.getElem?_set_self bound]

/-- The answers that a client gets are answers of the application's server. -/
theorem run_acknowledged {count : Nat} {last : Session}
    (found : application.session? number = some session)
    (ran : session.acknowledged count = some last) :
    ∃ after, system.run application (List.replicate count (.response number 0 true)) = some after ∧
      after.session? number = some last := by
  induction count generalizing application session with
  | zero =>
      obtain rfl := Option.some.inj ran
      exact ⟨application, rfl, found⟩
  | succ count ih =>
      obtain ⟨next, responded, moved⟩ := Option.bind_eq_some_iff.mp ran
      have own : next.number = number := by
        obtain ⟨_, _, rfl⟩ := Option.map_eq_some_iff.mp found
        exact (Session.follows_response responded).number
      obtain ⟨after, rest, here⟩ := ih (session?_put found own) moved
      refine ⟨after, ?_, here⟩
      have stepped : application.step (.response number 0 true) = some (application.put next) := by
        simp [step, found, responded]
      rw [List.replicate_succ, TransitionSystem.run]
      exact Option.bind_eq_some_iff.mpr ⟨_, stepped, rest⟩

end Application
end Centro
