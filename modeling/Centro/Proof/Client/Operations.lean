import Centro.Construction.Application

namespace Centro

open Library

/-- The topic that a function of a client gets. A call of `unsubscribe` may be without one. -/
def Arguments.topic (arguments : Arguments) : Option JsString :=
  match arguments.shift.2.second with
  | .string topic => some topic
  | _ => none

namespace Session

variable {session after : Session} {arguments : Arguments}

/-- A call of a function of a client reports that the token is out of range, or it does one of these
things for the scoped topic or, without a topic, for the scope. -/
inductive Ran (session : Session) (arguments : Arguments) : Session → Prop where
  | refused (large : arguments.shift.1.atLeast session.client.prefixes.length = true) :
      Ran session arguments (session.call (.tokenOutOfRange session.number))
  | published {topic : JsString} (options : Option MessageOptions)
      (small : arguments.shift.1.atLeast session.client.prefixes.length = false)
      (named : arguments.topic = some topic) :
      Ran session arguments (session.call (.publish session.number
        (session.client.scopedTopic arguments.shift.1 topic) options))
  | subscribed {topic : JsString} {handler : Nat} {handler2 : Handler2} {left : CentroSubs}
      (small : arguments.shift.1.atLeast session.client.prefixes.length = false)
      (named : arguments.topic = some topic)
      (wrapped : session.centroSubs.wrap session.number handler arguments.shift.1
        (session.client.scopedTopic arguments.shift.1 topic) = (handler2, left)) :
      Ran session arguments (({ session with centroSubs := left }).passSubscribe
        (session.client.scopedTopic arguments.shift.1 topic) handler2)
  | swept (small : arguments.shift.1.atLeast session.client.prefixes.length = false)
      (unnamed : arguments.topic = none) :
      Ran session arguments
        (session.sweep { scope := session.client.element arguments.shift.1.index, place := 0 })
  | unsubscribedAll {topic : JsString}
      (small : arguments.shift.1.atLeast session.client.prefixes.length = false)
      (named : arguments.topic = some topic) :
      Ran session arguments
        ((session.unsubAll (session.client.scopedTopic arguments.shift.1 topic)).passUnsubscribe
          (session.client.scopedTopic arguments.shift.1 topic) .all none)
  | unsubscribed {topic : JsString} (handler : Nat)
      (small : arguments.shift.1.atLeast session.client.prefixes.length = false)
      (named : arguments.topic = some topic) :
      Ran session arguments
        ((session.unsub (session.client.scopedTopic arguments.shift.1 topic) handler).2.passUnsubscribe
          (session.client.scopedTopic arguments.shift.1 topic)
          (session.unsub (session.client.scopedTopic arguments.shift.1 topic) handler).1 none)

/-- These are all cases of an operation. -/
theorem run_cases {operation : Application.Operation}
    (ran : operation.run session arguments = some after) : session.Ran arguments after := by
  cases large : arguments.shift.1.atLeast session.client.prefixes.length with
  | true =>
      have same : operation.run session arguments =
          some (session.call (.tokenOutOfRange session.number)) := by
        cases operation <;>
          simp only [Application.Operation.run, publish, subscribe, unsubscribe, large, if_true]
      obtain rfl := Option.some.inj (same.symm.trans ran)
      exact .refused large
  | false =>
      cases operation with
      | publish =>
          simp only [Application.Operation.run, publish, large, Bool.false_eq_true, if_false] at ran
          split at ran
          · next topic second =>
              obtain rfl := Option.some.inj ran
              exact .published _ large (by rw [Arguments.topic, second])
          · cases ran
      | subscribe =>
          simp only [Application.Operation.run, subscribe, large, Bool.false_eq_true, if_false] at ran
          split at ran
          · next topic handler second third =>
              obtain rfl := Option.some.inj ran
              exact .subscribed large (by rw [Arguments.topic, second]) rfl
          · cases ran
      | unsubscribe =>
          simp only [Application.Operation.run, unsubscribe, large, Bool.false_eq_true,
            if_false] at ran
          cases second : arguments.shift.2.second with
          | undefined =>
              simp only [second] at ran
              obtain rfl := Option.some.inj ran
              exact .swept large (by rw [Arguments.topic, second])
          | function handler =>
              simp only [second] at ran
              obtain rfl := Option.some.inj ran
              exact .swept large (by rw [Arguments.topic, second])
          | string topic =>
              have named : arguments.topic = some topic := by rw [Arguments.topic, second]
              cases third : arguments.shift.2.third with
              | undefined =>
                  simp only [second, third] at ran
                  obtain rfl := Option.some.inj ran
                  exact .unsubscribedAll large named
              | function handler =>
                  simp only [second, third] at ran
                  obtain rfl := Option.some.inj ran
                  exact .unsubscribed handler large named
              | _ =>
                  simp only [second, third] at ran
                  cases ran
          | number value =>
              simp only [second] at ran
              cases ran
          | object options =>
              simp only [second] at ran
              cases ran

/-- An answer without an error has these effects for its request. -/
inductive Answered (session : Session) (request : Request) : Bool → Session → Prop where
  | refused : Answered session request false session
  | subscribed {handler2 : Handler2} (kind : request.kind = .subscribe handler2) :
      Answered session request true
        { session with client := session.client.subscribed request.topic handler2 }
  | unsubscribed {target : Target} (kind : request.kind = .unsubscribe target)
      (single : request.sweep = none) : Answered session request true
        { session with client := session.client.unsubscribed request.topic target }
  | swept {target : Target} {sweep : Sweep} (kind : request.kind = .unsubscribe target)
      (goes : request.sweep = some sweep) : Answered session request true
        (({ session with client := session.client.unsubscribed request.topic target }).sweep sweep)

/-- These are all cases of an answer. -/
theorem response_cases {index : Nat} {ok : Bool} (ran : session.response index ok = some after) :
    ∃ request, session.client.requests[index]? = some request ∧
      Answered { session with client.requests := session.client.requests.eraseIdx index } request ok
        after := by
  obtain ⟨request, found, rfl⟩ := Option.map_eq_some_iff.mp ran
  refine ⟨request, found, ?_⟩
  rw [answered]
  cases ok with
  | false => exact .refused
  | true =>
      rw [if_pos rfl]
      split
      · next handler2 kind => exact .subscribed kind
      · next target kind =>
          dsimp only
          split
          · next single => exact .unsubscribed kind single
          · next sweep goes => exact .swept kind goes

end Session

namespace Application

variable {application after : Application} {number : Nat}

/-- A call of a function changes the session of its client. -/
theorem call_step {operation : Operation} {arguments : Arguments}
    (stepped : application.step (.call number operation arguments) = some after) :
    ∃ session left, application.session? number = some session ∧
      operation.run session arguments = some left ∧ after = application.put left := by
  obtain ⟨session, found, rest⟩ := Option.bind_eq_some_iff.mp stepped
  obtain ⟨left, ran, put⟩ := Option.bind_eq_some_iff.mp rest
  exact ⟨session, left, found, ran, (Option.some.inj put).symm⟩

/-- An answer changes the session of the client that asked. -/
theorem response_step {index : Nat} {ok : Bool}
    (stepped : application.step (.response number index ok) = some after) :
    ∃ session left, application.session? number = some session ∧
      session.response index ok = some left ∧ after = application.put left := by
  obtain ⟨session, found, rest⟩ := Option.bind_eq_some_iff.mp stepped
  obtain ⟨left, ran, put⟩ := Option.bind_eq_some_iff.mp rest
  exact ⟨session, left, found, ran, (Option.some.inj put).symm⟩

end Application
end Centro
