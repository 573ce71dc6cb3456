import Centro.Construction.Application

namespace Centro

open Library

/-- The loop of `unsubscribe(n, cb)` waits for an answer of the server, or it has ended. It counts
the calls of `cb` without an error. -/
structure Unsubscription where
  session : Session
  sweep : Option Sweep
  calledBack : Nat := 0

namespace Unsubscription

/-- The iterator of `eachSeries` comes to this entry next. -/
def upcoming (session : Session) (sweep : Sweep) : Option (JsString × Subscribers) :=
  session.client.subs.entries.find? fun entry =>
    decide (sweep.place ≤ entry.2.place) && sweep.scope.isPrefixOf entry.1

/-- The iterator goes on to the next topic in the scope, or `eachSeries` calls back at its end. -/
def advance (loop : Unsubscription) (sweep : Sweep) : Unsubscription :=
  match upcoming loop.session sweep with
  | none => { loop with sweep := none, calledBack := loop.calledBack + 1 }
  | some (_, subscribers) => { loop with
      session := loop.session.sweep sweep
      sweep := some { sweep with place := subscribers.place + 1 } }

/-- The call of `unsubscribe` comes to the first topic in the scope of its token. -/
def start (session : Session) (scope : JsString) : Unsubscription :=
  advance { session, sweep := none } { scope, place := 0 }

/-- The server acknowledges the request that the loop has made last. -/
def acknowledged (loop : Unsubscription) : Option Unsubscription := do
  let sweep ← loop.sweep
  let request ← loop.session.client.requests.getLast?
  let client := { loop.session.client with requests := loop.session.client.requests.dropLast }
  some (advance { loop with session.client := client.unsubscribed request.topic .all } sweep)

/-- Nothing else happens while the loop runs. -/
def system (session : Session) (scope : JsString) : TransitionSystem Unsubscription Unit where
  initial := start session scope
  step loop _ := loop.acknowledged

end Unsubscription
end Centro
