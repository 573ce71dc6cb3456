import Centro.Construction.Service

namespace Centro

open Library

/-- These records stand in the set for a URI. -/
def Shared.registered (shared : Shared) (uri : Uri) : OrderedSet Record :=
  (shared.connections.get uri).getD .empty

namespace Connection

/-- An open connection was accepted and its `conn_closed` has not run. -/
def Open (connection : Connection) : Prop :=
  connection.accepted = true ∧ connection.closed = false

/-- These calls clear the timers of the records. -/
def clearedTimeouts (connection : Connection) : List Call :=
  (connection.hsConns.items.filter fun record => connection.timeouts.has record.token).map
    fun record => .clearTimeout record.token

/-- These calls tell the outside that the connection closed. -/
def closeCalls (runtime : Runtime) (connection : Connection) : List Call :=
  connection.clearedTimeouts ++ [.disconnect connection.connid] ++ connection.departureCalls runtime

/-- Each timer is cleared by a call of its own. -/
theorem foldl_clearTimeout (records : List Record) (connection : Connection) :
    records.foldl (fun connection record => connection.clearTimeout record.token) connection =
      { connection with
        calls := connection.calls ++
          (records.filter (fun record => connection.timeouts.has record.token)).map
            (fun record => .clearTimeout record.token) } := by
  induction records generalizing connection with
  | nil => simp
  | cons record rest ih =>
      rw [List.foldl_cons, ih]
      by_cases pending : connection.timeouts.has record.token = true
      · simp [clearTimeout, pending]
      · simp [clearTimeout, pending]

end Connection

namespace Closure

variable {runtime : Runtime} {closure : Closure}

@[simp] theorem call_connection (made : Call) : (closure.call made).connection =
    { closure.connection with calls := closure.connection.calls ++ [made] } := rfl

/-- A close changes these variables and no others. -/
theorem connClosed_connection : (closure.connClosed runtime).connection =
    { closure.connection with
      closed := true
      hsConns := .empty
      timeouts := .empty
      calls := closure.connection.calls ++ closure.connection.closeCalls runtime } := by
  simp only [connClosed, Connection.foldl_clearTimeout, Connection.closeCalls,
    Connection.clearedTimeouts, List.append_assoc]
  rfl

/-- These calls follow the first call of `dstroy` while the transport runs its destroy function. -/
def destroyCalls (runtime : Runtime) (connection : Connection) (now : Bool) : List Call :=
  [.destroy connection.mqserver now] ++
    (if connection.channel.closes && connection.accepted then connection.closeCalls runtime else []) ++
    (connection.channel.throws.map fun message => Call.warning (.thrown message)).toList

/-- The first effective `dstroy` changes these variables and no others. -/
theorem dstroy_connection (now : Bool) : (closure.dstroy runtime now).connection =
    if closure.connection.destroyed || closure.connection.closed then
      { closure.connection with calls := closure.connection.calls ++ [.dstroy now] }
    else if closure.connection.channel.closes && closure.connection.accepted then
      { closure.connection with
        closed := true
        hsConns := .empty
        timeouts := .empty
        destroyed := true
        calls := closure.connection.calls ++ [.dstroy now] ++
          destroyCalls runtime closure.connection now }
    else
      { closure.connection with
        destroyed := true
        calls := closure.connection.calls ++ [.dstroy now] ++
          destroyCalls runtime closure.connection now } := by
  unfold dstroy invokeDestroy destroyCalls
  by_cases gone : closure.connection.destroyed || closure.connection.closed
  · have stays : (!closure.connection.destroyed && !closure.connection.closed) = false := by
      cases destroyed : closure.connection.destroyed <;> simp_all
    simp [stays, gone]
  · have acts : (!closure.connection.destroyed && !closure.connection.closed) = true := by
      cases destroyed : closure.connection.destroyed <;> simp_all
    by_cases closes : (closure.connection.channel.closes && closure.connection.accepted) = true
    · cases throws : closure.connection.channel.throws <;>
        simp [acts, gone, closes, throws, connClosed_connection, Connection.closeCalls,
          Connection.departureCalls, Connection.clearedTimeouts, Connection.presenceCall,
          Connection.withSeparator]
    · cases throws : closure.connection.channel.throws <;> simp [acts, gone, closes, throws]

end Closure
end Centro
