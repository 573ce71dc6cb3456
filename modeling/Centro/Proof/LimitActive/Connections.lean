import Centro.Construction.ActiveConnections
import Centro.Library.Trace

namespace Centro

open Library

namespace ActiveConnections

/-- The requests whose listener waits for the close of their socket are counted. -/
def listening (state : ActiveConnections) : Nat :=
  state.requests.countP CountedRequest.listening

/-- A request comes on a socket that is not destroyed, and its response is over only when its socket
is closed. -/
def EndsWithSocket (state : ActiveConnections) : Event → Prop
  | .request socket => state.sockets[socket]? = some .opened
  | .finish _ => False
  | .close _ => False
  | _ => True

instance (state : ActiveConnections) : DecidablePred state.EndsWithSocket
  | .request socket => inferInstanceAs (Decidable (state.sockets[socket]? = some .opened))
  | .finish _ => .isFalse id
  | .close _ => .isFalse id
  | .connection => .isTrue trivial
  | .authorized _ _ => .isTrue trivial
  | .destroySocket _ => .isTrue trivial
  | .closeSocket _ => .isTrue trivial

variable {maxConnections : Nat} {before after : ActiveConnections}

/-- A step starts a request, changes a request that keeps its listener, closes a socket, or leaves
the requests alone. Only the end of its response makes a request over. -/
inductive Moved (maxConnections : Nat) (before : ActiveConnections) :
    Event → ActiveConnections → Prop where
  | started {socket : Nat} {stage : SocketStage} (found : before.sockets[socket]? = some stage) :
      Moved maxConnections before (.request socket) (before.authzStart maxConnections socket stage)
  | changed {event : Event} {index : Nat} {request : CountedRequest} (stage : AuthorizationStage)
      (isOver : Bool) (asked : before.requests[index]? = some request)
      (ends : isOver = request.isOver ∨ event = .finish index ∨ event = .close index) :
      Moved maxConnections before event { before with
        requests := before.requests.set index { request with stage, isOver } }
  | closed {socket : Nat} :
      Moved maxConnections before (.closeSocket socket) (before.closeSocket socket)
  | kept {event : Event} {sockets : List SocketStage} :
      Moved maxConnections before event { before with sockets }

theorem moved_of_step {event : Event}
    (stepped : (system maxConnections).step before event = some after) :
    Moved maxConnections before event after := by
  cases event with
  | connection =>
      obtain rfl := Option.some.inj stepped
      exact .kept
  | request socket =>
      obtain ⟨stage, found, stepped⟩ := Option.bind_eq_some_iff.mp stepped
      split at stepped
      · cases stepped
      · obtain rfl := Option.some.inj stepped
        exact .started found
  | authorized index stage =>
      obtain ⟨request, asked, stepped⟩ := Option.bind_eq_some_iff.mp stepped
      split at stepped
      · obtain rfl := Option.some.inj stepped
        exact .changed _ request.isOver asked (Or.inl rfl)
      · cases stepped
  | finish index =>
      obtain ⟨request, asked, stepped⟩ := Option.bind_eq_some_iff.mp stepped
      split at stepped
      · obtain rfl := Option.some.inj stepped
        exact .changed request.stage _ asked (Or.inr (Or.inl rfl))
      · cases stepped
  | close index =>
      obtain ⟨request, asked, stepped⟩ := Option.bind_eq_some_iff.mp stepped
      split at stepped
      · obtain rfl := Option.some.inj stepped
        exact .changed request.stage _ asked (Or.inr (Or.inr rfl))
      · cases stepped
  | destroySocket socket =>
      obtain ⟨stage, found, stepped⟩ := Option.bind_eq_some_iff.mp stepped
      split at stepped
      · obtain rfl := Option.some.inj stepped
        exact .kept
      · cases stepped
  | closeSocket socket =>
      obtain ⟨stage, found, stepped⟩ := Option.bind_eq_some_iff.mp stepped
      split at stepped
      · obtain rfl := Option.some.inj stepped
        exact .closed
      · cases stepped

/-- The close of a socket takes its listeners from those of all requests. -/
theorem listening_closeSocket (state : ActiveConnections) (socket : Nat) :
    (state.closeSocket socket).listening +
      (state.requests.countP fun request => request.listening && request.socket == socket) =
        state.listening := by
  rw [listening, listening, closeSocket, List.countP_map]
  induction state.requests with
  | nil => rfl
  | cons request rest ih =>
      simp only [List.countP_cons]
      by_cases here : request.socket = socket
      · simp [here, CountedRequest.onclose] at ih ⊢
        omega
      · simp [here] at ih ⊢
        omega

/-- The counter is the number of listeners after every step. -/
theorem count_step {event : Event} (counted : before.count = before.listening)
    (stepped : (system maxConnections).step before event = some after) :
    after.count = after.listening := by
  cases moved_of_step stepped with
  | @started socket stage found =>
      cases stage <;> simp [authzStart, listening, counted]
  | @changed _ index request stage isOver asked ends =>
      obtain ⟨front, back, whole, -, replaced⟩ := exists_split asked
      simp only [listening, counted, replaced]
      rw [whole, List.countP_append, List.countP_append, List.countP_cons, List.countP_cons]
  | @closed socket =>
      have taken := listening_closeSocket before socket
      simp only [closeSocket, counted] at taken ⊢
      omega
  | kept => exact counted

theorem count_listening {state : ActiveConnections}
    (reached : (system maxConnections).Reachable state) : state.count = state.listening := by
  induction reached with
  | initial => rfl
  | step _ _ stepped counted => exact count_step counted stepped

/-- The requests with a listener are those whose response is not over. -/
def Agrees (state : ActiveConnections) : Prop :=
  ∀ request ∈ state.requests, request.listening = !request.isOver

theorem agrees_step {event : Event} (agrees : before.Agrees)
    (ends : before.EndsWithSocket event)
    (stepped : (system maxConnections).step before event = some after) : after.Agrees := by
  intro request member
  cases moved_of_step stepped with
  | @started socket stage found =>
      obtain rfl : stage = .opened := Option.some.inj (found.symm.trans ends)
      obtain old | rfl := mem_concat.mp member
      · exact agrees request old
      · rfl
  | @changed _ index former stage isOver asked alone =>
      obtain old | rfl := List.mem_or_eq_of_mem_set member
      · exact agrees request old
      · obtain rfl | rfl | rfl := alone
        · exact agrees former (List.mem_of_getElem? asked)
        · exact ends.elim
        · exact ends.elim
  | @closed socket =>
      obtain ⟨former, old, rfl⟩ := List.mem_map.mp member
      by_cases here : former.socket = socket
      · rw [if_pos here]
        rfl
      · rw [if_neg here]
        exact agrees former old
  | kept => exact agrees request member

end ActiveConnections

open ActiveConnections in
/-- The counter is the number of requests whose response is not over in every run in which a
response is over only when its socket is closed. -/
theorem connections_counted {maxConnections : Nat} {state : ActiveConnections}
    (reached : (system maxConnections).ReachableUnder EndsWithSocket state) :
    state.count = state.active := by
  have agrees : state.Agrees := reached.invariant (fun _ member => by cases member)
    fun _ _ _ agrees ends stepped => agrees_step agrees ends stepped
  rw [count_listening reached.reachable, listening, active]
  exact congrArg _ (List.countP_congr fun request member => by rw [agrees request member])

namespace ActiveConnections

/-- One of two requests over the sockets is refused, and the other is authorized. -/
def sampleClosed : List Event :=
  [.connection, .request 0, .authorized 0 .succeeded, .connection, .request 1, .destroySocket 0,
    .closeSocket 0]

end ActiveConnections

open ActiveConnections in
theorem connections_counted_sample : ∃ state,
    (system 1).run (system 1).initial sampleClosed = some state ∧ state.count = state.active := by
  have runs : ((system 1).run (system 1).initial sampleClosed).isSome = true := by decide
  have ends : (system 1).AllSteps EndsWithSocket (system 1).initial sampleClosed := by decide
  obtain ⟨state, ran⟩ := Option.isSome_iff_exists.mp runs
  exact ⟨state, ran, connections_counted (TransitionSystem.ReachableUnder.initial.run ends ran)⟩

open ActiveConnections in
/-- A request that has been answered counts against the next request on its socket. -/
theorem connections_miscounted :
    (∃ state, (system 1).run (system 1).initial
      [.connection, .request 0, .authorized 0 .succeeded, .finish 0] = some state ∧
      state.count = 1 ∧ state.active = 0) ∧
    ∃ state, (system 1).run (system 1).initial
      [.connection, .request 0, .authorized 0 .succeeded, .finish 0, .request 0] = some state ∧
      state.active = 1 ∧ state.requests[1]?.map CountedRequest.stage =
        some (.failed (text "connection limit 1 exceeded")) := by
  refine ⟨⟨_, rfl, ?_⟩, ⟨_, rfl, ?_⟩⟩
  all_goals decide

end Centro
