import Centro.Proof.Server.Phases

namespace Centro

open Library

/-- The close of the default authorizer has called back. -/
def Shutdown.Contd : Shutdown → Prop
  | .idle | .stopping _ | .closingAuthz _ => False
  | _ => True

/-- The operations `close` of the transports are in these stages. -/
def Shutdown.stages : Shutdown → List CloseStage
  | .closingTransports _ stages | .transportsFailed _ stages | .finishing _ stages => stages
  | _ => []

namespace Server

variable {runtime : Runtime} {setup : Setup} {server after : Server} {was : Bool}

/-- The server has emitted `close` this often. -/
def closes (server : Server) : Nat := server.lifecycle.calls.count .close

/-- Nothing of the server is left to be closed. -/
structure Released (server : Server) : Prop where
  transports : ∃ cb stages, server.lifecycle.shutdown = .finishing cb stages ∧
    ∀ stage ∈ stages, stage = .calledBack
  authz : ∃ err, .authzClosed err ∈ server.lifecycle.calls
  connids : server.connids.size = 0
  connections : server.keyed.service.shared.connections.size = 0

/-- The continuation of a failed transport close waits for the other transports. No stream is
handed over after an automatic close while `check` still listens. -/
def ClosesInOrder (server : Server) : Event → Prop
  | .cont2 _ => ∀ cb stages, server.lifecycle.shutdown = .transportsFailed cb stages →
      ∀ stage ∈ stages, stage = .calledBack
  | .keyed (.service (.transportConnected _ _ _ _ _ _)) =>
      ¬(server.lifecycle.closed = true ∧ server.lifecycle.listening = true ∧
        server.closing = false)
  | _ => True

/-- The shutdown emits `close` once and at its end. The flag tells whether the server had been
closed before the current step. -/
structure Orderly (was : Bool) (server : Server) : Prop where
  count : server.closes = if server.lifecycle.closed then 1 else 0
  finishing : server.lifecycle.closed = true →
    ∃ cb stages, server.lifecycle.shutdown = .finishing cb stages
  authz : server.lifecycle.shutdown.Contd → ∃ err, .authzClosed err ∈ server.lifecycle.calls
  calledBack : ∀ cb stages, server.lifecycle.shutdown = .finishing cb stages →
    ∀ stage ∈ stages, stage = .calledBack
  drained : server.lifecycle.closed = true → was = false ∨ server.lifecycle.listening = true →
    server.connids.size = 0

namespace Orderly

/-- The shutdown stays where it is. -/
theorem frame (holds : Orderly was server) {more : List ServerCall}
    (closed : after.lifecycle.closed = server.lifecycle.closed)
    (listening : after.lifecycle.listening = server.lifecycle.listening)
    (shutdown : after.lifecycle.shutdown = server.lifecycle.shutdown)
    (calls : after.lifecycle.calls = server.lifecycle.calls ++ more)
    (silent : ServerCall.close ∉ more) (connids : after.connids = server.connids) :
    Orderly was after := by
  constructor
  · rw [closes, calls, List.count_append, List.count_eq_zero_of_not_mem silent, closed]
    exact holds.count
  · rw [closed, shutdown]
    exact holds.finishing
  · intro contd
    rw [shutdown] at contd
    obtain ⟨err, member⟩ := holds.authz contd
    exact ⟨err, calls ▸ List.mem_append_left _ member⟩
  · rw [shutdown]
    exact holds.calledBack
  · rw [closed, listening, connids]
    exact holds.drained

/-- The shutdown moves on before its end. -/
theorem advance (holds : Orderly was server) {more : List ServerCall}
    (unclosed : server.lifecycle.closed = false)
    (closed : after.lifecycle.closed = server.lifecycle.closed)
    (calls : after.lifecycle.calls = server.lifecycle.calls ++ more)
    (silent : ServerCall.close ∉ more)
    (other : ∀ cb stages, after.lifecycle.shutdown ≠ .finishing cb stages)
    (authz : after.lifecycle.shutdown.Contd → ∃ err, .authzClosed err ∈ after.lifecycle.calls) :
    Orderly was after := by
  have still : after.lifecycle.closed = false := closed.trans unclosed
  constructor
  · rw [closes, calls, List.count_append, List.count_eq_zero_of_not_mem silent, closed]
    exact holds.count
  · exact fun done => absurd (still.symm.trans done) Bool.false_ne_true
  · exact authz
  · exact fun cb stages phase => absurd phase (other cb stages)
  · exact fun done => absurd (still.symm.trans done) Bool.false_ne_true

/-- The event `close` was not emitted before the last phase. -/
theorem unclosed (holds : Orderly was server)
    (phase : ∀ cb stages, server.lifecycle.shutdown ≠ .finishing cb stages) :
    server.lifecycle.closed = false := by
  by_contra closed
  obtain ⟨cb, stages, finishing⟩ := holds.finishing (by simpa using closed)
  exact phase cb stages finishing

/-- The first successful `check` emits `close`. -/
theorem check (holds : Orderly was server) (unclosed : server.lifecycle.closed = false) :
    Orderly was server.check := by
  rcases check_cases server with ⟨same, _⟩ | ⟨cb, stages, phase, gone, finished⟩
  · rw [same]
    exact holds
  · rw [finished]
    have before : server.lifecycle.calls.count .close = 0 := by
      have count := holds.count
      rwa [unclosed] at count
    have answers : ∀ (callbacks : List Callback) (err : Option JsString),
        (callbacks.map fun cb => ServerCall.calledBack cb err).count .close = 0 := by
      intro callbacks err
      apply List.count_eq_zero_of_not_mem
      simp
    constructor
    · have last : (cb.map fun cb => ServerCall.calledBack cb none).toList.count .close = 0 := by
        cases cb <;> simp
      simp [closes, Lifecycle.finish, before, answers, last]
    · exact fun _ => ⟨cb, stages, phase⟩
    · intro contd
      obtain ⟨err, member⟩ := holds.authz contd
      exact ⟨err, by simp [Lifecycle.finish, member]⟩
    · exact holds.calledBack
    · exact fun _ _ => gone

/-- The connections of a closed server that listens are gone, and they do not emit `empty`. -/
theorem serve (holds : Orderly was server) {keyed : KeyedService}
    (drains : server.lifecycle.closed = true → was = false ∨ server.lifecycle.listening = true →
      server.keyed.service.shared.Drains keyed.service.shared) :
    Orderly was (server.serve keyed) := by
  have served : Orderly was { server with keyed } := by
    refine ⟨holds.count, holds.finishing, holds.authz, holds.calledBack, ?_⟩
    intro closed either
    exact (drains closed either).stays (holds.drained closed either)
  rcases serve_cases server keyed with ⟨quiet, _⟩ | ⟨listening, emitted, emptied⟩
  · rw [quiet]
    exact served
  · rw [emptied]
    have unclosed : server.lifecycle.closed = false := by
      by_contra closed
      have closed : server.lifecycle.closed = true := by simpa using closed
      have none := holds.drained closed (Or.inr listening)
      have same := (drains closed (Or.inr listening)).emptied
      have none : server.keyed.service.shared.connids.size = 0 := none
      simp only [none, ne_eq, not_true_eq_false, false_and, if_false] at same
      omega
    apply check
    · refine ⟨served.count, served.finishing, served.authz, served.calledBack, ?_⟩
      exact fun closed => absurd (unclosed.symm.trans closed) Bool.false_ne_true
    · exact unclosed

/-- The second part of the shutdown emits the event when all is over. -/
theorem cont2 (holds : Orderly was server) (unclosed : server.lifecycle.closed = false)
    (contd : server.lifecycle.shutdown.Contd) {cb : Option Callback} {stages : List CloseStage}
    (all : ∀ stage ∈ stages, stage = .calledBack) : Orderly was (server.cont2 cb stages) := by
  apply check
  · constructor
    · exact holds.count
    · exact fun closed => absurd (unclosed.symm.trans closed) Bool.false_ne_true
    · exact fun _ => holds.authz contd
    · intro cb other phase
      cases phase
      exact all
    · exact fun closed => absurd (unclosed.symm.trans closed) Bool.false_ne_true
  · exact unclosed

/-- The continuation that starts to close the transports has not emitted `close` before. -/
theorem cont (holds : Orderly false server) (sound : server.keyed.service.Sound)
    (unclosed : server.lifecycle.closed = false)
    (authz : ∃ err, .authzClosed err ∈ server.lifecycle.calls) (cb : Option Callback) :
    Orderly false (server.cont runtime cb) := by
  let closing : Server :=
    { server with lifecycle := { server.lifecycle.closeAll cb with listening := true } }
  have begun : Orderly false closing := by
    obtain ⟨err, member⟩ := authz
    refine holds.advance unclosed rfl rfl ?_ ?_ ?_
    · exact ServerCall.close_not_mem (Lifecycle.firstCalls_plain server.lifecycle.transportOps)
    · intro _ _ phase
      cases phase
    · exact fun _ => ⟨err, List.mem_append_left _ member⟩
  rw [cont_eq]
  apply serve
  · unfold contd
    split
    · exact begun.cont2 unclosed trivial (by simp)
    · exact begun
  · intro _ _
    rw [contd_keyed]
    have last : server.keyed.service.step runtime .destroyAll =
        some (server.keyed.service.destroyAll runtime) := rfl
    exact sound.drains last (by simp)

/-- A call of `close` begins the shutdown at most. -/
theorem close (holds : Orderly was server) (phased : server.Phased)
    (called : CloseCalled server after) : Orderly was after := by
  cases called with
  | answered => exact holds.frame rfl rfl rfl (List.append_assoc _ _ _) (by simp) rfl
  | waits => exact holds.frame rfl rfl rfl rfl (by simp) rfl
  | begins staying ready begins plain =>
      have unclosed : server.lifecycle.closed = false := by
        apply holds.unclosed
        intro cb stages phase
        have begun := phased.owned (by simp [phase]) ready
        exact absurd (staying.symm.trans begun) Bool.false_ne_true
      refine holds.advance unclosed rfl (List.append_assoc _ _ _) ?_ ?_ ?_
      · intro member
        rcases List.mem_append.mp member with called | last
        · simp at called
        · rw [← List.mem_singleton.mp last] at plain
          cases plain
      · rcases begins with rfl | rfl <;> simp
      · rcases begins with rfl | rfl <;> exact False.elim
  | stored => exact holds.frame rfl rfl rfl rfl (by simp) rfl

/-- An error keeps the shutdown orderly. -/
theorem error (holds : Orderly was server) (phased : server.Phased) (err : JsString)
    (closes : Nat) : Orderly was (server.error setup err closes) := by
  let both : Server → Prop := fun called => Orderly was called ∧ called.Phased
  have kept : both (server.error setup err closes) := by
    apply error_invariant err closes
    · exact ⟨holds.frame rfl rfl rfl rfl (by simp) rfl, phased.frame rfl rfl id rfl id⟩
    · exact fun _ _ holds called => ⟨holds.1.close holds.2 called, holds.2.close called⟩
  exact kept.1

/-- The start keeps the shutdown orderly. -/
theorem starts (holds : Orderly was server) {lifecycle : Lifecycle}
    (starts : server.lifecycle.Starts lifecycle) : Orderly was { server with lifecycle } := by
  obtain ⟨_, _, more, plain, rfl⟩ := starts.shape
  exact holds.frame rfl rfl rfl rfl (ServerCall.close_not_mem plain) rfl

/-- The end of the start keeps the shutdown orderly. -/
theorem settle (holds : Orderly was server) (idle : server.lifecycle.shutdown = .idle)
    {err : Option JsString} (settles : Settles server err after) : Orderly was after := by
  have unclosed : server.lifecycle.closed = false := holds.unclosed (by simp [idle])
  cases settles with
  | begins asked begins plain =>
      refine holds.advance unclosed rfl rfl ?_ ?_ ?_
      · exact ServerCall.close_not_mem (by simpa using plain)
      · rcases begins with rfl | rfl <;> simp
      · rcases begins with rfl | rfl <;> exact False.elim
  | ready => exact holds.frame rfl rfl rfl rfl (by simp) rfl

/-- A transport that has closed keeps the shutdown orderly. -/
theorem transportClosed {index : Nat} {err : Option JsString} (holds : Orderly was server)
    (closed : TransportClosed server index err after) : Orderly was after := by
  have early : ∀ {shutdown : Shutdown}, server.lifecycle.shutdown = shutdown → shutdown.Contd →
      (∀ cb stages, shutdown ≠ .finishing cb stages) → server.lifecycle.closed = false ∧
        ∃ err, .authzClosed err ∈ server.lifecycle.calls := by
    rintro _ rfl contd other
    exact ⟨holds.unclosed other, holds.authz contd⟩
  cases closed with
  | failed phase advances =>
      obtain ⟨unclosed, err, member⟩ := early phase trivial (by simp)
      refine holds.advance unclosed rfl (List.append_assoc _ _ _) ?_ ?_ ?_
      · intro inside
        rcases List.mem_append.mp inside with old | new
        · exact ServerCall.close_not_mem advances.plain old
        · simp at new
      · simp
      · exact fun _ => ⟨err, List.mem_append_left _ (List.mem_append_left _ member)⟩
  | @finished cb stages last more phase advances all =>
      obtain ⟨unclosed, err, member⟩ := early phase trivial (by simp)
      let next : Server := { server with lifecycle := { server.lifecycle with
        shutdown := .closingTransports cb (stages.set index last)
        calls := server.lifecycle.calls ++ more } }
      have moved : Orderly was next := by
        refine holds.advance unclosed rfl rfl (ServerCall.close_not_mem advances.plain) ?_ ?_
        · simp [next]
        · exact fun _ => ⟨err, List.mem_append_left _ member⟩
      exact moved.cont2 unclosed trivial all
  | waiting phase advances =>
      obtain ⟨unclosed, err, member⟩ := early phase trivial (by simp)
      refine holds.advance unclosed rfl rfl (ServerCall.close_not_mem advances.plain) ?_ ?_
      · simp
      · exact fun _ => ⟨err, List.mem_append_left _ member⟩
  | ignored phase advances =>
      obtain ⟨unclosed, err, member⟩ := early phase trivial (by simp)
      refine holds.advance unclosed rfl rfl (ServerCall.close_not_mem advances.plain) ?_ ?_
      · simp
      · exact fun _ => ⟨err, List.mem_append_left _ member⟩
  | late phase advances =>
      obtain ⟨stage, member, busy⟩ := advances.outstanding
      exact absurd (holds.calledBack _ _ phase stage member) busy

/-- Each step under the condition keeps the shutdown in order. -/
theorem step (holds : Orderly true server) (phased : server.Phased)
    (sound : server.keyed.service.Sound) {event : Event} (meets : server.ClosesInOrder event)
    (stepped : Stepped runtime setup server event after) :
    Orderly server.lifecycle.closed after := by
  have start : Orderly server.lifecycle.closed server := by
    refine ⟨holds.count, holds.finishing, holds.authz, holds.calledBack, ?_⟩
    rintro closed (unclosed | listening)
    · exact absurd (unclosed.symm.trans closed) Bool.false_ne_true
    · exact holds.drained closed (Or.inr listening)
  cases stepped with
  | authorization => exact start.frame rfl rfl rfl (List.append_nil _).symm (by simp) rfl
  | @keyed event keyed ran other =>
      refine start.serve fun closed either => ?_
      have listening : server.lifecycle.listening = true :=
        either.resolve_left fun unclosed =>
          absurd (unclosed.symm.trans closed) Bool.false_ne_true
      rcases KeyedService.step_service ran with same | ⟨move, moved, caused⟩
      · rw [same]
        exact .refl _
      · refine sound.drains moved ?_
        rintro _ _ _ _ _ _ rfl
        rcases caused with rfl | ⟨_, _, _, other⟩
        · by_contra staying
          exact meets ⟨closed, listening, by simpa [Server.closing] using staying⟩
        · cases other
  | authorized starts => exact start.starts starts
  | refused =>
      exact (start.error phased _ _).frame rfl rfl rfl (List.append_nil _).symm (by simp) rfl
  | start starts => exact start.starts starts
  | ready phase settles =>
      exact start.settle (phased.unsettled (by rw [phase]; exact id)).2 settles
  | @failed err closes after phase settles =>
      obtain ⟨_, _, idle⟩ := phased.error_unsettled (by rw [phase]; exact id) err closes
      exact (start.error phased err closes).settle idle settles
  | close called => exact start.close phased called
  | stoppedWatching phase =>
      have unclosed : server.lifecycle.closed = false := holds.unclosed (by simp [phase])
      exact start.advance unclosed rfl rfl (by simp) (by simp) False.elim
  | @authzClosed cb phase =>
      have unclosed : server.lifecycle.closed = false := holds.unclosed (by simp [phase])
      rw [unclosed] at start ⊢
      have noted : Orderly false (server.authzClosed none) :=
        start.frame rfl rfl rfl rfl (by simp) rfl
      exact noted.cont sound unclosed ⟨none, List.mem_append_right _ List.mem_cons_self⟩ cb
  | @authzFailed err cb phase =>
      have unclosed : server.lifecycle.closed = false := holds.unclosed (by simp [phase])
      refine start.advance unclosed rfl (List.append_assoc _ _ _) ?_ ?_ ?_
      · simp
      · simp
      · exact fun _ => ⟨some err, by simp⟩
  | cont phase =>
      have unclosed : server.lifecycle.closed = false := holds.unclosed (by simp [phase])
      rw [unclosed] at start ⊢
      apply Orderly.cont
      · exact start.frame rfl rfl rfl (List.append_nil _).symm (by simp) rfl
      · exact sound
      · exact unclosed
      · exact holds.authz (by rw [phase]; trivial)
  | transportClosed closed => exact start.transportClosed closed
  | @cont2 passes last next callbacks stages phase =>
      have unclosed : server.lifecycle.closed = false := holds.unclosed (by simp [phase])
      have taken : Orderly server.lifecycle.closed { server with lifecycle.callbacks := callbacks } :=
        start.frame rfl rfl rfl (List.append_nil _).symm (by simp) rfl
      exact taken.cont2 unclosed (by rw [phase]; trivial) (meets (some last) stages phase)

theorem initial : Orderly true {} where
  count := rfl
  finishing := fun closed => Bool.noConfusion closed
  authz := fun contd => contd.elim
  calledBack := fun _ _ phase => by cases phase
  drained := fun closed => Bool.noConfusion closed

end Orderly

/-- The shutdown is orderly in every run that meets the condition. -/
theorem orderly_of_reachable
    (reached : (system runtime setup).ReachableUnder ClosesInOrder server) :
    Orderly true server := by
  induction reached with
  | initial => exact .initial
  | step reached meets stepped holds =>
      have phased := phased_of_reachable reached.reachable
      have sound := sound_of_reachable reached.reachable
      have later := holds.step phased sound meets (step_cases stepped)
      refine ⟨later.count, later.finishing, later.authz, later.calledBack, ?_⟩
      rintro closed (never | listening)
      · cases never
      · exact later.drained closed (Or.inr listening)

/-- In every run that closes in order, the server emits `close` at most once, and everything is
released in the step that emits it. -/
theorem close_released (reached : (system runtime setup).ReachableUnder ClosesInOrder server)
    {event : Event} (meets : server.ClosesInOrder event)
    (stepped : server.step runtime setup event = some after) :
    after.closes ≤ 1 ∧ (server.closes < after.closes → after.Released) := by
  have before := orderly_of_reachable reached
  have phased := phased_of_reachable reached.reachable
  have sound := sound_of_reachable reached.reachable
  have later := before.step phased sound meets (step_cases stepped)
  have count := before.count
  have more := later.count
  constructor
  · rw [more]
    split <;> omega
  · intro emitted
    have closed : after.lifecycle.closed = true := by
      by_contra unclosed
      rw [if_neg unclosed] at more
      omega
    have unclosed : server.lifecycle.closed = false := by
      by_contra closed
      rw [if_pos (by simpa using closed)] at count
      split at more <;> omega
    obtain ⟨cb, stages, phase⟩ := later.finishing closed
    have none := later.drained closed (Or.inl unclosed)
    have last : (system runtime setup).Reachable after :=
      .step reached.reachable trivial stepped
    have sound := sound_of_reachable last
    exact ⟨⟨cb, stages, phase, later.calledBack cb stages phase⟩,
      later.authz (by rw [phase]; trivial), none,
      sound.connections_empty (sound.connids_empty.mp none)⟩

/-- The only transport is closed last, after its connection. -/
theorem close_released_sample : ∃ server after,
    (system sampleRuntime { transports := [{}], fsq := some true }).run {}
      [.authorized none 0, .start (.transportReady none), .tick 0,
       .keyed (.service (.transportConnected { config := {} } [sampleHandshake] { closes := true }
         false [sampleConnid] 0)),
       .close, .authzClosed none] = some server ∧
    server.step sampleRuntime { transports := [{}], fsq := some true } (.transportClosed 0 none) =
      some after ∧
    server.closes < after.closes ∧ after.closes ≤ 1 ∧
    (server.closes < after.closes → after.Released) := by
  have emitted : (((system sampleRuntime { transports := [{}], fsq := some true }).run {}
      [.authorized none 0, .start (.transportReady none), .tick 0,
       .keyed (.service (.transportConnected { config := {} } [sampleHandshake] { closes := true }
         false [sampleConnid] 0)),
       .close, .authzClosed none]).bind fun server =>
        (server.step sampleRuntime { transports := [{}], fsq := some true }
          (.transportClosed 0 none)).map fun after => decide (server.closes < after.closes)) =
            some true := by decide
  obtain ⟨server, ran, emitted⟩ := Option.bind_eq_some_iff.mp emitted
  obtain ⟨after, stepped, emitted⟩ := Option.map_eq_some_iff.mp emitted
  have reached : (system sampleRuntime { transports := [{}], fsq := some true }).ReachableUnder
      ClosesInOrder server := by
    apply TransitionSystem.ReachableUnder.initial.run _ ran
    refine fun first stepped => ⟨trivial, fun second stepped' => ⟨trivial,
      fun third stepped'' => ⟨trivial, fun _ _ => ⟨?_, fun _ _ => ⟨trivial, fun _ _ =>
        ⟨trivial, trivial⟩⟩⟩⟩⟩⟩
    obtain rfl := Option.some.inj stepped
    obtain rfl := Option.some.inj stepped'
    obtain rfl := Option.some.inj stepped''
    rintro ⟨closed, _⟩
    exact absurd closed (by decide)
  have meets : server.ClosesInOrder (.transportClosed 0 none) := trivial
  exact ⟨server, after, ran, stepped, of_decide_eq_true emitted, close_released reached meets stepped⟩

/-- One of two transports fails to close, and its continuation is called at once. -/
theorem close_unreleased : ∃ server after,
    (system sampleRuntime { transports := [{}, {}], fsq := some true }).run {}
      [.authorized none 0, .start (.transportReady none), .start (.transportReady none), .tick 0,
       .close, .authzClosed none, .transportClosed 0 (some (text "dummy"))] = some server ∧
    server.step sampleRuntime { transports := [{}, {}], fsq := some true } (.cont2 false) =
      some after ∧
    server.closes < after.closes ∧ ¬after.Released := by
  have emitted : (((system sampleRuntime { transports := [{}, {}], fsq := some true }).run {}
      [.authorized none 0, .start (.transportReady none), .start (.transportReady none), .tick 0,
       .close, .authzClosed none, .transportClosed 0 (some (text "dummy"))]).bind fun server =>
        (server.step sampleRuntime { transports := [{}, {}], fsq := some true } (.cont2 false)).map
          fun after => (decide (server.closes < after.closes), after.lifecycle.shutdown.stages)) =
            some (true, [.calledBack, .plain]) := by decide
  obtain ⟨server, ran, emitted⟩ := Option.bind_eq_some_iff.mp emitted
  obtain ⟨after, stepped, emitted⟩ := Option.map_eq_some_iff.mp emitted
  obtain ⟨emitted, outstanding⟩ := Prod.mk.inj emitted
  refine ⟨server, after, ran, stepped, of_decide_eq_true emitted, ?_⟩
  rintro ⟨⟨cb, stages, phase, all⟩, _, _, _⟩
  rw [phase] at outstanding
  have outstanding : stages = [.calledBack, .plain] := outstanding
  have waits : CloseStage.plain ∈ stages := by simp [outstanding]
  cases all _ waits

end Server
end Centro
