import Centro.Proof.Server.Answered
import Centro.Proof.Server.FailedStart

namespace Centro

open Library

namespace Service

variable {runtime : Runtime} {service : Service}

/-- The function `dstroy` does not look at `_closing`. -/
theorem dstroy_asClosing (service : Service) (number : Nat) (now : Bool) :
    ({ service with closing := true } : Service).dstroy runtime number now =
      { service.dstroy runtime number now with closing := true } := by
  rcases dstroy_cases runtime service number now with ⟨absent, same⟩ | ⟨connection, here, put⟩
  · rw [same]
    simp [dstroy, withClosure, absent]
  · rw [put]
    simp [dstroy, withClosure, here, Service.put]

/-- The loop of `close_transports` does not look at `_closing`. -/
theorem destroyAll_asClosing (service : Service) :
    ({ service with closing := true } : Service).destroyAll runtime =
      { service.destroyAll runtime with closing := true } := by
  unfold destroyAll
  dsimp only
  generalize service.shared.connids.entries = entries
  induction entries generalizing service with
  | nil => rfl
  | cons entry rest ih =>
      unfold visitPresent
      dsimp only
      rw [dstroy_asClosing]
      split
      · exact ih _
      · exact ih _

end Service

namespace Server

variable {runtime : Runtime} {setup : Setup} {server after : Server}

/-- This is the server as it would be after a call of `close`. -/
def asClosing (server : Server) : Server := { server with keyed.service.closing := true }

/-- The test for the end of the shutdown does not read `_closing`. -/
theorem check_asClosing (server : Server) : server.asClosing.check = server.check.asClosing := by
  unfold check connids asClosing
  dsimp only
  split
  · split <;> rfl
  · rfl

/-- An event of a connection is handled alike while `_closing` is set. -/
theorem serve_asClosing (server : Server) (keyed : KeyedService) :
    server.asClosing.serve { keyed with service.closing := true } =
      (server.serve keyed).asClosing := by
  have checked := check_asClosing { server with keyed, lifecycle.listening := false }
  unfold serve empty asClosing at *
  dsimp only at *
  split
  · split
    · exact checked
    · rfl
  · rfl

/-- The first part of the shutdown does not read `_closing`. -/
theorem cont_asClosing (server : Server) (cb : Option Callback) :
    server.asClosing.cont runtime cb = (server.cont runtime cb).asClosing := by
  have contd : server.asClosing.contd cb = (server.contd cb).asClosing := by
    have checked := check_asClosing { server with
      lifecycle := { server.lifecycle.closeAll cb with listening := true, shutdown := .finishing cb [] } }
    unfold contd cont2 asClosing at *
    dsimp only at *
    split
    · exact checked
    · rfl
  have destroyed : server.asClosing.keyed.service.destroyAll runtime =
      { server.keyed.service.destroyAll runtime with closing := true } :=
    Service.destroyAll_asClosing server.keyed.service
  rw [cont_eq, cont_eq, ← serve_asClosing, contd, destroyed]
  rfl

/-- A transport closes alike while `_closing` is set. -/
theorem TransportClosed.asClosing {index : Nat} {err : Option JsString}
    (closed : TransportClosed server index err after) :
    TransportClosed server.asClosing index err after.asClosing := by
  cases closed with
  | failed phase advances => exact .failed phase advances
  | finished phase advances all =>
      rw [cont2, ← check_asClosing]
      exact .finished phase advances all
  | waiting phase advances rest => exact .waiting phase advances rest
  | ignored phase advances => exact .ignored phase advances
  | late phase advances => exact .late phase advances

/-- Until the server is closed, its shutdown drains as if the application had asked for it. -/
def Draws (server : Server) : Prop := server.lifecycle.closed = false → server.asClosing.Drained

theorem draws_of_waits (waits : ¬server.lifecycle.shutdown.Contd) : server.Draws :=
  fun unclosed => .early waits unclosed

theorem check_closed (closed : server.lifecycle.closed = true) :
    server.check.lifecycle.closed = true := by
  rcases check_cases server with ⟨same, _⟩ | ⟨_, _, _, _, finished⟩
  · rw [same]
    exact closed
  · rw [finished]
    rfl

/-- An event of a connection does not undo the event `close`. -/
theorem serve_closed (keyed : KeyedService) (closed : server.lifecycle.closed = true) :
    (server.serve keyed).lifecycle.closed = true := by
  rcases serve_cases server keyed with ⟨quiet, _⟩ | ⟨_, _, emptied⟩
  · rw [quiet]
    exact closed
  · rw [emptied]
    exact check_closed closed

/-- A step of the connections under the condition lets the shutdown drain. -/
theorem serve_draws (draws : server.Draws) (sound : server.keyed.service.Sound)
    {event : KeyedService.Event} {keyed : KeyedService}
    (ran : server.keyed.step runtime event = some keyed)
    (meets : server.ReleasesCleanly (.keyed event)) : (server.serve keyed).Draws := by
  by_cases contd : server.lifecycle.shutdown.Contd
  · intro unclosed
    have unclosed : server.lifecycle.closed = false := by
      by_contra closed
      have later := serve_closed keyed ((Bool.not_eq_false _).mp closed)
      exact absurd (unclosed.symm.trans later) Bool.false_ne_true
    have holds := draws unclosed
    rw [← serve_asClosing]
    rcases KeyedService.step_service ran with same | ⟨move, moved, caused⟩
    · refine ⟨holds.toChecked.serve rfl fun _ => ?_, fun _ _ => ?_⟩
      · show server.keyed.service.shared.Drains keyed.service.shared
        rw [same]
        exact .refl _
      · rw [serve_keyed]
        show ∀ connection ∈ keyed.service.connections, connection.Condemned
        rw [same]
        exact holds.condemned rfl contd
    · have rejects : ∀ transport handshakes channel alreadyClosed draws now,
          move = .transportConnected transport handshakes channel alreadyClosed draws now →
            server.keyed.service.closing = true := by
        rintro _ _ _ _ _ _ rfl
        rcases caused with rfl | ⟨_, _, _, other⟩
        · exact meets contd unclosed
        · cases other
      have drains : server.keyed.service.shared.Drains keyed.service.shared :=
        sound.drains moved rejects
      refine ⟨holds.toChecked.serve rfl fun _ => drains, fun _ _ => ?_⟩
      rw [serve_keyed]
      show ∀ connection ∈ keyed.service.connections, connection.Condemned
      exact sound.condemned_step rejects (holds.condemned rfl contd) moved
  · apply draws_of_waits
    obtain ⟨_, _, _, _, same⟩ := serve_lifecycle server keyed
    rw [same]
    exact contd

/-- A transport that closes without an error keeps the shutdown draining. -/
theorem transportClosed_draws (draws : server.Draws) (clean : server.lifecycle.shutdown.Clean)
    {index : Nat} (closed : TransportClosed server index none after) : after.Draws := by
  intro unclosed
  have unclosed : server.lifecycle.closed = false := by
    by_contra done
    have done : server.lifecycle.closed = true := (Bool.not_eq_false _).mp done
    have later : after.lifecycle.closed = true := by
      cases closed with
      | finished => exact check_closed done
      | _ => exact done
    exact absurd (unclosed.symm.trans later) Bool.false_ne_true
  exact (draws unclosed).transportClosed clean closed.asClosing

variable {first : List ServerCall} {ops : List (Option TransportOps)} {err : JsString}

/-- No close has failed while the server releases what it started. -/
theorem clean_of_releases (releases : server.lifecycle.Releases first ops err) :
    server.lifecycle.shutdown.Clean := by
  have fits : ∀ {stages calls}, Lifecycle.Closes ops stages calls →
      ∀ stage ∈ stages, ∀ err, stage ≠ .wrapped (some err) := by
    rintro stages calls closes _ member err rfl
    obtain ⟨index, here⟩ := List.getElem?_of_mem member
    have inside : index < ops.length := closes.length ▸ (List.getElem?_eq_some_iff.mp here).1
    have bad := closes.fits index ops[index] _ (List.getElem?_eq_getElem inside) here
    generalize ops[index] = own at bad
    cases own <;> cases bad
  cases releases with
  | authz startup collects unclosed shutdown => rw [shutdown]; trivial
  | started startup collected unclosed shutdown => rw [shutdown]; trivial
  | stopping startup collected unclosed shutdown => rw [shutdown]; trivial
  | closingAuthz startup collected unclosed shutdown => rw [shutdown]; trivial
  | closing startup unclosed shutdown tracked closes => rw [shutdown]; exact fits closes
  | finishing startup emitted shutdown tracked closes => rw [shutdown]; exact fits closes

/-- Each step under the condition lets the shutdown drain. -/
theorem draws_step (draws : server.Draws) (releases : server.lifecycle.Releases first ops err)
    (unready : server.lifecycle.ready = false) (sound : server.keyed.service.Sound) {event : Event}
    (meets : server.ReleasesCleanly event) (stepped : Stepped runtime setup server event after) :
    after.Draws := by
  cases stepped with
  | authorization => exact fun unclosed => (draws unclosed).frame rfl rfl rfl rfl
  | keyed ran => exact serve_draws draws sound ran meets
  | authorized starts =>
      obtain ⟨_, _, _, _, rfl⟩ := starts.shape
      exact fun unclosed => (draws unclosed).frame rfl rfl rfl rfl
  | refused phase => cases releases <;> simp_all
  | start starts =>
      obtain ⟨_, _, _, _, rfl⟩ := starts.shape
      exact fun unclosed => (draws unclosed).frame rfl rfl rfl rfl
  | ready phase => cases releases <;> simp_all
  | failed phase settles =>
      apply draws_of_waits
      cases settles with
      | begins _ begins => rcases begins with rfl | rfl <;> exact id
      | ready _ success => cases success
  | close called =>
      cases called with
      | begins _ ready => exact absurd (unready.symm.trans ready) Bool.false_ne_true
      | _ => exact fun unclosed => (draws unclosed).frame rfl rfl rfl rfl
  | stoppedWatching => exact draws_of_waits id
  | @authzClosed cb phase =>
      have waits : ¬(server.authzClosed none).asClosing.lifecycle.shutdown.Contd := by
        show ¬server.lifecycle.shutdown.Contd
        rw [phase]
        exact id
      have unclosed : server.lifecycle.closed = false := by
        cases releases <;> simp_all
      have early : (server.authzClosed none).asClosing.Drained := .early waits unclosed
      intro _
      rw [← cont_asClosing]
      exact early.cont waits ⟨sound.registry, sound.started⟩ cb
  | authzFailed => cases meets
  | cont phase => cases releases <;> simp_all
  | @transportClosed index err after closed =>
      obtain rfl : err = none := meets
      exact transportClosed_draws draws (clean_of_releases releases) closed
  | cont2 phase => cases releases <;> simp_all

/-- The server does not end its shutdown before the start is settled. -/
theorem unclosed_of_reachable (reached : (system runtime setup).Reachable server)
    (starting : ¬server.lifecycle.startup.Settled) : server.lifecycle.closed = false := by
  induction reached with
  | initial => rfl
  | @step before after event reached _ stepped ih =>
      have phased := phased_of_reachable reached
      have late : before.lifecycle.shutdown ≠ .idle →
          after.lifecycle.startup = before.lifecycle.startup → after.lifecycle.closed = false := by
        intro busy startup
        obtain ⟨err, done⟩ := phased.begun busy
        rw [startup, done] at starting
        exact absurd trivial starting
      cases step_cases stepped with
      | authorization => exact ih starting
      | keyed =>
          have early : ¬before.lifecycle.startup.Settled := by
            rw [(serve_start before _).startup] at starting
            exact starting
          have idle := (phased.unsettled early).2
          rcases serve_cases before _ with ⟨quiet, _⟩ | ⟨_, _, emptied⟩
          · rw [quiet]
            exact ih early
          · rw [emptied]
            rcases check_cases _ with ⟨same, _⟩ | ⟨_, _, phase, _, _⟩
            · rw [same]
              exact ih early
            · have phase : before.lifecycle.shutdown = _ := phase
              rw [idle] at phase
              cases phase
      | authorized starts =>
          have unclosed := ih starts.before
          obtain ⟨_, _, _, _, rfl⟩ := starts.shape
          exact unclosed
      | refused => exact absurd trivial starting
      | start starts =>
          have unclosed := ih starts.before
          obtain ⟨_, _, _, _, rfl⟩ := starts.shape
          exact unclosed
      | ready phase settles => cases settles <;> exact absurd trivial starting
      | failed phase settles => cases settles <;> exact absurd trivial starting
      | close called =>
          rw [close_startup called] at starting
          exact (close_closed called).trans (ih starting)
      | stoppedWatching phase => exact late (by simp [phase]) rfl
      | authzClosed phase => exact late (by simp [phase]) (cont_start _ _).startup
      | authzFailed phase => exact late (by simp [phase]) rfl
      | cont phase => exact late (by simp [phase]) (cont_start _ _).startup
      | transportClosed closed =>
          refine late ?_ (transportClosed_start closed).startup
          cases closed <;> simp [*]
      | cont2 phase => exact late (by simp [phase]) (check_start _).startup

/-- The start of a transport fails after these calls. -/
def StartFails (spec : TransportSpec) : StartStage → Prop
  | .authorizing => True
  | .running => spec.authorizeConfig = false
  | .closingAuthz _ => spec.authorizeConfig = true
  | .fsq => False

/-- The authorizer of a transport could not be created, or the transport reports an error to
`ready`. -/
inductive FailsWith (err : JsString) : Event → Prop where
  | authorizer : FailsWith err (.start (.transportAuthorized (some err)))
  | ready : FailsWith err (.start (.transportReady (some err)))

/-- The first failure begins to release what was started. -/
theorem releases_of_failure (reached : (system runtime setup).Reachable server) {index : Nat}
    {stage : StartStage} {before : List (Option TransportOps)}
    (starting : server.lifecycle.startup = .starting index stage before) {event : Event}
    (fails : FailsWith err event) (stepped : server.step runtime setup event = some after) :
    ∃ spec last, setup.transports[index]? = some spec ∧ StartFails spec last ∧
      after.lifecycle.Releases
        (Lifecycle.startedCalls index ++ .startTransport index :: last.calls index)
        (Lifecycle.collected setup index ++ [none]) err ∧
      after.lifecycle.ready = false := by
  have unsettled : ¬server.lifecycle.startup.Settled := by rw [starting]; exact id
  have ordered := ordered_of_reachable reached
  have unclosed := unclosed_of_reachable reached unsettled
  obtain ⟨unready, idle⟩ := (phased_of_reachable reached).unsettled unsettled
  rw [Lifecycle.Ordered, starting] at ordered
  obtain ⟨bound, rfl, tracked⟩ := ordered
  have here : setup.transports[index]? = some setup.transports[index] := List.getElem?_eq_getElem bound
  generalize setup.transports[index] = spec at here
  cases fails with
  | authorizer =>
      obtain ⟨lifecycle, ran, rfl⟩ := Option.map_eq_some_iff.mp stepped
      simp only [Lifecycle.start, starting, here, Option.bind_eq_bind, Option.bind_some] at ran
      cases stage with
      | authorizing =>
          obtain rfl := Option.some.inj ran
          exact ⟨spec, .authorizing, here, trivial, .started rfl rfl unclosed idle tracked, unready⟩
      | _ => cases ran
  | ready =>
      obtain ⟨lifecycle, ran, rfl⟩ := Option.map_eq_some_iff.mp stepped
      simp only [Lifecycle.start, starting, here, Option.bind_eq_bind, Option.bind_some] at ran
      cases stage with
      | running =>
          obtain rfl := Option.some.inj ran
          have warned : (server.lifecycle.call (.warning err)).tracked = server.lifecycle.tracked :=
            Lifecycle.tracked_ignored rfl
          unfold Lifecycle.transportReady
          dsimp only
          split
          · next authorizes =>
              refine ⟨spec, .closingAuthz err, here, authorizes, .authz rfl rfl unclosed idle ?_, unready⟩
              refine (Lifecycle.tracked_called rfl).trans ?_
              refine (congrArg (· ++ [ServerCall.closeTransportAuthz index]) (warned.trans tracked)).trans ?_
              simp [StartStage.calls]
          · next plain =>
              exact ⟨spec, .running, here, (Bool.not_eq_true _).mp plain,
                .started rfl rfl unclosed idle (warned.trans tracked), unready⟩
      | _ => cases ran

/-- These calls release what the failed start of one transport left behind. -/
structure StartReleased (setup : Setup) (index : Nat) (err : JsString) (calls : List ServerCall) :
    Prop where
  transports : ∀ other < index, calls.count (.closeTransport other) = 1
  untouched : ∀ other, index ≤ other → .closeTransport other ∉ calls
  authorizers : ∀ (other : Nat) spec, setup.transports[other]? = some spec →
    calls.count (.closeTransportAuthz other) =
      if spec.authorizeConfig = true ∧ .runTransport other ∈ calls then 1 else 0
  authz : calls.count .closeAuthz = 1
  unstarted : ∀ other, index < other → .startTransport other ∉ calls
  unready : .ready ∉ calls
  error : calls.count (.error err) = 1 ∧ ∀ other, .error other ∈ calls → other = err
  close : .close ∈ calls

/-- These are the calls that start the first transports. -/
theorem mem_startedCalls {count : Nat} {call : ServerCall} :
    call ∈ Lifecycle.startedCalls count ↔
      ∃ index < count, call = .startTransport index ∨ call = .runTransport index := by
  simp [Lifecycle.startedCalls]

/-- A tracked call is found among the tracked ones. -/
theorem mem_calls {server : Server} {call : ServerCall} (counts : call.tracked = true) :
    call ∈ server.lifecycle.calls ↔ call ∈ server.lifecycle.tracked := by
  simp [Lifecycle.tracked, counts]

/-- A tracked call is counted among the tracked ones. -/
theorem count_calls {server : Server} {call : ServerCall} (counts : call.tracked = true) :
    server.lifecycle.calls.count call = server.lifecycle.tracked.count call :=
  (List.count_filter counts).symm

/-- The failed start makes these tracked calls before the transports are closed. -/
def failedCalls (index : Nat) (stage : StartStage) (err : JsString) : List ServerCall :=
  Lifecycle.startedCalls index ++ .startTransport index :: stage.calls index ++
    [.error err, .closeAuthz]

/-- Nothing is closed before the failure but the authorizer of the failed transport. -/
theorem failedCalls_closes (index : Nat) (stage : StartStage) (err : JsString) (other : Nat) :
    .closeTransport other ∉ failedCalls index stage err ∧
      (failedCalls index stage err).count .closeAuthz = 1 ∧
      (failedCalls index stage err).count (.closeTransportAuthz other) =
        if other = index ∧ stage.calls index = [.runTransport index, .closeTransportAuthz index]
        then 1 else 0 := by
  have none : ∀ call, (∀ index, call ≠ .startTransport index ∧ call ≠ .runTransport index) →
      (Lifecycle.startedCalls index).count call = 0 := by
    intro call differs
    apply List.count_eq_zero_of_not_mem
    rw [mem_startedCalls]
    rintro ⟨index, _, rfl | rfl⟩
    · exact (differs index).1 rfl
    · exact (differs index).2 rfl
  refine ⟨?_, ?_, ?_⟩
  · cases stage <;> simp [failedCalls, mem_startedCalls, StartStage.calls]
  · rw [failedCalls, List.count_append, List.count_append, none _ (by simp)]
    cases stage <;> simp [StartStage.calls]
  · rw [failedCalls, List.count_append, List.count_append, none _ (by simp)]
    by_cases same : other = index
    · subst same
      cases stage <;> simp [StartStage.calls]
    · cases stage <;> simp [StartStage.calls, same, Ne.symm same]

/-- The transports are started up to the failed one, and the error is emitted. -/
theorem failedCalls_starts (index : Nat) (stage : StartStage) (err : JsString) :
    (∀ other, .startTransport other ∈ failedCalls index stage err → other ≤ index) ∧
      (∀ other, .runTransport other ∈ failedCalls index stage err ↔
        other < index ∨ (other = index ∧ stage.calls index ≠ [])) ∧
      .ready ∉ failedCalls index stage err ∧
      (failedCalls index stage err).count (.error err) = 1 ∧
      ∀ other, .error other ∈ failedCalls index stage err → other = err := by
  have none : (Lifecycle.startedCalls index).count (.error err) = 0 :=
    List.count_eq_zero_of_not_mem (by simp [mem_startedCalls])
  refine ⟨?_, ?_, ?_, ?_, ?_⟩
  · intro other
    cases stage <;> simp [failedCalls, mem_startedCalls, StartStage.calls] <;> omega
  · intro other
    cases stage <;> simp [failedCalls, mem_startedCalls, StartStage.calls]
  · cases stage <;> simp [failedCalls, mem_startedCalls, StartStage.calls]
  · rw [failedCalls, List.count_append, List.count_append, none]
    cases stage <;> simp [StartStage.calls]
  · intro other
    cases stage <;> simp [failedCalls, mem_startedCalls, StartStage.calls]

/-- The operations of the transports in front of the failed one were collected. -/
theorem collected_getElem? {index : Nat} (bound : index ≤ setup.transports.length) (other : Nat) :
    (Lifecycle.collected setup index ++ [none])[other]? =
      if other < index then setup.transports[other]?.map fun spec => some ⟨spec.authorizeConfig⟩
      else if other = index then some none else none := by
  rw [List.getElem?_append, Lifecycle.collected_length bound]
  split
  · next inside => simp [Lifecycle.collected, List.getElem?_take_of_lt inside]
  · next outside =>
      split
      · next same => simp [same]
      · next differs => simp; omega

/-- Once every close has called back, the released start has made these calls. -/
theorem startReleased {spec : TransportSpec} {stage : StartStage} {index : Nat}
    (here : setup.transports[index]? = some spec) (fails : StartFails spec stage)
    {stages : List CloseStage} {calls : List ServerCall}
    (tracked : server.lifecycle.tracked = failedCalls index stage err ++ calls)
    (closes : Lifecycle.Closes (Lifecycle.collected setup index ++ [none]) stages calls)
    (all : ∀ stage ∈ stages, stage = .calledBack) (emitted : .close ∈ server.lifecycle.calls) :
    StartReleased setup index err server.lifecycle.calls := by
  have bound : index ≤ setup.transports.length := (List.getElem?_eq_some_iff.mp here).1.le
  have length : (Lifecycle.collected setup index ++ [none]).length = index + 1 := by
    rw [List.length_append, Lifecycle.collected_length bound]
    rfl
  have own := collected_getElem? bound
  have done : ∀ other ≤ index, stages[other]? = some .calledBack := by
    intro other inside
    have listed : other < stages.length := by rw [closes.length, length]; omega
    rw [List.getElem?_eq_getElem listed, all _ (List.getElem_mem listed)]
  have count : ∀ call, call.tracked = true → server.lifecycle.calls.count call =
      (failedCalls index stage err).count call + calls.count call := by
    intro call counts
    rw [count_calls counts, tracked, List.count_append]
  have mem : ∀ call, call.tracked = true → (call ∈ server.lifecycle.calls ↔
      call ∈ failedCalls index stage err ∨ call ∈ calls) := by
    intro call counts
    rw [mem_calls counts, tracked, List.mem_append]
  obtain ⟨starts, runs, unready, error, errors⟩ := failedCalls_starts index stage err
  have front := failedCalls_closes index stage err
  constructor
  · intro other inside
    have known : setup.transports[other]? = some setup.transports[other] :=
      List.getElem?_eq_getElem (by omega)
    have listed := own other
    rw [if_pos inside, known] at listed
    rw [count _ rfl, List.count_eq_zero_of_not_mem (front other).1,
      closes.transports other _ _ listed (done other inside.le)]
    rfl
  · intro other outside
    rw [mem _ rfl]
    rintro (member | member)
    · exact (front other).1 member
    · have inside := closes.index_lt (.inl member)
      have listed := own other
      rw [if_neg (by omega), if_pos (by omega)] at listed
      have zero := closes.transports other none _ listed (done other (by omega))
      exact List.count_eq_zero.mp zero member
  · intro other found known
    have ran : .runTransport other ∈ server.lifecycle.calls ↔
        other < index ∨ (other = index ∧ stage.calls index ≠ []) := by
      have never : ServerCall.runTransport other ∉ calls := closes.not_mem (by simp)
      rw [mem _ rfl, runs, or_iff_left never]
    simp only [ran]
    rw [count _ rfl, (front other).2.2]
    rcases Nat.lt_trichotomy other index with before | rfl | behind
    · have listed := own other
      rw [if_pos before, known] at listed
      rw [closes.authorizers other _ listed, if_neg (by omega)]
      simp [TransportOps.owned, before]
    · obtain rfl := Option.some.inj (here.symm.trans known)
      have listed := own other
      rw [if_neg (by omega), if_pos rfl] at listed
      rw [closes.authorizers other _ listed]
      cases stage <;> simp_all [StartFails, StartStage.calls, TransportOps.owned]
    · have none : calls.count (.closeTransportAuthz other) = 0 := by
        apply List.count_eq_zero_of_not_mem
        intro member
        have inside := closes.index_lt (.inr member)
        omega
      rw [none, if_neg (by omega), if_neg (by omega)]
  · rw [count _ rfl, (front 0).2.1, List.count_eq_zero_of_not_mem (closes.not_mem (by simp))]
  · intro other behind
    rw [mem _ rfl]
    rintro (member | member)
    · exact absurd (starts other member) (by omega)
    · exact closes.not_mem (by simp) member
  · rw [mem _ rfl]
    rintro (member | member)
    · exact unready member
    · exact closes.not_mem (by simp) member
  · constructor
    · rw [count _ rfl, error, List.count_eq_zero_of_not_mem (closes.not_mem (by simp))]
    · intro other
      rw [mem _ rfl]
      rintro (member | member)
      · exact errors other member
      · exact absurd member (closes.not_mem (by simp))
  · exact emitted

/-- A run under the condition goes on to release what was started. -/
theorem releases_run {events : List Event} (reached : (system runtime setup).Reachable server)
    (releases : server.lifecycle.Releases first ops err) (nonempty : ops ≠ [])
    (unready : server.lifecycle.ready = false) (draws : server.Draws)
    (meets : (system runtime setup).AllSteps ReleasesCleanly server events)
    (ran : (system runtime setup).run server events = some after) :
    (system runtime setup).Reachable after ∧ after.lifecycle.Releases first ops err ∧
      after.Draws := by
  induction events generalizing server with
  | nil =>
      obtain rfl : server = after := by simpa [TransitionSystem.run] using ran
      exact ⟨reached, releases, draws⟩
  | cons event rest ih =>
      obtain ⟨next, stepped, ran⟩ := Option.bind_eq_some_iff.mp ran
      obtain ⟨here, later⟩ := meets next stepped
      obtain ⟨releases', unready'⟩ := releases_step releases unready nonempty here stepped
      have draws' := draws_step draws releases unready (sound_of_reachable reached) here
        (step_cases stepped)
      exact ih (.step reached trivial stepped) releases' unready' draws' later ran

/-- A quiet server has ended the shutdown that releases the start. -/
theorem closed_of_quiet (sound : server.keyed.service.Sound) (draws : server.Draws)
    {cb : Option Callback} {stages : List CloseStage}
    (shutdown : server.lifecycle.shutdown = .finishing cb stages) (quiet : server.Quiet) :
    server.lifecycle.closed = true := by
  by_contra unclosed
  have unclosed : server.lifecycle.closed = false := (Bool.not_eq_true _).mp unclosed
  have drained := draws unclosed
  have contd : server.asClosing.lifecycle.shutdown.Contd := by
    show server.lifecycle.shutdown.Contd
    rw [shutdown]
    trivial
  have left : server.connids.size ≠ 0 := drained.unclosed rfl unclosed cb stages shutdown
  refine left (OrderedMap.size_eq_zero.mpr fun connid => ?_)
  by_contra found
  obtain ⟨number, found⟩ := Option.ne_none_iff_exists'.mp found
  obtain ⟨connection, here, isOpen, _⟩ := sound.connids.mp found
  have known := List.mem_of_getElem? here
  have destroyed := drained.condemned rfl contd connection known isOpen
  exact absurd ((quiet.connections connection known isOpen).symm.trans destroyed) Bool.false_ne_true

/-- In every run under the condition a start that failed has released everything before the server
is quiet. -/
theorem failedStart_released {index : Nat} {stage : StartStage}
    {before : List (Option TransportOps)} {event : Event} {events : List Event} {failed last : Server}
    (reached : (system runtime setup).Reachable server)
    (starting : server.lifecycle.startup = .starting index stage before)
    (fails : FailsWith err event) (stepped : server.step runtime setup event = some failed)
    (meets : (system runtime setup).AllSteps ReleasesCleanly failed events)
    (ran : (system runtime setup).run failed events = some last) (quiet : last.Quiet) :
    StartReleased setup index err last.lifecycle.calls := by
  obtain ⟨spec, ended, here, how, releases, unready⟩ :=
    releases_of_failure reached starting fails stepped
  have draws : failed.Draws := by
    apply draws_of_waits
    have unsettled : ¬server.lifecycle.startup.Settled := by rw [starting]; exact id
    have idle := ((phased_of_reachable reached).unsettled unsettled).2
    cases fails with
    | _ =>
        obtain ⟨lifecycle, started, rfl⟩ := Option.map_eq_some_iff.mp stepped
        obtain ⟨_, _, _, _, rfl⟩ := (Lifecycle.start_starts started).shape
        show ¬server.lifecycle.shutdown.Contd
        rw [idle]
        exact id
  obtain ⟨reached, releases, draws⟩ := releases_run (.step reached trivial stepped) releases
    (by simp) unready draws meets ran
  have startup := quiet.startup
  have shutdown := quiet.shutdown
  cases releases with
  | authz phase =>
      rw [phase] at startup
      exact startup.elim
  | started phase =>
      rw [phase] at startup
      exact startup.elim
  | stopping _ _ _ phase =>
      rw [phase] at shutdown
      exact shutdown.elim
  | closingAuthz _ _ _ phase =>
      rw [phase] at shutdown
      exact shutdown.elim
  | closing _ unclosed phase tracked closes =>
      rw [phase] at shutdown
      obtain ⟨stage, member, busy⟩ := (draws unclosed).outstanding _ _ phase
      exact absurd (shutdown stage member) busy
  | finishing _ emitted phase tracked closes =>
      have closed := closed_of_quiet (sound_of_reachable reached) draws phase quiet
      rw [phase] at shutdown
      exact startReleased here how tracked closes shutdown (emitted closed)

/-- The second of three transports fails after its authorizer was created, and a listener for the
error calls `close`. -/
theorem failedStart_released_sample : ∃ server failed last,
    (system sampleRuntime { transports := [{}, { authorizeConfig := true }, {}], fsq := some true }).run
      {} [.authorized none 0, .start (.transportReady none), .start (.transportAuthorized none)] =
        some server ∧
    server.step sampleRuntime
      { transports := [{}, { authorizeConfig := true }, {}], fsq := some true }
      (.start (.transportReady (some (text "dummy")))) = some failed ∧
    (system sampleRuntime { transports := [{}, { authorizeConfig := true }, {}], fsq := some true }).run
      failed [.start (.transportAuthzClosed none), .tick 1, .authzClosed none,
        .transportClosed 0 none, .transportClosed 1 none] = some last ∧
    last.Quiet ∧
    StartReleased { transports := [{}, { authorizeConfig := true }, {}], fsq := some true } 1
      (text "dummy") last.lifecycle.calls := by
  obtain ⟨server, failed, last, ran, starting, stepped, later, startup, finished, connections⟩ :
      ∃ server failed last,
      (system sampleRuntime
        { transports := [{}, { authorizeConfig := true }, {}], fsq := some true }).run {}
        [.authorized none 0, .start (.transportReady none), .start (.transportAuthorized none)] =
          some server ∧
      server.lifecycle.startup = .starting 1 .running [some ⟨false⟩] ∧
      server.step sampleRuntime
        { transports := [{}, { authorizeConfig := true }, {}], fsq := some true }
        (.start (.transportReady (some (text "dummy")))) = some failed ∧
      (system sampleRuntime
        { transports := [{}, { authorizeConfig := true }, {}], fsq := some true }).run failed
        [.start (.transportAuthzClosed none), .tick 1, .authzClosed none,
          .transportClosed 0 none, .transportClosed 1 none] = some last ∧
      last.lifecycle.startup = .done (some (text "dummy")) ∧
      last.lifecycle.shutdown = .finishing (some 0) [.calledBack, .calledBack] ∧
      last.keyed.service.connections = [] :=
    ⟨_, _, _, rfl, rfl, rfl, rfl, rfl, rfl, rfl⟩
  have meets : (system sampleRuntime
      { transports := [{}, { authorizeConfig := true }, {}], fsq := some true }).AllSteps
      ReleasesCleanly failed [.start (.transportAuthzClosed none), .tick 1, .authzClosed none,
        .transportClosed 0 none, .transportClosed 1 none] :=
    fun _ _ => ⟨trivial, fun _ _ => ⟨trivial, fun _ _ => ⟨rfl, fun _ _ => ⟨rfl, fun _ _ =>
      ⟨rfl, trivial⟩⟩⟩⟩⟩
  have quiet : last.Quiet := by
    constructor
    · rw [startup]
      trivial
    · rw [finished]
      simp [Shutdown.Quiet, Shutdown.stages]
    · simp [connections]
  exact ⟨server, failed, last, ran, stepped, later, quiet,
    failedStart_released (TransitionSystem.reachable_of_run ran) starting .ready stepped meets later
      quiet⟩

/-- A stream that is accepted while the failed start closes its transports keeps the server from
emitting `close`. -/
theorem failedStart_unreleased : ∃ server failed last,
    (system sampleRuntime { transports := [{}, {}], fsq := some true }).run {}
      [.authorized none 0, .start (.transportReady none)] = some server ∧
    server.lifecycle.startup = .starting 1 .running [some ⟨false⟩] ∧
    server.step sampleRuntime { transports := [{}, {}], fsq := some true }
      (.start (.transportReady (some (text "dummy")))) = some failed ∧
    (system sampleRuntime { transports := [{}, {}], fsq := some true }).run failed
      [.tick 0, .authzClosed none,
       .keyed (.service (.transportConnected { config := {} } [sampleHandshake] {} false
         [sampleConnid] 0)),
       .transportClosed 0 none, .transportClosed 1 none] = some last ∧
    last.Quiet ∧ .close ∉ last.lifecycle.calls := by
  refine ⟨_, _, _, rfl, rfl, rfl, rfl, ⟨trivial, ?_, ?_⟩, by decide⟩
  · exact List.forall_mem_cons.mpr ⟨rfl, List.forall_mem_singleton.mpr rfl⟩
  · intro connection member _
    obtain rfl := List.mem_singleton.mp member
    rfl

end Server
end Centro
