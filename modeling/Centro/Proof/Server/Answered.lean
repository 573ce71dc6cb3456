import Centro.Proof.Server.Drained

namespace Centro

open Library

/-- The call answers the function with this number. -/
def ServerCall.answers (cb : Callback) : ServerCall → Bool
  | .calledBack other _ => other == cb
  | _ => false

/-- The shutdown holds this function. -/
def Shutdown.cb : Shutdown → Option Callback
  | .idle => none
  | .stopping cb | .closingAuthz cb | .authzFailed cb => cb
  | .closingTransports cb _ | .transportsFailed cb _ | .finishing cb _ => cb

/-- The shutdown waits neither for the `fsq` nor for an authorizer nor for a transport. -/
def Shutdown.Quiet : Shutdown → Prop
  | .stopping _ | .closingAuthz _ => False
  | shutdown => ∀ stage ∈ shutdown.stages, stage = .calledBack

/-- This many answers for the function are still to come. -/
def Lifecycle.held (lifecycle : Lifecycle) (cb : Callback) : Nat :=
  lifecycle.closeCb.toList.count cb +
    (if lifecycle.closed then 0 else lifecycle.shutdown.cb.toList.count cb) +
    lifecycle.waiters.count cb

namespace ServerCall

/-- Plain calls are no calls of `close`. -/
theorem count_closeCalled {more : List ServerCall} (plain : ∀ call ∈ more, call.plain = true)
    (cb : Callback) : more.count (.closeCalled cb) = 0 := by
  apply List.count_eq_zero_of_not_mem
  intro member
  exact absurd (plain _ member) Bool.false_ne_true

/-- Plain calls answer no callback. -/
theorem countP_answers {more : List ServerCall} (plain : ∀ call ∈ more, call.plain = true)
    (cb : Callback) : more.countP (answers cb) = 0 := by
  apply List.countP_eq_zero.mpr
  intro call member
  have mute := plain call member
  cases call <;> simp_all [ServerCall.plain, answers]

/-- Each callback is answered once. -/
theorem countP_answers_map (callbacks : List Callback) (err : Option JsString) (cb : Callback) :
    (callbacks.map fun other => calledBack other err).countP (answers cb) =
      callbacks.count cb := by
  rw [List.countP_map, List.count]
  rfl

end ServerCall

namespace Server

variable {runtime : Runtime} {setup : Setup} {server after : Server}

/-- No asynchronous operation of the start, of the shutdown or of a destroyed connection is
outstanding. -/
structure Quiet (server : Server) : Prop where
  startup : server.lifecycle.startup.Settled
  shutdown : server.lifecycle.shutdown.Quiet
  connections : ∀ connection ∈ server.keyed.service.connections, connection.Open →
    connection.destroyed = false

/-- Each call of `close` is answered or held. -/
structure Ledger (server : Server) : Prop where
  numbered : ∀ cb, server.lifecycle.calls.count (.closeCalled cb) =
    if cb < server.lifecycle.callbacks then 1 else 0
  balanced : ∀ cb, server.lifecycle.calls.count (.closeCalled cb) =
    server.lifecycle.calls.countP (ServerCall.answers cb) + server.lifecycle.held cb
  waiters : server.lifecycle.closed = true → server.lifecycle.waiters = []
  untouched : server.closing = false → server.lifecycle.callbacks = 0 ∧
    server.lifecycle.shutdown.cb = none ∧ server.lifecycle.waiters = []

namespace Ledger

/-- Other calls leave the ledger alone. -/
theorem frame (holds : server.Ledger) {more : List ServerCall}
    (calls : after.lifecycle.calls = server.lifecycle.calls ++ more)
    (plain : ∀ call ∈ more, ServerCall.plain call = true)
    (closeCb : after.lifecycle.closeCb = server.lifecycle.closeCb)
    (closed : after.lifecycle.closed = server.lifecycle.closed)
    (waiters : after.lifecycle.waiters = server.lifecycle.waiters)
    (callbacks : after.lifecycle.callbacks = server.lifecycle.callbacks)
    (cb : after.lifecycle.shutdown.cb = server.lifecycle.shutdown.cb)
    (closing : after.closing = server.closing) : after.Ledger := by
  have held : ∀ other, after.lifecycle.held other = server.lifecycle.held other := by
    intro other
    rw [Lifecycle.held, closeCb, closed, waiters, cb]
    rfl
  constructor
  · intro other
    rw [calls, callbacks, List.count_append, ServerCall.count_closeCalled plain]
    exact holds.numbered other
  · intro other
    rw [calls, List.count_append, List.countP_append, ServerCall.count_closeCalled plain,
      ServerCall.countP_answers plain, held]
    exact holds.balanced other
  · rw [closed, waiters]
    exact holds.waiters
  · rw [closing, callbacks, cb, waiters]
    exact holds.untouched

/-- The end of the shutdown answers what is held, once. -/
theorem check (holds : server.Ledger)
    (once : server.lifecycle.closed = true → server.lifecycle.shutdown.cb = none) :
    server.check.Ledger := by
  rcases check_cases server with ⟨same, _⟩ | ⟨cb, stages, phase, _, finished⟩
  · rw [same]
    exact holds
  · rw [finished]
    rw [phase] at once
    have silent : ∀ (callbacks : List Callback) (other : Callback),
        (callbacks.map fun cb => ServerCall.calledBack cb none).count (.closeCalled other) = 0 := by
      intro callbacks other
      apply List.count_eq_zero_of_not_mem
      simp
    have last : (cb.map fun cb => ServerCall.calledBack cb none).toList =
        cb.toList.map fun cb => ServerCall.calledBack cb none := by
      cases cb <;> rfl
    have count : ∀ other, (server.lifecycle.finish cb).calls.count (.closeCalled other) =
        server.lifecycle.calls.count (.closeCalled other) := by
      intro other
      simp [Lifecycle.finish, last, silent]
    constructor
    · intro other
      rw [count]
      exact holds.numbered other
    · intro other
      have balanced := holds.balanced other
      rw [count, balanced]
      simp only [Lifecycle.finish, last, List.countP_append, ServerCall.countP_answers_map,
        List.countP_singleton, ServerCall.answers, Lifecycle.held, phase, Shutdown.cb, if_true,
        List.count_nil, Bool.false_eq_true, if_false]
      cases closed : server.lifecycle.closed with
      | true =>
          have none : cb = none := once closed
          simp [holds.waiters closed, none]
      | false =>
          simp only [Bool.false_eq_true, if_false]
          omega
    · exact fun _ => rfl
    · intro staying
      obtain ⟨callbacks, none, _⟩ := holds.untouched staying
      exact ⟨callbacks, none, rfl⟩

/-- A closed server that is asked to close has no connection left to emit `empty` for. -/
theorem serve (holds : server.Ledger) {keyed : KeyedService}
    (gone : server.closing = true → server.lifecycle.closed = true → server.connids.size = 0)
    (closing : keyed.service.closing = server.closing)
    (drains : server.closing = true →
      server.keyed.service.shared.Drains keyed.service.shared) : (server.serve keyed).Ledger := by
  rcases serve_cases server keyed with ⟨quiet, _⟩ | ⟨_, emitted, emptied⟩
  · rw [quiet]
    exact holds.frame (List.append_nil _).symm (by simp) rfl rfl rfl rfl rfl closing
  · rw [emptied]
    let emptied : Server := { server with keyed, lifecycle.listening := false }
    have noted : emptied.Ledger :=
      holds.frame (List.append_nil _).symm (by simp) rfl rfl rfl rfl rfl closing
    refine noted.check fun closed => ?_
    cases begun : server.closing with
    | false => exact (holds.untouched begun).2.1
    | true =>
        have none : server.keyed.service.shared.connids.size = 0 := gone begun closed
        have same := (drains begun).emptied
        simp only [none, ne_eq, not_true_eq_false, false_and, if_false] at same
        omega

/-- The first part of the shutdown keeps the ledger. -/
theorem cont (holds : server.Ledger) (drained : server.Drained)
    (waits : ¬server.lifecycle.shutdown.Contd) (sound : server.keyed.service.Sound)
    {cb : Option Callback} (cbs : server.lifecycle.shutdown.cb = cb) :
    (server.cont runtime cb).Ledger := by
  have unclosed := drained.idle_unclosed waits
  let closing : Server :=
    { server with lifecycle := { server.lifecycle.closeAll cb with listening := true } }
  have begun : closing.Ledger :=
    holds.frame rfl (Lifecycle.firstCalls_plain _) rfl rfl rfl rfl cbs.symm rfl
  rw [cont_eq]
  apply serve
  · unfold contd
    split
    · refine check ?_ fun closed => ?_
      · exact begun.frame (List.append_nil _).symm (by simp) rfl rfl rfl rfl rfl rfl
      · exact absurd (unclosed.symm.trans closed) Bool.false_ne_true
    · exact begun
  · exact (contd_checked unclosed cb).gone
  · rw [Server.closing, contd_keyed]
    exact Service.destroyAll_closing
  · intro _
    have last : server.keyed.service.step runtime .destroyAll =
        some (server.keyed.service.destroyAll runtime) := rfl
    rw [contd_keyed]
    exact sound.drains last (by simp)

/-- A call of `close` is answered at once or held from now on. -/
theorem called (holds : server.Ledger) {more : List ServerCall}
    (calls : after.lifecycle.calls =
      server.lifecycle.calls ++ [.closeCalled server.lifecycle.callbacks] ++ more)
    (callbacks : after.lifecycle.callbacks = server.lifecycle.callbacks + 1)
    (silent : ∀ cb, more.count (.closeCalled cb) = 0)
    (answered : ∀ cb, more.countP (ServerCall.answers cb) + after.lifecycle.held cb =
      server.lifecycle.held cb + [server.lifecycle.callbacks].count cb)
    (waiters : after.lifecycle.closed = true → after.lifecycle.waiters = [])
    (closing : after.closing = true) : after.Ledger := by
  have count : ∀ cb, after.lifecycle.calls.count (.closeCalled cb) =
      server.lifecycle.calls.count (.closeCalled cb) + [server.lifecycle.callbacks].count cb := by
    intro cb
    rw [calls, List.count_append, List.count_append, silent]
    simp [List.count_singleton]
  constructor
  · intro cb
    rw [count, holds.numbered, callbacks, List.count_singleton]
    rcases Nat.lt_trichotomy cb server.lifecycle.callbacks with less | same | more
    · simp [less, Nat.lt_succ_of_lt less, Nat.ne_of_gt less]
    · simp [same]
    · have later : server.lifecycle.callbacks + 1 ≤ cb := more
      rw [if_neg (Nat.not_lt_of_gt more), if_neg (by simpa using Nat.ne_of_lt more),
        if_neg (Nat.not_lt_of_ge later)]
  · intro cb
    have balanced := holds.balanced cb
    have now := answered cb
    rw [count, calls, List.countP_append, List.countP_append]
    simp only [List.countP_singleton, ServerCall.answers, Bool.false_eq_true, if_false]
    omega
  · exact waiters
  · exact fun staying => absurd (staying.symm.trans closing) Bool.false_ne_true

/-- A call of `close` is answered, waits, or is the first one and held alone. -/
theorem close (holds : server.Ledger) (drained : server.Drained) (controlled : server.Controlled)
    (phased : server.Phased)
    (inTime : server.closing = false → ∀ err, server.lifecycle.startup ≠ .done (some err))
    (called : CloseCalled server after) : after.Ledger := by
  cases called with
  | answered begun closed =>
      apply holds.called rfl rfl
      · simp
      · intro cb
        simp [ServerCall.answers, Lifecycle.held, Lifecycle.call, Lifecycle.noted,
          List.count_singleton, Nat.add_comm]
      · exact holds.waiters
      · exact begun
  | waits begun unclosed =>
      apply holds.called (List.append_nil _).symm rfl
      · simp
      · intro cb
        simp only [Lifecycle.held, Lifecycle.noted, List.count_append, List.countP_nil, unclosed]
        omega
      · exact fun closed => absurd (unclosed.symm.trans closed) Bool.false_ne_true
      · exact begun
  | @begins shutdown made staying ready begins plain =>
      have idle := controlled.idle phased staying (inTime staying)
      have unclosed : server.lifecycle.closed = false := by
        apply drained.idle_unclosed
        rw [idle]
        exact id
      have owner : shutdown.cb = some server.lifecycle.callbacks := by
        rcases begins with rfl | rfl <;> rfl
      have plain : ∀ call ∈ [made], ServerCall.plain call = true := by simpa using plain
      apply holds.called rfl rfl
      · exact ServerCall.count_closeCalled plain
      · intro cb
        rw [ServerCall.countP_answers plain]
        simp only [Lifecycle.held, Lifecycle.noted, owner, unclosed, (holds.untouched staying).2.1,
          Bool.false_eq_true, if_false, Option.toList_some, Option.toList_none, List.count_nil]
        omega
      · exact fun closed => absurd (unclosed.symm.trans closed) Bool.false_ne_true
      · rfl
  | stored staying =>
      have none : server.lifecycle.closeCb = none := by
        by_contra some
        have begun := phased.closeCb (Option.isSome_iff_ne_none.mpr some)
        exact absurd (staying.symm.trans begun) Bool.false_ne_true
      apply holds.called (List.append_nil _).symm rfl
      · simp
      · intro cb
        simp only [Lifecycle.held, Lifecycle.noted, none, Option.toList_some, Option.toList_none,
          List.count_nil, List.countP_nil]
        omega
      · exact fun _ => (holds.untouched staying).2.2
      · rfl

/-- The listeners for `error` call `close` before the start is settled. -/
theorem error (holds : server.Ledger) (drained : server.Drained) (controlled : server.Controlled)
    (phased : server.Phased) (starting : ¬server.lifecycle.startup.Settled) (err : JsString)
    (closes : Nat) : (server.error setup err closes).Ledger := by
  let still : Server → Prop := fun called => called.Ledger ∧ called.Drained ∧ called.Controlled ∧
    called.Phased ∧ ¬called.lifecycle.startup.Settled
  have kept : still (server.error setup err closes) := by
    apply error_invariant err closes
    · exact ⟨holds.frame rfl (by simp [ServerCall.plain]) rfl rfl rfl rfl rfl rfl,
        drained.frame rfl rfl rfl rfl, controlled.frame rfl rfl rfl rfl rfl,
        phased.frame rfl rfl id rfl id, starting⟩
    · rintro before after ⟨holds, drained, controlled, phased, starting⟩ called
      have late : before.closing = false → ∀ err, before.lifecycle.startup ≠ .done (some err) :=
        fun _ err => (Startup.inTime starting err).2
      refine ⟨holds.close drained controlled phased late called,
        drained.close controlled phased late called,
        controlled.close (fun _ => Startup.inTime starting) called, phased.close called, ?_⟩
      rw [close_startup called]
      exact starting
  exact kept.1

/-- The start keeps the ledger. -/
theorem starts (holds : server.Ledger) {lifecycle : Lifecycle}
    (starts : server.lifecycle.Starts lifecycle) : Ledger { server with lifecycle } := by
  obtain ⟨_, _, more, plain, rfl⟩ := starts.shape
  exact holds.frame rfl plain rfl rfl rfl rfl rfl rfl

/-- The last callback of the start hands over what `_close_cb` holds. -/
theorem settle (holds : server.Ledger) (phased : server.Phased)
    (idle : server.lifecycle.shutdown = .idle) (unclosed : server.lifecycle.closed = false)
    {err : Option JsString} (settles : Settles server err after) : after.Ledger := by
  cases settles with
  | @begins shutdown made asked begins plain =>
      have owner : shutdown.cb = server.lifecycle.closeCb := by
        rcases begins with rfl | rfl <;> rfl
      have plain : ∀ call ∈ [made], ServerCall.plain call = true := by simpa using plain
      have none : server.lifecycle.shutdown.cb = none := by
        rw [idle]
        rfl
      constructor
      · intro cb
        rw [List.count_append, ServerCall.count_closeCalled plain]
        exact holds.numbered cb
      · intro cb
        have balanced := holds.balanced cb
        rw [List.count_append, ServerCall.count_closeCalled plain, List.countP_append,
          ServerCall.countP_answers plain]
        simp only [Lifecycle.held, owner, unclosed, none, Option.toList_none, List.count_nil,
          Bool.false_eq_true, if_false] at balanced ⊢
        omega
      · exact holds.waiters
      · intro staying
        obtain ⟨callbacks, _, waiters⟩ := holds.untouched staying
        refine ⟨callbacks, ?_, waiters⟩
        rw [owner]
        by_contra some
        have begun := phased.closeCb (Option.isSome_iff_ne_none.mpr some)
        exact absurd (staying.symm.trans begun) Bool.false_ne_true
  | ready => exact holds.frame rfl (by simp [ServerCall.plain]) rfl rfl rfl rfl rfl rfl

/-- A transport that has closed keeps the ledger. -/
theorem transportClosed {index : Nat} {err : Option JsString} (holds : server.Ledger)
    (drained : server.Drained) (controlled : server.Controlled)
    (closed : TransportClosed server index err after) (success : err = none) : after.Ledger := by
  have clean := controlled.clean
  cases closed with
  | failed phase advances =>
      rw [phase] at clean
      cases (advances.clean success clean).1
  | @finished cb stages last more phase advances =>
      let next : Server := { server with lifecycle := { server.lifecycle with
        shutdown := .finishing cb (stages.set index last)
        calls := server.lifecycle.calls ++ more } }
      have noted : next.Ledger :=
        holds.frame rfl advances.plain rfl rfl rfl rfl (by rw [phase]; rfl) rfl
      refine noted.check fun closed => ?_
      obtain ⟨_, _, other⟩ := drained.finishing closed
      rw [phase] at other
      cases other
  | waiting phase advances =>
      exact holds.frame rfl advances.plain rfl rfl rfl rfl (by rw [phase]; rfl) rfl
  | ignored phase advances =>
      exact holds.frame rfl advances.plain rfl rfl rfl rfl (by rw [phase]; rfl) rfl
  | late phase advances =>
      exact holds.frame rfl advances.plain rfl rfl rfl rfl (by rw [phase]; rfl) rfl

/-- Each step under the condition keeps the ledger. -/
theorem step (holds : server.Ledger) (drained : server.Drained) (controlled : server.Controlled)
    (phased : server.Phased) (sound : server.keyed.service.Sound) {event : Event}
    (meets : server.ClosesCleanly event) (stepped : Stepped runtime setup server event after) :
    after.Ledger := by
  have clean := controlled.clean
  cases stepped with
  | authorization =>
      exact holds.frame (List.append_nil _).symm (by simp) rfl rfl rfl rfl rfl rfl
  | keyed ran other =>
      apply holds.serve drained.gone (KeyedService.step_closing ran other)
      intro begun
      rcases KeyedService.step_service ran with same | ⟨move, moved, _⟩
      · rw [same]
        exact .refl _
      · exact sound.drains moved fun _ _ _ _ _ _ _ => begun
  | authorized starts => exact holds.starts starts
  | refused =>
      obtain ⟨rfl, _⟩ := meets
      exact holds.frame rfl (by simp [ServerCall.plain]) rfl rfl rfl rfl rfl rfl
  | start starts => exact holds.starts starts
  | ready phase settles =>
      have idle := (phased.unsettled (by rw [phase]; exact id)).2
      refine holds.settle phased idle (drained.idle_unclosed ?_) settles
      rw [idle]
      exact id
  | @failed err closes after phase settles =>
      have starting : ¬server.lifecycle.startup.Settled := by rw [phase]; exact id
      have unclosed : server.lifecycle.closed = false := by
        apply drained.idle_unclosed
        rw [(phased.unsettled starting).2]
        exact id
      obtain ⟨_, _, idle⟩ := phased.error_unsettled starting err closes
      have called : (server.error setup err closes).Ledger :=
        holds.error drained controlled phased starting err closes
      exact called.settle (phased.error err closes) idle
        ((error_closed setup server err closes).trans unclosed) settles
  | close called =>
      exact holds.close drained controlled phased (fun staying err => (meets staying err).2) called
  | stoppedWatching phase =>
      exact holds.frame rfl (by simp [ServerCall.plain]) rfl rfl rfl rfl (by rw [phase]; rfl) rfl
  | @authzClosed cb phase =>
      have noted : (server.authzClosed none).Ledger :=
        holds.frame rfl (by simp [ServerCall.plain]) rfl rfl rfl rfl rfl rfl
      have waits : ¬server.lifecycle.shutdown.Contd := by
        rw [phase]
        exact id
      refine noted.cont (drained.frame rfl rfl rfl rfl) waits sound ?_
      show server.lifecycle.shutdown.cb = cb
      rw [phase]
      rfl
  | authzFailed => cases meets
  | cont phase =>
      rw [phase] at clean
      exact clean.elim
  | transportClosed closed => exact holds.transportClosed drained controlled closed meets
  | cont2 phase =>
      rw [phase] at clean
      exact clean.elim

theorem initial : Ledger {} where
  numbered := fun _ => rfl
  balanced := fun _ => rfl
  waiters := fun _ => rfl
  untouched := fun _ => ⟨rfl, rfl, rfl⟩

end Ledger

/-- The ledger is kept in every run with orderly closes. -/
theorem ledger_of_reachable
    (reached : (system runtime setup).ReachableUnder ClosesCleanly server) : server.Ledger := by
  induction reached with
  | initial => exact .initial
  | step reached meets stepped holds =>
      exact holds.step (drained_of_reachable reached) (controlled_of_reachable reached)
        (phased_of_reachable reached.reachable) (sound_of_reachable reached.reachable) meets
        (step_cases stepped)

/-- A quiet server that was asked to close holds no function any more. -/
theorem held_of_quiet (reached : (system runtime setup).ReachableUnder ClosesCleanly server)
    (quiet : server.Quiet) (closing : server.closing = true) (cb : Callback) :
    server.lifecycle.held cb = 0 := by
  have controlled := controlled_of_reachable reached
  have drained := drained_of_reachable reached
  have ledger := ledger_of_reachable reached
  have sound := sound_of_reachable reached.reachable
  have free : server.lifecycle.closeCb = none := by
    by_contra some
    exact controlled.closeCb (Option.isSome_iff_ne_none.mpr some) quiet.startup
  have closed : server.lifecycle.closed = true := by
    have shutdown := quiet.shutdown
    have clean := controlled.clean
    cases phase : server.lifecycle.shutdown with
    | idle => exact absurd quiet.startup (controlled.waiting closing phase).1
    | stopping cb =>
        rw [phase] at shutdown
        exact shutdown.elim
    | closingAuthz cb =>
        rw [phase] at shutdown
        exact shutdown.elim
    | authzFailed cb =>
        rw [phase] at clean
        exact clean.elim
    | closingTransports cb stages =>
        rw [phase] at shutdown
        obtain ⟨stage, member, busy⟩ := drained.outstanding cb stages phase
        exact absurd (shutdown stage member) busy
    | transportsFailed cb stages =>
        rw [phase] at clean
        exact clean.elim
    | finishing cb stages =>
        by_contra unclosed
        have unclosed : server.lifecycle.closed = false := (Bool.not_eq_true _).mp unclosed
        have some := drained.unclosed closing unclosed cb stages phase
        -- An id belongs to an open connection, which is destroyed and has not closed yet.
        refine some (OrderedMap.size_eq_zero.mpr fun connid => ?_)
        by_contra found
        obtain ⟨number, found⟩ := Option.ne_none_iff_exists'.mp found
        obtain ⟨connection, here, isOpen, _⟩ := sound.connids.mp found
        have known := List.mem_of_getElem? here
        have destroyed := drained.condemned closing (by rw [phase]; trivial) connection known isOpen
        have undestroyed := quiet.connections connection known isOpen
        exact absurd (undestroyed.symm.trans destroyed) Bool.false_ne_true
  rw [Lifecycle.held, free, closed, ledger.waiters closed]
  rfl

/-- In every run under the condition each call of `close` is answered exactly once before the
server is quiet. -/
theorem close_answered (reached : (system runtime setup).ReachableUnder ClosesCleanly server)
    (quiet : server.Quiet) {cb : Callback} (called : .closeCalled cb ∈ server.lifecycle.calls) :
    server.lifecycle.calls.countP (ServerCall.answers cb) = 1 := by
  have ledger := ledger_of_reachable reached
  have listed := List.count_pos_iff.mpr called
  have known : cb < server.lifecycle.callbacks := by
    by_contra unknown
    rw [ledger.numbered, if_neg unknown] at listed
    exact Nat.lt_irrefl 0 listed
  have closing : server.closing = true := by
    by_contra staying
    obtain ⟨none, _⟩ := ledger.untouched ((Bool.not_eq_true _).mp staying)
    rw [none] at known
    exact Nat.not_lt_zero cb known
  have numbered := ledger.numbered cb
  have balanced := ledger.balanced cb
  rw [if_pos known] at numbered
  rw [numbered, held_of_quiet reached quiet closing cb] at balanced
  exact balanced.symm

/-- One call of `close` comes during the start and one after the shutdown. -/
theorem close_answered_sample : ∃ server,
    (system sampleRuntime { transports := [{}], fsq := some true }).run {}
      [.authorized none 0, .close, .start (.transportReady none), .tick 0, .authzClosed none,
       .transportClosed 0 none, .close] = some server ∧
    server.lifecycle.calls.countP (ServerCall.answers 0) = 1 ∧
    server.lifecycle.calls.countP (ServerCall.answers 1) = 1 := by
  obtain ⟨server, ran, startup, finished, connections, calls⟩ : ∃ server,
      (system sampleRuntime { transports := [{}], fsq := some true }).run {}
        [.authorized none 0, .close, .start (.transportReady none), .tick 0, .authzClosed none,
         .transportClosed 0 none, .close] = some server ∧
      server.lifecycle.startup = .done none ∧
      server.lifecycle.shutdown = .finishing (some 0) [.calledBack] ∧
      server.keyed.service.connections = [] ∧
      .closeCalled 0 ∈ server.lifecycle.calls ∧ .closeCalled 1 ∈ server.lifecycle.calls :=
    ⟨_, rfl, rfl, rfl, rfl, by decide, by decide⟩
  have reached : (system sampleRuntime { transports := [{}], fsq := some true }).ReachableUnder
      ClosesCleanly server := by
    apply TransitionSystem.ReachableUnder.initial.run _ ran
    refine fun started first => ⟨trivial, fun called second => ⟨?_, fun ready third => ⟨trivial,
      fun settled fourth => ⟨trivial, fun contd fifth => ⟨rfl, fun closed sixth => ⟨rfl,
        fun _ _ => ⟨?_, trivial⟩⟩⟩⟩⟩⟩⟩
    · have starting : started.lifecycle.startup = .starting 0 .running [] := by
        rw [← Option.some.inj first]
        rfl
      simp [ClosesCleanly, starting]
    · obtain rfl := Option.some.inj first
      obtain rfl := Option.some.inj second
      obtain rfl := Option.some.inj third
      obtain rfl := Option.some.inj fourth
      obtain rfl := Option.some.inj fifth
      obtain rfl := Option.some.inj sixth
      exact fun staying => Bool.noConfusion staying
  have quiet : server.Quiet := by
    constructor
    · rw [startup]
      trivial
    · rw [finished]
      exact List.forall_mem_singleton.mpr rfl
    · simp [connections]
  exact ⟨server, ran, close_answered reached quiet calls.1, close_answered reached quiet calls.2⟩

/-- The default authorizer fails, and a later call of `close` is never answered. -/
theorem close_unanswered : ∃ server,
    (system sampleRuntime { transports := [{}], fsq := some true }).run {}
      [.authorized (some (text "dummy")) 0, .close] = some server ∧
    server.Quiet ∧ .closeCalled 0 ∈ server.lifecycle.calls ∧
    server.lifecycle.calls.countP (ServerCall.answers 0) = 0 := by
  refine ⟨_, rfl, ⟨trivial, ?_, ?_⟩, by decide, by decide⟩
  · intro stage member
    cases member
  · intro connection member
    cases member

end Server
end Centro
