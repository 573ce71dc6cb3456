import Centro.Proof.Server.Control
import Centro.Proof.Server.Progress

namespace Centro

open Library

/-- The close of a transport is in a stage that belongs to its operations, and no close failed. -/
def CloseStage.fits : CloseStage → Option TransportOps → Bool
  | .deferred, none | .calledBack, _ => true
  | .authz, some ops | .wrapped none, some ops => ops.authz
  | .plain, some ops => !ops.authz
  | _, _ => false

/-- The transport itself was told to close this many times. -/
def CloseStage.begun : CloseStage → Option TransportOps → Nat
  | .wrapped _, some _ | .plain, some _ | .calledBack, some _ => 1
  | _, _ => 0

/-- The authorizer of a running transport is to be closed this many times. -/
def TransportOps.owned : Option TransportOps → Nat
  | some ops => if ops.authz then 1 else 0
  | none => 0

namespace Lifecycle

/-- These calls close the listed transports and their authorizers, each as far as its stage tells. -/
structure Closes (ops : List (Option TransportOps)) (stages : List CloseStage)
    (calls : List ServerCall) : Prop where
  length : stages.length = ops.length
  fits : ∀ (index : Nat) own stage, ops[index]? = some own → stages[index]? = some stage →
    stage.fits own = true
  transports : ∀ (index : Nat) own stage, ops[index]? = some own → stages[index]? = some stage →
    calls.count (.closeTransport index) = stage.begun own
  authorizers : ∀ (index : Nat) own, ops[index]? = some own →
    calls.count (.closeTransportAuthz index) = TransportOps.owned own
  others : ∀ call ∈ calls, ∃ index < ops.length,
    call = .closeTransport index ∨ call = .closeTransportAuthz index

/-- All calls that close something are tracked. -/
theorem Closes.tracked {ops : List (Option TransportOps)} {stages : List CloseStage}
    {calls : List ServerCall} (closes : Closes ops stages calls) :
    calls.filter ServerCall.tracked = calls := by
  refine List.filter_eq_self.mpr fun call member => ?_
  obtain ⟨_, _, rfl | rfl⟩ := closes.others call member
  · rfl
  · rfl

/-- Only transports are closed. -/
theorem Closes.not_mem {ops : List (Option TransportOps)} {stages : List CloseStage}
    {calls : List ServerCall} (closes : Closes ops stages calls) {call : ServerCall}
    (differs : ∀ index, call ≠ .closeTransport index ∧ call ≠ .closeTransportAuthz index) :
    call ∉ calls := by
  intro member
  obtain ⟨index, _, rfl | rfl⟩ := closes.others call member
  · exact (differs index).1 rfl
  · exact (differs index).2 rfl

/-- Only what was collected is closed. -/
theorem Closes.index_lt {ops : List (Option TransportOps)} {stages : List CloseStage}
    {calls : List ServerCall} (closes : Closes ops stages calls) {index : Nat}
    (member : .closeTransport index ∈ calls ∨ .closeTransportAuthz index ∈ calls) :
    index < ops.length := by
  rcases member with transport | authorizer
  · obtain ⟨other, inside, same | same⟩ := closes.others _ transport
    · exact ServerCall.closeTransport.inj same ▸ inside
    · cases same
  · obtain ⟨other, inside, same | same⟩ := closes.others _ authorizer
    · cases same
    · exact ServerCall.closeTransportAuthz.inj same ▸ inside

/-- The first calls close the transport or its authorizer. -/
theorem firstCalls_others (index : Nat) (own : Option TransportOps) :
    ∀ call ∈ firstCalls index own,
      call = .closeTransport index ∨ call = .closeTransportAuthz index := by
  intro call member
  cases own with
  | none => cases member
  | some ops =>
      simp only [firstCalls] at member
      split at member
      · exact Or.inr (List.mem_singleton.mp member)
      · exact Or.inl (List.mem_singleton.mp member)

theorem firstStage_fits (own : Option TransportOps) : (firstStage own).fits own = true := by
  cases own with
  | none => rfl
  | some ops =>
      simp only [firstStage]
      split
      · next authz => exact authz
      · next plain => simpa [CloseStage.fits] using plain

/-- The loop of `async.each` closes each transport that has operations, or first its authorizer. -/
theorem count_firstCalls (own : Option TransportOps) (index : Nat) :
    (firstCalls index own).count (.closeTransport index) = (firstStage own).begun own ∧
      (firstCalls index own).count (.closeTransportAuthz index) = TransportOps.owned own := by
  cases own with
  | none => exact ⟨rfl, rfl⟩
  | some ops =>
      simp only [firstCalls, firstStage, TransportOps.owned]
      split
      · simp [CloseStage.begun]
      · simp [CloseStage.begun]

/-- A loop over indexed items makes a call that belongs to one index as often as its visit does. -/
theorem count_zipIdx {α β : Type} [DecidableEq β] (body : Nat → α → List β) (made : β)
    (index : Nat) (own : ∀ other item, other ≠ index → made ∉ body other item) (items : List α)
    (first : Nat) :
    ((items.zipIdx first).flatMap fun (item, index) => body index item).count made =
      if first ≤ index then (items[index - first]?.map fun item =>
        (body index item).count made).getD 0 else 0 := by
  induction items generalizing first with
  | nil => simp
  | cons item rest ih =>
      rw [List.zipIdx_cons, List.flatMap_cons, List.count_append, ih (first + 1)]
      rcases Nat.lt_trichotomy index first with before | rfl | behind
      · rw [List.count_eq_zero_of_not_mem (own first item (by omega)), if_neg (by omega),
          if_neg (by omega)]
      · rw [if_pos (Nat.le_refl index), if_neg (by omega)]
        simp
      · rw [List.count_eq_zero_of_not_mem (own first item (by omega)), if_pos (by omega),
          if_pos (by omega), Nat.zero_add]
        have same : index - first = (index - (first + 1)) + 1 := by omega
        rw [same, List.getElem?_cons_succ]

/-- The shutdown begins with the first calls for each transport. -/
theorem closes_first (ops : List (Option TransportOps)) :
    Closes ops (ops.map firstStage) (ops.zipIdx.flatMap fun (own, index) => firstCalls index own) where
  length := List.length_map _
  fits := by
    intro index own stage here there
    rw [List.getElem?_map, here] at there
    obtain rfl := Option.some.inj there
    exact firstStage_fits own
  transports := by
    intro index own stage here there
    rw [List.getElem?_map, here] at there
    obtain rfl := Option.some.inj there
    rw [count_zipIdx firstCalls (.closeTransport index) index, if_pos (Nat.zero_le _), Nat.sub_zero,
      here]
    · exact (count_firstCalls own index).1
    · intro other item differs member
      rcases firstCalls_others other item _ member with same | same
      · exact differs (ServerCall.closeTransport.inj same).symm
      · cases same
  authorizers := by
    intro index own here
    rw [count_zipIdx firstCalls (.closeTransportAuthz index) index, if_pos (Nat.zero_le _),
      Nat.sub_zero, here]
    · exact (count_firstCalls own index).2
    · intro other item differs member
      rcases firstCalls_others other item _ member with same | same
      · cases same
      · exact differs (ServerCall.closeTransportAuthz.inj same).symm
  others := by
    intro call member
    obtain ⟨⟨own, index⟩, inside, made⟩ := List.mem_flatMap.mp member
    have bound := (List.mem_zipIdx inside).2.1
    exact ⟨index, by omega, firstCalls_others index own call made⟩

variable {lifecycle after : Lifecycle}

/-- A later stage of one transport goes with the calls that close this transport. -/
theorem Closes.update {ops : List (Option TransportOps)} {stages : List CloseStage}
    {calls : List ServerCall} (closes : Closes ops stages calls) {index : Nat}
    {own : Option TransportOps} {stage last : CloseStage} (known : ops[index]? = some own)
    (here : stages[index]? = some stage) (fits : last.fits own = true) {more : Nat}
    (begun : last.begun own = stage.begun own + more) :
    Closes ops (stages.set index last)
      (calls ++ List.replicate more (.closeTransport index)) where
  length := by rw [List.length_set, closes.length]
  fits := by
    intro other found item there present
    rw [getElem?_update here] at present
    split at present
    · next same =>
        subst same
        obtain rfl := Option.some.inj present
        obtain rfl := Option.some.inj (known.symm.trans there)
        exact fits
    · exact closes.fits other found item there present
  transports := by
    intro other found item there present
    rw [getElem?_update here] at present
    rw [List.count_append, List.count_replicate]
    split at present
    · next same =>
        subst same
        obtain rfl := Option.some.inj present
        obtain rfl := Option.some.inj (known.symm.trans there)
        rw [closes.transports other own stage known here, if_pos (by simp), begun]
    · next differs =>
        rw [closes.transports other found item there present, if_neg, Nat.add_zero]
        simpa using Ne.symm differs
  authorizers := by
    intro other found there
    rw [List.count_append, List.count_replicate, closes.authorizers other found there]
    simp
  others := by
    intro call member
    rcases List.mem_append.mp member with old | new
    · exact closes.others call old
    · have inside := (List.getElem?_eq_some_iff.mp known).1
      exact ⟨index, inside, Or.inl (List.eq_of_mem_replicate new)⟩

/-- The close of one transport makes progress without an error. -/
theorem Closes.stage {ops : List (Option TransportOps)} {stages : List CloseStage}
    {calls : List ServerCall} (closes : Closes ops stages calls) {index : Nat}
    {stage last : CloseStage} {failure : Option JsString} (here : stages[index]? = some stage)
    (ran : lifecycle.closeStage index none stage = some (last, failure, after)) :
    failure = none ∧ ∃ more, after =
        { lifecycle with calls := lifecycle.calls ++ List.replicate more (.closeTransport index) } ∧
      Closes ops (stages.set index last) (calls ++ List.replicate more (.closeTransport index)) := by
  have inside : index < ops.length := closes.length ▸ (List.getElem?_eq_some_iff.mp here).1
  have known : ops[index]? = some ops[index] := List.getElem?_eq_getElem inside
  generalize ops[index] = own at known
  have fits := closes.fits index own stage known here
  cases stage with
  | deferred =>
      simp only [closeStage, if_true, Option.some.injEq, Prod.mk.injEq] at ran
      obtain ⟨rfl, rfl, rfl⟩ := ran
      cases own with
      | none => exact ⟨rfl, 0, by simp, closes.update known here rfl rfl⟩
      | some ops => cases fits
  | authz =>
      simp only [closeStage, Option.some.injEq, Prod.mk.injEq] at ran
      obtain ⟨rfl, rfl, rfl⟩ := ran
      cases own with
      | none => cases fits
      | some own =>
          have later : (CloseStage.wrapped none).fits (some own) = true := fits
          exact ⟨rfl, 1, rfl, closes.update known here later rfl⟩
  | wrapped err =>
      simp only [closeStage, Option.some.injEq, Prod.mk.injEq] at ran
      obtain ⟨rfl, rfl, rfl⟩ := ran
      cases err with
      | some err => cases own <;> cases fits
      | none =>
          cases own with
          | none => cases fits
          | some ops => exact ⟨rfl, 0, by simp [warning], closes.update known here rfl rfl⟩
  | plain =>
      simp only [closeStage, Option.some.injEq, Prod.mk.injEq] at ran
      obtain ⟨rfl, rfl, rfl⟩ := ran
      cases own with
      | none => cases fits
      | some ops => exact ⟨rfl, 0, by simp, closes.update known here rfl rfl⟩
  | calledBack => cases ran

/-- The start failed with an error, and what it started is released in these phases. The calls that
were made up to the failure come first. -/
inductive Releases (first : List ServerCall) (ops : List (Option TransportOps)) (err : JsString)
    (lifecycle : Lifecycle) : Prop where
  | authz {index : Nat} {before : List (Option TransportOps)}
      (startup : lifecycle.startup = .starting index (.closingAuthz err) before)
      (collects : before ++ [none] = ops) (unclosed : lifecycle.closed = false)
      (shutdown : lifecycle.shutdown = .idle) (tracked : lifecycle.tracked = first)
  | started (startup : lifecycle.startup = .started (some err))
      (collected : lifecycle.transportOps = ops) (unclosed : lifecycle.closed = false)
      (shutdown : lifecycle.shutdown = .idle) (tracked : lifecycle.tracked = first)
  | stopping {cb : Option Callback} (startup : lifecycle.startup = .done (some err))
      (collected : lifecycle.transportOps = ops) (unclosed : lifecycle.closed = false)
      (shutdown : lifecycle.shutdown = .stopping cb)
      (tracked : lifecycle.tracked = first ++ [.error err])
  | closingAuthz {cb : Option Callback} (startup : lifecycle.startup = .done (some err))
      (collected : lifecycle.transportOps = ops) (unclosed : lifecycle.closed = false)
      (shutdown : lifecycle.shutdown = .closingAuthz cb)
      (tracked : lifecycle.tracked = first ++ [.error err, .closeAuthz])
  | closing {cb : Option Callback} {stages : List CloseStage} {calls : List ServerCall}
      (startup : lifecycle.startup = .done (some err)) (unclosed : lifecycle.closed = false)
      (shutdown : lifecycle.shutdown = .closingTransports cb stages)
      (tracked : lifecycle.tracked = first ++ [.error err, .closeAuthz] ++ calls)
      (closes : Closes ops stages calls)
  | finishing {cb : Option Callback} {stages : List CloseStage} {calls : List ServerCall}
      (startup : lifecycle.startup = .done (some err))
      (emitted : lifecycle.closed = true → .close ∈ lifecycle.calls)
      (shutdown : lifecycle.shutdown = .finishing cb stages)
      (tracked : lifecycle.tracked = first ++ [.error err, .closeAuthz] ++ calls)
      (closes : Closes ops stages calls)

/-- Only these variables count. -/
theorem Releases.frame {first : List ServerCall} {ops : List (Option TransportOps)} {err : JsString}
    (releases : lifecycle.Releases first ops err) (startup : after.startup = lifecycle.startup)
    (collected : after.transportOps = lifecycle.transportOps)
    (closed : after.closed = lifecycle.closed) (shutdown : after.shutdown = lifecycle.shutdown)
    (tracked : after.tracked = lifecycle.tracked)
    (calls : ∀ call ∈ lifecycle.calls, call ∈ after.calls) : after.Releases first ops err := by
  cases releases with
  | authz phase collects unclosed stage made =>
      exact .authz (startup.trans phase) collects (closed.trans unclosed) (shutdown.trans stage)
        (tracked.trans made)
  | started phase same unclosed stage made =>
      exact .started (startup.trans phase) (collected.trans same) (closed.trans unclosed)
        (shutdown.trans stage) (tracked.trans made)
  | stopping phase same unclosed stage made =>
      exact .stopping (startup.trans phase) (collected.trans same) (closed.trans unclosed)
        (shutdown.trans stage) (tracked.trans made)
  | closingAuthz phase same unclosed stage made =>
      exact .closingAuthz (startup.trans phase) (collected.trans same) (closed.trans unclosed)
        (shutdown.trans stage) (tracked.trans made)
  | closing phase unclosed stage made closes =>
      exact .closing (startup.trans phase) (closed.trans unclosed) (shutdown.trans stage)
        (tracked.trans made) closes
  | finishing phase emitted stage made closes =>
      exact .finishing (startup.trans phase) (fun done => calls _ (emitted (closed.symm.trans done)))
        (shutdown.trans stage) (tracked.trans made) closes

end Lifecycle

namespace Server

variable {runtime : Runtime} {setup : Setup} {server after : Server} {first : List ServerCall}
  {ops : List (Option TransportOps)} {err : JsString}

/-- The test for the end of the shutdown keeps the releases. -/
theorem check_releases (releases : server.lifecycle.Releases first ops err) :
    server.check.lifecycle.Releases first ops err := by
  have same := check_tracked server
  rcases check_cases server with ⟨same, _⟩ | ⟨cb, stages, phase, _, finished⟩
  · rw [same]
    exact releases
  · rw [finished] at same ⊢
    cases releases with
    | finishing startup emitted shutdown tracked closes =>
        exact .finishing startup (fun _ => by simp [Lifecycle.finish]) shutdown (same.trans tracked)
          closes
    | _ => simp [phase] at *

/-- An event of a connection keeps the releases. -/
theorem serve_releases (releases : server.lifecycle.Releases first ops err) (keyed : KeyedService) :
    (server.serve keyed).lifecycle.Releases first ops err := by
  rcases serve_cases server keyed with ⟨quiet, _⟩ | ⟨_, _, emptied⟩
  · rw [quiet]
    exact releases
  · rw [emptied]
    apply check_releases
    exact releases.frame rfl rfl rfl rfl rfl fun _ member => member

/-- A call of `close` before `ready` keeps the releases. -/
theorem close_releases (releases : server.lifecycle.Releases first ops err)
    (unready : server.lifecycle.ready = false) (called : CloseCalled server after) :
    after.lifecycle.Releases first ops err ∧ after.lifecycle.ready = false := by
  have tracked := close_tracked called unready
  cases called with
  | answered =>
      exact ⟨releases.frame rfl rfl rfl rfl tracked
        (by simp +contextual [Lifecycle.noted, Lifecycle.call]), unready⟩
  | waits =>
      exact ⟨releases.frame rfl rfl rfl rfl tracked (by simp +contextual [Lifecycle.noted]), unready⟩
  | begins _ ready => exact absurd (unready.symm.trans ready) Bool.false_ne_true
  | stored =>
      exact ⟨releases.frame rfl rfl rfl rfl tracked (by simp +contextual [Lifecycle.noted]), unready⟩

/-- The transport operations are handed over to the shutdown. -/
theorem cont_releases (startup : server.lifecycle.startup = .done (some err))
    (collected : server.lifecycle.transportOps = ops) (nonempty : ops ≠ [])
    (unclosed : server.lifecycle.closed = false)
    (tracked : server.lifecycle.tracked = first ++ [.error err, .closeAuthz])
    (cb : Option Callback) : (server.cont runtime cb).lifecycle.Releases first ops err := by
  rw [cont_eq]
  apply serve_releases
  subst collected
  unfold contd
  rw [if_neg (by simpa using nonempty)]
  have closes := Lifecycle.closes_first server.lifecycle.transportOps
  refine .closing startup unclosed rfl ?_ closes
  have appended : (server.lifecycle.closeAll cb).tracked = server.lifecycle.tracked ++
      List.filter ServerCall.tracked _ := Lifecycle.tracked_append rfl
  rw [closes.tracked, tracked] at appended
  exact appended

/-- The close of one transport leaves the others to be closed. -/
theorem transportClosed_releases (releases : server.lifecycle.Releases first ops err) {index : Nat}
    (closed : server.transportClosed index none = some after) :
    after.lifecycle.Releases first ops err := by
  have grows : ∀ {calls more : List ServerCall} {lifecycle : Lifecycle},
      server.lifecycle.tracked = first ++ [.error err, .closeAuthz] ++ calls →
      lifecycle.calls = server.lifecycle.calls ++ more →
      more.filter ServerCall.tracked = more →
      lifecycle.tracked = first ++ [.error err, .closeAuthz] ++ (calls ++ more) := by
    intro calls more lifecycle tracked appended all
    rw [Lifecycle.tracked_append appended, tracked, all, List.append_assoc]
  have plain : ∀ more, (List.replicate more (ServerCall.closeTransport index)).filter
      ServerCall.tracked = List.replicate more (.closeTransport index) := by
    intro more
    refine List.filter_eq_self.mpr fun call member => ?_
    rw [List.eq_of_mem_replicate member]
    rfl
  cases releases with
  | @closing cb stages calls startup unclosed shutdown tracked closes =>
      simp only [transportClosed, shutdown] at closed
      obtain ⟨stage, here, closed⟩ := Option.bind_eq_some_iff.mp closed
      obtain ⟨⟨last, failure, lifecycle⟩, ran, closed⟩ := Option.bind_eq_some_iff.mp closed
      obtain ⟨rfl, more, rfl, later⟩ := closes.stage here ran
      obtain rfl := Option.some.inj closed
      dsimp only
      split
      · apply check_releases
        exact .finishing startup (fun done => absurd (unclosed.symm.trans done) Bool.false_ne_true)
          rfl (grows tracked rfl (plain more)) later
      · exact .closing startup unclosed rfl (grows tracked rfl (plain more)) later
  | @finishing cb stages calls startup emitted shutdown tracked closes =>
      simp only [transportClosed, shutdown] at closed
      obtain ⟨stage, here, closed⟩ := Option.bind_eq_some_iff.mp closed
      obtain ⟨⟨last, failure, lifecycle⟩, ran, closed⟩ := Option.bind_eq_some_iff.mp closed
      obtain ⟨rfl, more, rfl, later⟩ := closes.stage here ran
      obtain rfl := Option.some.inj closed
      exact .finishing startup (fun done => List.mem_append_left _ (emitted done)) rfl
        (grows tracked rfl (plain more)) later
  | _ => simp_all [transportClosed]

/-- The listeners for `error` may call `close`, and then the shutdown begins. -/
theorem tick_releases {closes : Nat} (collected : server.lifecycle.transportOps = ops)
    (unclosed : server.lifecycle.closed = false) (tracked : server.lifecycle.tracked = first)
    (unready : server.lifecycle.ready = false) :
    (server.tick setup closes (some err)).lifecycle.Releases first ops err ∧
      (server.tick setup closes (some err)).lifecycle.ready = false := by
  let waits : Server → Prop := fun called => called.lifecycle.transportOps = ops ∧
    called.lifecycle.closed = false ∧ called.lifecycle.tracked = first ++ [.error err] ∧
    called.lifecycle.ready = false
  have kept : waits (server.error setup err closes) := by
    apply error_invariant err closes
    · refine ⟨collected, unclosed, ?_, unready⟩
      rw [Lifecycle.tracked_called rfl, tracked]
    · rintro before after ⟨collected, unclosed, tracked, unready⟩ called
      have same := close_tracked called unready
      cases called with
      | begins _ ready => exact absurd (unready.symm.trans ready) Bool.false_ne_true
      | _ => exact ⟨collected, unclosed, same.trans tracked, unready⟩
  obtain ⟨collected, unclosed, tracked, _⟩ := kept
  simp only [tick, settle, Option.isSome_some, Bool.or_true, if_true, Option.isNone_some]
  unfold _close
  split
  · refine ⟨.stopping rfl collected unclosed rfl ?_, rfl⟩
    exact (Lifecycle.tracked_ignored rfl).trans tracked
  · refine ⟨.closingAuthz rfl collected unclosed rfl ?_, rfl⟩
    refine (Lifecycle.tracked_called rfl).trans ?_
    exact (congrArg (· ++ [ServerCall.closeAuthz]) tracked).trans (List.append_assoc _ _ _)

/-- The close operations of the shutdown succeed, and no stream is accepted after its loop over the
connections and before it ends. -/
def ReleasesCleanly (server : Server) : Event → Prop
  | .authzClosed err | .transportClosed _ err => err = none
  | .keyed (.service (.transportConnected _ _ _ _ _ _)) => server.lifecycle.shutdown.Contd →
      server.lifecycle.closed = false → server.closing = true
  | _ => True

/-- No step of the start releases anything twice. -/
theorem start_releases {event : Lifecycle.StartEvent} {lifecycle : Lifecycle}
    (releases : server.lifecycle.Releases first ops err) (unready : server.lifecycle.ready = false)
    (ran : server.lifecycle.start setup event = some lifecycle) :
    lifecycle.Releases first ops err ∧ lifecycle.ready = false := by
  cases releases with
  | @authz index before startup collects unclosed shutdown tracked =>
      simp only [Lifecycle.start, startup] at ran
      obtain ⟨spec, _, ran⟩ := Option.bind_eq_some_iff.mp ran
      cases event with
      | transportAuthzClosed result =>
          obtain rfl := Option.some.inj ran
          cases result with
          | none => exact ⟨.started rfl collects unclosed shutdown tracked, unready⟩
          | some message =>
              refine ⟨.started rfl collects unclosed shutdown ?_, unready⟩
              exact (Lifecycle.tracked_ignored rfl).trans tracked
      | _ => cases ran
  | _ => simp_all [Lifecycle.start]

/-- Each step under the condition goes on to release what was started. -/
theorem releases_step (releases : server.lifecycle.Releases first ops err)
    (unready : server.lifecycle.ready = false) (nonempty : ops ≠ []) {event : Event}
    (meets : server.ReleasesCleanly event)
    (stepped : server.step runtime setup event = some after) :
    after.lifecycle.Releases first ops err ∧ after.lifecycle.ready = false := by
  have cases := step_cases stepped
  cases event with
  | authorization =>
      cases cases
      exact ⟨releases, unready⟩
  | keyed =>
      cases cases
      refine ⟨serve_releases releases _, ?_⟩
      exact (serve_start _ _).ready.trans unready
  | authorized =>
      cases releases <;> simp_all [step]
  | start event =>
      obtain ⟨lifecycle, ran, rfl⟩ := Option.map_eq_some_iff.mp stepped
      exact start_releases releases unready ran
  | tick closes =>
      cases releases with
      | started startup collected unclosed shutdown tracked =>
          simp only [step, startup] at stepped
          obtain rfl := Option.some.inj stepped
          exact tick_releases collected unclosed tracked unready
      | _ => simp_all [step]
  | close =>
      cases cases with
      | close called => exact close_releases releases unready called
  | stoppedWatching =>
      cases releases with
      | @stopping cb startup collected unclosed shutdown tracked =>
          simp only [step, shutdown] at stepped
          obtain rfl := Option.some.inj stepped
          refine ⟨.closingAuthz startup collected unclosed rfl ?_, unready⟩
          refine (Lifecycle.tracked_called rfl).trans ?_
          exact (congrArg (· ++ [ServerCall.closeAuthz]) tracked).trans (List.append_assoc _ _ _)
      | _ => simp_all [step]
  | authzClosed result =>
      obtain rfl : result = none := meets
      cases releases with
      | @closingAuthz cb startup collected unclosed shutdown tracked =>
          simp only [step, shutdown] at stepped
          obtain rfl := Option.some.inj stepped
          let closed : Server := server.authzClosed none
          have tracked : closed.lifecycle.tracked = first ++ [.error err, .closeAuthz] :=
            (Lifecycle.tracked_ignored rfl).trans tracked
          have releases : (closed.cont runtime cb).lifecycle.Releases first ops err := by
            apply cont_releases
            exacts [startup, collected, nonempty, unclosed, tracked]
          exact ⟨releases, (cont_start closed cb).ready.trans unready⟩
      | _ => simp_all [step]
  | cont =>
      cases releases <;> simp_all [step]
  | transportClosed index result =>
      obtain rfl : result = none := meets
      refine ⟨transportClosed_releases releases stepped, ?_⟩
      exact (transportClosed_start (transportClosed_cases stepped)).ready.trans unready
  | cont2 =>
      cases releases <;> simp_all [step]

end Server
end Centro
