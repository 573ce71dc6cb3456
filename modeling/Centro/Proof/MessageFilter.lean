import Mathlib.Order.Nat
import Centro.Construction.MessageFilter

namespace Centro

open Library

/-- The events of a `MQlobberServer` tell its property. -/
def flagRead (flag : MessageFlag) (server : Nat) : FilterCall → Option Bool
  | .emitted other emitter raised => if other = flag ∧ emitter = server then some raised else none
  | _ => none

def duplexesRead (server : Nat) : FilterCall → Option (List FilterDuplex)
  | .written writer duplexes => if writer = server then some duplexes else none
  | _ => none

/-- This filter finds at the end of the trace that a handler cannot take a message. -/
def MessageFilter.Blocks (filter : MessageFilter) (handler : MessageHandler)
    (trace : List FilterCall) : Prop :=
  ∃ server ∈ handler.mqlobberServer,
    match filter with
    | .skipMessage flag | .delayMessage flag => latest (flagRead flag server) false trace = true
    | .delayMessageUntilAllStreamsUnderHwm =>
        ∃ duplex ∈ latest (duplexesRead server) [] trace, duplex.highWaterMark ≤ duplex.length
    | .other => False

/-- These filters of the repository may leave a message for later. -/
def MessageFilter.Delays : MessageFilter → Prop
  | .delayMessage _ | .delayMessageUntilAllStreamsUnderHwm => True
  | .skipMessage _ | .other => False

/-- An entry of the trace is about one message. -/
def FilterCall.message : FilterCall → Option Nat
  | .emitted .. | .written .. | .destroy .. => none
  | .process message .. | .filter message .. | .onSkip message .. | .omit message ..
  | .onDelay message .. | .postpone message .. | .pass message .. | .take message ..
  | .call message .. => some message

/-- The entry says that a message is left for later. -/
def FilterCall.Postpones : FilterCall → Prop
  | .onDelay .. | .postpone .. => True
  | _ => False

def ownCalls (message : Nat) (trace : List FilterCall) : List FilterCall :=
  trace.filter fun entry => entry.message = some message

/-- These handlers were found for a message, or taken out of what a filter passed on. -/
def offers : Nat → FilterCall → List MessageHandler
  | 0, .process _ handlers => handlers
  | count + 1, .take _ level handler => if level = count then [handler] else []
  | _, _ => []

/-- The handlers of a message that so many filters have left. -/
def offered (message count : Nat) (trace : List FilterCall) : List MessageHandler :=
  (ownCalls message trace).flatMap (offers count)

def droppedBy : FilterCall → Option MessageHandler
  | .onSkip _ _ handler | .omit _ _ handler => some handler
  | _ => none

/-- The filters have dropped these handlers of a message. -/
def dropped (message : Nat) (trace : List FilterCall) : List MessageHandler :=
  (ownCalls message trace).filterMap droppedBy

/-- A filter gets the handlers that the filter before has left. Whatever it does with a handler has
its reason at that moment, and the handlers that are called are left by all filters. -/
def filterReason (filters : List MessageFilter) (before : List FilterCall) : FilterCall → Prop
  | .filter message level handlers => handlers = offered message level before
  | .onSkip _ level handler => ∃ flag, filters[level]? = some (.skipMessage flag) ∧
      (MessageFilter.skipMessage flag).Blocks handler before
  | .omit _ level _ | .postpone _ level => filters[level]? = some .other
  | .onDelay message level handler => handler ∈ offered message level before ∧
      ∃ filter, filters[level]? = some filter ∧ filter.Delays ∧ filter.Blocks handler before
  | .pass message level => ∃ filter, filters[level]? = some filter ∧
      (filter.Delays → ∀ handler ∈ offered message level before, ¬filter.Blocks handler before)
  | .take message level handler => handler ∈ offered message level before ∧
      ∀ flag, filters[level]? = some (.skipMessage flag) →
        ¬(MessageFilter.skipMessage flag).Blocks handler before
  | .call message handler => ∀ count ≤ filters.length, handler ∈ offered message count before
  | _ => True

/-- These entries tell nothing about a `MQlobberServer`. -/
def FilterCall.Silent (entry : FilterCall) : Prop :=
  (∀ flag server, flagRead flag server entry = none) ∧ ∀ server, duplexesRead server entry = none

/-- An entry about a message tells nothing about a connection. -/
theorem FilterCall.silent_of_message {entry : FilterCall} {number : Nat}
    (owned : entry.message = some number) : entry.Silent := by
  cases entry <;> simp [FilterCall.message, Silent, flagRead, duplexesRead] at owned ⊢

/-- Silent entries change nothing about what a filter blocks. -/
theorem blocks_append {filter : MessageFilter} {handler : MessageHandler}
    {trace extra : List FilterCall} (silent : ∀ entry ∈ extra, entry.Silent) :
    filter.Blocks handler (trace ++ extra) ↔ filter.Blocks handler trace := by
  unfold MessageFilter.Blocks
  have property (flag : MessageFlag) (server : Nat) :=
    @latest_append_of_silent _ trace extra _ (flagRead flag server) false
      fun entry member => (silent entry member).1 flag server
  have duplexes (server : Nat) :=
    @latest_append_of_silent _ trace extra _ (duplexesRead server) []
      fun entry member => (silent entry member).2 server
  cases filter <;> simp [property, duplexes]

theorem ownCalls_append {message : Nat} {trace extra : List FilterCall} :
    ownCalls message (trace ++ extra) = ownCalls message trace ++ ownCalls message extra :=
  List.filter_append ..

theorem ownCalls_of_owned {message : Nat} {extra : List FilterCall}
    (owned : ∀ entry ∈ extra, entry.message = some message) : ownCalls message extra = extra := by
  unfold ownCalls
  rw [List.filter_eq_self]
  intro entry member
  simp [owned entry member]

theorem ownCalls_append_of_other {message : Nat} {trace extra : List FilterCall}
    (other : ∀ entry ∈ extra, entry.message ≠ some message) :
    ownCalls message (trace ++ extra) = ownCalls message trace := by
  rw [ownCalls_append, List.append_right_eq_self]
  unfold ownCalls
  rw [List.filter_eq_nil_iff]
  intro entry member
  simp [other entry member]

/-- The own entries of a message are those about it. -/
theorem mem_ownCalls {message : Nat} {trace : List FilterCall} {entry : FilterCall} :
    entry ∈ ownCalls message trace ↔ entry ∈ trace ∧ entry.message = some message := by
  simp [ownCalls]

/-- Entries that offer nothing leave what was offered as it is. -/
theorem offered_append_of_quiet {message count : Nat} {trace extra : List FilterCall}
    (quiet : ∀ entry ∈ extra, offers count entry = []) :
    offered message count (trace ++ extra) = offered message count trace := by
  have nothing : (ownCalls message extra).flatMap (offers count) = [] :=
    List.flatMap_eq_nil_iff.mpr fun entry member => quiet entry (mem_ownCalls.mp member).1
  rw [offered, ownCalls_append, List.flatMap_append, nothing, List.append_nil, offered]

namespace MessageFilters

variable {extensions : List MessageExtension} {filters : List MessageFilter}
  {state : MessageFilters} {message : Nat} {attempt : FilterAttempt} {trace : List FilterCall}

/-- The properties and the streams are those that the trace tells. -/
structure Current (state : MessageFilters) : Prop where
  property : ∀ flag server, latest (flagRead flag server) false state.calls =
    state.property flag server
  duplexes : ∀ server, latest (duplexesRead server) [] state.calls = state.duplexes server

/-- The test of each filter tells what it blocks. -/
def test (state : MessageFilters) : MessageFilter → MessageHandler → Bool
  | .skipMessage flag | .delayMessage flag => state.raised flag
  | .delayMessageUntilAllStreamsUnderHwm => state.full
  | .other => fun _ => false

/-- A filter blocks exactly what its test finds. -/
theorem Current.blocks_iff (current : state.Current) (filter : MessageFilter)
    (handler : MessageHandler) :
    filter.Blocks handler state.calls ↔ state.test filter handler = true := by
  unfold MessageFilter.Blocks test
  cases filter with
  | skipMessage flag | delayMessage flag =>
      simp [raised, current.property, Option.any_eq_true]
  | delayMessageUntilAllStreamsUnderHwm =>
      simp [full, current.duplexes, Option.any_eq_true, List.any_eq_true]
  | other => simp

/-- What one attempt has done so far goes with the handlers that are left. -/
structure AttemptSound (filters : List MessageFilter) (own : List FilterCall)
    (attempt : FilterAttempt) : Prop where
  found : own.flatMap (offers 0) = attempt.handlers
  taken : own.flatMap (offers attempt.filter) = attempt.taken
  beyond : ∀ count, attempt.filter < count → own.flatMap (offers count) = []
  within : attempt.filter ≤ filters.length
  start : attempt.filter = 0 → attempt.iterable.handlers = []
  skip : ∀ flag, attempt.iterable.skip = some flag ↔
    ∃ level, attempt.filter = level + 1 ∧ filters[level]? = some (.skipMessage flag)
  partition : attempt.postponed = false → (own.filterMap droppedBy ++
    (attempt.taken ++ attempt.iterable.handlers)).Perm attempt.handlers
  ordered : attempt.postponed = false →
    (attempt.taken ++ attempt.iterable.handlers).Sublist attempt.handlers
  left : ∀ handler ∈ attempt.taken, ∀ count ≤ attempt.filter,
    handler ∈ own.flatMap (offers count)
  coming : ∀ handler ∈ attempt.iterable.handlers, ∀ count < attempt.filter,
    handler ∈ own.flatMap (offers count)
  postponed : ∀ entry ∈ own, entry.Postpones → attempt.postponed = true
  called : ∀ number handler, .call number handler ∈ own →
    attempt.Ready ∧ attempt.filter = filters.length ∧ handler ∈ attempt.taken

structure Sound (filters : List MessageFilter) (state : MessageFilters) : Prop where
  current : state.Current
  fresh : ∀ entry ∈ state.calls, ∀ number, entry.message = some number →
    number < state.attempts.length
  attempts : ∀ (number : Nat) attempt, state.attempts[number]? = some attempt →
    AttemptSound filters (ownCalls number state.calls) attempt
  justified : Justified (filterReason filters) state.calls

/-- Silent entries keep the properties up to date. -/
theorem Current.append {extra : List FilterCall} {attempts : List FilterAttempt}
    (current : state.Current) (silent : ∀ entry ∈ extra, entry.Silent) :
    Current { state with attempts, calls := state.calls ++ extra } where
  property flag server :=
    (latest_append_of_silent fun entry member => (silent entry member).1 flag server).trans
      (current.property flag server)
  duplexes server :=
    (latest_append_of_silent fun entry member => (silent entry member).2 server).trans
      (current.duplexes server)

/-- One attempt goes on with entries of its own, and the other attempts see nothing of it. -/
theorem Sound.advance {made : List FilterCall} {next : FilterAttempt}
    (sound : state.Sound filters) (found : state.attempts[message]? = some attempt)
    (owned : ∀ entry ∈ made, entry.message = some message)
    (goes : AttemptSound filters (ownCalls message state.calls ++ made) next)
    (justified : Justified (fun before => filterReason filters (state.calls ++ before)) made) :
    (state.setAttempt message next made).Sound filters where
  current := sound.current.append fun entry member =>
    FilterCall.silent_of_message (owned entry member)
  fresh entry member number is := by
    have within := (List.getElem?_eq_some_iff.mp found).1
    simp only [setAttempt, List.length_set] at member ⊢
    rcases List.mem_append.mp member with earlier | later
    · exact sound.fresh entry earlier number is
    · obtain rfl : message = number := Option.some.inj ((owned entry later).symm.trans is)
      exact within
  attempts number other here := by
    simp only [setAttempt] at here ⊢
    by_cases same : number = message
    · subst same
      have within := (List.getElem?_eq_some_iff.mp found).1
      rw [List.getElem?_set_self within, Option.some.injEq] at here
      subst here
      rw [ownCalls_append, ownCalls_of_owned owned]
      exact goes
    · rw [List.getElem?_set_ne (Ne.symm same)] at here
      rw [ownCalls_append_of_other]
      · exact sound.attempts number other here
      · intro entry member
        rw [owned entry member]
        exact fun equal => same (Option.some.inj equal).symm
  justified := sound.justified.append justified

/-- Entries that belong to no message change no attempt. -/
theorem Sound.observe {extra : List FilterCall} {next : MessageFilters}
    (sound : state.Sound filters) (calls : next.calls = state.calls ++ extra)
    (attempts : next.attempts = state.attempts)
    (none : ∀ entry ∈ extra, entry.message = none) (current : next.Current) :
    next.Sound filters where
  current := current
  fresh entry member number is := by
    rw [calls, List.mem_append] at member
    rw [attempts]
    rcases member with earlier | later
    · exact sound.fresh entry earlier number is
    · simp [none entry later] at is
  attempts number attempt here := by
    rw [calls, ownCalls_append_of_other]
    · exact sound.attempts number attempt (attempts ▸ here)
    · intro entry member
      simp [none entry member]
  justified := by
    rw [calls]
    refine sound.justified.append (justified_of_forall fun entry member before => ?_)
    have nobody := none entry member
    cases entry <;> simp [FilterCall.message, filterReason] at nobody ⊢

/-- These entries neither offer a handler nor call one, and they do not postpone the message. -/
def Calm (made : List FilterCall) : Prop :=
  ∀ entry ∈ made, (∀ count, offers count entry = []) ∧ ¬entry.Postpones ∧
    ∀ number handler, entry ≠ .call number handler

/-- Calm entries offer nothing. -/
theorem Calm.offers {own made : List FilterCall} (calm : Calm made) (count : Nat) :
    (own ++ made).flatMap (offers count) = own.flatMap (offers count) := by
  have nothing : made.flatMap (Centro.offers count) = [] :=
    List.flatMap_eq_nil_iff.mpr fun entry member => (calm entry member).1 count
  rw [List.flatMap_append, nothing, List.append_nil]

/-- A filter passes on handlers that it got, and it notes the others. -/
theorem AttemptSound.pass {own made : List FilterCall} {iterable : HandlerIterable}
    (sound : AttemptSound filters own attempt) (ready : attempt.Ready)
    (within : attempt.filter < filters.length) (calm : Calm made)
    (skip : ∀ flag, iterable.skip = some flag ↔
      filters[attempt.filter]? = some (.skipMessage flag))
    (split : (made.filterMap droppedBy ++ iterable.handlers).Perm attempt.taken)
    (ordered : iterable.handlers.Sublist attempt.taken) :
    AttemptSound filters (own ++ made)
      { attempt with taken := [], filter := attempt.filter + 1, iterable } where
  found := (calm.offers 0).trans sound.found
  taken := (calm.offers _).trans (sound.beyond _ (Nat.lt_succ_self _))
  beyond count more := (calm.offers count).trans (sound.beyond count (Nat.lt_of_succ_lt more))
  within := within
  start := nofun
  skip flag := by
    rw [skip]
    constructor
    · exact fun here => ⟨_, rfl, here⟩
    · rintro ⟨level, same, here⟩
      rwa [Nat.succ.inj same]
  partition fine := by
    have before := sound.partition fine
    rw [ready.2, List.append_nil] at before
    rw [List.filterMap_append, List.nil_append, List.append_assoc]
    exact (split.append_left _).trans before
  ordered fine := by
    have before := sound.ordered fine
    rw [ready.2, List.append_nil] at before
    exact ordered.trans before
  left := nofun
  coming handler member count less := by
    rw [calm.offers]
    exact sound.left handler (ordered.subset member) count (Nat.le_of_lt_succ less)
  postponed entry member postpones := by
    rcases List.mem_append.mp member with earlier | later
    · exact sound.postponed entry earlier postpones
    · exact absurd postpones (calm entry later).2.1
  called number handler member := by
    rcases List.mem_append.mp member with earlier | later
    · exact absurd (sound.called number handler earlier).2.1 (Nat.ne_of_lt within)
    · exact absurd rfl ((calm _ later).2.2 number handler)

/-- A filter leaves the message for later. -/
theorem AttemptSound.postpone {own made : List FilterCall}
    (sound : AttemptSound filters own attempt) (within : attempt.filter < filters.length)
    (offers : ∀ entry ∈ made, ∀ count, offers count entry = [])
    (calls : ∀ number handler, .call number handler ∉ made)
    (keeps : ∀ flag, filters[attempt.filter]? ≠ some (.skipMessage flag)) :
    AttemptSound filters (own ++ made)
      { attempt with
        taken := [], filter := attempt.filter + 1, iterable := {}, postponed := true } where
  found := by
    rw [List.flatMap_append, sound.found,
      List.flatMap_eq_nil_iff.mpr fun entry member => offers entry member 0, List.append_nil]
  taken := by
    rw [List.flatMap_append, sound.beyond _ (Nat.lt_succ_self _), List.nil_append]
    exact List.flatMap_eq_nil_iff.mpr fun entry member => offers entry member _
  beyond count more := by
    rw [List.flatMap_append, sound.beyond count (Nat.lt_of_succ_lt more), List.nil_append]
    exact List.flatMap_eq_nil_iff.mpr fun entry member => offers entry member _
  within := within
  start := nofun
  skip flag := by
    refine iff_of_false nofun ?_
    rintro ⟨level, same, here⟩
    exact keeps flag (Nat.succ.inj same ▸ here)
  partition := nofun
  ordered := nofun
  left := nofun
  coming := nofun
  postponed _ _ _ := rfl
  called number handler member := by
    rcases List.mem_append.mp member with earlier | later
    · exact absurd (sound.called number handler earlier).2.1 (Nat.ne_of_lt within)
    · exact absurd later (calls number handler)

/-- The iterator drops handlers that it is asked for. -/
theorem calm_skipped (message level : Nat) (noted : List MessageHandler) :
    Calm (noted.map (.onSkip message level)) := by
  intro entry member
  obtain ⟨handler, _, rfl⟩ := List.mem_map.mp member
  refine ⟨fun count => ?_, id, nofun⟩
  cases count <;> rfl

theorem droppedBy_skipped (message level : Nat) (noted : List MessageHandler) :
    (noted.map (FilterCall.onSkip message level)).filterMap droppedBy = noted := by
  rw [List.filterMap_map]
  exact List.filterMap_some

/-- The iterator has dropped all handlers that were left. -/
theorem AttemptSound.exhaust {own : List FilterCall} {level : Nat}
    (sound : AttemptSound filters own attempt) :
    AttemptSound filters (own ++ attempt.iterable.handlers.map (.onSkip message level))
      { attempt with iterable := { attempt.iterable with handlers := [] } } where
  found := ((calm_skipped message level _).offers 0).trans sound.found
  taken := ((calm_skipped message level _).offers _).trans sound.taken
  beyond count more := ((calm_skipped message level _).offers count).trans (sound.beyond count more)
  within := sound.within
  start _ := rfl
  skip := sound.skip
  partition fine := by
    rw [List.filterMap_append, droppedBy_skipped, List.append_nil, List.append_assoc]
    exact (List.perm_append_comm.append_left _).trans (sound.partition fine)
  ordered fine := by
    rw [List.append_nil]
    exact (List.sublist_append_left _ _).trans (sound.ordered fine)
  left handler member count most := by
    rw [(calm_skipped message level _).offers]
    exact sound.left handler member count most
  coming := nofun
  postponed entry member postpones := by
    rcases List.mem_append.mp member with earlier | later
    · exact sound.postponed entry earlier postpones
    · exact absurd postpones (calm_skipped message level _ entry later).2.1
  called number handler member := by
    rcases List.mem_append.mp member with earlier | later
    · obtain ⟨ready, last, taken⟩ := sound.called number handler earlier
      exact ⟨⟨ready.1, rfl⟩, last, taken⟩
    · exact absurd rfl ((calm_skipped message level _ _ later).2.2 number handler)

/-- The iterator drops some handlers and gives the next one. -/
def gives (message level : Nat) (noted : List MessageHandler) (handler : MessageHandler) :
    List FilterCall :=
  noted.map (.onSkip message level) ++ [.take message level handler]

/-- One handler is taken, and none before it. -/
theorem offers_gives {own : List FilterCall} {level : Nat} (noted : List MessageHandler)
    (handler : MessageHandler) (count : Nat) :
    (own ++ gives message level noted handler).flatMap (offers count) =
      own.flatMap (offers count) ++ if level + 1 = count then [handler] else [] := by
  rw [gives, ← List.append_assoc, List.flatMap_append, (calm_skipped message level noted).offers,
    List.flatMap_singleton]
  cases count with
  | zero => rfl
  | succ count => simp [offers]

/-- The handlers before the one taken are dropped. -/
theorem droppedBy_gives (message level : Nat) (noted : List MessageHandler)
    (handler : MessageHandler) :
    (gives message level noted handler).filterMap droppedBy = noted := by
  rw [gives, List.filterMap_append, droppedBy_skipped]
  exact List.append_nil noted

/-- The next handler is taken out of the iterator. -/
theorem AttemptSound.take {own : List FilterCall} {level : Nat} {noted rest : List MessageHandler}
    {handler : MessageHandler} (sound : AttemptSound filters own attempt)
    (place : attempt.filter = level + 1)
    (cut : attempt.iterable.handlers = noted ++ handler :: rest) :
    AttemptSound filters (own ++ gives message level noted handler)
      { attempt with
        taken := attempt.taken ++ [handler]
        iterable := { attempt.iterable with handlers := rest } } where
  found := by
    rw [offers_gives, if_neg (Nat.succ_ne_zero level), List.append_nil]
    exact sound.found
  taken := by
    rw [offers_gives, if_pos place.symm, sound.taken]
  beyond count more := by
    rw [offers_gives, if_neg (place ▸ Nat.ne_of_lt more), List.append_nil]
    exact sound.beyond count more
  within := sound.within
  start none := absurd (place.symm.trans none) (Nat.succ_ne_zero level)
  skip := sound.skip
  partition fine := by
    have before := sound.partition fine
    rw [cut] at before
    rw [List.filterMap_append, droppedBy_gives, List.append_assoc, List.append_assoc,
      List.singleton_append]
    refine (List.Perm.append_left _ ?_).trans before
    rw [← List.append_assoc, ← List.append_assoc]
    exact List.perm_append_comm.append_right _
  ordered fine := by
    refine List.Sublist.trans ?_ (sound.ordered fine)
    rw [cut, List.append_assoc]
    exact (List.sublist_append_right noted _).append_left _
  left other member count most := by
    rw [offers_gives]
    rcases mem_concat.mp member with earlier | rfl
    · exact List.mem_append_left _ (sound.left other earlier count most)
    · rcases Nat.lt_or_eq_of_le most with less | same
      · exact List.mem_append_left _ (sound.coming other (by rw [cut]; simp) count less)
      · rw [if_pos (place.symm.trans same.symm)]
        exact List.mem_append_right _ (List.mem_singleton_self _)
  coming other member count less := by
    rw [offers_gives]
    refine List.mem_append_left _ (sound.coming other ?_ count less)
    rw [cut]
    exact List.mem_append_right _ (List.mem_cons_of_mem _ member)
  postponed entry member postpones := by
    rcases List.mem_append.mp member with earlier | later
    · exact sound.postponed entry earlier postpones
    · rcases mem_concat.mp later with skipped | rfl
      · exact absurd postpones (calm_skipped message level _ entry skipped).2.1
      · exact absurd postpones id
  called number other member := by
    rcases List.mem_append.mp member with earlier | later
    · have none := (sound.called number other earlier).1.2
      simp [cut] at none
    · rcases mem_concat.mp later with skipped | same
      · exact absurd rfl ((calm_skipped message level _ _ skipped).2.2 number other)
      · cases same

/-- A handler that the last filter left is called. -/
theorem AttemptSound.call {own : List FilterCall} {handler : MessageHandler}
    (sound : AttemptSound filters own attempt) (ready : attempt.Ready)
    (last : attempt.filter = filters.length) (member : handler ∈ attempt.taken) :
    AttemptSound filters (own ++ [.call message handler]) attempt where
  found := by
    rw [List.flatMap_append, sound.found]
    exact List.append_nil _
  taken := by
    have nothing : ([.call message handler] : List FilterCall).flatMap (offers attempt.filter) =
        [] := by
      cases attempt.filter <;> rfl
    rw [List.flatMap_append, sound.taken, nothing, List.append_nil]
  beyond count more := by
    have nothing : ([.call message handler] : List FilterCall).flatMap (offers count) = [] := by
      cases count <;> rfl
    rw [List.flatMap_append, sound.beyond count more, nothing, List.append_nil]
  within := sound.within
  start := sound.start
  skip := sound.skip
  partition fine := by
    rw [List.filterMap_append]
    exact (List.append_nil _).symm ▸ sound.partition fine
  ordered := sound.ordered
  left other inside count most := by
    rw [List.flatMap_append]
    exact List.mem_append_left _ (sound.left other inside count most)
  coming other inside count less := by
    rw [List.flatMap_append]
    exact List.mem_append_left _ (sound.coming other inside count less)
  postponed entry inside postpones := by
    rcases mem_concat.mp inside with earlier | rfl
    · exact sound.postponed entry earlier postpones
    · exact absurd postpones id
  called number other inside := by
    rcases mem_concat.mp inside with earlier | same
    · exact sound.called number other earlier
    · obtain ⟨rfl, rfl⟩ := FilterCall.call.inj same
      exact ⟨ready, last, member⟩

/-- What a message was offered is told by its attempt. -/
theorem Sound.offered (sound : state.Sound filters)
    (found : state.attempts[message]? = some attempt) :
    offered message attempt.filter state.calls = attempt.taken :=
  (sound.attempts message attempt found).taken

/-- A trace of a filter that passes a message on or postpones it is justified when the last entry
is, and so is each handler that it leaves out. -/
theorem Sound.justified_filter (sound : state.Sound filters)
    (found : state.attempts[message]? = some attempt) {omitted : List MessageHandler}
    {last : FilterCall} (other : omitted = [] ∨ filters[attempt.filter]? = some .other)
    (here : ∀ before, (∀ entry ∈ before, entry.Silent) →
      (∀ entry ∈ before, ∀ count, offers count entry = []) →
      filterReason filters (state.calls ++ before) last) :
    Justified (fun before => filterReason filters (state.calls ++ before))
      (.filter message attempt.filter attempt.taken ::
        omitted.map (.omit message attempt.filter) ++ [last]) := by
  have entries : ∀ entry ∈ FilterCall.filter message attempt.filter attempt.taken ::
      omitted.map (.omit message attempt.filter),
      entry.Silent ∧ ∀ count, offers count entry = [] := by
    rintro entry (_ | ⟨_, member⟩)
    · exact ⟨FilterCall.silent_of_message rfl, fun count => by cases count <;> rfl⟩
    · obtain ⟨handler, _, rfl⟩ := List.mem_map.mp member
      exact ⟨FilterCall.silent_of_message rfl, fun count => by cases count <;> rfl⟩
  refine Justified.concat ?_ (here _ (fun entry member => (entries entry member).1)
    fun entry member => (entries entry member).2)
  intro before entry after cut
  cases before with
  | nil =>
      obtain ⟨rfl, -⟩ := List.cons.inj cut
      rw [filterReason, List.append_nil]
      exact (sound.offered found).symm
  | cons first before =>
      obtain ⟨-, rest⟩ := List.cons.inj cut
      have member : entry ∈ omitted.map (.omit message attempt.filter) := by
        rw [show omitted.map (.omit message attempt.filter) = before ++ entry :: after from rest]
        exact List.mem_append_right _ List.mem_cons_self
      obtain ⟨handler, inside, rfl⟩ := List.mem_map.mp member
      exact other.resolve_left (List.ne_nil_of_mem inside)

/-- A filter passes on handlers that it got. -/
theorem Sound.pass (sound : state.Sound filters) (found : state.attempts[message]? = some attempt)
    (ready : attempt.Ready) {filter : MessageFilter} (here : filters[attempt.filter]? = some filter)
    {iterable : HandlerIterable} {omitted : List MessageHandler}
    (other : omitted = [] ∨ filters[attempt.filter]? = some .other)
    (skip : ∀ flag, iterable.skip = some flag ↔
      filters[attempt.filter]? = some (.skipMessage flag))
    (split : (omitted ++ iterable.handlers).Perm attempt.taken)
    (ordered : iterable.handlers.Sublist attempt.taken)
    (fits : filter.Delays → ∀ handler ∈ attempt.taken, state.test filter handler = false) :
    (state.pass message attempt iterable
      (.filter message attempt.filter attempt.taken ::
        omitted.map (.omit message attempt.filter))).Sound filters := by
  have calm : Calm (.filter message attempt.filter attempt.taken ::
      omitted.map (.omit message attempt.filter) ++ [FilterCall.pass message attempt.filter]) := by
    intro entry member
    rcases mem_concat.mp member with (_ | ⟨_, member⟩) | rfl
    · exact ⟨fun count => by cases count <;> rfl, id, nofun⟩
    · obtain ⟨handler, _, rfl⟩ := List.mem_map.mp member
      exact ⟨fun count => by cases count <;> rfl, id, nofun⟩
    · exact ⟨fun count => by cases count <;> rfl, id, nofun⟩
  have noted : (FilterCall.filter message attempt.filter attempt.taken ::
      omitted.map (.omit message attempt.filter) ++
        [FilterCall.pass message attempt.filter]).filterMap droppedBy = omitted := by
    rw [List.filterMap_append, List.filterMap_cons, List.filterMap_map]
    exact (List.append_nil _).trans List.filterMap_some
  refine sound.advance found (fun entry member => ?_) ?_ ?_
  · rcases mem_concat.mp member with (_ | ⟨_, member⟩) | rfl
    · rfl
    · obtain ⟨handler, _, rfl⟩ := List.mem_map.mp member
      rfl
    · rfl
  · exact (sound.attempts message attempt found).pass ready
      (List.getElem?_eq_some_iff.mp here).1 calm skip (by rw [noted]; exact split) ordered
  · refine sound.justified_filter found other fun before silent quiet => ?_
    refine ⟨filter, here, fun delays handler member blocks => ?_⟩
    rw [offered_append_of_quiet fun entry inside => quiet entry inside _, sound.offered found]
      at member
    have stops := (sound.current.blocks_iff filter handler).mp ((blocks_append silent).mp blocks)
    rw [fits delays handler member] at stops
    cases stops

/-- A filter leaves the message for later because of one of the handlers that it got, or it belongs
to other code. -/
theorem Sound.postpone (sound : state.Sound filters)
    (found : state.attempts[message]? = some attempt) {filter : MessageFilter}
    (here : filters[attempt.filter]? = some filter) {last : FilterCall}
    (cause : last = .postpone message attempt.filter ∧ filter = .other ∨
      ∃ handler ∈ attempt.taken, last = .onDelay message attempt.filter handler ∧
        filter.Delays ∧ state.test filter handler = true) :
    (state.postpone message attempt
      [.filter message attempt.filter attempt.taken, last]).Sound filters := by
  have kind : last.message = some message ∧ (∀ count, offers count last = []) ∧
      ∀ number handler, last ≠ .call number handler := by
    rcases cause with ⟨rfl, -⟩ | ⟨handler, -, rfl, -⟩
    · exact ⟨rfl, fun count => by cases count <;> rfl, nofun⟩
    · exact ⟨rfl, fun count => by cases count <;> rfl, nofun⟩
  have noSkip : ∀ flag, filters[attempt.filter]? ≠ some (.skipMessage flag) := by
    intro flag skips
    obtain rfl := Option.some.inj (here.symm.trans skips)
    rcases cause with ⟨-, other⟩ | ⟨_, -, -, delays, -⟩
    · cases other
    · exact delays
  refine sound.advance found (fun entry member => ?_) ?_ ?_
  · rcases List.mem_pair.mp member with rfl | rfl
    · rfl
    · exact kind.1
  · refine (sound.attempts message attempt found).postpone
      (List.getElem?_eq_some_iff.mp here).1 (fun entry member count => ?_)
      (fun number handler member => ?_) noSkip
    · rcases List.mem_pair.mp member with rfl | rfl
      · cases count <;> rfl
      · exact kind.2.1 count
    · rcases List.mem_pair.mp member with same | same
      · cases same
      · exact kind.2.2 number handler same.symm
  · refine @Sound.justified_filter _ _ _ _ sound found [] last (.inl rfl)
      fun before silent quiet => ?_
    rcases cause with ⟨rfl, rfl⟩ | ⟨handler, member, rfl, delays, stops⟩
    · exact here
    · refine ⟨?_, filter, here, delays, (blocks_append silent).mpr ?_⟩
      · rw [offered_append_of_quiet fun entry inside => quiet entry inside _, sound.offered found]
        exact member
      · exact (sound.current.blocks_iff filter handler).mpr stops

/-- A filter that may postpone the message loops over the handlers that it got. -/
theorem Sound.delay (sound : state.Sound filters) (found : state.attempts[message]? = some attempt)
    (ready : attempt.Ready) {filter : MessageFilter} (here : filters[attempt.filter]? = some filter)
    (delays : filter.Delays) :
    (state.delay message attempt attempt.taken (state.test filter)
      [.filter message attempt.filter attempt.taken]).Sound filters := by
  have noSkip (flag : MessageFlag) : filters[attempt.filter]? ≠ some (.skipMessage flag) := by
    intro skips
    obtain rfl := Option.some.inj (here.symm.trans skips)
    exact delays
  unfold MessageFilters.delay
  cases searched : attempt.taken.find? (state.test filter) with
  | some handler =>
      exact sound.postpone found here (.inr ⟨handler, List.mem_of_find?_eq_some searched, rfl,
        delays, List.find?_some searched⟩)
  | none =>
      refine @Sound.pass _ _ _ _ sound found ready _ here { handlers := attempt.taken } []
        (.inl rfl) (fun flag => iff_of_false nofun (noSkip flag)) (.refl _) (.refl _) ?_
      intro _ handler member
      exact Bool.eq_false_iff.mpr (List.find?_eq_none.mp searched handler member)

/-- A filter that is called keeps the state sound. -/
theorem Sound.applyFilter (sound : state.Sound filters)
    (found : state.attempts[message]? = some attempt) (ready : attempt.Ready)
    {filter : MessageFilter} (here : filters[attempt.filter]? = some filter)
    (other : Option (MessageHandler → Bool)) :
    (state.applyFilter message attempt attempt.taken other filter).Sound filters := by
  cases filter with
  | skipMessage flag =>
      refine @Sound.pass _ _ _ _ sound found ready _ here
        { handlers := attempt.taken, skip := some flag } [] (.inl rfl) (fun next => ?_) (.refl _)
        (.refl _) nofun
      rw [here, Option.some.injEq, Option.some.injEq, MessageFilter.skipMessage.injEq]
  | delayMessage flag => exact sound.delay found ready here trivial
  | delayMessageUntilAllStreamsUnderHwm => exact sound.delay found ready here trivial
  | other =>
      cases other with
      | none => exact sound.postpone found here (.inl ⟨rfl, rfl⟩)
      | some keeps =>
          refine sound.pass found ready here (.inr here) (fun flag => ?_) ?_
            List.filter_sublist nofun
          · rw [here]
            exact iff_of_false nofun nofun
          · exact (List.perm_append_comm.trans (List.filter_append_perm keeps attempt.taken))

/-- An iterator that drops a handler belongs to a filter that blocks it. -/
theorem Sound.blocks_of_skips (sound : state.Sound filters)
    (found : state.attempts[message]? = some attempt) {handler : MessageHandler}
    (skips : state.skips attempt.iterable handler = true) :
    ∃ level flag, attempt.filter = level + 1 ∧ filters[level]? = some (.skipMessage flag) ∧
      (MessageFilter.skipMessage flag).Blocks handler state.calls := by
  obtain ⟨flag, same, raised⟩ := Option.any_eq_true _ _ |>.mp skips
  obtain ⟨level, place, here⟩ := ((sound.attempts message attempt found).skip flag).mp same
  exact ⟨level, flag, place, here, (sound.current.blocks_iff _ handler).mpr raised⟩

/-- What an iterator drops is justified. -/
theorem Sound.justified_skipped (sound : state.Sound filters)
    (found : state.attempts[message]? = some attempt) {noted : List MessageHandler}
    (skips : ∀ handler ∈ noted, state.skips attempt.iterable handler = true) :
    Justified (fun before => filterReason filters (state.calls ++ before))
      (noted.map (.onSkip message (attempt.filter - 1))) := by
  intro before entry after cut
  have listed (other : FilterCall) (member : other ∈ before ++ entry :: after) :
      ∃ handler ∈ noted, .onSkip message (attempt.filter - 1) handler = other := by
    rw [← cut] at member
    exact List.mem_map.mp member
  have silent : ∀ other ∈ before, other.Silent := by
    intro other member
    obtain ⟨handler, _, rfl⟩ := listed other (List.mem_append_left _ member)
    exact FilterCall.silent_of_message rfl
  obtain ⟨handler, member, rfl⟩ := listed entry (List.mem_append_right _ List.mem_cons_self)
  obtain ⟨level, flag, place, here, blocks⟩ := sound.blocks_of_skips found (skips handler member)
  rw [place, Nat.add_sub_cancel]
  exact ⟨flag, here, (blocks_append silent).mpr blocks⟩

/-- The iterator tests the handlers at the moment at which it is asked for the next one. -/
theorem Sound.next (sound : state.Sound filters)
    (found : state.attempts[message]? = some attempt) :
    (state.next message attempt).Sound filters := by
  have place := sound.attempts message attempt found
  unfold MessageFilters.next
  rcases takeWhile_cases (state.skips attempt.iterable) attempt.iterable.handlers with
    ⟨taken, dropped, skips⟩ | ⟨noted, handler, rest, cut, taken, dropped, skips, kept⟩
  · simp only [taken, dropped]
    refine sound.advance found (fun entry member => ?_) place.exhaust
      (sound.justified_skipped found skips)
    obtain ⟨handler, _, rfl⟩ := List.mem_map.mp member
    rfl
  · have member : handler ∈ attempt.iterable.handlers := by
      rw [cut]
      exact List.mem_append_right _ List.mem_cons_self
    obtain ⟨level, here⟩ := Nat.exists_eq_succ_of_ne_zero fun none =>
      List.not_mem_nil (place.start none ▸ member)
    have before : attempt.filter - 1 = level := by
      omega
    simp only [taken, dropped]
    have justified := sound.justified_skipped found skips
    rw [before] at justified ⊢
    refine sound.advance found (fun entry inside => ?_) (place.take here cut) (justified.concat ?_)
    · rcases mem_concat.mp inside with inside | rfl
      · obtain ⟨other, _, rfl⟩ := List.mem_map.mp inside
        rfl
      · rfl
    · refine ⟨?_, fun flag skip blocks => ?_⟩
      · rw [offered_append_of_quiet fun entry inside =>
          (calm_skipped message level noted entry inside).1 level]
        exact place.coming handler member level (here ▸ Nat.lt_succ_self level)
      · have silent : ∀ entry ∈ noted.map (FilterCall.onSkip message level), entry.Silent := by
          intro entry inside
          obtain ⟨other, _, rfl⟩ := List.mem_map.mp inside
          exact FilterCall.silent_of_message rfl
        have raised : state.raised flag handler = true :=
          (sound.current.blocks_iff _ handler).mp ((blocks_append silent).mp blocks)
        have same := (place.skip flag).mpr ⟨level, here, skip⟩
        rw [MessageFilters.skips, same, Option.any_some, raised] at kept
        cases kept

/-- An event of a connection keeps the state sound. -/
theorem Sound.emitted {flag : MessageFlag} {server : Nat} {raised : Bool}
    (sound : state.Sound filters) :
    (state.emitted extensions flag server raised).Sound filters := by
  refine sound.observe (List.append_assoc ..) rfl ?_ ⟨fun other emitter => ?_, fun writer => ?_⟩
  · intro entry member
    rcases List.mem_append.mp member with here | later
    · rw [List.mem_singleton.mp here]
      rfl
    · obtain ⟨_, _, rfl⟩ := List.mem_map.mp later
      rfl
  · unfold MessageFilters.emitted
    rw [latest_append_of_silent, latest_concat, sound.current.property]
    · by_cases same : flag = other ∧ server = emitter
      · obtain ⟨rfl, rfl⟩ := same
        simp [flagRead]
      · rw [flagRead, if_neg same, Option.getD_none]
        by_cases flags : other = flag
        · subst flags
          simp [Function.update_of_ne fun equal => same ⟨rfl, equal.symm⟩]
        · simp [Function.update_of_ne flags]
    · intro entry member
      obtain ⟨_, _, rfl⟩ := List.mem_map.mp member
      rfl
  · unfold MessageFilters.emitted
    rw [latest_append_of_silent, latest_concat, sound.current.duplexes]
    · rfl
    · intro entry member
      obtain ⟨_, _, rfl⟩ := List.mem_map.mp member
      rfl

/-- A change of the streams keeps the state sound. -/
theorem Sound.written {server : Nat} {duplexes : List FilterDuplex} (sound : state.Sound filters) :
    Sound filters { state with
      duplexes := Function.update state.duplexes server duplexes
      calls := state.calls ++ [.written server duplexes] } := by
  refine sound.observe rfl rfl (by simp [FilterCall.message])
    ⟨fun flag emitter => ?_, fun writer => ?_⟩
  · rw [latest_concat, sound.current.property]
    rfl
  · rw [latest_concat, sound.current.duplexes, duplexesRead]
    by_cases same : server = writer
    · subst same
      simp
    · simp [same, Function.update_of_ne (Ne.symm same)]

/-- An attempt starts with all its handlers before the first filter. -/
theorem attemptSound_process {handlers : List MessageHandler} :
    AttemptSound filters [.process message handlers] { handlers, taken := handlers } where
  found := List.append_nil _
  taken := List.append_nil _
  beyond count more := by
    cases count with
    | zero => exact absurd more (Nat.lt_irrefl 0)
    | succ => rfl
  within := Nat.zero_le _
  start _ := rfl
  skip flag := by
    refine iff_of_false nofun ?_
    rintro ⟨level, same, -⟩
    exact absurd same.symm (Nat.succ_ne_zero level)
  partition _ := by
    rw [List.append_nil]
    exact .refl _
  ordered _ := by
    rw [List.append_nil]
  left handler member count most := by
    obtain rfl := Nat.le_zero.mp most
    exact List.mem_append_left _ member
  coming := nofun
  postponed entry member postpones := by
    rw [List.mem_singleton.mp member] at postpones
    exact absurd postpones id
  called number handler member := by
    cases List.mem_singleton.mp member

/-- A message that is tried keeps the state sound. -/
theorem Sound.processed {handlers : List MessageHandler} (sound : state.Sound filters) :
    Sound filters { state with
      attempts := state.attempts ++ [{ handlers, taken := handlers }]
      calls := state.calls ++ [.process state.attempts.length handlers] } where
  current := sound.current.append fun entry member => by
    rw [List.mem_singleton.mp member]
    exact FilterCall.silent_of_message rfl
  fresh entry member number is := by
    rw [List.length_append, List.length_singleton]
    rcases mem_concat.mp member with earlier | rfl
    · exact (sound.fresh entry earlier number is).trans (Nat.lt_succ_self _)
    · obtain rfl := Option.some.inj is
      exact Nat.lt_succ_self _
  attempts number attempt here := by
    rcases Nat.lt_trichotomy number state.attempts.length with older | rfl | newer
    · rw [List.getElem?_append_left older] at here
      rw [ownCalls_append_of_other]
      · exact sound.attempts number attempt here
      · simpa [FilterCall.message] using older.ne'
    · obtain rfl : _ = attempt := by simpa using here
      have nothing : ownCalls state.attempts.length state.calls = [] := by
        refine List.filter_eq_nil_iff.mpr fun entry member owned => ?_
        exact (sound.fresh entry member _ (by simpa using owned)).false
      rw [ownCalls_append, nothing, List.nil_append, ownCalls_of_owned]
      · exact attemptSound_process
      · simp [FilterCall.message]
    · rw [List.getElem?_eq_none (by simpa using Nat.succ_le_of_lt newer)] at here
      exact nomatch here
  justified := sound.justified.concat trivial

theorem sound_initial : Sound filters {} where
  current := ⟨fun _ _ => rfl, fun _ => rfl⟩
  fresh := by simp
  attempts := by simp
  justified := justified_nil

/-- The handlers that are called were left by all filters. -/
theorem Sound.call (sound : state.Sound filters) (found : state.attempts[message]? = some attempt)
    {handler : MessageHandler} (ready : attempt.Ready) (last : attempt.filter = filters.length)
    (member : handler ∈ attempt.taken) :
    (state.setAttempt message attempt [.call message handler]).Sound filters := by
  have place := sound.attempts message attempt found
  refine sound.advance found (fun entry inside => ?_) (place.call ready last member) ?_
  · rw [List.mem_singleton.mp inside]
    rfl
  · refine justified_nil.concat fun count most => ?_
    rw [List.append_nil]
    exact place.left handler member count (last ▸ most)

section Runs

variable {fsq : QlobberFSQ} {event : Event} {events : List Event} {next : MessageFilters}

/-- A step that follows the documentation keeps the state sound. -/
theorem Sound.step (documented : fsq.Documented extensions)
    (sound : state.Sound (MessageFilters.filters extensions)) (may : fsq state event)
    (stepped : MessageFilters.step extensions state event = some next) :
    next.Sound (MessageFilters.filters extensions) := by
  cases event with
  | emitted flag server raised =>
      obtain rfl := Option.some.inj stepped
      exact sound.emitted
  | written server duplexes =>
      obtain rfl := Option.some.inj stepped
      exact sound.written
  | process handlers =>
      obtain rfl := Option.some.inj stepped
      exact sound.processed
  | filter message handlers other =>
      obtain ⟨attempt, found, stepped⟩ := Option.bind_eq_some_iff.mp stepped
      obtain ⟨filter, here, same⟩ := Option.bind_eq_some_iff.mp stepped
      obtain rfl := Option.some.inj same
      obtain ⟨ready, rfl⟩ := documented.filters state message handlers other attempt may found
      exact sound.applyFilter found ready here other
  | next message =>
      obtain ⟨attempt, found, rfl⟩ := Option.map_eq_some_iff.mp stepped
      exact sound.next found
  | call message handler =>
      obtain ⟨attempt, found, rfl⟩ := Option.map_eq_some_iff.mp stepped
      obtain ⟨ready, last, member⟩ := documented.calls state message handler attempt may found
      exact sound.call found ready last member

/-- The state is sound after every run that follows the documentation. -/
theorem sound_of_run (documented : fsq.Documented extensions)
    (follows : (system extensions).AllSteps fsq (system extensions).initial events)
    (ran : (system extensions).run (system extensions).initial events = some state) :
    state.Sound (MessageFilters.filters extensions) :=
  (TransitionSystem.ReachableUnder.initial.run follows ran).invariant sound_initial
    fun _ _ _ sound may stepped => sound.step documented may stepped

/-- The trace has an entry for the event. A filter that is called passes the message on or leaves it
for later. -/
def Event.Recorded (trace : List FilterCall) : Event → Prop
  | .emitted flag server raised => .emitted flag server raised ∈ trace
  | .written server duplexes => .written server duplexes ∈ trace
  | .process handlers => ∃ message, .process message handlers ∈ trace
  | .filter message handlers _ => ∃ level, .filter message level handlers ∈ trace ∧
      (.pass message level ∈ trace ∨ .postpone message level ∈ trace ∨
        ∃ handler, .onDelay message level handler ∈ trace)
  | .next _ => True
  | .call message handler => .call message handler ∈ trace

theorem Event.Recorded.mono {longer : List FilterCall} (recorded : event.Recorded trace)
    (grows : trace ⊆ longer) : event.Recorded longer := by
  cases event with
  | emitted => exact grows recorded
  | written => exact grows recorded
  | process => exact recorded.imp fun _ member => grows member
  | filter =>
      obtain ⟨level, called, answered⟩ := recorded
      refine ⟨level, grows called, ?_⟩
      rcases answered with passed | postponed | ⟨handler, delayed⟩
      · exact .inl (grows passed)
      · exact .inr (.inl (grows postponed))
      · exact .inr (.inr ⟨handler, grows delayed⟩)
  | next => trivial
  | call => exact grows recorded

/-- Every step adds entries, one of them for its event. -/
theorem step_calls (stepped : MessageFilters.step extensions state event = some next) :
    ∃ made, next.calls = state.calls ++ made ∧ event.Recorded made := by
  cases event with
  | emitted flag server raised =>
      obtain rfl := Option.some.inj stepped
      exact ⟨_, List.append_assoc .., List.mem_append_left _ (List.mem_singleton_self _)⟩
  | written server duplexes =>
      obtain rfl := Option.some.inj stepped
      exact ⟨_, rfl, List.mem_singleton_self _⟩
  | process handlers =>
      obtain rfl := Option.some.inj stepped
      exact ⟨_, rfl, _, List.mem_singleton_self _⟩
  | filter message handlers other =>
      obtain ⟨attempt, _, stepped⟩ := Option.bind_eq_some_iff.mp stepped
      obtain ⟨filter, _, same⟩ := Option.bind_eq_some_iff.mp stepped
      obtain rfl := Option.some.inj same
      have grows (stop : MessageHandler → Bool) : ∃ made,
          (state.delay message attempt handlers stop
            [.filter message attempt.filter handlers]).calls = state.calls ++ made ∧
          Event.Recorded made (.filter message handlers other) := by
        unfold delay
        split
        · exact ⟨_, rfl, _, List.mem_cons_self, .inr (.inr ⟨_, .tail _ (.head _)⟩)⟩
        · exact ⟨_, rfl, _, List.mem_cons_self, .inl (.tail _ (.head _))⟩
      cases filter with
      | skipMessage => exact ⟨_, rfl, _, List.mem_cons_self, .inl (.tail _ (.head _))⟩
      | delayMessage => exact grows _
      | delayMessageUntilAllStreamsUnderHwm => exact grows _
      | other =>
          cases other with
          | none => exact ⟨_, rfl, _, List.mem_cons_self, .inr (.inl (.tail _ (.head _)))⟩
          | some =>
              exact ⟨_, rfl, _, List.mem_cons_self,
                .inl (List.mem_append_right _ (List.mem_singleton_self _))⟩
  | next message =>
      obtain ⟨attempt, _, rfl⟩ := Option.map_eq_some_iff.mp stepped
      simp only [MessageFilters.next]
      split <;> exact ⟨_, rfl, trivial⟩
  | call message handler =>
      obtain ⟨attempt, _, rfl⟩ := Option.map_eq_some_iff.mp stepped
      exact ⟨_, rfl, List.mem_singleton_self _⟩

/-- The trace of a run has an entry for each of its events. -/
theorem recorded_of_run
    (ran : (system extensions).run (system extensions).initial events = some state) :
    ∀ event ∈ events, event.Recorded state.calls := by
  refine @TransitionSystem.run_history _ _ (system extensions)
    (fun past state => ∀ event ∈ past, event.Recorded state.calls) ?_ [] events _ _ nofun ran
  intro past before event after recorded stepped other member
  obtain ⟨made, grown, own⟩ := step_calls stepped
  rw [grown]
  rcases mem_concat.mp member with earlier | rfl
  · exact (recorded other earlier).mono (List.subset_append_left _ _)
  · exact own.mono (List.subset_append_right _ _)

/-- These are the handlers of each message that is tried. -/
def tries (events : List Event) : List (List MessageHandler) :=
  events.filterMap fun
    | .process handlers => some handlers
    | _ => none

/-- An attempt keeps the handlers that were found for its message. -/
theorem handlers_setAttempt {attempts : List FilterAttempt} {next : FilterAttempt}
    (found : attempts[message]? = some attempt) (same : next.handlers = attempt.handlers) :
    (attempts.set message next).map FilterAttempt.handlers =
      attempts.map FilterAttempt.handlers := by
  rw [List.map_set, same]
  apply List.ext_getElem?
  intro other
  rw [List.getElem?_set]
  split
  · next equal =>
      subst equal
      rw [if_pos (by simpa using (List.getElem?_eq_some_iff.mp found).1), List.getElem?_map, found]
      rfl
  · rfl

/-- A step tries the message of its event. -/
theorem step_tries (stepped : MessageFilters.step extensions state event = some next) :
    next.attempts.map FilterAttempt.handlers =
      state.attempts.map FilterAttempt.handlers ++ tries [event] := by
  cases event with
  | emitted flag server raised =>
      obtain rfl := Option.some.inj stepped
      exact (List.append_nil _).symm
  | written server duplexes =>
      obtain rfl := Option.some.inj stepped
      exact (List.append_nil _).symm
  | process handlers =>
      obtain rfl := Option.some.inj stepped
      exact List.map_append
  | filter message handlers other =>
      obtain ⟨attempt, found, stepped⟩ := Option.bind_eq_some_iff.mp stepped
      obtain ⟨filter, _, same⟩ := Option.bind_eq_some_iff.mp stepped
      obtain rfl := Option.some.inj same
      refine Eq.trans ?_ (List.append_nil _).symm
      cases filter with
      | skipMessage => exact handlers_setAttempt found rfl
      | delayMessage | delayMessageUntilAllStreamsUnderHwm =>
          simp only [MessageFilters.applyFilter, delay]
          split <;> exact handlers_setAttempt found rfl
      | other => cases other <;> exact handlers_setAttempt found rfl
  | next message =>
      obtain ⟨attempt, found, rfl⟩ := Option.map_eq_some_iff.mp stepped
      refine Eq.trans ?_ (List.append_nil _).symm
      simp only [MessageFilters.next]
      split <;> exact handlers_setAttempt found rfl
  | call message handler =>
      obtain ⟨attempt, found, rfl⟩ := Option.map_eq_some_iff.mp stepped
      exact (handlers_setAttempt found rfl).trans (List.append_nil _).symm

/-- There is one attempt for each message that the run tries. -/
theorem tries_of_run
    (ran : (system extensions).run (system extensions).initial events = some state) :
    state.attempts.map FilterAttempt.handlers = tries events := by
  refine @TransitionSystem.run_history _ _ (system extensions)
    (fun past state => state.attempts.map FilterAttempt.handlers = tries past) ?_ [] events _ _
    rfl ran
  intro past before event after same stepped
  rw [step_tries stepped, same, tries, tries, tries, List.filterMap_append]

/-- This `QlobberFSQ` copies what a filter passes on, calls the next filter at once, and calls the
handlers after the last one. -/
def synchronous (extensions : List MessageExtension) : QlobberFSQ := fun state event =>
  let through (attempt : FilterAttempt) : Prop :=
    attempt.Ready ∧ attempt.filter = (MessageFilters.filters extensions).length
  match event with
  | .filter message handlers _ => ∀ attempt ∈ state.attempts[message]?,
      attempt.Ready ∧ handlers = attempt.taken
  | .next message => ∀ attempt ∈ state.attempts[message]?, attempt.iterable.handlers ≠ []
  | .call message handler => ∀ attempt ∈ state.attempts[message]?,
      attempt.Ready ∧ attempt.filter = (MessageFilters.filters extensions).length ∧
        handler ∈ attempt.taken
  | .emitted .. | .written .. | .process .. =>
      ∀ attempt ∈ state.attempts, attempt.postponed = true ∨ through attempt

instance (extensions : List MessageExtension) (state : MessageFilters) (event : Event) :
    Decidable (synchronous extensions state event) := by
  cases event <;> unfold synchronous <;> infer_instance

/-- A package that waits for each filter does what is documented. -/
theorem synchronous_documented (extensions : List MessageExtension) :
    QlobberFSQ.Documented (synchronous extensions) extensions where
  filters _ _ _ _ attempt may found := may attempt found
  calls _ _ _ attempt may found := may attempt found

/-- Every filter gets the handlers that the filter before has left. Each handler that is dropped and
each message that is postponed has its reason at that moment, and a handler that is called was left
by every filter. -/
theorem messages_filtered (extensions : List MessageExtension)
    (documented : fsq.Documented extensions)
    (follows : (system extensions).AllSteps fsq (system extensions).initial events)
    (ran : (system extensions).run (system extensions).initial events = some state) :
    Justified (filterReason (MessageFilters.filters extensions)) state.calls ∧
      ∀ event ∈ events, event.Recorded state.calls :=
  ⟨(sound_of_run documented follows ran).justified, recorded_of_run ran⟩

/-- One filter drops handlers, and the other one leaves messages for later. -/
def sampleExtensions : List MessageExtension :=
  [.full { skipMessage := true }, .delayMessageUntilAllStreamsUnderHwm]

/-- One of two connections is full, and later the other one has too much to send. -/
def sampleMessages : List Event :=
  [.emitted .flProp 5 true, .process [⟨0, some 5⟩, ⟨1, some 6⟩],
    .filter 0 [⟨0, some 5⟩, ⟨1, some 6⟩] none, .next 0, .filter 0 [⟨1, some 6⟩] none, .next 0,
    .call 0 ⟨1, some 6⟩, .written 6 [⟨2, 1⟩], .process [⟨1, some 6⟩],
    .filter 1 [⟨1, some 6⟩] none, .next 1, .filter 1 [⟨1, some 6⟩] none]

theorem follows_sample : (system sampleExtensions).AllSteps (synchronous sampleExtensions)
    (system sampleExtensions).initial sampleMessages := by
  decide

/-- The first filter drops a handler, and the second one never sees it. -/
theorem messages_filtered_sample : ∃ state : MessageFilters,
    (system sampleExtensions).run (system sampleExtensions).initial sampleMessages = some state ∧
      state.calls = [.emitted .flProp 5 true, .process 0 [⟨0, some 5⟩, ⟨1, some 6⟩],
        .filter 0 0 [⟨0, some 5⟩, ⟨1, some 6⟩], .pass 0 0, .onSkip 0 0 ⟨0, some 5⟩,
        .take 0 0 ⟨1, some 6⟩, .filter 0 1 [⟨1, some 6⟩], .pass 0 1, .take 0 1 ⟨1, some 6⟩,
        .call 0 ⟨1, some 6⟩, .written 6 [⟨2, 1⟩], .process 1 [⟨1, some 6⟩],
        .filter 1 0 [⟨1, some 6⟩], .pass 1 0, .take 1 0 ⟨1, some 6⟩, .filter 1 1 [⟨1, some 6⟩],
        .onDelay 1 1 ⟨1, some 6⟩] ∧
      Justified (filterReason [.skipMessage .flProp, .delayMessageUntilAllStreamsUnderHwm])
        state.calls :=
  ⟨_, rfl, rfl,
    (messages_filtered sampleExtensions (synchronous_documented _) follows_sample rfl).1⟩

/-- A message that was postponed reaches nobody. When all that a filter passed on was taken, each
handler that was found is noted as dropped once or is among those that are left, in their order, and
only handlers that all filters have left are called. -/
theorem messages_settled (extensions : List MessageExtension)
    (documented : fsq.Documented extensions)
    (follows : (system extensions).AllSteps fsq (system extensions).initial events)
    (ran : (system extensions).run (system extensions).initial events = some state)
    {handlers : List MessageHandler} (tried : (tries events)[message]? = some handlers) :
    ∃ attempt, state.attempts[message]? = some attempt ∧
      (attempt.Ready →
        (dropped message state.calls ++ offered message attempt.filter state.calls).Perm handlers ∧
        (offered message attempt.filter state.calls).Sublist handlers) ∧
      ((∃ entry ∈ state.calls, entry.message = some message ∧ entry.Postpones) →
        ∀ handler, Event.call message handler ∉ events) ∧
      ∀ handler, Event.call message handler ∈ events → attempt.Ready ∧
        attempt.filter = (MessageFilters.filters extensions).length ∧
        handler ∈ offered message attempt.filter state.calls := by
  have sound := sound_of_run documented follows ran
  rw [← tries_of_run ran, List.getElem?_map] at tried
  obtain ⟨attempt, found, rfl⟩ := Option.map_eq_some_iff.mp tried
  have place := sound.attempts message attempt found
  have called (handler : MessageHandler) (event : Event.call message handler ∈ events) :
      attempt.Ready ∧ attempt.filter = (MessageFilters.filters extensions).length ∧
        handler ∈ attempt.taken :=
    place.called message handler (mem_ownCalls.mpr ⟨recorded_of_run ran _ event, rfl⟩)
  refine ⟨attempt, found, ?_⟩
  rw [sound.offered found]
  refine ⟨fun ready => ?_, ?_, called⟩
  · have split := place.partition ready.1
    have ordered := place.ordered ready.1
    rw [ready.2, List.append_nil] at split ordered
    exact ⟨split, ordered⟩
  · rintro ⟨entry, member, owned, postpones⟩ handler event
    have postponed := place.postponed entry (mem_ownCalls.mpr ⟨member, owned⟩) postpones
    rw [(called handler event).1.1] at postponed
    cases postponed

/-- One message reaches the handler that is left, and the other one reaches nobody. -/
theorem messages_settled_sample : ∃ state : MessageFilters,
    (system sampleExtensions).run (system sampleExtensions).initial sampleMessages = some state ∧
      (dropped 0 state.calls ++ offered 0 2 state.calls).Perm [⟨0, some 5⟩, ⟨1, some 6⟩] ∧
      .onDelay 1 1 ⟨1, some 6⟩ ∈ state.calls := by
  obtain ⟨attempt, found, split, -, called⟩ := messages_settled sampleExtensions
    (synchronous_documented _) follows_sample rfl
    (show (tries sampleMessages)[0]? = some [⟨0, some 5⟩, ⟨1, some 6⟩] from rfl)
  obtain ⟨ready, last, -⟩ := called ⟨1, some 6⟩ (by simp [sampleMessages])
  have left := (split ready).1
  rw [last] at left
  exact ⟨_, rfl, left, by decide⟩

end Runs

end MessageFilters
end Centro
