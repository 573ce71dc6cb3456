import Centro.Proof.Connection.Moves
import Centro.Library.Trace

namespace Centro

open Library

/-- The server publishes the connect presence message of the token. -/
def Call.arrives (token : Nat) : Call → Bool
  | .publish (.connect other) _ _ _ => other = token
  | _ => false

/-- The server publishes the disconnect presence message of the token. -/
def Call.departs (token : Nat) : Call → Bool
  | .publish (.disconnect other) _ _ _ => other = token
  | _ => false

/-- These calls neither emit `connect` nor publish presence messages. -/
def Call.calm : Call → Bool
  | .connect _ _ | .publish (.connect _) _ _ _ | .publish (.disconnect _) _ _ _ => false
  | _ => true

/-- The token was registered, or it may have been. -/
def Phase.Past : Phase → Nat → Prop
  | .idle, _ => False
  | .lookup last, token | .calledBack last _, token => token ≤ last
  | .processed, _ => True

/-- A token that was passed comes before the next one. -/
theorem Phase.Next.past_lt {phase : Phase} {next token : Nat} (comes : phase.Next next)
    (past : phase.Past token) : token < next := by
  cases phase with
  | idle => exact past.elim
  | lookup last => exact comes.elim
  | processed => exact comes.elim
  | calledBack last failure =>
      cases failure with
      | some failure => exact comes.elim
      | none =>
          simp only [Next, Past] at comes past
          omega

/-- A calm call announces no arrival. -/
theorem Call.not_arrives_of_calm {call : Call} (quiet : call.calm = true) (token : Nat) :
    call.arrives token = false := by
  cases call with
  | publish purpose => cases purpose <;> simp_all [calm, arrives]
  | _ => rfl

/-- A calm call announces no departure. -/
theorem Call.not_departs_of_calm {call : Call} (quiet : call.calm = true) (token : Nat) :
    call.departs token = false := by
  cases call with
  | publish purpose => cases purpose <;> simp_all [calm, departs]
  | _ => rfl

theorem Call.not_isConnect_of_calm {call : Call} (quiet : call.calm = true) :
    call.isConnect = false := by
  cases call with
  | connect => exact Bool.noConfusion quiet
  | _ => rfl

/-- A property that no call has counts none. -/
theorem Call.countP_of_none {property : Call → Bool} {calls : List Call}
    (none : ∀ call ∈ calls, property call = false) : calls.countP property = 0 := by
  rw [List.countP_eq_zero]
  intro call member
  simp [none call member]

namespace Connection

/-- The presence messages of a token come in pairs and in order. -/
structure Paired (connection : Connection) (token : Nat) : Prop where
  arrival : connection.calls.countP (Call.arrives token) ≤ 1
  departure : connection.calls.countP (Call.departs token) ≤ 1
  backed : OnlyAfter (fun call => call.arrives token = true)
    (fun call => call.departs token = true) connection.calls
  ordered : NeverAfter (fun call => call.departs token = true)
    (fun call => call.arrives token = true) connection.calls

/-- A connection with presence claims does not close before its `connect` was emitted. -/
def ClosesInTime (connection : Connection) (event : ConnectionEvent) : Prop :=
  connection.Closes event → connection.presence.entries = [] ∨ connection.announced = true

/-- The presence messages so far agree with the variables of the connection. -/
structure Presenting (connection : Connection) : Prop where
  served : connection.mqserver = true → connection.phase = .processed
  shaken : connection.handshaken = true → connection.mqserver = true
  past : ∀ entry ∈ connection.presence.entries, connection.phase.Past entry.2.1
  single : (connection.presence.entries.map fun entry => entry.2.1).Nodup
  spoken : connection.announced = true → connection.handshaken = true ∧
    ∀ entry ∈ connection.presence.entries, ∃ call ∈ connection.calls, call.arrives entry.2.1 = true
  silent : connection.announced = false → ∀ token, ∀ call ∈ connection.calls,
    call.arrives token = false
  staying : connection.closed = false → ∀ token, ∀ call ∈ connection.calls,
    call.departs token = false
  quiet : connection.closed = true → connection.announced = false →
    connection.presence.entries = []
  paired : ∀ token, connection.Paired token

variable {runtime : Runtime} {connection before after : Connection}

/-- Further calls may announce the client. -/
theorem announced_append {more : List Call} (calls : after.calls = before.calls ++ more) :
    after.announced = (before.announced || more.any Call.isConnect) := by
  rw [announced, calls, List.any_append]
  rfl

/-- These calls add no presence message. -/
theorem Paired.append {token : Nat} (holds : before.Paired token) {more : List Call}
    (calls : after.calls = before.calls ++ more)
    (arrivals : ∀ call ∈ more, call.arrives token = false)
    (departures : ∀ call ∈ more, call.departs token = false) : after.Paired token where
  arrival := by
    rw [calls, List.countP_append, Call.countP_of_none arrivals]
    exact holds.arrival
  departure := by
    rw [calls, List.countP_append, Call.countP_of_none departures]
    exact holds.departure
  backed := by
    rw [calls]
    apply holds.backed.append
    intro call member departs
    simp [departures call member] at departs
  ordered := by
    have absent : ∀ call ∈ more, ¬call.arrives token = true := by
      intro call member
      simp [arrivals call member]
    rw [calls, neverAfter_append]
    exact ⟨holds.ordered, neverAfter_of_absent absent, fun _ => absent⟩

/-- These calls add the only departure, and its arrival came earlier. -/
theorem Paired.depart {token : Nat} (holds : before.Paired token) {more : List Call}
    (calls : after.calls = before.calls ++ more)
    (stayed : ∀ call ∈ before.calls, call.departs token = false)
    (once : more.countP (Call.departs token) ≤ 1)
    (arrivals : ∀ call ∈ more, call.arrives token = false)
    (backed : ∀ call ∈ more, call.departs token = true →
      ∃ earlier ∈ before.calls, earlier.arrives token = true) : after.Paired token where
  arrival := by
    rw [calls, List.countP_append, Call.countP_of_none arrivals]
    exact holds.arrival
  departure := by
    rw [calls, List.countP_append, Call.countP_of_none stayed, Nat.zero_add]
    exact once
  backed := by
    rw [calls]
    exact holds.backed.append backed
  ordered := by
    have absent : ∀ call ∈ more, ¬call.arrives token = true := by
      intro call member
      simp [arrivals call member]
    rw [calls, neverAfter_append]
    exact ⟨holds.ordered, neverAfter_of_absent absent, fun _ => absent⟩

/-- These calls add the only arrival, and no departure came earlier. -/
theorem Paired.arrive {token : Nat} (holds : before.Paired token) {more : List Call}
    (calls : after.calls = before.calls ++ more)
    (silent : ∀ call ∈ before.calls, call.arrives token = false)
    (once : more.countP (Call.arrives token) ≤ 1)
    (departures : ∀ call ∈ more, call.departs token = false)
    (early : (∃ call ∈ before.calls, call.departs token = true) →
      ∀ call ∈ more, ¬call.arrives token = true) : after.Paired token where
  arrival := by
    rw [calls, List.countP_append, Call.countP_of_none silent, Nat.zero_add]
    exact once
  departure := by
    rw [calls, List.countP_append, Call.countP_of_none departures]
    exact holds.departure
  backed := by
    rw [calls]
    apply holds.backed.append
    intro call member departs
    simp [departures call member] at departs
  ordered := by
    rw [calls, neverAfter_append]
    refine ⟨holds.ordered, neverAfter_of_unmarked ?_, early⟩
    intro call member
    simp [departures call member]

/-- A step without presence messages leaves the presence of the connection alone. -/
theorem Presenting.calm (holds : before.Presenting) {more : List Call}
    (presence : after.presence = before.presence) (closed : after.closed = before.closed)
    (served : after.mqserver = true → after.phase = .processed)
    (shaken : after.handshaken = true → after.mqserver = true)
    (stays : before.handshaken = true → after.handshaken = true)
    (past : ∀ token, before.phase.Past token → after.phase.Past token)
    (calls : after.calls = before.calls ++ more) (calm : ∀ call ∈ more, call.calm = true) :
    after.Presenting := by
  have mute : more.any Call.isConnect = false := by
    rw [List.any_eq_false]
    intro call member
    simp [Call.not_isConnect_of_calm (calm call member)]
  have same : after.announced = before.announced := by
    rw [announced_append calls, mute, Bool.or_false]
  have inside : ∀ call ∈ after.calls, call ∈ before.calls ∨ call.calm = true := by
    intro call member
    rw [calls] at member
    exact (List.mem_append.mp member).imp_right (calm call)
  constructor
  · exact served
  · exact shaken
  · intro entry member
    rw [presence] at member
    exact past _ (holds.past entry member)
  · rw [presence]
    exact holds.single
  · intro announced
    rw [same] at announced
    obtain ⟨handshaken, spoken⟩ := holds.spoken announced
    refine ⟨stays handshaken, ?_⟩
    intro entry member
    rw [presence] at member
    obtain ⟨call, known, arrives⟩ := spoken entry member
    exact ⟨call, calls ▸ List.mem_append_left _ known, arrives⟩
  · intro silent token call member
    rw [same] at silent
    rcases inside call member with old | calm
    · exact holds.silent silent token call old
    · exact Call.not_arrives_of_calm calm token
  · intro unclosed token call member
    rw [closed] at unclosed
    rcases inside call member with old | calm
    · exact holds.staying unclosed token call old
    · exact Call.not_departs_of_calm calm token
  · rw [closed, same, presence]
    exact holds.quiet
  · intro token
    exact (holds.paired token).append calls
      (fun call member => Call.not_arrives_of_calm (calm call member) token)
      (fun call member => Call.not_departs_of_calm (calm call member) token)

/-- A connection goes into service with calm calls. -/
theorem calm_serviceCalls (runtime : Runtime) (connection : Connection) :
    ∀ call ∈ connection.serviceCalls runtime, call.calm = true := by
  intro call member
  simp only [serviceCalls, List.mem_append, List.mem_cons, List.not_mem_nil, or_false] at member
  rcases member with ((rfl | rfl) | subscribed) | rfl
  · rfl
  · rfl
  · obtain ⟨hs, _, listed⟩ := List.mem_flatMap.mp subscribed
    obtain ⟨entry, _, rfl⟩ := List.mem_map.mp listed
    rfl
  · rfl

/-- An acknowledgement is a calm call. -/
theorem calm_ackCall (runtime : Runtime) (connection : Connection) (topic : JsString) :
    (connection.ackCall runtime topic).calm = true := by
  unfold ackCall
  dsimp only
  split <;> rfl

/-- The calls at a close publish one departure for each claim and nothing else. -/
theorem countP_departs_closeCalls (holds : connection.Presenting) (token : Nat) :
    (connection.closeCalls runtime).countP (Call.departs token) ≤ 1 := by
  have cleared : connection.clearedTimeouts.countP (Call.departs token) = 0 := by
    apply Call.countP_of_none
    intro call member
    obtain ⟨record, _, rfl⟩ := List.mem_map.mp member
    rfl
  have departures : (connection.departureCalls runtime).countP (Call.departs token) =
      (connection.presence.entries.map fun entry => entry.2.1).count token := by
    rw [departureCalls, List.countP_map, List.count, List.countP_map]
    rfl
  have disconnect : [Call.disconnect connection.connid].countP (Call.departs token) = 0 := rfl
  rw [closeCalls, List.countP_append, List.countP_append, cleared, disconnect, departures,
    Nat.zero_add]
  exact List.nodup_iff_count_le_one.mp holds.single token

/-- Each token announces one arrival. -/
theorem countP_arrives_arrivalCalls (holds : connection.Presenting) (token : Nat) :
    (connection.arrivalCalls runtime).countP (Call.arrives token) ≤ 1 := by
  have arrivals : (connection.arrivalCalls runtime).countP (Call.arrives token) =
      (connection.presence.entries.map fun entry => entry.2.1).count token := by
    rw [arrivalCalls, List.countP_map, List.count, List.countP_map]
    rfl
  rw [arrivals]
  exact List.nodup_iff_count_le_one.mp holds.single token

/-- The close makes calm calls and announces departures. -/
theorem closeCalls_cases (runtime : Runtime) (connection : Connection) :
    ∀ call ∈ connection.closeCalls runtime, call.calm = true ∨
      ∃ entry ∈ connection.presence.entries, ∃ topic options data,
        call = .publish (.disconnect entry.2.1) topic options data := by
  intro call member
  simp only [closeCalls, List.mem_append, List.mem_singleton] at member
  rcases member with (cleared | rfl) | departure
  · obtain ⟨record, _, rfl⟩ := List.mem_map.mp cleared
    exact Or.inl rfl
  · exact Or.inl rfl
  · obtain ⟨entry, known, rfl⟩ := List.mem_map.mp departure
    exact Or.inr ⟨entry, known, _, _, _, rfl⟩

/-- The close announces no arrival. -/
theorem not_arrives_closeCalls (runtime : Runtime) (connection : Connection) (token : Nat) :
    ∀ call ∈ connection.closeCalls runtime, call.arrives token = false := by
  intro call member
  rcases closeCalls_cases runtime connection call member with quiet | ⟨_, _, _, _, _, rfl⟩
  · exact Call.not_arrives_of_calm quiet token
  · rfl

/-- The close emits no `connect`. -/
theorem announced_close (runtime : Runtime) (connection : Connection) :
    (connection.closeCalls runtime).any Call.isConnect = false := by
  rw [List.any_eq_false]
  intro call member
  rcases closeCalls_cases runtime connection call member with quiet | ⟨_, _, _, _, _, rfl⟩
  · simp [Call.not_isConnect_of_calm quiet]
  · simp [Call.isConnect]

/-- A close in time publishes departures only for arrivals. -/
theorem Presenting.close (holds : before.Presenting) (isOpen : before.Open)
    (inTime : before.presence.entries = [] ∨ before.announced = true)
    (presence : after.presence = before.presence) (closed : after.closed = true)
    (mqserver : after.mqserver = before.mqserver) (phase : after.phase = before.phase)
    (handshaken : after.handshaken = before.handshaken)
    (calls : after.calls = before.calls ++ before.closeCalls runtime) : after.Presenting := by
  have same : after.announced = before.announced := by
    rw [announced_append calls, announced_close, Bool.or_false]
  have backed : ∀ token, ∀ call ∈ before.closeCalls runtime, call.departs token = true →
      ∃ earlier ∈ before.calls, earlier.arrives token = true := by
    intro token call member departs
    rcases closeCalls_cases runtime before call member with quiet |
        ⟨entry, known, topic, options, data, rfl⟩
    · rw [Call.not_departs_of_calm quiet] at departs
      cases departs
    · have meant : entry.2.1 = token := of_decide_eq_true departs
      have announced : before.announced = true := by
        rcases inTime with none | announced
        · rw [none] at known
          cases known
        · exact announced
      exact meant ▸ (holds.spoken announced).2 entry known
  constructor
  · rw [mqserver, phase]
    exact holds.served
  · rw [handshaken, mqserver]
    exact holds.shaken
  · rw [presence, phase]
    exact holds.past
  · rw [presence]
    exact holds.single
  · intro announced
    rw [same] at announced
    obtain ⟨shaken, spoken⟩ := holds.spoken announced
    refine ⟨handshaken.trans shaken, ?_⟩
    intro entry member
    rw [presence] at member
    obtain ⟨call, known, arrives⟩ := spoken entry member
    exact ⟨call, calls ▸ List.mem_append_left _ known, arrives⟩
  · intro silent token call member
    rw [same] at silent
    rw [calls] at member
    rcases List.mem_append.mp member with old | new
    · exact holds.silent silent token call old
    · exact not_arrives_closeCalls runtime before token call new
  · intro unclosed
    rw [closed] at unclosed
    cases unclosed
  · intro _ silent
    rw [same] at silent
    rw [presence]
    rcases inTime with none | announced
    · exact none
    · rw [silent] at announced
      cases announced
  · intro token
    exact (holds.paired token).depart calls (holds.staying isOpen.2 token)
      (countP_departs_closeCalls holds token) (not_arrives_closeCalls runtime before token)
      (backed token)

/-- The arrival calls announce recorded claims only. -/
theorem arrivalCalls_cases (runtime : Runtime) (connection : Connection) :
    ∀ call ∈ connection.arrivalCalls runtime, ∃ entry ∈ connection.presence.entries,
      ∃ topic options data, call = .publish (.connect entry.2.1) topic options data := by
  intro call member
  obtain ⟨entry, known, rfl⟩ := List.mem_map.mp member
  exact ⟨entry, known, _, _, _, rfl⟩

/-- The arrivals are published once, and never behind a departure. -/
theorem Presenting.announce (holds : before.Presenting) (silent : before.announced = false)
    (shaken : before.handshaken = true) (presence : after.presence = before.presence)
    (closed : after.closed = before.closed) (mqserver : after.mqserver = before.mqserver)
    (phase : after.phase = before.phase) (handshaken : after.handshaken = before.handshaken)
    (connid : JsString) (hsdata : List UInt8)
    (calls : after.calls = before.calls ++
      ([.connect connid hsdata] ++ before.arrivalCalls runtime)) : after.Presenting := by
  have announced : after.announced = true := by
    rw [announced_append calls]
    simp [Call.isConnect]
  have departures : ∀ token, ∀ call ∈ [Call.connect connid hsdata] ++ before.arrivalCalls runtime,
      call.departs token = false := by
    intro token call member
    rcases List.mem_append.mp member with connect | arrival
    · rw [List.mem_singleton.mp connect]
      rfl
    · obtain ⟨_, _, _, _, _, rfl⟩ := arrivalCalls_cases runtime before call arrival
      rfl
  have departed : ∀ token, ∀ call ∈ before.calls, call.departs token = true →
      before.presence.entries = [] := by
    intro token call member departs
    apply holds.quiet _ silent
    by_contra unclosed
    rw [holds.staying (Bool.eq_false_iff.mpr unclosed) token call member] at departs
    cases departs
  constructor
  · rw [mqserver, phase]
    exact holds.served
  · rw [handshaken, mqserver]
    exact holds.shaken
  · rw [presence, phase]
    exact holds.past
  · rw [presence]
    exact holds.single
  · intro _
    refine ⟨handshaken.trans shaken, ?_⟩
    intro entry member
    rw [presence] at member
    let arrival := before.presenceCall runtime (.connect entry.2.1) entry.1 entry.2.2.connect
    have published : arrival ∈ before.arrivalCalls runtime := List.mem_map.mpr ⟨entry, member, rfl⟩
    have arrives : arrival.arrives entry.2.1 = true := decide_eq_true rfl
    refine ⟨arrival, ?_, arrives⟩
    rw [calls]
    exact List.mem_append_right _ (List.mem_append_right _ published)
  · intro mute
    rw [announced] at mute
    cases mute
  · intro unclosed token call member
    rw [closed] at unclosed
    rw [calls] at member
    rcases List.mem_append.mp member with old | new
    · exact holds.staying unclosed token call old
    · exact departures token call new
  · intro _ mute
    rw [announced] at mute
    cases mute
  · intro token
    have once : ([Call.connect connid hsdata] ++ before.arrivalCalls runtime).countP
        (Call.arrives token) ≤ 1 := by
      have connect : [Call.connect connid hsdata].countP (Call.arrives token) = 0 := rfl
      rw [List.countP_append, connect, Nat.zero_add]
      exact countP_arrives_arrivalCalls holds token
    refine (holds.paired token).arrive calls (holds.silent silent token) once (departures token) ?_
    rintro ⟨earlier, member, departs⟩ later inside
    have nobody := departed token earlier member departs
    rcases List.mem_append.mp inside with connect | arrival
    · rw [List.mem_singleton.mp connect]
      exact Bool.false_ne_true
    · rw [arrivalCalls, nobody] at arrival
      cases arrival

/-- A registered token brings its presence claim along. -/
theorem Presenting.register (holds : before.Presenting) {token : Nat} {hs : Handshake}
    (next : before.phase.Next token) (isOpen : before.Open) :
    (before.registered runtime token hs).Presenting := by
  have unserved : before.mqserver = false := by
    by_contra served
    rw [holds.served (by simpa using served)] at next
    exact next.elim
  have silent : before.announced = false := by
    by_contra announced
    have shaken := (holds.spoken (by simpa using announced)).1
    exact Bool.noConfusion (unserved.symm.trans (holds.shaken shaken))
  have earlier : ∀ entry ∈ before.presence.entries, entry.2.1 < token := fun entry member =>
    next.past_lt (holds.past entry member)
  have entries : ∀ entry ∈ (before.registered runtime token hs).presence.entries,
      entry ∈ before.presence.entries ∨
        ∃ presence, entry = (before.keyPrefix runtime hs, token, presence) := by
    rintro ⟨key, entry⟩ member
    unfold registered at member
    dsimp only at member
    split at member
    · rw [OrderedMap.mem_entries_set] at member
      split at member
      · next same => exact Or.inr ⟨_, by rw [same, member]⟩
      · exact Or.inl member
    · exact Or.inl member
  have distinct : ∀ first ∈ (before.registered runtime token hs).presence.entries,
      ∀ second ∈ (before.registered runtime token hs).presence.entries,
      first.2.1 = second.2.1 → first = second := by
    intro first member second inside same
    rcases entries first member with old | ⟨_, rfl⟩ <;>
      rcases entries second inside with known | ⟨_, rfl⟩
    · exact List.inj_on_of_nodup_map holds.single old known same
    · exact absurd same (Nat.ne_of_lt (earlier first old))
    · exact absurd same.symm (Nat.ne_of_lt (earlier second known))
    · have equal := OrderedMap.value_unique member inside
      rw [equal]
  constructor
  · intro served
    exact Bool.noConfusion (unserved.symm.trans served)
  · exact holds.shaken
  · intro entry member
    change entry.2.1 ≤ token
    rcases entries entry member with old | ⟨_, rfl⟩
    · exact Nat.le_of_lt (earlier entry old)
    · exact Nat.le_refl token
  · exact (before.registered runtime token hs).presence.nodupKeys.of_map.map_on distinct
  · intro announced
    exact Bool.noConfusion (silent.symm.trans announced)
  · exact holds.silent
  · exact holds.staying
  · intro closed
    exact Bool.noConfusion (isOpen.2.symm.trans closed)
  · exact fun token => (holds.paired token).append (List.append_nil _).symm (by simp) (by simp)

/-- Each move keeps the presence in order under the condition. -/
theorem Presenting.move {origin : Connection} {event : Option ConnectionEvent}
    (start : origin.Presenting) (permits : Service.Permits ClosesInTime origin event)
    (holds : before.Presenting) (move : Move runtime origin event before after) :
    after.Presenting := by
  have unserved : ∀ {phase : Phase}, before.phase = phase → phase ≠ .processed →
      before.mqserver = true → False := fun is differs served =>
    differs (is.symm.trans (holds.served served))
  cases move with
  | log made plain =>
      refine holds.calm rfl rfl holds.served holds.shaken id (fun _ => id) rfl ?_
      intro call member
      rw [List.mem_singleton.mp member]
      cases made <;> simp_all [Call.plain, Call.calm]
  | timeouts =>
      exact holds.calm rfl rfl holds.served holds.shaken id (fun _ => id)
        (List.append_nil _).symm (by simp)
  | accept =>
      exact holds.calm rfl rfl holds.served holds.shaken id (fun _ => id)
        (List.append_nil _).symm (by simp)
  | close isOpen closes presence announced =>
      refine holds.close isOpen ?_ rfl rfl rfl rfl rfl rfl
      rw [presence, announced]
      cases event with
      | none =>
          obtain ⟨_, _, _, _, rfl⟩ := permits
          exact Or.inl rfl
      | some cause => exact permits (closes cause rfl)
  | dstroy =>
      exact holds.calm rfl rfl holds.served holds.shaken id (fun _ => id) rfl (by simp [Call.calm])
  | destroy =>
      exact holds.calm rfl rfl holds.served holds.shaken id (fun _ => id) rfl (by simp [Call.calm])
  | destroyed =>
      exact holds.calm rfl rfl holds.served holds.shaken id (fun _ => id)
        (List.append_nil _).symm (by simp)
  | register token hs next here isOpen => exact holds.register next isOpen
  | answer token failure waits =>
      refine holds.calm rfl rfl (fun served => ?_) holds.shaken id ?_ (List.append_nil _).symm (by simp)
      · exact (unserved waits (by simp) served).elim
      · intro other past
        rw [waits] at past
        exact past
  | skip token next closed =>
      refine holds.calm rfl rfl (fun served => ?_) holds.shaken id ?_ (List.append_nil _).symm (by simp)
      · rw [holds.served served] at next
        exact next.elim
      · intro other past
        exact Nat.le_of_lt (next.past_lt past)
  | process =>
      exact holds.calm rfl rfl (fun _ => rfl) holds.shaken id (fun _ _ => trivial)
        (List.append_nil _).symm (by simp)
  | enter enters isOpen processed =>
      exact holds.calm rfl rfl (fun _ => processed) (fun _ => rfl) id (fun _ => id) rfl
        (calm_serviceCalls runtime before)
  | handshaken served =>
      exact holds.calm rfl rfl holds.served (fun _ => served) (fun _ => rfl) (fun _ => id)
        (List.append_nil _).symm (by simp)
  | announce hsdata announces served shaken unshaken greeting calls =>
      have silent : before.announced = false := by
        rw [announced_append calls]
        simp only [List.any_cons, List.any_nil, Call.isConnect, Bool.or_false]
        by_contra announced
        exact Bool.noConfusion
          (unshaken.symm.trans (start.spoken (by simpa using announced)).1)
      exact holds.announce silent shaken rfl rfl rfl rfl rfl _ _ rfl
  | ack topic =>
      refine holds.calm rfl rfl holds.served holds.shaken id (fun _ => id) rfl ?_
      intro call member
      rw [List.mem_singleton.mp member]
      exact calm_ackCall runtime before topic

/-- After a call of `dstroy` a further call closes nothing new. -/
theorem ClosesInTime.dstroy {now : Bool} (permits : connection.ClosesInTime (.dstroy now))
    (shared : Shared) (later : Bool) :
    (Closure.dstroy runtime ⟨shared, connection⟩ now).connection.ClosesInTime (.dstroy later) := by
  unfold Closure.dstroy
  dsimp only
  split
  · rintro (closed | ⟨_, undestroyed, _⟩)
    · cases closed
    · cases undestroyed
  · rintro (closed | ⟨closes, undestroyed, _⟩)
    · cases closed
    · have inTime := permits (Or.inr ⟨closes, undestroyed, trivial⟩)
      simpa [announced, Call.isConnect] using inTime

/-- A new connection has recorded no claim. -/
theorem presenting_fresh (number : Nat) (transport : Transport) (handshakes : List Handshake)
    (channel : Channel) : (Service.fresh number transport handshakes channel).Presenting := by
  constructor <;> simp [Service.fresh, announced]
  intro token
  constructor <;> simp

end Connection

namespace Service

variable {runtime : Runtime} {service : Service}

/-- No connection with presence claims closes before its `connect` was emitted. -/
def ClosesInTime (service : Service) (event : Event) : Prop :=
  ∀ (number : Nat) (connection : Connection) (move : ConnectionEvent),
    service.connections[number]? = some connection → service.Brings event number move →
      connection.ClosesInTime move

/-- In every run in which connections close in time, the presence messages of each token come in
pairs and in order. -/
theorem presence_paired (reached : (system runtime).ReachableUnder ClosesInTime service)
    {number : Nat} {connection : Connection}
    (here : service.connections[number]? = some connection) (token : Nat) :
    connection.Paired token := by
  have presenting : connection.Presenting := by
    refine connection_invariant Connection.Presenting Connection.ClosesInTime
      Connection.presenting_fresh ?_ ?_ ?_ reached here
    · intro origin event before after start permits holds move
      exact start.move permits holds move
    · intro service event number connection move meets here brings
      exact meets number connection move here brings
    · intro connection shared now later permits
      exact permits.dstroy shared later
  exact presenting.paired token

/-- The condition is about the connection of the event. -/
theorem closesInTime_own {number : Nat} {move : ConnectionEvent}
    (inTime : ∀ connection, service.connections[number]? = some connection →
      connection.ClosesInTime move) : ClosesInTime service (.connection number move) := by
  intro other connection caused here brings
  cases brings with
  | own _ meant =>
      cases meant
      exact inTime connection here
  | loop now meant => exact meant.elim

/-- A connection announces itself, and then its transport closes. -/
theorem presence_paired_sample : ∃ service connection,
    (system sampleRuntime).run {}
      [.transportConnected { config := {} } [sampleHandshake] {} false [sampleConnid] 0,
       .connection 0 (.gotPubKey (.ok (some (text "1")))),
       .connection 0 (.resume 0),
       .connection 0 (.handshake [0, 0, 0, 2]),
       .connection 0 .closed] = some service ∧
    service.connections[0]? = some connection ∧
    connection.calls.countP (Call.departs 0) = 1 ∧ connection.Paired 0 := by
  have departed : (((system sampleRuntime).run {}
      [.transportConnected { config := {} } [sampleHandshake] {} false [sampleConnid] 0,
       .connection 0 (.gotPubKey (.ok (some (text "1")))),
       .connection 0 (.resume 0),
       .connection 0 (.handshake [0, 0, 0, 2]),
       .connection 0 .closed]).bind fun service => service.connections[0]?).map
        (fun connection => connection.calls.countP (Call.departs 0)) = some 1 := by decide
  obtain ⟨connection, found, departed⟩ := Option.map_eq_some_iff.mp departed
  obtain ⟨service, ran, here⟩ := Option.bind_eq_some_iff.mp found
  have reached : (system sampleRuntime).ReachableUnder ClosesInTime service := by
    apply TransitionSystem.ReachableUnder.initial.run _ ran
    refine fun first stepped => ⟨?_, fun second stepped' => ⟨?_, fun third stepped'' => ⟨?_,
      fun fourth stepped''' => ⟨?_, fun _ _ => ⟨?_, trivial⟩⟩⟩⟩⟩
    · rintro number connection move absent
      cases absent
    · refine closesInTime_own fun connection _ => ?_
      rintro (closed | ⟨_, _, destroys⟩)
      · cases closed
      · exact destroys.elim
    · obtain rfl := Option.some.inj stepped
      obtain rfl := Option.some.inj stepped'
      refine closesInTime_own fun connection here => ?_
      obtain rfl := Option.some.inj here
      rintro (closed | ⟨closes, _⟩)
      · cases closed
      · exact absurd closes (by decide)
    · refine closesInTime_own fun connection _ => ?_
      rintro (closed | ⟨_, _, _, differs⟩)
      · cases closed
      · exact absurd differs (by decide)
    · obtain rfl := Option.some.inj stepped
      obtain rfl := Option.some.inj stepped'
      obtain rfl := Option.some.inj stepped''
      obtain rfl := Option.some.inj stepped'''
      refine closesInTime_own fun connection here _ => Or.inr ?_
      obtain rfl := Option.some.inj here
      decide
  exact ⟨service, connection, ran, here, departed, presence_paired reached here 0⟩

/-- A connection closes while its key is looked up, and it announces a departure. -/
theorem presence_unpaired : ∃ service connection,
    (system sampleRuntime).run {}
      [.transportConnected { config := {} } [sampleHandshake] {} false [sampleConnid] 0,
       .connection 0 .closed] = some service ∧
    service.connections[0]? = some connection ∧ ¬connection.Paired 0 := by
  have counted : (((system sampleRuntime).run {}
      [.transportConnected { config := {} } [sampleHandshake] {} false [sampleConnid] 0,
       .connection 0 .closed]).bind fun service => service.connections[0]?).map
        (fun connection => (connection.calls.countP (Call.arrives 0),
          connection.calls.countP (Call.departs 0))) = some (0, 1) := by decide
  obtain ⟨connection, found, counted⟩ := Option.map_eq_some_iff.mp counted
  obtain ⟨service, ran, here⟩ := Option.bind_eq_some_iff.mp found
  obtain ⟨arrivals, departures⟩ := Prod.mk.inj counted
  refine ⟨service, connection, ran, here, ?_⟩
  intro paired
  obtain ⟨departure, member, departs⟩ :=
    List.countP_pos_iff.mp (Nat.lt_of_lt_of_eq Nat.zero_lt_one departures.symm)
  obtain ⟨earlier, later, cut⟩ := List.append_of_mem member
  obtain ⟨arrival, known, arrives⟩ := paired.backed earlier departure later cut departs
  have inside : arrival ∈ connection.calls := cut ▸ List.mem_append_left _ known
  exact List.countP_eq_zero.mp arrivals arrival inside arrives

end Service
end Centro
