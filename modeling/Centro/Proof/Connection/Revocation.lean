import Centro.Construction.Keystore
import Centro.Proof.Connection.Change

namespace Centro

open Library

namespace Keystore

variable {keystore next : Keystore} {uri other : Uri} {rev : Rev}

/-- The keystore had this revision of the URI, and it is the current one, or a change to another
one is on its way. -/
structure Vouches (keystore : Keystore) (uri : Uri) (rev : Rev) : Prop where
  known : ∀ value, rev = some value → (uri, value) ∈ keystore.used
  current : keystore.current uri = rev ∨
    ∃ announced, (uri, announced) ∈ keystore.changes ∧ announced ≠ rev

/-- Each current revision is marked as used. -/
def Marked (keystore : Keystore) : Prop :=
  ∀ uri rev, keystore.current uri = some rev → (uri, rev) ∈ keystore.used

/-- An update of a keystore concerns one URI and announces a new revision. -/
structure Updated (keystore : Keystore) (uri : Uri) (announced : Rev) (next : Keystore) : Prop where
  unused : ∀ rev, announced = some rev → (uri, rev) ∉ keystore.used
  used : ∀ entry ∈ keystore.used, entry ∈ next.used
  changes : next.changes = keystore.changes ++ [(uri, announced)]
  frame : ∀ other, other ≠ uri → next.current other = keystore.current other
  marked : ∀ rev, next.current uri = some rev → (uri, rev) ∈ next.used
  removed : announced = none → next.current uri = none

/-- A revision is used once. -/
theorem update_eq_some {revs : OrderedMap Uri JsString} {announced : Rev} :
    keystore.update uri revs announced = some next ↔
      (∀ rev, announced = some rev → (uri, rev) ∉ keystore.used) ∧
        next = { revs
                 used := announced.toList.map (fun rev => (uri, rev)) ++ keystore.used
                 changes := keystore.changes ++ [(uri, announced)] } := by
  unfold update
  cases announced <;> simp [eq_comm]

/-- A new key announces a new revision. -/
theorem addPubKey_updated {rev : JsString} (added : keystore.addPubKey uri rev = some next) :
    keystore.Updated uri (some rev) next := by
  obtain ⟨unused, rfl⟩ := update_eq_some.mp added
  constructor
  · exact unused
  · intro entry member
    exact List.mem_append_right _ member
  · rfl
  · intro other differs
    simp [current, differs]
  · intro value is
    have same : rev = value := by simpa [current] using is
    simp [same]
  · intro none
    cases none

/-- A removed key announces what is left of its uri. -/
theorem removePubKey_updated {announced : Rev}
    (removed : keystore.removePubKey uri announced = some next) :
    keystore.Updated uri announced next := by
  obtain ⟨unused, rfl⟩ := update_eq_some.mp removed
  constructor
  · exact unused
  · intro entry member
    exact List.mem_append_right _ member
  · rfl
  · intro other differs
    simp [current, differs]
  · intro value is
    simp [current] at is
  · intro _
    simp [current]

/-- Every update marks its revision as used. -/
theorem Marked.updated {announced : Rev} (marked : keystore.Marked)
    (updated : keystore.Updated uri announced next) : next.Marked := by
  intro other rev is
  by_cases same : other = uri
  · subst same
    exact updated.marked rev is
  · rw [updated.frame other same] at is
    exact updated.used _ (marked other rev is)

/-- The keystore vouches for its current revision. -/
theorem Marked.vouches (marked : keystore.Marked) (uri : Uri) :
    keystore.Vouches uri (keystore.current uri) where
  known := fun value is => marked uri value is
  current := Or.inl rfl

/-- A revision that was vouched for is never announced again. -/
theorem Vouches.updated {announced : Rev} (vouches : keystore.Vouches other rev)
    (updated : keystore.Updated uri announced next) : next.Vouches other rev where
  known := fun value is => updated.used _ (vouches.known value is)
  current := by
    have kept : (∃ before, (other, before) ∈ keystore.changes ∧ before ≠ rev) →
        ∃ before, (other, before) ∈ next.changes ∧ before ≠ rev := by
      rintro ⟨before, member, differs⟩
      exact ⟨before, updated.changes ▸ List.mem_append_left _ member, differs⟩
    by_cases same : other = uri
    · subst same
      by_cases again : announced = rev
      · cases rev with
        | none => exact Or.inl (updated.removed again)
        | some value => exact absurd (vouches.known value rfl) (updated.unused value again)
      · exact Or.inr ⟨announced, by simp [updated.changes], again⟩
    · rcases vouches.current with current | pending
      · exact Or.inl ((updated.frame other same).trans current)
      · exact Or.inr (kept pending)

end Keystore

namespace Connection

/-- The connection has neither been destroyed nor closed. -/
def Live (connection : Connection) : Prop :=
  connection.closed = false ∧ connection.destroyed = false

/-- The key of the token was looked up again without an error. -/
def Passed (connection : Connection) (token : Nat) : Prop := match connection.phase with
  | .idle => False
  | .lookup last => token < last
  | .calledBack last none => token ≤ last
  | .calledBack last (some _) => token < last
  | .processed => connection.mqserver = true

/-- All tokens before the next one have passed. -/
theorem passed_of_next {connection : Connection} {next token : Nat}
    (comes : connection.phase.Next next) (earlier : token < next) : connection.Passed token := by
  unfold Passed
  cases phase : connection.phase with
  | idle =>
      rw [phase] at comes
      simp only [Phase.Next] at comes
      omega
  | lookup last =>
      rw [phase] at comes
      exact comes.elim
  | processed =>
      rw [phase] at comes
      exact comes.elim
  | calledBack last failure =>
      rw [phase] at comes
      cases failure with
      | some failure => exact comes.elim
      | none =>
          simp only [Phase.Next] at comes
          show token ≤ last
          omega

/-- This is the record that `process_handshake` makes for the token. -/
def record (connection : Connection) (token : Nat) (hs : Handshake) : Record :=
  { connection := connection.number, token := token, uri := hs.uri, rev := hs.rev }

/-- The keystore vouches for each token that passed its lookup, and for the token whose lookup may
still succeed. Such a token is registered. -/
structure Guarded (connection : Connection) (keystore : Keystore) (seen : List Rev) : Prop where
  served : connection.mqserver = true → connection.phase = .processed
  announced : ∀ greeting, .preConnect greeting ∈ connection.calls → connection.mqserver = true
  passed : connection.Live → ∀ token hs, connection.handshakes[token]? = some hs →
    connection.Passed token →
      connection.record token hs ∈ connection.hsConns ∧ keystore.Vouches hs.uri hs.rev
  waiting : connection.Live → ∀ token hs, connection.handshakes[token]? = some hs →
    connection.phase = .lookup token → connection.record token hs ∈ connection.hsConns ∧
      (hs.rev ∈ seen → keystore.Vouches hs.uri hs.rev)

namespace Guarded

variable {runtime : Runtime} {connection origin before after : Connection}
  {event : Option ConnectionEvent} {keystore other : Keystore} {seen : List Rev}

/-- A new connection has looked up no key. -/
theorem fresh (number : Nat) (transport : Transport) (handshakes : List Handshake)
    (channel : Channel) :
    (Service.fresh number transport handshakes channel).Guarded keystore seen := by
  constructor <;> simp [Service.fresh, Passed]

/-- The lookup loses what it has seen. -/
theorem forget (holds : connection.Guarded keystore seen) : connection.Guarded keystore [] where
  served := holds.served
  announced := holds.announced
  passed := holds.passed
  waiting := fun live token hs here waits =>
    ⟨(holds.waiting live token hs here waits).1, fun none => absurd none List.not_mem_nil⟩

/-- Another keystore takes over when it vouches for the registered tokens too. -/
theorem vouch (holds : connection.Guarded keystore seen)
    (still : connection.Live → connection.phase ≠ .idle → ∀ token hs,
      connection.record token hs ∈ connection.hsConns → keystore.Vouches hs.uri hs.rev →
        other.Vouches hs.uri hs.rev) : connection.Guarded other seen where
  served := holds.served
  announced := holds.announced
  passed := by
    intro live token hs here passed
    obtain ⟨member, vouches⟩ := holds.passed live token hs here passed
    have busy : connection.phase ≠ .idle := by
      intro idle
      simp [Passed, idle] at passed
    exact ⟨member, still live busy token hs member vouches⟩
  waiting := by
    intro live token hs here waits
    obtain ⟨member, vouches⟩ := holds.waiting live token hs here waits
    exact ⟨member, fun saw => still live (by simp [waits]) token hs member (vouches saw)⟩

/-- The outstanding lookup sees further revisions that the keystore vouches for. -/
theorem see (holds : connection.Guarded keystore seen) {more : List Rev}
    (sees : ∀ uri, connection.lookupUri = some uri → ∀ rev ∈ more,
      rev ∈ seen ∨ keystore.Vouches uri rev) : connection.Guarded keystore more where
  served := holds.served
  announced := holds.announced
  passed := holds.passed
  waiting := by
    intro live token hs here waits
    obtain ⟨member, vouches⟩ := holds.waiting live token hs here waits
    refine ⟨member, fun saw => ?_⟩
    have looks : connection.lookupUri = some hs.uri := by simp [lookupUri, waits, here]
    exact (sees hs.uri looks hs.rev saw).elim vouches id

/-- A step that concerns no token leaves the tokens guarded. -/
theorem calm (holds : before.Guarded keystore seen) {more : List Call}
    (number : after.number = before.number) (handshakes : after.handshakes = before.handshakes)
    (hsConns : after.hsConns = before.hsConns) (phase : after.phase = before.phase)
    (mqserver : after.mqserver = before.mqserver) (live : after.Live → before.Live)
    (calls : after.calls = before.calls ++ more)
    (mute : ∀ greeting, .preConnect greeting ∉ more) : after.Guarded keystore seen where
  served := by
    rw [mqserver, phase]
    exact holds.served
  announced := by
    intro greeting member
    rw [calls] at member
    rw [mqserver]
    exact holds.announced greeting ((List.mem_append.mp member).resolve_right (mute greeting))
  passed := by
    intro alive
    unfold Passed record
    rw [number, handshakes, hsConns, phase, mqserver]
    exact holds.passed (live alive)
  waiting := by
    intro alive
    unfold record
    rw [number, handshakes, hsConns, phase]
    exact holds.waiting (live alive)

/-- Nothing is to be guarded any more. -/
theorem gone (dead : ¬connection.Live)
    (served : connection.mqserver = true → connection.phase = .processed)
    (announced : ∀ greeting, .preConnect greeting ∈ connection.calls → connection.mqserver = true) :
    connection.Guarded keystore seen where
  served := served
  announced := announced
  passed := fun live => absurd live dead
  waiting := fun live => absurd live dead

/-- A registered token waits for its lookup, of which nothing is known yet. -/
theorem register (holds : before.Guarded keystore []) {token : Nat} {hs : Handshake}
    (next : before.phase.Next token) (here : before.handshakes[token]? = some hs) :
    (before.registered runtime token hs).Guarded keystore [] := by
  have unserved : before.mqserver = true → False := by
    intro served
    rw [holds.served served] at next
    exact next
  constructor
  · exact fun served => (unserved served).elim
  · exact holds.announced
  · intro live other given known passed
    obtain ⟨member, vouches⟩ := holds.passed live other given known (passed_of_next next passed)
    exact ⟨OrderedSet.mem_add.mpr (Or.inl member), vouches⟩
  · intro live other given known waits
    obtain rfl : token = other := Phase.lookup.inj waits
    obtain rfl := Option.some.inj (here.symm.trans known)
    exact ⟨OrderedSet.mem_add.mpr (Or.inr rfl), fun saw => absurd saw List.not_mem_nil⟩

/-- The callback of a lookup lets a token pass only with a revision that was seen. -/
theorem answer (holds : before.Guarded keystore seen) {token : Nat} {failure : Option Failure}
    (waits : before.phase = .lookup token)
    (checked : failure = none → ∃ hs, before.handshakes[token]? = some hs ∧ hs.rev ∈ seen) :
    Guarded { before with phase := .calledBack token failure } keystore seen := by
  constructor
  · intro served
    have processed := holds.served served
    rw [waits] at processed
    cases processed
  · exact holds.announced
  · intro live other hs here passed
    by_cases earlier : other < token
    · have passed : before.Passed other := by
        rw [Passed, waits]
        exact earlier
      exact holds.passed live other hs here passed
    · cases failure with
      | some failure => exact absurd passed earlier
      | none =>
          obtain rfl : other = token := Nat.le_antisymm passed (Nat.not_lt.mp earlier)
          obtain ⟨given, known, saw⟩ := checked rfl
          obtain rfl := Option.some.inj (here.symm.trans known)
          obtain ⟨member, vouches⟩ := holds.waiting live other hs here waits
          exact ⟨member, vouches saw⟩
  · intro _ _ _ _ waits
    cases waits

/-- A connection enters service after all of its tokens have passed. -/
theorem enter (start : origin.Guarded keystore seen) (enters : origin.Enters event)
    (processed : after.phase = .processed) (mqserver : after.mqserver = true)
    (number : after.number = origin.number) (handshakes : after.handshakes = origin.handshakes)
    (hsConns : after.hsConns = origin.hsConns) (live : after.Live → origin.Live) :
    after.Guarded keystore seen := by
  obtain ⟨_, token, next, last⟩ := enters
  constructor
  · exact fun _ => processed
  · exact fun _ _ => mqserver
  · intro alive other hs here _
    rw [handshakes] at here
    have inside : other < token := by
      by_contra outside
      rw [List.getElem?_eq_none_iff] at last
      have absent : origin.handshakes[other]? = none := by
        rw [List.getElem?_eq_none_iff]
        omega
      rw [absent] at here
      cases here
    have same : after.record other hs = origin.record other hs := by
      rw [record, record, number]
    rw [same, hsConns]
    exact start.passed (live alive) other hs here (passed_of_next next inside)
  · intro _ _ _ _ waits
    rw [processed] at waits
    cases waits

/-- Each move leaves the tokens guarded. -/
theorem move (start : origin.Guarded keystore seen)
    (answered : ∀ rev, event = some (.gotPubKey (.ok rev)) → rev ∈ seen)
    (proceeds : Proceeds event → seen = []) (number : before.number = origin.number)
    (handshakes : before.handshakes = origin.handshakes) (holds : before.Guarded keystore seen)
    (move : Move runtime origin event before after) : after.Guarded keystore seen := by
  cases move with
  | log made plain =>
      refine holds.calm rfl rfl rfl rfl rfl id rfl ?_
      intro greeting member
      rw [← List.mem_singleton.mp member] at plain
      cases plain
  | timeouts => exact holds.calm rfl rfl rfl rfl rfl id (List.append_nil _).symm (by simp)
  | accept => exact holds.calm rfl rfl rfl rfl rfl id (List.append_nil _).symm (by simp)
  | close =>
      refine gone (fun live => Bool.noConfusion live.1) holds.served ?_
      intro greeting member
      rcases List.mem_append.mp member with old | new
      · exact holds.announced greeting old
      · have idle := isService_closeCalls before _ new
        cases idle
  | dstroy => exact holds.calm rfl rfl rfl rfl rfl id rfl (by simp)
  | destroy => exact holds.calm rfl rfl rfl rfl rfl id rfl (by simp)
  | destroyed => exact gone (fun live => Bool.noConfusion live.2) holds.served holds.announced
  | register token hs next here isOpen begins =>
      obtain rfl := proceeds begins
      exact holds.register next here
  | answer token failure waits checked =>
      refine holds.answer waits fun success => ?_
      obtain ⟨hs, here, caused⟩ := checked success
      exact ⟨hs, here, answered hs.rev caused⟩
  | skip token next closed =>
      refine gone (fun live => Bool.noConfusion (closed.symm.trans live.1)) ?_ holds.announced
      intro served
      rw [holds.served served] at next
      exact next.elim
  | process =>
      constructor
      · exact fun _ => rfl
      · exact holds.announced
      · intro live token hs here served
        have passed : before.Passed token := by
          rw [Passed, holds.served served]
          exact served
        exact holds.passed live token hs here passed
      · intro _ _ _ _ waits
        cases waits
  | enter enters isOpen processed calls unclosed hsConns destroyed =>
      exact start.enter enters processed rfl number handshakes hsConns
        fun live => ⟨unclosed, destroyed.symm.trans live.2⟩
  | handshaken => exact holds.calm rfl rfl rfl rfl rfl id (List.append_nil _).symm (by simp)
  | announce hsdata announces =>
      refine holds.calm rfl rfl rfl rfl rfl id rfl ?_
      intro greeting member
      rcases List.mem_append.mp member with connect | arrival
      · cases List.mem_singleton.mp connect
      · obtain ⟨_, _, made⟩ := List.mem_map.mp arrival
        cases made
  | ack topic =>
      refine holds.calm rfl rfl rfl rfl rfl id rfl ?_
      intro greeting member
      have idle : (before.ackCall runtime topic).isService = false := isService_ackCall before topic
      rw [← List.mem_singleton.mp member] at idle
      cases idle

/-- An event of a connection leaves its tokens guarded. -/
theorem moves (start : origin.Guarded keystore seen)
    (answered : ∀ rev, event = some (.gotPubKey (.ok rev)) → rev ∈ seen)
    (proceeds : Proceeds event → seen = []) (moves : Moves runtime origin event origin after) :
    after.Guarded keystore seen := by
  induction moves with
  | refl => exact start
  | tail prior move holds =>
      obtain ⟨number, _, handshakes, _⟩ := Moves.constant prior
      exact start.move answered proceeds number handshakes holds move

/-- The loops leave the tokens guarded. -/
theorem dstroyed (start : before.Guarded keystore seen) (trail : Dstroyed runtime before after) :
    after.Guarded keystore seen := by
  induction trail with
  | refl => exact start
  | @step last shared now _ holds =>
      have moves : Moves runtime last (some (.dstroy now)) last
          (Closure.dstroy runtime ⟨shared, last⟩ now).connection :=
        @Closure.dstroy_moves runtime ⟨shared, last⟩ last _
          (by rintro _ ⟨⟩; trivial) (Closure.Kin.refl last) now
      refine holds.moves ?_ ?_ moves
      · intro rev none
        cases none
      · rintro (none | ⟨now, resumes⟩)
        · cases none
        · cases resumes

end Guarded
end Connection

/-- Calls of `dstroy` keep the transport. -/
theorem Dstroyed.transport {runtime : Runtime} {first last : Connection}
    (trail : Dstroyed runtime first last) : last.transport = first.transport := by
  induction trail with
  | refl => rfl
  | step shared now _ same =>
      rw [← same, Closure.dstroy_connection]
      split
      · rfl
      · split <;> rfl

/-- A connection that the loop has reached lives no more. -/
theorem Service.Reached.not_live {runtime : Runtime} {service : Service} {number : Nat}
    {first connection : Connection} (reached : Service.Reached runtime number first service)
    (here : service.connections[number]? = some connection) : ¬connection.Live := by
  intro live
  obtain ⟨last, there, middle, shared, now, _, rfl⟩ := reached
  obtain rfl := Option.some.inj (there.symm.trans here)
  rcases @Closure.dstroy_gone runtime ⟨shared, middle⟩ now with destroyed | closed
  · exact Bool.noConfusion (live.2.symm.trans destroyed)
  · exact Bool.noConfusion (live.1.symm.trans closed)

namespace KeyedService

variable {runtime : Runtime} {state after : KeyedService}

/-- Each step is a step of the service, or none. -/
def serviceView (runtime : Runtime) :
    TransitionSystem.Projection (system runtime) (Service.system runtime) where
  view := KeyedService.service
  moves
    | _, .service event => [event]
    | _, .addPubKey _ _ _ | _, .removePubKey _ _ _ => []
    | state, .deliver authz => match (state.keystores authz).changes with
        | [] => []
        | (uri, rev) :: _ => [.change authz uri rev]
  initial := rfl
  step := by
    intro before event after stepped
    cases event with
    | service event =>
        simp only [system, step, Option.ite_none_right_eq_some] at stepped
        obtain ⟨service, ran, rfl⟩ := Option.map_eq_some_iff.mp stepped.2
        simp only [TransitionSystem.run, Service.system, ran, Option.bind_some]
        split <;> rfl
    | addPubKey authz uri rev =>
        obtain ⟨keystore, _, rfl⟩ := Option.map_eq_some_iff.mp stepped
        rfl
    | removePubKey authz uri announced =>
        obtain ⟨keystore, _, rfl⟩ := Option.map_eq_some_iff.mp stepped
        rfl
    | deliver authz =>
        simp only [system, step] at stepped
        cases changes : (before.keystores authz).changes with
        | nil => simp [changes] at stepped
        | cons change rest =>
            simp only [changes] at stepped
            obtain ⟨service, ran, rfl⟩ := Option.map_eq_some_iff.mp stepped
            simp only [TransitionSystem.run, Service.system, changes, ran, Option.bind_some]

/-- The service is sound in every reachable state. -/
theorem sound_of_reachable (reached : (system runtime).Reachable state) : state.service.Sound :=
  Service.sound_of_reachable ((serviceView runtime).reachable reached)

/-- The keystores vouch for the tokens of every connection. -/
structure Secured (state : KeyedService) : Prop where
  marked : ∀ authz, (state.keystores authz).Marked
  guarded : ∀ (number : Nat) (connection : Connection),
    state.service.connections[number]? = some connection →
      connection.Guarded (state.keystores connection.transport.authz) (state.seen number)

/-- A step of the service leaves the tokens of each connection guarded. -/
theorem Secured.service (secured : state.Secured) (sound : state.service.Sound)
    {event : Service.Event} {service : Service}
    (stepped : state.service.step runtime event = some service) {number : Nat}
    {connection : Connection} (here : service.connections[number]? = some connection)
    {seen : List Rev} (sees : seen = [] ∨ seen = state.seen number)
    (answered : ∀ rev, event = .connection number (.gotPubKey (.ok rev)) → rev ∈ seen)
    (looks : state.looksUp event = some number → seen = []) :
    connection.Guarded (state.keystores connection.transport.authz) seen := by
  cases old : state.service.connections[number]? with
  | none =>
      obtain ⟨transport, handshakes, channel, _, _, _, closure, rfl, ran, rfl, rfl⟩ :=
        Service.step_fresh stepped old here
      have moves := Closure.transportConnected_moves rfl rfl rfl ran
      exact (Connection.Guarded.fresh _ transport handshakes channel).moves
        (fun _ none => by cases none) (fun _ => looks rfl) moves
  | some first =>
      have start : first.Guarded (state.keystores first.transport.authz) seen := by
        have guarded := secured.guarded number first old
        rcases sees with none | same
        · exact none ▸ guarded.forget
        · exact same ▸ guarded
      rcases Service.step_connection stepped old with ⟨move, closure, rfl, ran, there⟩ |
          ⟨_, last, there, trail⟩ | there
      · obtain rfl := Option.some.inj (here.symm.trans there)
        have accepted := sound.started first (List.mem_of_getElem? old)
        have moves := Closure.step_moves ran accepted
        obtain ⟨_, transport, _⟩ := Connection.Moves.constant moves
        rw [transport]
        refine start.moves ?_ ?_ moves
        · intro rev caused
          exact answered rev (by rw [Option.some.inj caused])
        · rintro (none | ⟨now, resumes⟩)
          · cases none
          · cases resumes
            exact looks rfl
      · obtain rfl := Option.some.inj (here.symm.trans there)
        rw [trail.transport]
        exact start.dstroyed trail
      · obtain rfl := Option.some.inj (here.symm.trans there)
        exact start

/-- A change that is delivered leaves the live connections with tokens that the keystore vouches
for without that change. -/
theorem Secured.deliver (secured : state.Secured) (sound : state.service.Sound) {authz : Nat}
    {uri : Uri} {rev : Rev} {changes : List (Uri × Rev)}
    (pending : (state.keystores authz).changes = (uri, rev) :: changes) {service : Service}
    (stepped : state.service.step runtime (.change authz uri rev) = some service) {number : Nat}
    {connection : Connection} (here : service.connections[number]? = some connection)
    (own : connection.transport.authz = authz) :
    connection.Guarded { state.keystores authz with changes } (state.seen number) := by
  have before : connection.Guarded (state.keystores authz) (state.seen number) :=
    own ▸ secured.service sound stepped here (Or.inr rfl) (fun _ none => by cases none)
      (fun none => by cases none)
  refine before.vouch fun live busy token hs member vouches => ⟨vouches.known, ?_⟩
  rcases vouches.current with current | ⟨announced, known, differs⟩
  · exact Or.inl current
  · rw [pending] at known
    rcases List.mem_cons.mp known with same | later
    · obtain ⟨rfl, rfl⟩ := Prod.mk.inj same
      -- The connection still holds the old revision, but then the loop has destroyed it.
      exfalso
      cases old : state.service.connections[number]? with
      | none =>
          obtain ⟨_, _, _, _, _, _, _, connected, _⟩ := Service.step_fresh stepped old here
          cases connected
      | some first =>
          have meant : first.Open ∧ first.Holds hs.uri announced := by
            rcases Service.step_connection stepped old with ⟨_, _, moved, _⟩ | ⟨meant, _⟩ | there
            · cases moved
            · exact (sound.dstroys_change authz old).mp meant
            · obtain rfl := Option.some.inj (here.symm.trans there)
              have accepted := sound.started connection (List.mem_of_getElem? old) busy
              exact ⟨⟨accepted, live.1⟩, _, member, rfl, differs.symm⟩
          have destroyed : Service.Reached runtime number first
              (state.service.change runtime hs.uri announced) :=
            sound.change_destroys old meant.1 meant.2
          obtain rfl := Option.some.inj stepped
          exact destroyed.not_live here live
    · exact Or.inr ⟨announced, later, differs⟩

/-- A new lookup has seen only the current revision. -/
theorem Secured.look (marked : ∀ authz, (state.keystores authz).Marked) {number : Nat}
    (guarded : ∀ (other : Nat) (connection : Connection),
      state.service.connections[other]? = some connection →
        connection.Guarded (state.keystores connection.transport.authz)
          (if other = number then [] else state.seen other)) :
    (state.look number).Secured where
  marked := marked
  guarded := by
    intro other connection here
    have known : state.service.connections[other]? = some connection := here
    have before := guarded other connection known
    by_cases same : other = number
    · subst same
      rw [if_pos rfl] at before
      refine before.see fun uri looks rev saw => Or.inr ?_
      simp only [KeyedService.look, Function.update_self, known, looks,
        List.mem_singleton] at saw
      exact saw ▸ (marked _).vouches uri
    · rw [if_neg same] at before
      simpa [KeyedService.look, same] using before

/-- An update is seen by the outstanding lookups and announced to the rest. -/
theorem Secured.update (secured : state.Secured) {authz : Nat} {uri : Uri} {announced : Rev}
    {keystore : Keystore} (updated : (state.keystores authz).Updated uri announced keystore) :
    (state.update authz uri keystore).Secured where
  marked := by
    intro other
    by_cases same : other = authz
    · subst same
      simpa [KeyedService.update] using (secured.marked other).updated updated
    · simpa [KeyedService.update, same] using secured.marked other
  guarded := by
    intro number connection here
    have known : state.service.connections[number]? = some connection := here
    have before := secured.guarded number connection known
    simp only [KeyedService.update, known]
    by_cases own : connection.transport.authz = authz
    · subst own
      simp only [Function.update_self, true_and]
      have after : connection.Guarded keystore (state.seen number) :=
        before.vouch fun _ _ _ _ _ vouches => vouches.updated updated
      split
      · next looks =>
          refine after.see fun other asks rev saw => ?_
          obtain rfl := Option.some.inj (looks.symm.trans asks)
          rcases List.mem_cons.mp saw with current | old
          · have marked : keystore.Marked := (secured.marked _).updated updated
            exact Or.inr (current ▸ marked.vouches uri)
          · exact Or.inl old
      · exact after
    · simpa [own] using before

/-- An event of the service may begin one lookup. -/
theorem Secured.served (secured : state.Secured) (sound : state.service.Sound)
    {event : Service.Event} (stepped : state.step runtime (.service event) = some after) :
    after.Secured := by
  simp only [step, Option.ite_none_right_eq_some] at stepped
  obtain ⟨answers, stepped⟩ := stepped
  obtain ⟨service, ran, rfl⟩ := Option.map_eq_some_iff.mp stepped
  have answered : ∀ number rev, event = .connection number (.gotPubKey (.ok rev)) →
      rev ∈ state.seen number := by
    rintro number rev rfl
    simpa [KeyedService.answers] using answers
  cases looks : state.looksUp event with
  | none =>
      constructor
      · exact secured.marked
      · intro number connection here
        exact secured.service sound ran here (Or.inr rfl) (answered number) (by simp [looks])
  | some number =>
      have forgets : ∀ rev, event ≠ .connection number (.gotPubKey (.ok rev)) := by
        rintro rev rfl
        cases looks
      let next : KeyedService := { state with service }
      have marked : ∀ authz, (next.keystores authz).Marked := secured.marked
      refine Secured.look marked fun other connection here => ?_
      by_cases same : other = number
      · rw [if_pos same]
        subst same
        exact secured.service sound ran here (Or.inl rfl)
          (fun rev caused => absurd caused (forgets rev)) (fun _ => rfl)
      · rw [if_neg same]
        refine secured.service sound ran here (Or.inr rfl) (answered other) ?_
        rw [looks]
        exact fun equal => absurd (Option.some.inj equal).symm same

/-- The change that a keystore raises next concerns only its own connections. -/
theorem Secured.delivered (secured : state.Secured) (sound : state.service.Sound) {authz : Nat}
    (stepped : state.step runtime (.deliver authz) = some after) : after.Secured := by
  simp only [step] at stepped
  cases pending : (state.keystores authz).changes with
  | nil => simp [pending] at stepped
  | cons change changes =>
      simp only [pending] at stepped
      obtain ⟨service, ran, rfl⟩ := Option.map_eq_some_iff.mp stepped
      constructor
      · intro other
        by_cases same : other = authz
        · subst same
          simpa [Keystore.Marked, Keystore.current] using secured.marked other
        · simpa [same] using secured.marked other
      · intro number connection here
        by_cases own : connection.transport.authz = authz
        · have after := secured.deliver sound pending ran here own
          simpa [own] using after
        · have after := secured.service sound ran here (Or.inr rfl)
            (fun _ none => by cases none) (fun none => by cases none)
          simpa [own] using after

/-- A step leaves no live connection behind a change. -/
theorem Secured.step (secured : state.Secured) (sound : state.service.Sound) {event : Event}
    (stepped : state.step runtime event = some after) : after.Secured := by
  cases event with
  | service event => exact secured.served sound stepped
  | addPubKey authz uri rev =>
      obtain ⟨keystore, added, rfl⟩ := Option.map_eq_some_iff.mp stepped
      exact secured.update (Keystore.addPubKey_updated added)
  | removePubKey authz uri announced =>
      obtain ⟨keystore, removed, rfl⟩ := Option.map_eq_some_iff.mp stepped
      exact secured.update (Keystore.removePubKey_updated removed)
  | deliver authz => exact secured.delivered sound stepped

/-- In every reachable state no live connection is behind a change. -/
theorem secured_of_reachable (reached : (system runtime).Reachable state) : state.Secured := by
  induction reached with
  | initial =>
      constructor
      · intro authz uri rev current
        simp [system, Keystore.current] at current
      · intro number connection here
        simp [system] at here
  | step reached _ stepped secured =>
      exact secured.step (sound_of_reachable reached.reachable) stepped

/-- When a keystore has no change left to deliver, each of its connections that is in service and
that was neither destroyed nor closed holds only current revisions. -/
theorem revocation_complete (reached : (system runtime).Reachable state) {number : Nat}
    {connection : Connection} (here : state.service.connections[number]? = some connection)
    (delivered : (state.keystores connection.transport.authz).changes = []) {greeting : Greeting}
    (served : .preConnect greeting ∈ connection.calls) (undestroyed : connection.destroyed = false)
    (unclosed : connection.closed = false) {hs : Handshake} (token : hs ∈ connection.handshakes) :
    (state.keystores connection.transport.authz).current hs.uri = hs.rev := by
  have guarded := (secured_of_reachable reached).guarded number connection here
  have mqserver := guarded.announced greeting served
  obtain ⟨index, known⟩ := List.getElem?_of_mem token
  have passed : connection.Passed index := by
    rw [Connection.Passed, guarded.served mqserver]
    exact mqserver
  obtain ⟨_, vouches⟩ := guarded.passed ⟨unclosed, undestroyed⟩ index hs known passed
  rcases vouches.current with current | ⟨announced, pending, _⟩
  · exact current
  · rw [delivered] at pending
    cases pending

/-- A connection enters service on a key that was added before. -/
theorem revocation_complete_sample : ∃ state connection greeting hs,
    (system sampleRuntime).run {}
      [.addPubKey 0 (text "mailto:foo@example.com") (text "1"), .deliver 0,
       .service (.transportConnected { config := {} } [sampleHandshake] {} false [sampleConnid] 0),
       .service (.connection 0 (.gotPubKey (.ok (some (text "1"))))),
       .service (.connection 0 (.resume 0))] = some state ∧
    state.service.connections[0]? = some connection ∧
    .preConnect greeting ∈ connection.calls ∧ hs ∈ connection.handshakes ∧
    (state.keystores connection.transport.authz).current hs.uri = hs.rev := by
  have served : (((system sampleRuntime).run {}
      [.addPubKey 0 (text "mailto:foo@example.com") (text "1"), .deliver 0,
       .service (.transportConnected { config := {} } [sampleHandshake] {} false [sampleConnid] 0),
       .service (.connection 0 (.gotPubKey (.ok (some (text "1"))))),
       .service (.connection 0 (.resume 0))]).bind fun state =>
        state.service.connections[0]?.map fun connection =>
          decide ((state.keystores connection.transport.authz).changes = [] ∧
            Call.preConnect (connection.greeting sampleRuntime) ∈ connection.calls ∧
            sampleHandshake ∈ connection.handshakes ∧ connection.destroyed = false ∧
            connection.closed = false)) = some true := by
    decide
  obtain ⟨state, ran, found⟩ := Option.bind_eq_some_iff.mp served
  obtain ⟨connection, here, served⟩ := Option.map_eq_some_iff.mp found
  obtain ⟨delivered, served, token, undestroyed, unclosed⟩ := of_decide_eq_true served
  exact ⟨state, connection, _, sampleHandshake, ran, here, served, token,
    revocation_complete (TransitionSystem.reachable_of_run ran) here delivered served undestroyed
      unclosed token⟩

end KeyedService
end Centro
