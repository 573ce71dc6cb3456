import Centro.Proof.Connection.RegistryRun
import Mathlib.Logic.Relation

namespace Centro

open Library

/-- These calls neither destroy nor close a connection, and they do not put it into service. -/
def Call.plain : Call → Bool
  | .warning _ | .setTimeout _ _ | .clearTimeout _ | .getPubKeyByUri _ _ | .expired _ => true
  | .reply _ _ => true
  | _ => false

def Call.isConnect : Call → Bool
  | .connect _ _ => true
  | _ => false

/-- `eachSeries` takes this token next. -/
def Phase.Next : Phase → Nat → Prop
  | .idle, token => token = 0
  | .calledBack last none, token => token = last + 1
  | _, _ => False

namespace Connection

/-- A call of `transport_connected`, which is no event, or a resumed `eachSeries` goes on to a
token. -/
def Proceeds (event : Option ConnectionEvent) : Prop :=
  event = none ∨ ∃ now, event = some (.resume now)

/-- All tokens were processed without an error when the connection goes on. -/
def Enters (connection : Connection) (event : Option ConnectionEvent) : Prop :=
  Proceeds event ∧ ∃ token, connection.phase.Next token ∧ connection.handshakes[token]? = none

/-- The client sends this handshake and has the right version. -/
def Announces (hsdata : List UInt8) (event : Option ConnectionEvent) : Prop :=
  event = some (.handshake hsdata) ∧ 4 ≤ hsdata.length ∧ Closure.readUInt32BE hsdata = version

/-- The event calls `dstroy`. -/
def Destroys (connection : Connection) : ConnectionEvent → Prop
  | .dstroy _ => True
  | .resume _ => ∃ token failure, connection.phase = .calledBack token (some failure)
  | .timeout token _ => connection.timeouts.get token = some .action
  | .handshake hsdata => 4 ≤ hsdata.length ∧ Closure.readUInt32BE hsdata ≠ version
  | _ => False

/-- The event reports the close of an open connection, or it calls `dstroy` and the transport
reports the close before that call returns. -/
def Closes (connection : Connection) (event : ConnectionEvent) : Prop :=
  event = .closed ∨
    (connection.channel.closes = true ∧ connection.destroyed = false ∧ connection.Destroys event)

/-- The server has emitted `connect` for the connection. -/
def announced (connection : Connection) : Bool := connection.calls.any Call.isConnect

/-- The function `process_handshake` sets these variables for a token of an open connection. -/
def registered (runtime : Runtime) (connection : Connection) (token : Nat) (hs : Handshake) :
    Connection :=
  { connection with
    ackPrefixes := match hs.payload.ack with
      | some ackPrefix => connection.ackPrefixes.set (connection.keyPrefix runtime hs) ackPrefix
      | none => connection.ackPrefixes
    presence := match hs.payload.presence with
      | some presence => connection.presence.set (connection.keyPrefix runtime hs) (token, presence)
      | none => connection.presence
    hsConns := connection.hsConns.add
      { connection := connection.number, token := token, uri := hs.uri, rev := hs.rev }
    phase := .lookup token }

/-- These calls put a connection into service. -/
def serviceCalls (runtime : Runtime) (connection : Connection) : List Call :=
  [.accessControl (connection.accessControlOptions runtime),
    .mqlobberServer connection.channel.noKeepAlive] ++ connection.subscribeCalls runtime ++
    [.preConnect (connection.greeting runtime)]

/-- An event of a connection moves its variables in one of these ways. The origin is their state
before the event. -/
inductive Move (runtime : Runtime) (origin : Connection) (event : Option ConnectionEvent) :
    Connection → Connection → Prop where
  | log {connection : Connection} (made : Call) (plain : made.plain = true)
      (told : ∀ greeting sent, made = .reply greeting sent →
        connection.mqserver = true ∧ greeting = connection.greeting runtime ∧ sent = version) :
      Move runtime origin event connection { connection with calls := connection.calls ++ [made] }
  | timeouts {connection : Connection} (timeouts : OrderedMap Nat Timer) :
      Move runtime origin event connection { connection with timeouts }
  | accept {connection : Connection} (connid : JsString) (unaccepted : connection.accepted = false)
      (idle : connection.phase = .idle) (joins : event = none) :
      Move runtime origin event connection { connection with connid, accepted := true }
  | close {connection : Connection} (isOpen : connection.Open)
      (closes : ∀ cause, event = some cause → origin.Closes cause)
      (presence : connection.presence = origin.presence)
      (announced : connection.announced = origin.announced) :
      Move runtime origin event connection { connection with
        closed := true
        hsConns := .empty
        timeouts := .empty
        calls := connection.calls ++ connection.closeCalls runtime }
  | dstroy {connection : Connection} (now : Bool) :
      Move runtime origin event connection { connection with
        calls := connection.calls ++ [.dstroy now] }
  | destroy {connection : Connection} (now : Bool) (undestroyed : connection.destroyed = false)
      (unclosed : connection.closed = false) :
      Move runtime origin event connection { connection with
        calls := connection.calls ++ [.destroy connection.mqserver now] }
  | destroyed {connection : Connection} :
      Move runtime origin event connection { connection with destroyed := true }
  | register {connection : Connection} (token : Nat) (hs : Handshake)
      (next : connection.phase.Next token) (here : connection.handshakes[token]? = some hs)
      (isOpen : connection.Open) (proceeds : Proceeds event) :
      Move runtime origin event connection (connection.registered runtime token hs)
  | answer {connection : Connection} (token : Nat) (failure : Option Failure)
      (waits : connection.phase = .lookup token)
      (checked : failure = none → ∃ hs, connection.handshakes[token]? = some hs ∧
        event = some (.gotPubKey (.ok hs.rev))) :
      Move runtime origin event connection { connection with phase := .calledBack token failure }
  | skip {connection : Connection} (token : Nat) (next : connection.phase.Next token)
      (closed : connection.closed = true) :
      Move runtime origin event connection { connection with
        phase := .calledBack token (some .closed) }
  | process {connection : Connection} :
      Move runtime origin event connection { connection with phase := .processed }
  | enter {connection : Connection} (enters : origin.Enters event) (isOpen : connection.Open)
      (processed : connection.phase = .processed) (calls : connection.calls = origin.calls)
      (unclosed : origin.closed = false) (hsConns : connection.hsConns = origin.hsConns)
      (destroyed : connection.destroyed = origin.destroyed) :
      Move runtime origin event connection { connection with
        mqserver := true
        calls := connection.calls ++ connection.serviceCalls runtime }
  | handshaken {connection : Connection} (served : connection.mqserver = true)
      (unshaken : connection.handshaken = false) :
      Move runtime origin event connection { connection with handshaken := true }
  | announce {connection : Connection} (hsdata : List UInt8) (announces : Announces hsdata event)
      (served : connection.mqserver = true) (shaken : connection.handshaken = true)
      (unshaken : origin.handshaken = false) (greeting : Greeting)
      (calls : connection.calls = origin.calls ++ [.reply greeting version]) :
      Move runtime origin event connection { connection with
        calls := connection.calls ++ ([.connect connection.connid (hsdata.drop 4)] ++
          connection.arrivalCalls runtime) }
  | ack {connection : Connection} (topic : JsString) (served : connection.mqserver = true) :
      Move runtime origin event connection { connection with
        calls := connection.calls ++ [connection.ackCall runtime topic] }

/-- No move changes what `transport_connected` was called with. -/
theorem Move.constant {runtime : Runtime} {origin before after : Connection}
    {event : Option ConnectionEvent} (move : Move runtime origin event before after) :
    after.number = before.number ∧ after.transport = before.transport ∧
      after.handshakes = before.handshakes ∧ after.channel = before.channel := by
  cases move <;> exact ⟨rfl, rfl, rfl, rfl⟩

/-- One event makes a chain of moves. -/
abbrev Moves (runtime : Runtime) (origin : Connection) (event : Option ConnectionEvent) :
    Connection → Connection → Prop :=
  Relation.ReflTransGen (Move runtime origin event)

/-- Moves keep what a connection was made with. -/
theorem Moves.constant {runtime : Runtime} {origin before after : Connection}
    {event : Option ConnectionEvent} (moves : Moves runtime origin event before after) :
    after.number = before.number ∧ after.transport = before.transport ∧
      after.handshakes = before.handshakes ∧ after.channel = before.channel := by
  induction moves with
  | refl => exact ⟨rfl, rfl, rfl, rfl⟩
  | tail _ move ih =>
      obtain ⟨number, transport, handshakes, channel⟩ := move.constant
      exact ⟨number.trans ih.1, transport.trans ih.2.1, handshakes.trans ih.2.2.1,
        channel.trans ih.2.2.2⟩

end Connection

namespace Closure

variable {runtime : Runtime} {closure next : Closure} {origin : Connection}
  {event : Option ConnectionEvent}

open Connection Relation.ReflTransGen

/-- The event has not changed these variables so far. -/
structure Kin (origin connection : Connection) : Prop where
  channel : connection.channel = origin.channel
  destroyed : connection.destroyed = origin.destroyed
  presence : connection.presence = origin.presence
  announced : connection.announced = origin.announced

theorem Kin.refl (origin : Connection) : Kin origin origin := ⟨rfl, rfl, rfl, rfl⟩

/-- A call other than `connect` leaves a connection next of kin. -/
theorem Kin.call {connection : Connection} (kin : Kin origin connection) {made : Call}
    (mute : made.isConnect = false) :
    Kin origin { connection with calls := connection.calls ++ [made] } where
  channel := kin.channel
  destroyed := kin.destroyed
  presence := kin.presence
  announced := by
    rw [← kin.announced]
    simp [Connection.announced, mute]

/-- The close of an open connection is one move. -/
theorem connClosed_move (isOpen : closure.connection.Open)
    (closes : ∀ cause, event = some cause → origin.Closes cause)
    (kin : Kin origin closure.connection) :
    Move runtime origin event closure.connection (closure.connClosed runtime).connection := by
  rw [connClosed_connection]
  exact .close isOpen closes kin.presence kin.announced

/-- The destroy function moves its connection to the close at most. -/
theorem invokeDestroy_moves (destroys : ∀ cause, event = some cause → origin.Destroys cause)
    (kin : Kin origin closure.connection) (undestroyed : closure.connection.destroyed = false)
    (unclosed : closure.connection.closed = false) (now : Bool) :
    Moves runtime origin event closure.connection
      (closure.invokeDestroy runtime now).connection := by
  have first : Moves runtime origin event closure.connection
      (closure.call (.destroy closure.connection.mqserver now)).connection :=
    single (.destroy now undestroyed unclosed)
  have reported : Moves runtime origin event closure.connection
      (if (closure.connection.channel.closes && closure.connection.accepted) = true then
        (closure.call (.destroy closure.connection.mqserver now)).connClosed runtime
        else closure.call (.destroy closure.connection.mqserver now)).connection := by
    split
    · next closes =>
        rw [Bool.and_eq_true] at closes
        have reports : ∀ cause, event = some cause → origin.Closes cause := fun cause is =>
          Or.inr ⟨kin.channel ▸ closes.1, kin.destroyed ▸ undestroyed, destroys cause is⟩
        exact first.tail (connClosed_move ⟨closes.2, unclosed⟩ reports (kin.call rfl))
    · exact first
  unfold invokeDestroy
  dsimp only
  split
  · exact reported.tail (.log _ rfl (by nofun))
  · exact reported

/-- A call of `dstroy` is a sequence of moves. -/
theorem dstroy_moves (destroys : ∀ cause, event = some cause → origin.Destroys cause)
    (kin : Kin origin closure.connection) (now : Bool) :
    Moves runtime origin event closure.connection (closure.dstroy runtime now).connection := by
  have called : Moves runtime origin event closure.connection
      (closure.call (.dstroy now)).connection := single (.dstroy now)
  unfold dstroy
  dsimp only
  split
  · next live =>
      simp only [Bool.and_eq_true, Bool.not_eq_true'] at live
      have destroyed : Moves runtime origin event (closure.call (.dstroy now)).connection
          ((closure.call (.dstroy now)).invokeDestroy runtime now).connection :=
        invokeDestroy_moves destroys (kin.call rfl) live.1 live.2 now
      exact (called.trans destroyed).tail .destroyed
  · exact called

/-- The handshake of a token registers it, sets its timer and looks its key up. -/
theorem processHandshake_connection (unclosed : closure.connection.closed = false) (token : Nat)
    (hs : Handshake) (now : Int) :
    (closure.processHandshake runtime token hs now).connection =
      match hs.payload.exp with
      | none => { closure.connection.registered runtime token hs with
          calls := closure.connection.calls ++ [.getPubKeyByUri token hs.uri] }
      | some exp => { closure.connection.registered runtime token hs with
          timeouts := closure.connection.timeouts.set token (schedule (exp * 1000) now).1
          calls := closure.connection.calls ++ [.setTimeout token (schedule (exp * 1000) now).2] ++
            [.getPubKeyByUri token hs.uri] } := by
  obtain ⟨⟨iss, accessControl, exp, subscribe, ack, presence⟩, uri, rev⟩ := hs
  unfold processHandshake
  rw [if_neg (Bool.not_eq_true _ ▸ unclosed)]
  cases ack <;> cases presence <;> cases exp <;> rfl

/-- The handshake of a token is a sequence of moves. -/
theorem processHandshake_moves {token : Nat} {hs : Handshake} (proceeds : Proceeds event)
    (next : closure.connection.phase.Next token)
    (here : closure.connection.handshakes[token]? = some hs)
    (accepted : closure.connection.accepted = true) (now : Int) :
    Moves runtime origin event closure.connection
      (closure.processHandshake runtime token hs now).connection := by
  cases closed : closure.connection.closed with
  | true =>
      have skipped : (closure.processHandshake runtime token hs now).connection =
          { closure.connection with phase := .calledBack token (some .closed) } := by
        simp [processHandshake, closed]
      rw [skipped]
      exact single (.skip token next closed)
  | false =>
      have registered : Moves runtime origin event closure.connection
          (closure.connection.registered runtime token hs) :=
        single (.register token hs next here ⟨accepted, closed⟩ proceeds)
      rw [processHandshake_connection closed]
      cases hs.payload.exp with
      | none => exact registered.tail (.log _ rfl (by nofun))
      | some exp =>
          exact ((registered.tail (.timeouts _)).tail (.log _ rfl (by nofun))).tail
            (.log _ rfl (by nofun))

/-- A refused connection is destroyed by moves. -/
theorem refuse_moves (destroys : ∀ cause, event = some cause → origin.Destroys cause)
    (kin : Kin origin closure.connection) (failure : Failure) :
    Moves runtime origin event closure.connection
      (closure.processedHandshakes runtime (some failure)).connection := by
  let done : Closure := { closure with connection.phase := .processed }
  have warned : Moves runtime origin event closure.connection
      (done.call (.warning failure)).connection := (single .process).tail (.log _ rfl (by nofun))
  have same : Kin origin done.connection :=
    ⟨kin.channel, kin.destroyed, kin.presence, kin.announced⟩
  have destroyed : Moves runtime origin event (done.call (.warning failure)).connection
      ((done.call (.warning failure)).dstroy runtime false).connection :=
    dstroy_moves destroys (same.call rfl) false
  exact warned.trans destroyed

/-- After the last token the connection enters service, unless it closed in the meantime. -/
theorem enter_moves (enters : origin.Enters event)
    (unclosed : closure.connection.closed = false → closure.connection.calls = origin.calls ∧
      origin.closed = false ∧ closure.connection.hsConns = origin.hsConns)
    (destroyed : closure.connection.destroyed = origin.destroyed)
    (accepted : closure.connection.accepted = true) :
    Moves runtime origin event closure.connection
      (closure.processedHandshakes runtime none).connection := by
  have done : Moves runtime origin event closure.connection
      { closure.connection with phase := .processed } := single .process
  unfold processedHandshakes
  dsimp only
  split
  · exact done.tail (.log _ rfl (by nofun))
  · next isOpen =>
      have isOpen : closure.connection.closed = false := (Bool.not_eq_true _).mp isOpen
      obtain ⟨calls, unclosed, hsConns⟩ := unclosed isOpen
      exact done.tail (.enter enters ⟨accepted, isOpen⟩ rfl calls unclosed hsConns destroyed)

/-- The next handshake is a sequence of moves. -/
theorem nextHandshake_moves {token : Nat} (now : Int)
    (proceeds : Proceeds event)
    (phase : closure.connection.phase = origin.phase) (next : origin.phase.Next token)
    (handshakes : closure.connection.handshakes = origin.handshakes)
    (unclosed : closure.connection.closed = false → closure.connection.calls = origin.calls ∧
      origin.closed = false ∧ closure.connection.hsConns = origin.hsConns)
    (destroyed : closure.connection.destroyed = origin.destroyed)
    (accepted : closure.connection.accepted = true) :
    Moves runtime origin event closure.connection
      (closure.nextHandshake runtime token now).connection := by
  unfold nextHandshake
  split
  · next hs here => exact processHandshake_moves proceeds (phase ▸ next) here accepted now
  · next last =>
      exact enter_moves ⟨proceeds, token, next, handshakes ▸ last⟩ unclosed destroyed accepted

/-- A timer that fires is a sequence of moves. -/
theorem timeout_moves {token : Nat} {now : Int}
    (fired : closure.timeout runtime token now = some next) :
    Moves runtime closure.connection (some (.timeout token now)) closure.connection
      next.connection := by
  unfold timeout at fired
  obtain ⟨timer, known, fired⟩ := Option.bind_eq_some_iff.mp fired
  obtain ⟨hs, _, fired⟩ := Option.bind_eq_some_iff.mp fired
  cases timer with
  | schedule =>
      obtain ⟨exp, _, fired⟩ := Option.bind_eq_some_iff.mp fired
      obtain rfl := Option.some.inj fired
      exact (single (.timeouts _)).tail (.log _ rfl (by nofun))
  | action =>
      obtain rfl := Option.some.inj fired
      let late : Closure :=
        { closure with connection.timeouts := closure.connection.timeouts.delete token }
      have expired : Moves runtime closure.connection (some (.timeout token now)) closure.connection
          (late.call (.expired closure.connection.connid)).connection :=
        (single (.timeouts _)).tail (.log _ rfl (by nofun))
      have kin : Kin closure.connection late.connection := ⟨rfl, rfl, rfl, rfl⟩
      have destroyed : Moves runtime closure.connection (some (.timeout token now))
          (late.call (.expired closure.connection.connid)).connection
          ((late.call (.expired closure.connection.connid)).dstroy runtime false).connection := by
        refine dstroy_moves ?_ (kin.call rfl) false
        rintro _ ⟨⟩
        exact known
      exact expired.trans destroyed

/-- The handshake of a client is a sequence of moves. -/
theorem handshake_moves (hsdata : List UInt8) (sent : event = some (.handshake hsdata))
    (served : closure.connection.mqserver = true) (unshaken : closure.connection.handshaken = false) :
    Moves runtime closure.connection event closure.connection
      (closure.handshake runtime hsdata).connection := by
  have shaken : Moves runtime closure.connection event closure.connection
      { closure.connection with handshaken := true } := single (.handshaken served unshaken)
  unfold handshake
  dsimp only
  split
  · exact shaken.tail (.log _ rfl (by nofun))
  · next long =>
      have replied := shaken.tail (.log (.reply (closure.connection.greeting runtime) version) rfl
        fun _ _ same => ⟨served, (Call.reply.inj same).1.symm, (Call.reply.inj same).2.symm⟩)
      split
      · next differs =>
          let greeted : Closure := { closure with connection.handshaken := true }
          let warned : Closure := (greeted.call (.reply (greeted.connection.greeting runtime)
            version)).call (.warning (.unsupportedVersion (readUInt32BE hsdata)))
          have kin : Kin closure.connection greeted.connection := ⟨rfl, rfl, rfl, rfl⟩
          have destroyed : Moves runtime closure.connection event warned.connection
              (warned.dstroy runtime false).connection := by
            refine dstroy_moves ?_ ((kin.call rfl).call rfl) false
            intro cause is
            rw [sent] at is
            obtain rfl := Option.some.inj is
            exact ⟨Nat.le_of_not_lt long, differs⟩
          exact (replied.tail (.log _ rfl (by nofun))).trans destroyed
      · next same =>
          have announces : Announces hsdata event := ⟨sent, Nat.le_of_not_lt long, not_not.mp same⟩
          have announced := replied.tail (.announce hsdata announces served rfl unshaken _ rfl)
          rw [← List.append_assoc] at announced
          exact announced

/-- An event of a connection is a chain of moves. -/
theorem step_moves {event : ConnectionEvent} (stepped : closure.step runtime event = some next)
    (started : closure.connection.phase ≠ .idle → closure.connection.accepted = true) :
    Moves runtime closure.connection (some event) closure.connection next.connection := by
  cases event with
  | gotPubKey result =>
      simp only [step] at stepped
      split at stepped
      · next token waits =>
          obtain ⟨hs, here, rfl⟩ := Option.map_eq_some_iff.mp stepped
          refine single (.answer token _ waits ?_)
          intro success
          cases result with
          | error message => cases success
          | ok rev =>
              by_cases same : hs.rev = rev
              · exact ⟨hs, here, by rw [same]⟩
              · simp [same] at success
      · cases stepped
  | resume now =>
      simp only [step] at stepped
      split at stepped
      · next token failure waits =>
          obtain rfl := Option.some.inj stepped
          refine refuse_moves ?_ (Kin.refl _) failure
          rintro _ ⟨⟩
          exact ⟨token, failure, waits⟩
      · next token waits =>
          obtain rfl := Option.some.inj stepped
          have next : closure.connection.phase.Next (token + 1) := by
            rw [waits]
            rfl
          exact nextHandshake_moves now (Or.inr ⟨now, rfl⟩) rfl next rfl
            (fun isOpen => ⟨rfl, isOpen, rfl⟩) rfl (started (by simp [waits]))
      · cases stepped
  | timeout token now => exact timeout_moves stepped
  | closed =>
      simp only [step, Option.ite_none_right_eq_some, Option.some.injEq] at stepped
      obtain ⟨isOpen, rfl⟩ := stepped
      refine single (connClosed_move (by simpa [Connection.Open] using isOpen) ?_ (Kin.refl _))
      rintro _ ⟨⟩
      exact Or.inl rfl
  | handshake hsdata =>
      simp only [step, Option.ite_none_right_eq_some, Option.some.injEq, Bool.and_eq_true,
        Bool.not_eq_true'] at stepped
      obtain ⟨⟨served, unshaken⟩, rfl⟩ := stepped
      exact handshake_moves hsdata rfl served unshaken
  | ack topic =>
      simp only [step, Option.ite_none_right_eq_some, Option.some.injEq, Bool.and_eq_true] at stepped
      obtain ⟨⟨served, _⟩, rfl⟩ := stepped
      exact single (.ack topic served)
  | dstroy now =>
      obtain rfl := Option.some.inj stepped
      refine dstroy_moves ?_ (Kin.refl _) now
      rintro _ ⟨⟩
      trivial

/-- A call of `transport_connected` is a chain of moves too. -/
theorem transportConnected_moves {closing alreadyClosed : Bool} {draws : List JsString} {now : Int}
    (idle : closure.connection.phase = .idle) (unaccepted : closure.connection.accepted = false)
    (unclosed : closure.connection.closed = false)
    (connected : closure.transportConnected runtime closing alreadyClosed draws now = some next) :
    Moves runtime closure.connection none closure.connection next.connection := by
  unfold transportConnected at connected
  split at connected
  · obtain rfl := Option.some.inj connected
    exact dstroy_moves (fun _ is => by cases is) (Kin.refl _) false
  · obtain ⟨connid, _, connected⟩ := Option.bind_eq_some_iff.mp connected
    obtain rfl := Option.some.inj connected
    have next : closure.connection.phase.Next 0 := by
      rw [idle]
      rfl
    let joined : Closure := { closure with
      shared.connids := closure.shared.connids.set connid closure.connection.number
      connection.connid := connid
      connection.accepted := true }
    have accepted : Moves runtime closure.connection none closure.connection joined.connection :=
      single (.accept connid unaccepted idle rfl)
    dsimp only
    split
    · have left : Moves runtime closure.connection none closure.connection
          (joined.connClosed runtime).connection :=
        accepted.tail (connClosed_move ⟨rfl, unclosed⟩ (fun _ is => by cases is) ⟨rfl, rfl, rfl, rfl⟩)
      have processed : Moves runtime closure.connection none (joined.connClosed runtime).connection
          ((joined.connClosed runtime).nextHandshake runtime 0 now).connection := by
        apply nextHandshake_moves now (Or.inl rfl)
        · rw [connClosed_connection]
        · exact next
        · rw [connClosed_connection]
        · rw [connClosed_connection]
          exact fun still => Bool.noConfusion still
        · rw [connClosed_connection]
        · rw [connClosed_connection]
      exact left.trans processed
    · have processed : Moves runtime closure.connection none joined.connection
          (joined.nextHandshake runtime 0 now).connection :=
        nextHandshake_moves now (Or.inl rfl) rfl next rfl (fun isOpen => ⟨rfl, isOpen, rfl⟩) rfl rfl
      exact accepted.trans processed

end Closure

namespace Service

variable {runtime : Runtime} {service after : Service}

/-- The event of a connection that a step of the service brings about for it. -/
inductive Brings (service : Service) (event : Event) (number : Nat) : ConnectionEvent → Prop where
  | own (move : ConnectionEvent) (meant : event = .connection number move) :
      Brings service event number move
  | loop (now : Bool) (meant : service.Dstroys event number) :
      Brings service event number (.dstroy now)

/-- A connection permits the event, or it is new. -/
def Permits (permitted : Connection → ConnectionEvent → Prop) (origin : Connection) :
    Option ConnectionEvent → Prop
  | some move => permitted origin move
  | none => ∃ number transport handshakes channel,
      origin = fresh number transport handshakes channel

/-- A property of each connection holds in every reached state when a new connection has it and
each move keeps it, as long as the connection permits the event. -/
theorem connection_invariant {allowed : Service → Event → Prop} (property : Connection → Prop)
    (permitted : Connection → ConnectionEvent → Prop)
    (new : ∀ number transport handshakes channel,
      property (fresh number transport handshakes channel))
    (kept : ∀ origin event before after, property origin → Permits permitted origin event →
      property before → Connection.Move runtime origin event before after → property after)
    (permits : ∀ service event number connection move, allowed service event →
      service.connections[number]? = some connection → Brings service event number move →
      permitted connection move)
    (again : ∀ connection shared now later, permitted connection (.dstroy now) →
      permitted (Closure.dstroy runtime ⟨shared, connection⟩ now).connection (.dstroy later))
    (reached : (system runtime).ReachableUnder allowed service) {number : Nat}
    {connection : Connection} (here : service.connections[number]? = some connection) :
    property connection := by
  have chain : ∀ {origin : Connection} {event : Option ConnectionEvent} {last : Connection},
      property origin → Connection.Moves runtime origin event origin last →
      Permits permitted origin event → property last := by
    intro origin event last start moves permits
    induction moves with
    | refl => exact start
    | tail _ move holds => exact kept origin event _ _ start permits holds move
  induction reached generalizing number connection with
  | initial => simp [system] at here
  | step reached meets stepped ih =>
      rename_i before _ event
      cases old : before.connections[number]? with
      | none =>
          obtain ⟨transport, handshakes, channel, _, _, _, closure, _, ran, rfl, _⟩ :=
            step_fresh stepped old here
          exact chain (new number transport handshakes channel)
            (Closure.transportConnected_moves rfl rfl rfl ran) ⟨_, _, _, _, rfl⟩
      | some first =>
          have start := ih old
          rcases step_connection stepped old with ⟨move, closure, meant, ran, there⟩ |
              ⟨meant, last, there, trail⟩ | there
          · obtain rfl := Option.some.inj (here.symm.trans there)
            have accepted := (sound_of_reachable reached.reachable).started first
              (List.mem_of_getElem? old)
            exact chain start (Closure.step_moves ran accepted)
              (permits before event number first move meets old (.own move meant))
          · obtain rfl := Option.some.inj (here.symm.trans there)
            have allowed : ∀ now, permitted first (.dstroy now) := fun now =>
              permits before event number first _ meets old (.loop now meant)
            clear here there
            have both : property connection ∧ ∀ now, permitted connection (.dstroy now) := by
              induction trail with
              | refl => exact ⟨start, allowed⟩
              | @step last shared now _ holds =>
                  have moves : Connection.Moves runtime last (some (.dstroy now)) last
                      (Closure.dstroy runtime ⟨shared, last⟩ now).connection :=
                    @Closure.dstroy_moves runtime ⟨shared, last⟩ last _
                      (by rintro _ ⟨⟩; trivial) (Closure.Kin.refl last) now
                  exact ⟨chain holds.1 moves (holds.2 now), fun later =>
                    again last shared now later (holds.2 now)⟩
            exact both.1
          · obtain rfl := Option.some.inj (here.symm.trans there)
            exact start

/-- Events of a connection lead from one of its states to another. -/
abbrev Continues (runtime : Runtime) : Connection → Connection → Prop :=
  Relation.ReflTransGen fun before after =>
    ∃ origin event, Connection.Move runtime origin (some event) before after

/-- Moves only continue a connection. -/
theorem continues_of_moves {origin first last : Connection} {event : ConnectionEvent}
    (moves : Connection.Moves runtime origin (some event) first last) :
    Continues runtime first last :=
  moves.lift id fun _ _ move => ⟨origin, event, move⟩

/-- Calls of `dstroy` only continue a connection. -/
theorem continues_of_dstroyed {first last : Connection}
    (trail : Dstroyed runtime first last) : Continues runtime first last := by
  induction trail with
  | refl => exact .refl
  | @step last shared now _ ih =>
      have moves : Connection.Moves runtime last (some (.dstroy now)) last
          (Closure.dstroy runtime ⟨shared, last⟩ now).connection :=
        @Closure.dstroy_moves runtime ⟨shared, last⟩ last _ (by rintro _ ⟨⟩; trivial)
          (Closure.Kin.refl last) now
      exact ih.trans (continues_of_moves moves)

/-- Each step takes a known connection through events of its own. -/
theorem Sound.step_continues (sound : service.Sound) {event : Event}
    (stepped : service.step runtime event = some after) {number : Nat} {first : Connection}
    (here : service.connections[number]? = some first) :
    ∃ last, after.connections[number]? = some last ∧ Continues runtime first last := by
  rcases step_connection stepped here with ⟨move, closure, _, ran, there⟩ |
      ⟨_, last, there, trail⟩ | there
  · have accepted := sound.started first (List.mem_of_getElem? here)
    exact ⟨_, there, continues_of_moves (Closure.step_moves ran accepted)⟩
  · exact ⟨last, there, continues_of_dstroyed trail⟩
  · exact ⟨first, there, .refl⟩

end Service
end Centro
