import Centro.Construction.Http
import Centro.Proof.Client.PreSubscription

namespace Centro

open Library

/-- The call reports no error, and only such a topic is passed on to the `mqlobber` client. -/
def ClientCall.Passes (names : JsString → Prop) : ClientCall → Prop
  | .tokenOutOfRange _ => False
  | .publish _ topic _ | .subscribe _ topic _ | .unsubscribe _ topic _ => names topic
  | .unsub .. | .invoke .. => True

/-- A call that passes on some topics passes on more. -/
theorem ClientCall.Passes.mono {names more : JsString → Prop} {call : ClientCall}
    (passes : call.Passes names) (named : ∀ topic, names topic → more topic) : call.Passes more := by
  cases call with
  | tokenOutOfRange client => exact passes
  | publish client topic options => exact named topic passes
  | subscribe client topic handler2 => exact named topic passes
  | unsubscribe client topic target => exact named topic passes
  | unsub client handler topic => exact passes
  | invoke handler2 topic => exact passes

/-- This topic may be passed on for the arguments and the prefix of a token. -/
def Arguments.Names (arguments : Arguments) (connid scope passed : JsString) : Prop :=
  match arguments.topic with
  | some topic => passed = scope ++ replaceSelf connid topic
  | none => scope <+: passed

namespace Session

variable {session after : Session} {names : JsString → Prop} {loops : Sweep → Prop}

/-- The functions of a client only pass on such topics and only let such loops go on. -/
structure Passes (names : JsString → Prop) (loops : Sweep → Prop) (before after : Session) :
    Prop where
  number : after.number = before.number
  self : after.client.self = before.client.self
  prefixes : after.client.prefixes = before.client.prefixes
  calls : ∃ made, after.calls = before.calls ++ made ∧ ∀ call ∈ made, call.Passes names
  requests : ∀ request ∈ after.client.requests, request ∈ before.client.requests ∨
    ∀ sweep, request.sweep = some sweep → loops sweep

theorem Passes.refl (session : Session) : session.Passes names loops session :=
  ⟨rfl, rfl, rfl, ⟨[], by simp⟩, fun _ => .inl⟩

/-- What is passed on by two parts is passed on by both. -/
theorem Passes.trans {middle : Session} (first : session.Passes names loops middle)
    (second : middle.Passes names loops after) : session.Passes names loops after where
  number := second.number.trans first.number
  self := second.self.trans first.self
  prefixes := second.prefixes.trans first.prefixes
  calls := by
    obtain ⟨made, grown, allowed⟩ := first.calls
    obtain ⟨more, further, later⟩ := second.calls
    refine ⟨made ++ more, by rw [further, grown, List.append_assoc], ?_⟩
    intro call member
    exact (List.mem_append.mp member).elim (allowed call) (later call)
  requests request member :=
    (second.requests request member).elim (first.requests request) .inr

/-- More topics and more loops pass on more. -/
theorem Passes.mono {more : JsString → Prop} {others : Sweep → Prop}
    (passes : session.Passes names loops after) (named : ∀ topic, names topic → more topic)
    (looped : ∀ sweep, loops sweep → others sweep) : session.Passes more others after where
  number := passes.number
  self := passes.self
  prefixes := passes.prefixes
  calls := by
    obtain ⟨made, grown, allowed⟩ := passes.calls
    exact ⟨made, grown, fun call member => (allowed call member).mono named⟩
  requests request member := (passes.requests request member).imp_right fun each sweep found =>
    looped sweep (each sweep found)

/-- A change of the handlers with one call and one request at most. -/
theorem passes_call {call : ClientCall} (number : after.number = session.number)
    (self : after.client.self = session.client.self)
    (prefixes : after.client.prefixes = session.client.prefixes)
    (calls : after.calls = session.calls ++ [call])
    (allowed : call.Passes names)
    (requests : ∀ request ∈ after.client.requests, request ∈ session.client.requests ∨
      ∀ sweep, request.sweep = some sweep → loops sweep) : session.Passes names loops after :=
  ⟨number, self, prefixes, ⟨[call], calls, by simpa using allowed⟩, requests⟩

/-- The function `unsub` passes nothing on. -/
theorem passes_unsub (session : Session) (topic : JsString) (handler : Nat) :
    session.Passes names loops (session.unsub topic handler).2 :=
  passes_call rfl rfl rfl rfl trivial fun _ => .inl

theorem passes_unsubAll (session : Session) (topic : JsString) :
    session.Passes names loops (session.unsubAll topic) := by
  have all : ∀ (items : List Handler2) (session : Session), session.Passes names loops
      (items.foldl (fun session handler2 => (session.unsub topic handler2.handler).2) session) := by
    intro items
    induction items with
    | nil => exact .refl
    | cons item rest ih => exact fun session => (session.passes_unsub topic _).trans (ih _)
  exact all _ session

end Session

namespace Client

variable {client : Client} {topic : JsString} {handlers : OrderedSet Handler2}
  {handler2 : Handler2} {target : Target} {sweep : Option Sweep}

/-- The loops over topics and the tables leave the handshake data alone. -/
@[simp] theorem setHandlers_self : (client.setHandlers topic handlers).self = client.self := by
  unfold setHandlers
  split <;> rfl

@[simp] theorem setHandlers_prefixes :
    (client.setHandlers topic handlers).prefixes = client.prefixes := by
  unfold setHandlers
  split <;> rfl

@[simp] theorem subscribed_self : (client.subscribed topic handler2).self = client.self :=
  setHandlers_self

@[simp] theorem subscribed_prefixes :
    (client.subscribed topic handler2).prefixes = client.prefixes :=
  setHandlers_prefixes

@[simp] theorem unsubscribed_self : (client.unsubscribed topic target).self = client.self := by
  unfold unsubscribed
  split
  · rfl
  · split <;> simp

@[simp] theorem unsubscribed_prefixes :
    (client.unsubscribed topic target).prefixes = client.prefixes := by
  unfold unsubscribed
  split
  · rfl
  · split <;> simp

@[simp] theorem origSubscribe_self : (client.origSubscribe topic handler2).self = client.self := by
  unfold origSubscribe
  split
  · exact subscribed_self
  · rfl

@[simp] theorem origSubscribe_prefixes :
    (client.origSubscribe topic handler2).prefixes = client.prefixes := by
  unfold origSubscribe
  split
  · exact subscribed_prefixes
  · rfl

@[simp] theorem origUnsubscribe_self :
    (client.origUnsubscribe topic target sweep).self = client.self := by
  unfold origUnsubscribe
  split
  · rfl
  · exact unsubscribed_self

@[simp] theorem origUnsubscribe_prefixes :
    (client.origUnsubscribe topic target sweep).prefixes = client.prefixes := by
  unfold origUnsubscribe
  split
  · rfl
  · exact unsubscribed_prefixes

/-- A request of `subscribe` belongs to no loop. -/
theorem origSubscribe_requests {request : Request}
    (member : request ∈ (client.origSubscribe topic handler2).requests) :
    request ∈ client.requests ∨ request.sweep = none := by
  unfold origSubscribe at member
  split at member
  · exact .inl (subscribed_requests ▸ member)
  · rcases List.mem_append.mp member with old | new
    · exact .inl old
    · rw [List.mem_singleton.mp new]
      exact .inr rfl

/-- A request to unsubscribe carries the loop that made it. -/
theorem origUnsubscribe_requests {request : Request}
    (member : request ∈ (client.origUnsubscribe topic target sweep).requests) :
    request ∈ client.requests ∨ request.sweep = sweep := by
  unfold origUnsubscribe at member
  split at member
  · rcases List.mem_append.mp member with old | new
    · exact .inl old
    · rw [List.mem_singleton.mp new]
      exact .inr rfl
  · exact .inl (unsubscribed_requests ▸ member)

end Client

namespace Session

variable {session after : Session} {names : JsString → Prop} {loops : Sweep → Prop}

/-- A topic in scope may be passed on to `subscribe`. -/
theorem passes_passSubscribe {topic : JsString} {handler2 : Handler2} (allowed : names topic) :
    session.Passes names loops (session.passSubscribe topic handler2) := by
  refine passes_call rfl Client.origSubscribe_self Client.origSubscribe_prefixes rfl allowed ?_
  intro request member
  refine (Client.origSubscribe_requests member).imp_right fun none sweep some => ?_
  cases none.symm.trans some

/-- A topic in scope may be passed on to `unsubscribe`. -/
theorem passes_passUnsubscribe {topic : JsString} {target : Target} {sweep : Option Sweep}
    (allowed : names topic) (continues : ∀ other, sweep = some other → loops other) :
    session.Passes names loops (session.passUnsubscribe topic target sweep) := by
  refine passes_call rfl Client.origUnsubscribe_self Client.origUnsubscribe_prefixes rfl allowed ?_
  intro request member
  exact (Client.origUnsubscribe_requests member).imp_right fun same other some =>
    continues other (same.symm.trans some)

/-- The loop only visits topics that begin with its scope. -/
theorem passes_sweep (session : Session) (sweep : Sweep) :
    session.Passes (sweep.scope <+: ·) (·.scope = sweep.scope) (session.sweep sweep) := by
  unfold Session.sweep
  split
  · exact .refl session
  · next topic subscribers found =>
      have inside := List.find?_some found
      simp only [Bool.and_eq_true, List.isPrefixOf_iff_prefix] at inside
      refine (session.passes_unsubAll topic).trans (passes_passUnsubscribe inside.2 ?_)
      intro other same
      exact (Option.some.inj same) ▸ rfl

/-- The range test comes before everything else. -/
theorem run_outOfRange {operation : Application.Operation} {arguments : Arguments}
    (large : arguments.shift.1.atLeast session.client.prefixes.length = true)
    (ran : operation.run session arguments = some after) :
    after = session.call (.tokenOutOfRange session.number) := by
  cases run_cases ran with
  | refused => rfl
  | _ => simp_all

/-- Past the range test every topic is scoped by the element that the index reads. -/
theorem run_passes {operation : Application.Operation} {arguments : Arguments}
    (small : arguments.shift.1.atLeast session.client.prefixes.length = false)
    (ran : operation.run session arguments = some after) :
    session.Passes
      (arguments.Names session.client.self (session.client.element arguments.shift.1.index))
      (·.scope = session.client.element arguments.shift.1.index) after := by
  have allowed : ∀ {topic}, arguments.topic = some topic → arguments.Names session.client.self
      (session.client.element arguments.shift.1.index)
      (session.client.scopedTopic arguments.shift.1 topic) := by
    intro topic named
    simp only [Arguments.Names, named]
    rfl
  cases run_cases ran with
  | refused large => cases small.symm.trans large
  | published options _ named => exact passes_call rfl rfl rfl rfl (allowed named) fun _ => .inl
  | @subscribed topic _ handler2 left _ named _ =>
      have passes : session.Passes
          (arguments.Names session.client.self (session.client.element arguments.shift.1.index))
          (·.scope = session.client.element arguments.shift.1.index)
          { session with centroSubs := left } :=
        ⟨rfl, rfl, rfl, ⟨[], by simp⟩, fun _ => .inl⟩
      exact passes.trans (passes_passSubscribe (allowed named))
  | swept _ unnamed =>
      refine (passes_sweep session _).mono (fun passed inside => ?_) fun _ => id
      simpa only [Arguments.Names, unnamed] using inside
  | unsubscribedAll _ named =>
      exact (session.passes_unsubAll _).trans (passes_passUnsubscribe (allowed named) nofun)
  | unsubscribed _ _ named =>
      exact (session.passes_unsub _ _).trans (passes_passUnsubscribe (allowed named) nofun)

/-- The answer of the server lets a loop go on over its scope. -/
theorem response_passes {index : Nat} {ok : Bool} {request : Request}
    (asked : session.client.requests[index]? = some request)
    (ran : session.response index ok = some after) :
    session.Passes (fun topic => ∃ sweep, request.sweep = some sweep ∧ sweep.scope <+: topic)
      (fun later => ∃ sweep, request.sweep = some sweep ∧ later.scope = sweep.scope) after := by
  obtain ⟨other, same, answers⟩ := response_cases ran
  obtain rfl := Option.some.inj (same.symm.trans asked)
  have fewer : ∀ {later}, later ∈ session.client.requests.eraseIdx index →
      later ∈ session.client.requests := List.mem_of_mem_eraseIdx
  have smaller : ∀ target, session.Passes
      (fun topic => ∃ sweep, other.sweep = some sweep ∧ sweep.scope <+: topic)
      (fun later => ∃ sweep, other.sweep = some sweep ∧ later.scope = sweep.scope)
      { session with client := Client.unsubscribed { session.client with
          requests := session.client.requests.eraseIdx index } other.topic target } := by
    intro target
    refine ⟨rfl, Client.unsubscribed_self, Client.unsubscribed_prefixes, ⟨[], by simp⟩, ?_⟩
    intro later member
    simp only [Client.unsubscribed_requests] at member
    exact .inl (fewer member)
  cases answers with
  | refused => exact ⟨rfl, rfl, rfl, ⟨[], by simp⟩, fun later member => .inl (fewer member)⟩
  | subscribed =>
      refine ⟨rfl, Client.subscribed_self, Client.subscribed_prefixes, ⟨[], by simp⟩, ?_⟩
      intro later member
      simp only [Client.subscribed_requests] at member
      exact .inl (fewer member)
  | unsubscribed => exact smaller _
  | @swept target sweep _ goes =>
      exact (smaller target).trans ((passes_sweep _ sweep).mono
        (fun _ inside => ⟨sweep, goes, inside⟩) fun _ same => ⟨sweep, goes, same⟩)

/-- The functions of a client and the answers of the server leave the handshake data alone. -/
structure Keeps (before after : Session) : Prop where
  number : after.number = before.number
  self : after.client.self = before.client.self
  prefixes : after.client.prefixes = before.client.prefixes

/-- Whatever is passed on, the client keeps its name and its prefixes. -/
theorem Passes.keeps (passes : session.Passes names loops after) : session.Keeps after :=
  ⟨passes.number, passes.self, passes.prefixes⟩

/-- An operation leaves the name and the prefixes of its client. -/
theorem run_keeps {operation : Application.Operation} {arguments : Arguments}
    (ran : operation.run session arguments = some after) : session.Keeps after := by
  cases large : arguments.shift.1.atLeast session.client.prefixes.length with
  | true =>
      obtain rfl := run_outOfRange large ran
      exact ⟨rfl, rfl, rfl⟩
  | false => exact (run_passes large ran).keeps

/-- An answer leaves the name and the prefixes of its client. -/
theorem response_keeps {index : Nat} {ok : Bool} (ran : session.response index ok = some after) :
    session.Keeps after := by
  obtain ⟨request, asked, _⟩ := Option.map_eq_some_iff.mp ran
  exact (response_passes asked ran).keeps

end Session

namespace Application

variable {application before after : Application} {number : Nat}

/-- A step only makes calls that pass on such topics, and of one client only such loops go on. -/
structure Passes (number : Nat) (names : JsString → Prop) (loops : Sweep → Prop)
    (before after : Application) : Prop where
  calls : ∃ made, after.calls = before.calls ++ made ∧ ∀ call ∈ made, call.Passes names
  requests : ∀ client later, before.clients[number]? = some client →
    after.clients[number]? = some later → ∀ request ∈ later.requests,
      request ∈ client.requests ∨ ∀ sweep, request.sweep = some sweep → loops sweep

/-- The client reports that the token is out of range and does nothing else, or the number is the
place of a token, whose prefix scopes every topic that is passed on. -/
def Scoped (greeting : Greeting) (number : Nat) (arguments : Arguments)
    (before after : Application) : Prop :=
  after = { before with calls := before.calls ++ [.tokenOutOfRange number] } ∨
  ∃ index scope, arguments.shift.1.index = some index ∧ greeting.prefixes[index]? = some scope ∧
    before.Passes number (arguments.Names greeting.connid scope) (·.scope = scope) after

/-- What a session passes on is passed on by its client. -/
theorem Passes.of_session {session left : Session} {names : JsString → Prop} {loops : Sweep → Prop}
    (found : before.session? number = some session) (passes : session.Passes names loops left) :
    before.Passes number names loops (before.put left) := by
  obtain ⟨client, here, rfl⟩ := Option.map_eq_some_iff.mp found
  refine ⟨passes.calls, fun other later known there => ?_⟩
  obtain rfl := Option.some.inj (here.symm.trans known)
  rw [put_client here passes.number there]
  exact passes.requests

/-- The clients were made with these replies. -/
def greetings (events : List Event) : List Greeting :=
  events.filterMap fun
    | .ready greeting => some greeting
    | _ => none

/-- A step keeps the handshake data of all clients. -/
theorem step_data {event : Event} (stepped : application.step event = some after) :
    after.clients.map (fun client => (client.self, client.prefixes)) =
      application.clients.map (fun client => (client.self, client.prefixes)) ++
        (greetings [event]).map fun greeting => (greeting.connid, greeting.prefixes) := by
  have kept : ∀ {number : Nat} {session left : Session},
      application.session? number = some session → session.Keeps left →
        (application.put left).clients.map (fun client => (client.self, client.prefixes)) =
          application.clients.map fun client => (client.self, client.prefixes) := by
    intro number session left found keeps
    obtain ⟨client, here, rfl⟩ := Option.map_eq_some_iff.mp found
    obtain ⟨bound, rfl⟩ := List.getElem?_eq_some_iff.mp here
    have listed : number < (application.clients.map
        fun client => (client.self, client.prefixes)).length := by
      simpa using bound
    have same : (left.client.self, left.client.prefixes) = (application.clients.map
        fun client => (client.self, client.prefixes))[number] := by
      simp [keeps.self, keeps.prefixes]
    rw [put, keeps.number, List.map_set, same, List.set_getElem_self]
  cases event with
  | ready greeting =>
      obtain rfl := Option.some.inj stepped
      obtain ⟨_, prefixes, self, _⟩ := Client.ready_fresh greeting
      simp [greetings, prefixes, self]
  | call number operation arguments =>
      obtain ⟨session, left, found, ran, rfl⟩ := call_step stepped
      simpa [greetings] using kept found (Session.run_keeps ran)
  | response number index ok =>
      obtain ⟨session, left, found, ran, rfl⟩ := response_step stepped
      simpa [greetings] using kept found (Session.response_keeps ran)
  | deliver number topic =>
      rcases deliver_cases stepped with rfl | ⟨_, _, _, _, rfl⟩ <;> simp [greetings]

/-- In every run each client keeps the data of its handshake. -/
theorem run_data {events : List Event} (ran : system.run application events = some after) :
    after.clients.map (fun client => (client.self, client.prefixes)) =
      application.clients.map (fun client => (client.self, client.prefixes)) ++
        (greetings events).map fun greeting => (greeting.connid, greeting.prefixes) := by
  induction events generalizing application with
  | nil =>
      obtain rfl := Option.some.inj ran
      simp [greetings]
  | cons event rest ih =>
      obtain ⟨middle, stepped, later⟩ := Option.bind_eq_some_iff.mp ran
      rw [ih later, step_data stepped, List.append_assoc, ← List.map_append]
      simp [greetings, ← List.filterMap_append]

/-- The client of a handshake. -/
theorem client_of_greeting {events : List Event} (ran : system.run {} events = some before)
    {greeting : Greeting} (greeted : (greetings events)[number]? = some greeting) :
    ∃ client, before.clients[number]? = some client ∧ client.self = greeting.connid ∧
      client.prefixes = greeting.prefixes := by
  have data := congrArg (·[number]?) (run_data ran)
  simp only [List.map_nil, List.nil_append, List.getElem?_map, greeted, Option.map_some,
    Option.map_eq_some_iff, Prod.mk.injEq] at data
  exact data

/-- The schemas of the HTTP transport let only integers through. -/
theorem Http.integer_of_makes {config : Config} {query : Query} {operation : Operation}
    {arguments : Arguments} (makes : Http.Makes config query operation arguments) :
    arguments.shift.1.integer = true := by
  cases makes with
  | publish callback made =>
      obtain ⟨topic, valid, rfl⟩ := Option.map_eq_some_iff.mp made
      unfold Http.validatePub at valid
      split at valid
      · split at valid
        · next all =>
            simp only [Bool.and_eq_true] at all
            exact all.1.2
        · cases valid
      · cases valid
  | subscribe handler next made member =>
      obtain ⟨topics, valid, rfl⟩ := Option.map_eq_some_iff.mp made
      obtain ⟨⟨topic, place⟩, _, rfl⟩ := List.mem_map.mp member
      unfold Http.validateSub at valid
      split at valid
      · split at valid
        · next all =>
            simp only [Bool.and_eq_true, List.all_eq_true] at all
            change (JsNumber.orZero _).integer = true
            cases found : (Http.subOptions query).ns[place]? with
            | none => rfl
            | some n =>
                have whole := all.2 n (List.mem_of_getElem? found)
                cases n with
                | nan => cases whole
                | _ => exact whole
        · cases valid
      · cases valid

/-- An operation is scoped exactly when its number is the place of a token or too large for one. -/
theorem scoped_iff {session left : Session} {operation : Operation} {arguments : Arguments}
    (found : before.session? number = some session)
    (ran : operation.run session arguments = some left) {greeting : Greeting}
    (self : session.client.self = greeting.connid)
    (prefixes : session.client.prefixes = greeting.prefixes) :
    Scoped greeting number arguments before (before.put left) ↔
      (∃ key, arguments.shift.1.index = some key) ∨
        arguments.shift.1.atLeast greeting.prefixes.length = true := by
  obtain ⟨client, here, rfl⟩ := Option.map_eq_some_iff.mp found
  cases range : arguments.shift.1.atLeast greeting.prefixes.length with
  | true =>
      obtain rfl := Session.run_outOfRange (prefixes ▸ range) ran
      refine iff_of_true (.inl ?_) (.inr rfl)
      obtain ⟨bound, rfl⟩ := List.getElem?_eq_some_iff.mp here
      simp [put, Session.call]
  | false =>
      have passes := Session.run_passes (prefixes ▸ range) ran
      simp only [Bool.false_eq_true, or_false]
      constructor
      · rintro (same | ⟨index, _, place, _⟩)
        · obtain ⟨made, grown, allowed⟩ := passes.calls
          have reported := congrArg Application.calls same
          change left.calls = before.calls ++ _ at reported
          obtain rfl := List.append_cancel_left (grown.symm.trans reported)
          exact (allowed _ List.mem_cons_self).elim
        · exact ⟨index, place⟩
      · rintro ⟨key, place⟩
        have inside : key < greeting.prefixes.length := by
          rw [JsNumber.index_eq_some.mp place, JsNumber.atLeast_natCast] at range
          simpa using range
        have read : client.element (some key) = greeting.prefixes[key] := by
          change (client.prefixes[key]?).getD _ = _
          rw [prefixes, List.getElem?_eq_getElem inside]
          rfl
        refine .inr ⟨key, _, place, List.getElem?_eq_getElem inside, ?_⟩
        rw [← read, ← self, ← place]
        exact .of_session found passes

/-- In every run, an operation of a client is scoped by one of its tokens exactly when its number is
a natural number or is at least the number of tokens, and one that the HTTP transport makes for a
request exactly when its number is not negative. A loop that goes on later keeps its scope. -/
theorem operations_scoped_iff {events : List Event} (ran : system.run {} events = some before)
    {greeting : Greeting} (greeted : (greetings events)[number]? = some greeting) :
    (∀ operation arguments after,
      before.step (.call number operation arguments) = some after →
        (Scoped greeting number arguments before after ↔
          (∃ key, arguments.shift.1.index = some key) ∨
            arguments.shift.1.atLeast greeting.prefixes.length = true) ∧
        ∀ config query, Http.Makes config query operation arguments →
          (Scoped greeting number arguments before after ↔
            arguments.shift.1.atLeast 0 = true)) ∧
    ∀ client index request ok after, before.clients[number]? = some client →
      client.requests[index]? = some request →
      before.step (.response number index ok) = some after →
        before.Passes number
          (fun topic => ∃ sweep, request.sweep = some sweep ∧ sweep.scope <+: topic)
          (fun later => ∃ sweep, request.sweep = some sweep ∧ later.scope = sweep.scope) after := by
  obtain ⟨client, here, self, prefixes⟩ := client_of_greeting ran greeted
  constructor
  · intro operation arguments after stepped
    obtain ⟨session, left, found, called, rfl⟩ := call_step stepped
    obtain ⟨same, known, rfl⟩ := Option.map_eq_some_iff.mp found
    obtain rfl := Option.some.inj (here.symm.trans known)
    have precise := scoped_iff found called self prefixes
    refine ⟨precise, fun config query makes => precise.trans ?_⟩
    exact JsNumber.index_or_atLeast (Http.integer_of_makes makes)
  · intro other index request ok after there asked stepped
    obtain ⟨session, left, found, answered, rfl⟩ := response_step stepped
    obtain ⟨same, known, rfl⟩ := Option.map_eq_some_iff.mp found
    obtain rfl := Option.some.inj (there.symm.trans known)
    exact .of_session found (Session.response_passes asked answered)

/-- A request with this query string is for no token. -/
def negativeQuery : Query where
  topic := some (.string (text "a"))
  n := some (.string (text "-1"))

/-- The client of a connection with one token gets a number that is too small. -/
def negativeArguments : Arguments where
  first := .number (.finite (-1))
  second := .string (text "a")
  third := .object {}
  fourth := .function 0

theorem operations_scoped_iff_sample : ∃ service connection before after,
    (Service.system sampleRuntime).run {} (sampleGreeted plainHandshake) = some service ∧
    service.connections[0]? = some connection ∧
    system.run {} [.ready (connection.greeting sampleRuntime)] = some before ∧
    before.step (.call 0 .publish negativeArguments) = some after ∧
    (Scoped (connection.greeting sampleRuntime) 0 negativeArguments before after ↔
      (JsNumber.finite (-1)).atLeast 0 = true) := by
  obtain ⟨service, connection, before, after, ran, here, ready, stepped⟩ :
      ∃ service connection before after,
        (Service.system sampleRuntime).run {} (sampleGreeted plainHandshake) = some service ∧
        service.connections[0]? = some connection ∧
        system.run {} [.ready (connection.greeting sampleRuntime)] = some before ∧
        before.step (.call 0 .publish negativeArguments) = some after :=
    ⟨_, _, _, _, rfl, rfl, rfl, rfl⟩
  exact ⟨service, connection, before, after, ran, here, ready, stepped,
    ((operations_scoped_iff ready rfl).1 .publish negativeArguments after stepped).2
      { maxWords := 2, maxTopicLength := none } negativeQuery (.publish 0 (by decide))⟩

/-- The schema of the HTTP transport accepts a negative number, and the client passes a topic on
behind the string `undefined`. -/
theorem operation_unscoped : ∃ service connection before after,
    (Service.system sampleRuntime).run {} (sampleGreeted plainHandshake) = some service ∧
    service.connections[0]? = some connection ∧
    system.run {} [.ready (connection.greeting sampleRuntime)] = some before ∧
    Http.Makes { maxWords := 2, maxTopicLength := none } negativeQuery .publish negativeArguments ∧
    before.step (.call 0 .publish negativeArguments) = some after ∧
    after.calls = [.publish 0 (text "undefineda") (some {})] ∧
    ¬Scoped (connection.greeting sampleRuntime) 0 negativeArguments before after := by
  refine ⟨_, _, _, _, rfl, rfl, rfl, .publish 0 (by decide), rfl, by decide, ?_⟩
  rintro (same | ⟨index, _, place, _⟩)
  · cases congrArg Application.calls same
  · cases place

end Application
end Centro
