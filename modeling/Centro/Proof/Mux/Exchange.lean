import Centro.Proof.Authorization.Attempt
import Centro.Proof.Client.Accepted
import Centro.Proof.Mux.Handshake

namespace Centro

open Library

/-- The server writes this object when it refuses a stream. -/
def refusalData (message : JsString) : Json CodeUnit :=
  .object [(text "error", .string message), (text "version", .number version)]

namespace AuthzCall

/-- This is the message of a refusal. -/
def refusal : AuthzCall → Option JsString
  | .authzEnd (some err) _ _ => some err.message
  | _ => none

def written : AuthzCall → Option (Bytes × Json CodeUnit)
  | .write header hsdata => some (header, hsdata)
  | _ => none

/-- The bytes of a header and of the text of its data have one frame. -/
def sent (numbers : JsonText.NumberText) (call : AuthzCall) : Option Bytes :=
  call.written.map fun (header, hsdata) => header ++ jsonData numbers hsdata

end AuthzCall

/-- A stream is told about each refusal and a request about none. -/
def Telling (url : Bool) (calls : List AuthzCall) : Prop :=
  calls.filterMap AuthzCall.written = if url then [] else
    (calls.filterMap AuthzCall.refusal).map fun message => (handshakeHeader, refusalData message)

section Refusals

variable {url : Bool} {calls more : List AuthzCall}

/-- Calls of two parts tell about all their refusals. -/
theorem Telling.append (telling : Telling url calls) (tells : Telling url more) :
    Telling url (calls ++ more) := by
  unfold Telling at *
  rw [List.filterMap_append, List.filterMap_append, telling, tells]
  cases url with
  | true => rfl
  | false => exact List.map_append.symm

/-- Quiet calls tell about no refusal. -/
theorem telling_quiet (quiet : ∀ call ∈ more, call.written = none ∧ call.refusal = none) :
    Telling url more := by
  unfold Telling
  rw [List.filterMap_eq_nil_iff.mpr fun call member => (quiet call member).1,
    List.filterMap_eq_nil_iff.mpr fun call member => (quiet call member).2]
  cases url <;> rfl

/-- A report tells about its own refusal. -/
theorem telling_reportCalls (url pending : Bool) (err : Option AuthzError)
    (handshakes : List TokenInfo) (tokens : List JsString) :
    Telling url (reportCalls url pending err handshakes tokens) := by
  unfold Telling reportCalls
  cases err <;> cases url <;> cases pending <;> rfl

end Refusals

namespace AuthzClosure

variable {runtime : Runtime} {closure next : AuthzClosure}

/-- The attempt has told its stream about each refusal. -/
def Tells (closure : AuthzClosure) : Prop := Telling closure.attempt.url closure.attempt.calls

/-- Only these two variables count. -/
theorem Tells.same (tells : closure.Tells) (url : next.attempt.url = closure.attempt.url)
    (calls : next.attempt.calls = closure.attempt.calls) : next.Tells := by
  rw [Tells, url, calls]
  exact tells

theorem Tells.call (tells : closure.Tells) {made : AuthzCall}
    (quiet : made.written = none ∧ made.refusal = none) : (closure.call made).Tells :=
  tells.append (telling_quiet fun _ member => List.mem_singleton.mp member ▸ quiet)

theorem Tells.cb (tells : closure.Tells) (err : Option AuthzError) (handshakes : List TokenInfo)
    (tokens : List JsString) : (closure.cb err handshakes tokens).Tells := by
  rw [Tells, cb_attempt]
  exact tells.append (telling_reportCalls _ _ _ _ _)

/-- An attempt that fails tells why. -/
theorem Tells.fail (tells : closure.Tells) (err : ErrorValue) :
    (closure.fail runtime err).Tells := by
  unfold AuthzClosure.fail
  refine Tells.cb (Tells.call ?_ ⟨rfl, rfl⟩) _ _ _
  exact tells.same rfl rfl

/-- The loop tells about the token that it refuses. -/
theorem Tells.nextToken (tells : closure.Tells) : (closure.nextToken runtime).Tells := by
  unfold AuthzClosure.nextToken AuthzClosure.finish
  dsimp only
  split
  · split
    · exact tells.fail _
    · split
      · exact tells.fail _
      · refine Tells.cb ?_ _ _ _
        exact tells.same rfl rfl
  · split
    · exact tells.same rfl rfl
    · refine Tells.call ?_ ⟨rfl, rfl⟩
      exact tells.same rfl rfl

/-- The function `got_tokens` tells about each refusal. -/
theorem Tells.gotTokens (tells : closure.Tells) (err : Option ErrorValue) (presented : Presented) :
    (closure.gotTokens runtime err presented).Tells := by
  have told : (closure.call (.gotTokens err presented)).Tells := tells.call ⟨rfl, rfl⟩
  unfold AuthzClosure.gotTokens
  dsimp only
  split
  · exact told
  · split
    · refine Tells.fail ?_ _
      exact told.same rfl rfl
    · split
      · refine Tells.fail ?_ _
        exact told.same rfl rfl
      · split
        · refine Tells.fail ?_ _
          exact told.same rfl rfl
        · split
          · refine Tells.fail ?_ _
            exact told.same rfl rfl
          · refine Tells.nextToken ?_
            exact told.same rfl rfl

/-- A step tells about each refusal. -/
theorem Tells.step (tells : closure.Tells) {event : AttemptEvent}
    (stepped : closure.step runtime event = some next) : next.Tells := by
  cases event with
  | cancel err =>
      obtain rfl := Option.some.inj stepped
      exact (tells.call ⟨rfl, rfl⟩).gotTokens _ _
  | gotTokens err presented =>
      obtain rfl := Option.some.inj stepped
      exact tells.gotTokens err presented
  | authorized result =>
      unfold AuthzClosure.step at stepped
      dsimp only at stepped
      split at stepped
      · obtain rfl := Option.some.inj stepped
        refine Tells.call ?_ ⟨rfl, rfl⟩
        exact tells.same rfl rfl
      · cases stepped
  | resume =>
      unfold AuthzClosure.step at stepped
      dsimp only at stepped
      split at stepped
      · obtain rfl := Option.some.inj stepped
        exact tells.fail _
      · obtain rfl := Option.some.inj stepped
        refine Tells.nextToken ?_
        exact tells.same rfl rfl
      · cases stepped

end AuthzClosure

/-- An attempt that ended with an error has written one message, which is about this error. -/
theorem sent_of_refused {runtime : Runtime} {authorization : Authorization}
    (reached : (Authorization.system runtime).Reachable authorization) {number : Nat}
    {attempt : Attempt} (here : authorization.attempts[number]? = some attempt)
    (stream : attempt.url = false) {err : AuthzError} {handshakes : List TokenInfo}
    {tokens : List JsString} (refused : .authzEnd (some err) handshakes tokens ∈ attempt.calls)
    (numbers : JsonText.NumberText) :
    attempt.calls.filterMap (AuthzCall.sent numbers) =
      [handshakeMessage 0 0 (jsonData numbers (refusalData err.message))] := by
  have start : ∀ (number : Nat) (config : Config) (url : Bool) (throws : Option JsString),
      Telling url [.authzStart] :=
    fun _ _ _ _ => telling_quiet fun _ member => List.mem_singleton.mp member ▸ ⟨rfl, rfl⟩
  have shut : ∀ attempt : Attempt, Telling attempt.url attempt.calls →
      Telling (Authorization.destroyed attempt).url (Authorization.destroyed attempt).calls := by
    intro attempt telling
    refine (telling.append (telling_quiet ?_)).append (telling_quiet ?_)
    · exact fun _ member => List.mem_singleton.mp member ▸ ⟨rfl, rfl⟩
    · intro call member
      obtain ⟨message, _, rfl⟩ := List.mem_map.mp (Option.toList_map ▸ member)
      exact ⟨rfl, rfl⟩
  have told : Telling attempt.url attempt.calls :=
    (Authorization.attempt_invariant (fun _ attempt => Telling attempt.url attempt.calls)
      (fun _ _ => True) start (fun _ _ _ tells _ stepped => AuthzClosure.Tells.step tells stepped)
      shut (fun _ _ _ _ _ _ => trivial) reached).2 number attempt here
  have once := ((sound_of_reachable reached).2 number attempt here).settled.authzEnd
  have only : attempt.calls.filterMap AuthzCall.refusal = [err.message] := by
    have few : (attempt.calls.filterMap AuthzCall.refusal).length ≤ 1 := by
      rw [List.length_filterMap_eq_countP]
      refine (List.countP_mono_left fun call _ some => ?_).trans once
      cases call <;> first | rfl | cases some
    have member : err.message ∈ attempt.calls.filterMap AuthzCall.refusal :=
      List.mem_filterMap.mpr ⟨_, refused, rfl⟩
    obtain ⟨message, same⟩ := List.length_eq_one_iff.mp
      (le_antisymm few (List.length_pos_of_mem member))
    rw [same, List.mem_singleton] at member
    rw [same, member]
  rw [Telling, stream, only] at told
  have sent : AuthzCall.sent numbers = fun call => call.written.map fun (header, hsdata) =>
      header ++ jsonData numbers hsdata := rfl
  rw [sent, ← List.map_filterMap, told]
  rfl

section Texts

variable {numbers : JsonText.NumberText}

/-- The client parses the text of a value to the same value. -/
theorem readJson_jsonData {json : Json CodeUnit} (printable : JsonText.Printable numbers json)
    (syntaxError : JsString → JsString) :
    readJson numbers syntaxError (jsonData numbers json) = .ok json := by
  have wellFormed : WellFormed (JsonText.stringify numbers json) :=
    JsonText.paired_stringify printable
  rw [readJson, jsonData, bufferToString_bufferFrom wellFormed, JsonText.parse_stringify printable]

/-- The text of the protocol version is its digit. -/
structure VersionText (numbers : JsonText.NumberText) : Prop where
  write : numbers.write version = text "2"
  read : numbers.read (text "2") = version

theorem VersionText.printable (versionText : VersionText numbers) :
    JsonText.Printable numbers (.number version) :=
  .number (JsonText.reads_digit (by decide) versionText.write versionText.read)

/-- The object of a refusal has a text. -/
theorem printable_refusalData (versionText : VersionText numbers) (message : JsString) :
    JsonText.Printable numbers (refusalData message) := by
  refine .object (show [text "error", text "version"].Nodup by decide) ?_
  simp only [List.forall_mem_cons, List.not_mem_nil, false_implies, implies_true, and_true]
  exact ⟨.string message, versionText.printable⟩

/-- The names of the members of an object are distinct. -/
def Greeting.Distinct (greeting : Greeting) : Prop :=
  ∀ subscriptions ∈ greeting.subscriptions, ∀ subscription ∈ subscriptions,
    (subscription.map Prod.fst).Nodup

/-- The object of a reply has a text. -/
theorem printable_hsdata (versionText : VersionText numbers) {greeting : Greeting}
    (distinct : greeting.Distinct) : JsonText.Printable numbers (greeting.hsdata version) := by
  have strings : JsonText.Printable numbers (.array (greeting.prefixes.map .string)) := by
    refine .array fun value member => ?_
    obtain ⟨string, _, rfl⟩ := List.mem_map.mp member
    exact .string string
  have data : ∀ subscription : List (JsString × Bool), (subscription.map Prod.fst).Nodup →
      JsonText.Printable numbers (subscriptionData subscription) := by
    intro subscription nodup
    refine .object ?_ ?_
    · rw [List.map_map]
      exact nodup
    · intro member inside
      obtain ⟨⟨topic, toExisting⟩, _, rfl⟩ := List.mem_map.mp inside
      exact .bool toExisting
  rw [Greeting.hsdata]
  cases listed : greeting.subscriptions with
  | none =>
      refine .object (show [text "self", text "prefixes", text "version"].Nodup by decide) ?_
      simp only [Option.map_none, Option.toList_none, List.append_nil, List.cons_append,
        List.nil_append, List.forall_mem_cons, List.not_mem_nil, false_implies, implies_true,
        and_true]
      exact ⟨.string _, strings, versionText.printable⟩
  | some subscriptions =>
      refine .object
        (show [text "self", text "prefixes", text "subscriptions", text "version"].Nodup by
          decide) ?_
      simp only [Option.map_some, Option.toList_some, List.cons_append,
        List.nil_append, List.forall_mem_cons, List.not_mem_nil, false_implies, implies_true,
        and_true]
      refine ⟨.string _, strings, .array fun value member => ?_, versionText.printable⟩
      obtain ⟨subscription, inside, rfl⟩ := List.mem_map.mp member
      exact data subscription (distinct subscriptions listed subscription inside)

/-- The client finds an error in the place of a reply. -/
theorem handshakeError_refusalData (errorsText : Json CodeUnit → JsString) (config : Config)
    (token : Option TokenOption) (message : JsString) :
    handshakeError errorsText config token (.ok (refusalData message)) = some message := by
  have noReply : ¬handshakeSchema config token (refusalData message) = true := by
    intro accepted
    rw [handshakeSchema, TokenSchema.closed, refusalData, Schema.object_eq_true] at accepted
    obtain ⟨value, member⟩ := accepted.1 (text "self") (List.mem_map_of_mem List.mem_cons_self)
    have named := List.mem_map_of_mem (f := Prod.fst) member
    exact absurd named (show text "self" ∉ [text "error", text "version"] by decide)
  have isError : errorSchema (refusalData message) = true := rfl
  rw [handshakeError, if_neg noReply, if_pos isError]
  rfl

end Texts

/-- The options of the client's mux let the message in. -/
def MuxConfig.Accepts (config : MuxConfig) (message : Bytes) : Prop :=
  (config.maxSize = 0 ∨ message.length ≤ config.maxSize) ∧
    (config.maxHeaderSize = 0 ∨ message.length < config.maxHeaderSize)

section Exchanges

variable {numbers : JsonText.NumberText} {config : MuxConfig} {events : List CarriedMux.Event}
  {carried : CarriedMux} {runtime : Runtime}

/-- A client that the server refuses emits one error, which has the reason of the server, as soon as
it has read all that the server wrote. -/
theorem refusal_reported (versionText : VersionText numbers) {authorization : Authorization}
    (reached : (Authorization.system runtime).Reachable authorization) {number : Nat}
    {attempt : Attempt} (here : authorization.attempts[number]? = some attempt)
    (stream : attempt.url = false) {err : AuthzError} {handshakes : List TokenInfo}
    {tokens : List JsString} (refused : .authzEnd (some err) handshakes tokens ∈ attempt.calls)
    {frames : List Bytes}
    (sent : (attempt.calls.filterMap (AuthzCall.sent numbers)).mapM encodeFrame = some frames)
    (accepts : ∀ message ∈ attempt.calls.filterMap (AuthzCall.sent numbers), config.Accepts message)
    (ran : (CarriedMux.system config [0]).run (CarriedMux.system config [0]).initial events =
      some carried)
    (brought : CarriedMux.brought events <+: frames.flatten) (errorsText : Json CodeUnit → JsString)
    (syntaxError : JsString → JsString) (options : Config) (token : Option TokenOption) :
    carried.mux.heard (MuxCall.clientError fun handshakeData =>
        handshakeError errorsText options token (readJson numbers syntaxError handshakeData)) =
      if CarriedMux.brought events = frames.flatten then [err.message] else [] := by
  rw [sent_of_refused reached here stream refused numbers] at sent accepts
  obtain ⟨frame, encoded, same⟩ : ∃ frame, encodeFrame (handshakeMessage 0 0
      (jsonData numbers (refusalData err.message))) = some frame ∧ frames = [frame] := by
    cases encoded : encodeFrame (handshakeMessage 0 0
        (jsonData numbers (refusalData err.message))) with
    | none => simp [encoded] at sent
    | some frame => exact ⟨frame, rfl, by simpa [encoded, eq_comm] using sent⟩
  obtain ⟨rfl, small⟩ := frameOf_of_encoded encoded
  have allowed := accepts _ (List.mem_singleton_self _)
  have wire : frames.flatten = wireOf ([] ++ [handshakeMessage 0 0
      (jsonData numbers (refusalData err.message))]) := by
    rw [same]
    rfl
  have replied : Replied config [] (handshakeMessage 0 0
      (jsonData numbers (refusalData err.message))) :=
    ⟨.nil, ⟨⟨small, allowed.1⟩, List.cons_ne_nil _ _, allowed.2⟩⟩
  rw [wire] at brought ⊢
  rw [handshake_heard replied (fun _ => rfl) ran (.inl brought) (.inr ⟨rfl, brought⟩)]
  have complete : wireOf ([] ++ [handshakeMessage 0 0
      (jsonData numbers (refusalData err.message))]) <+:
      CarriedMux.brought events ↔ CarriedMux.brought events =
        wireOf ([] ++ [handshakeMessage 0 0 (jsonData numbers (refusalData err.message))]) :=
    ⟨fun long => brought.eq_of_length_le long.length_le, fun same => same ▸ List.prefix_rfl⟩
  simp only [complete, MuxCall.clientError, readJson_jsonData (printable_refusalData versionText _),
    handshakeError_refusalData, Option.toList_some]

/-- The client parses exactly the object that the server sent when the handshake is complete, also
when messages of other channels come before it and anything comes behind it. -/
theorem reply_received (versionText : VersionText numbers) {service : Service}
    (reached : (Service.system runtime).Reachable service) {place : Nat} {connection : Connection}
    (here : service.connections[place]? = some connection) {greeting : Greeting} {sent : Nat}
    (replied : .reply greeting sent ∈ connection.calls) (distinct : greeting.Distinct)
    {before : List Bytes} {free : Nat}
    (carriable : Replied config before
      (handshakeMessage 0 free (jsonData numbers (greeting.hsdata sent))))
    (ran : (CarriedMux.system config [0]).run (CarriedMux.system config [0]).initial events =
      some carried)
    (meets : Meets (CarriedMux.brought events)
      (wireOf (before ++ [handshakeMessage 0 free (jsonData numbers (greeting.hsdata sent))])))
    (syntaxError : JsString → JsString) :
    carried.mux.heard (fun call => call.greeted.map (readJson numbers syntaxError)) =
      if wireOf (before ++ [handshakeMessage 0 free (jsonData numbers (greeting.hsdata sent))]) <+:
          CarriedMux.brought events then
        [.ok ((connection.greeting runtime).hsdata version)]
      else [] := by
  obtain ⟨rfl, rfl, _⟩ := Service.replied_of_reachable reached here replied
  have deaf : Deaf fun call : MuxCall => call.greeted.map (readJson numbers syntaxError) := by
    exact fun call unheard => congrArg (Option.map _) unheard
  rw [handshake_heard carriable (fun _ => rfl) ran meets (.inl deaf)]
  simp only [MuxCall.greeted, Option.map_some,
    readJson_jsonData (printable_hsdata versionText distinct), Option.toList_some]

end Exchanges

/-- These are the numerals of natural numbers. -/
def decimal : JsonText.NumberText where
  write number := text (toString number.num)
  read numeral :=
    ((numeral.foldl (fun value unit => value * 10 + (unit.toNat - 0x30)) 0 : Nat) : Rat)

theorem decimal_version : VersionText decimal := ⟨by decide, by decide⟩

/-- This is the frame that a cancelled attempt writes. -/
def cancelledFrame : Bytes :=
  frameOf (handshakeMessage 0 0 (jsonData decimal (refusalData (text "cancelled"))))

theorem refusal_reported_sample : ∃ carried : CarriedMux,
    (CarriedMux.system {} [0]).run (CarriedMux.system {} [0]).initial
      [.multiplex 1, .finish 0, .carry cancelledFrame] = some carried ∧
    carried.mux.heard (MuxCall.clientError fun handshakeData => handshakeError
      sampleRuntime.errorsText {} none (readJson decimal id handshakeData)) =
        if CarriedMux.brought [.multiplex 1, .finish 0, .carry cancelledFrame] =
          [cancelledFrame].flatten then [text "cancelled"] else [] := by
  have ran : ∃ carried : CarriedMux,
      (CarriedMux.system {} [0]).run (CarriedMux.system {} [0]).initial
      [.multiplex 1, .finish 0, .carry cancelledFrame] = some carried := ⟨_, rfl⟩
  obtain ⟨carried, ran⟩ := ran
  have reached := TransitionSystem.reachable_of_run (show (Authorization.system sampleRuntime).run
    {} [.transportAuthorize {} false none, .attempt 0 (.cancel none)] = some _ from rfl)
  refine ⟨carried, ran, ?_⟩
  exact refusal_reported decimal_version reached (show _[0]? = some _ from rfl) rfl
    (List.mem_of_getElem? (show _[5]? = some _ from rfl)) rfl (fun _ _ => ⟨.inl rfl, .inl rfl⟩) ran
    List.prefix_rfl _ _ _ _

/-- The server keeps the carrier alive, opens a second channel and sends data there, all before its
reply. -/
def crowdedFrames : List Bytes :=
  [[7], handshakeMessage 1 16384 [], dataHeader 1 0, [104, 105]]

theorem sent_crowdedFrames : Sent {} [] false crowdedFrames := by
  have opens : BPMux.Opens 1 (handshakeMessage 1 16384 []) := ⟨1, _, rfl, by decide, rfl, by decide⟩
  have carries (message : Bytes) (nonempty : message ≠ []) (small : message.length < 2 ^ 32) :
      Carriable {} message :=
    ⟨⟨small, .inl rfl⟩, nonempty, .inl rfl⟩
  refine .header (carries _ (by decide) (by decide)) ?_ <|
    .header (carries _ (by decide) (by decide)) ?_ <|
    .dataHeader (carries _ (by decide) (by decide)) (by decide) rfl
      ⟨_, List.mem_cons_self, opens⟩ ?_ <|
    .data ⟨by decide, .inl rfl⟩ (by decide) .nil
  · rintro byte rest same
    obtain ⟨rfl, -⟩ := List.cons.inj same
    exact .inl rfl
  · rintro byte rest same
    obtain ⟨rfl, rfl⟩ := List.cons.inj same
    exact .inr (.inr ⟨by decide, by decide⟩)
  · rintro message member ⟨byte, rest, rfl, -, type⟩
    rcases List.mem_cons.mp member with same | last
    · obtain ⟨rfl, -⟩ := List.cons.inj same
      exact absurd type (by decide)
    · obtain ⟨rfl, -⟩ := List.cons.inj (List.mem_singleton.mp last)
      exact absurd type (by decide)

theorem replied_crowded : Replied {} crowdedFrames
    (handshakeMessage 0 16384 (jsonData decimal (crowdedGreeting.hsdata version))) := by
  have small : (handshakeMessage 0 16384
      (jsonData decimal (crowdedGreeting.hsdata version))).length < 2 ^ 32 := by
    decide +kernel
  exact ⟨sent_crowdedFrames, ⟨small, .inl rfl⟩, List.cons_ne_nil _ _, .inl rfl⟩

theorem reply_received_sample : ∃ carried : CarriedMux,
    (CarriedMux.system {} [0]).run (CarriedMux.system {} [0]).initial
      [.carry (wireOf (crowdedFrames ++ [handshakeMessage 0 16384
        (jsonData decimal (crowdedGreeting.hsdata version))]))] = some carried ∧
    carried.mux.heard (fun call => call.greeted.map (readJson decimal id)) =
      [.ok (crowdedGreeting.hsdata version)] := by
  generalize reply : handshakeMessage 0 16384 (jsonData decimal (crowdedGreeting.hsdata version)) =
    message
  have nonempty : wireOf (crowdedFrames ++ [message]) ≠ [] := List.cons_ne_nil _ _
  have ran : (CarriedMux.system {} [0]).run (CarriedMux.system {} [0]).initial
      [.carry (wireOf (crowdedFrames ++ [message]))] =
        some ((CarriedMux.system {} [0]).initial.carry {}
          (wireOf (crowdedFrames ++ [message]))) := by
    simp only [TransitionSystem.run, CarriedMux.system, CarriedMux.step, nonempty, decide_false,
      Bool.or_false, Bool.false_eq_true, if_false, Option.bind_some]
  obtain ⟨service, connection, reached, here, replied⟩ : ∃ service connection,
      (Service.system (crowdedRuntime true)).Reachable service ∧
      service.connections[0]? = some connection ∧
      Call.reply crowdedGreeting version ∈ connection.calls := by
    refine ⟨_, _, TransitionSystem.reachable_of_run (show (Service.system _).run {}
      [.transportConnected { config := (crowdedRuntime true).config } [.ofInfo crowdedInfo] {} false
          [sampleConnid] 0,
        .connection 0 (.gotPubKey (.ok crowdedInfo.rev)),
        .connection 0 (.resume 0),
        .connection 0 (.handshake [0, 0, 0, 2])] = some _ from rfl), rfl, ?_⟩
    exact List.mem_of_getElem? (show _[6]? = _ from rfl)
  have distinct : crowdedGreeting.Distinct := by
    unfold Greeting.Distinct
    decide
  have brought : CarriedMux.brought [.carry (wireOf (crowdedFrames ++ [message]))] =
      wireOf (crowdedFrames ++ [message]) := List.append_nil _
  have whole : wireOf (crowdedFrames ++ [message]) <+:
      CarriedMux.brought [.carry (wireOf (crowdedFrames ++ [message]))] := by
    rw [brought]
  subst reply
  have received := reply_received decimal_version reached here replied distinct replied_crowded ran
    (.inr whole) id
  rw [← (Service.replied_of_reachable reached here replied).1,
    if_pos whole] at received
  exact ⟨_, ran, received⟩

end Centro
