import Centro.Construction.Sse
import Centro.Library.Trace

namespace Centro

open Library

/-- A binary string has the bytes that it was made from. -/
@[simp] theorem fromBinary_toBinary (bytes : Bytes) : fromBinary (toBinary bytes) = bytes := by
  simp [fromBinary, toBinary, Function.comp_def]

/-- The properties of the source replace those of the target. -/
theorem JsObject.get_assign (target source : JsObject) (name : JsString) :
    (target.assign source).get name = (source.get name).or (target.get name) := by
  obtain ⟨entries, nodup⟩ := source
  simp only [JsObject.assign, OrderedMap.get]
  induction entries generalizing target with
  | nil => rfl
  | cons entry rest ih =>
      obtain ⟨fresh, nodup⟩ := List.nodup_cons.mp nodup
      have later := ih (target.set entry.1 entry.2) nodup
      rw [List.foldl_cons, later]
      have gets : ((OrderedMap.set target entry.1 entry.2).entries.find? fun other =>
          other.1 = name).map Prod.snd =
            if name = entry.1 then some entry.2 else OrderedMap.get target name :=
        OrderedMap.get_set
      rw [gets]
      by_cases same : name = entry.1
      · subst same
        have absent : rest.find? (fun other => other.1 = entry.1) = none :=
          List.find?_eq_none.mpr fun other member equal =>
            fresh (List.mem_map.mpr ⟨other, member, of_decide_eq_true equal⟩)
        simp [absent]
      · simp [same, Ne.symm same, OrderedMap.get]

theorem JsObject.member_toJson (object : JsObject) (name : JsString) :
    object.toJson.member name = object.get name := rfl

/-- These laws hold for `JSON.stringify` and `JSON.parse`: the parser gives the value back, and the
string is well formed and stays within a line. -/
structure JsonFunctions.Inverse (json : JsonFunctions) (value : Json CodeUnit) : Prop where
  parsed : json.parse (json.stringify value) = some value
  line : ∀ unit ∈ json.stringify value, unit ≠ codeUnit '\r' ∧ unit ≠ codeUnit '\n'
  wellFormed : Utf16.encode (Utf16.decode (json.stringify value)) = json.stringify value

/-- The event that a write carries. -/
def SseWrite.sent : SseWrite → Option SseEvent
  | event kind value => some { kind := kind.name, value := value.toJson }
  | ok => none
  | keepAlive => none

def SseWrite.Inverse (json : JsonFunctions) : SseWrite → Prop
  | event _ value => json.Inverse value.toJson
  | ok => True
  | keepAlive => True

namespace SseWrite

/-- The block of an event stream that the write is. -/
def block (json : JsonFunctions) : SseWrite → EventStream.Block
  | event kind value => .event (Utf16.decode kind.name)
      (Utf16.decode (json.stringify value.toJson))
  | ok => .comment ['o', 'k']
  | keepAlive => .comment ['k', 'a']

variable {json : JsonFunctions}

/-- The name of a kind has no lone surrogate. -/
theorem encode_kind (kind : SseKind) : Utf16.encode (Utf16.decode kind.name) = kind.name := by
  cases kind <;> decide

/-- The name of a kind fits in one line. -/
theorem line_kind (kind : SseKind) :
    ∀ unit ∈ kind.name, unit ≠ codeUnit '\r' ∧ unit ≠ codeUnit '\n' := by
  have line :
      (kind.name.all fun unit => unit != codeUnit '\r' && unit != codeUnit '\n') = true := by
    cases kind <;> decide
  simpa using line

/-- A write is the text of its block. -/
theorem encode_block {write : SseWrite} (inverse : write.Inverse json) :
    Utf16.encode (write.block json).characters = write.string json := by
  cases write with
  | event kind value =>
      have shape : (block json (event kind value)).characters =
          (EventStream.eventField ++ [':', ' ']) ++ Utf16.decode kind.name ++
            ('\n' :: (EventStream.dataField ++ [':', ' '])) ++
              Utf16.decode (json.stringify value.toJson) ++ ['\n', '\n'] := by
        simp [block, EventStream.Block.characters]
      have front : Utf16.encode (EventStream.eventField ++ [':', ' ']) = text "event: " := by decide
      have middle : Utf16.encode ('\n' :: (EventStream.dataField ++ [':', ' '])) =
          text "\ndata: " := by decide
      have back : Utf16.encode ['\n', '\n'] = text "\n\n" := by decide
      rw [shape, Utf16.encode_append, Utf16.encode_append, Utf16.encode_append, Utf16.encode_append,
        front, middle, back, encode_kind, inverse.wellFormed]
      rfl
  | ok => exact show Utf16.encode [':', 'o', 'k', '\n', '\n'] = text ":ok\n\n" by decide
  | keepAlive => exact show Utf16.encode [':', 'k', 'a', '\n', '\n'] = text ":ka\n\n" by decide

/-- A line break among the characters is one among the code units. -/
theorem within_decode {string : JsString}
    (line : ∀ unit ∈ string, unit ≠ codeUnit '\r' ∧ unit ≠ codeUnit '\n')
    (wellFormed : Utf16.encode (Utf16.decode string) = string) :
    EventStream.Within (Utf16.decode string) := by
  have unbroken (character : Char) (code : Utf16.encodeCharacter character = [codeUnit character])
      (absent : codeUnit character ∉ string) : character ∉ Utf16.decode string := by
    intro member
    apply absent
    rw [← wellFormed]
    exact List.mem_flatMap.mpr ⟨character, member, by rw [code]; exact List.mem_singleton_self _⟩
  intro character member
  constructor
  · rintro rfl
    exact unbroken '\r' rfl (fun present => (line _ present).1 rfl) member
  · rintro rfl
    exact unbroken '\n' rfl (fun present => (line _ present).2 rfl) member

/-- Each write makes a block of its own. -/
theorem wellFormed_block {write : SseWrite} (inverse : write.Inverse json) :
    (write.block json).WellFormed := by
  cases write with
  | event kind value =>
      refine ⟨?_, ?_, within_decode inverse.line inverse.wellFormed⟩
      · cases kind <;> decide
      · exact within_decode (line_kind kind) (encode_kind kind)
  | ok => exact show EventStream.Within ['o', 'k'] by simp [EventStream.Within]
  | keepAlive => exact show EventStream.Within ['k', 'a'] by simp [EventStream.Within]

end SseWrite

/-- The body of a response is the UTF-8 of its blocks. -/
theorem SseStream.body_eq {json : JsonFunctions} {stream : SseStream}
    (inverse : ∀ write ∈ stream.written, write.Inverse json) :
    stream.body json = Utf8.encode
      ((stream.written.map (SseWrite.block json)).flatMap EventStream.Block.characters) := by
  obtain ⟨sse, written⟩ := stream
  simp only [SseStream.body] at inverse ⊢
  induction written with
  | nil => rfl
  | cons write rest ih =>
      have here := SseWrite.encode_block (inverse write List.mem_cons_self)
      rw [List.flatMap_cons, ih fun other member => inverse other (List.mem_cons_of_mem _ member),
        List.map_cons, List.flatMap_cons, bufferFrom, ← here, Utf16.decode_encode, Utf8.encode,
        Utf8.encode, Utf8.encode, List.flatMap_append]

/-- The client receives the events of the writes and nothing else. -/
theorem SseStream.received_body {json : JsonFunctions} {stream : SseStream}
    (inverse : ∀ write ∈ stream.written, write.Inverse json) :
    SseEvent.received json (stream.body json) = some (stream.written.filterMap SseWrite.sent) := by
  have wellFormed : ∀ block ∈ stream.written.map (SseWrite.block json), block.WellFormed := by
    intro block member
    obtain ⟨write, present, rfl⟩ := List.mem_map.mp member
    exact SseWrite.wellFormed_block (inverse write present)
  rw [SseEvent.received, body_eq inverse, Utf8.decode_encode, EventStream.parse_blocks wellFormed]
  obtain ⟨sse, written⟩ := stream
  simp only at inverse ⊢
  clear wellFormed
  induction written with
  | nil => rfl
  | cons write rest ih =>
      have later := ih fun other member => inverse other (List.mem_cons_of_mem _ member)
      have here := inverse write List.mem_cons_self
      cases write with
      | event kind value =>
          have parsed : json.parse (Utf16.encode (Utf16.decode (json.stringify value.toJson))) =
              some value.toJson := by
            rw [here.wellFormed, here.parsed]
          rw [List.filterMap_map] at later
          simp [SseWrite.block, EventStream.Block.dispatched, SseWrite.sent, later, parsed,
            SseWrite.encode_kind]
      | ok => exact later
      | keepAlive => exact later

namespace SseMessage

/-- A chunk of the message gives this event. -/
def dataEvent (msgid : Nat) (chunk : Bytes) : SseEvent :=
  { kind := text "data", value := (dataObject msgid chunk).toJson }

def finishEvent (msgid : Nat) : SseEvent :=
  { kind := text "end", value := (idObject msgid).toJson }

/-- The events of a message are one start event with the properties of the message, and then data
events for its bytes. Unless its stream fails there are only these, and one end event when the
stream has ended. -/
structure Received (message : SseMessage) (events : List SseEvent) : Prop where
  started : ∃ value rest, events = { kind := text "start", value } :: rest ∧
    (∀ event ∈ rest, event.kind ≠ text "start") ∧
    ∀ name, name ≠ text "id" → value.member name = message.info.get name
  body : events.flatMap SseEvent.bytes = message.chunks.flatten
  undisturbed : message.failed = false → events.tail =
    message.chunks.map (dataEvent message.msgid) ++
      if message.ended then [finishEvent message.msgid] else []

theorem get_idObject (msgid : Nat) (name : JsString) :
    (idObject msgid).get name = if name = text "id" then some (.number msgid) else none := by
  rw [idObject, OrderedMap.get_set, OrderedMap.get_empty]

theorem get_dataObject (msgid : Nat) (chunk : Bytes) (name : JsString) :
    (dataObject msgid chunk).get name =
      if name = text "data" then some (.string (toBinary chunk))
      else if name = text "id" then some (.number msgid) else none := by
  rw [dataObject, OrderedMap.get_set, get_idObject]

theorem id_idObject (kind : JsString) (msgid : Nat) :
    SseEvent.id { kind, value := (idObject msgid).toJson } = some (msgid : Rat) := by
  rw [SseEvent.id, JsObject.member_toJson, get_idObject, if_pos rfl]
  rfl

/-- Each data event carries the number of its message. -/
theorem id_dataEvent (msgid : Nat) (chunk : Bytes) :
    (dataEvent msgid chunk).id = some (msgid : Rat) := by
  have other : text "id" ≠ text "data" := by decide
  rw [dataEvent, SseEvent.id, JsObject.member_toJson, get_dataObject, if_neg other, if_pos rfl]
  rfl

/-- A data event carries the bytes of its chunk. -/
theorem bytes_dataEvent (msgid : Nat) (chunk : Bytes) : (dataEvent msgid chunk).bytes = chunk := by
  rw [dataEvent, SseEvent.bytes, if_pos rfl, JsObject.member_toJson, get_dataObject, if_pos rfl]
  exact fromBinary_toBinary chunk

/-- Only a data event carries bytes. -/
theorem bytes_other {event : SseEvent} (other : event.kind ≠ text "data") : event.bytes = [] := by
  rw [SseEvent.bytes, if_neg other]

/-- The id of a start event is that of the message when its info has none. -/
theorem id_startObject {message : SseMessage} (own : message.info.get (text "id") = none) :
    SseEvent.id { kind := text "start", value := message.startObject.toJson } =
      some (message.msgid : Rat) := by
  rw [SseEvent.id, JsObject.member_toJson, startObject, JsObject.get_assign, own, get_idObject,
    if_pos rfl]
  rfl

/-- A message begins with its start event. -/
theorem Received.start {message : SseMessage} (fresh : message.chunks = [])
    (going : message.ended = false) :
    message.Received [{ kind := text "start", value := message.startObject.toJson }] where
  started := by
    refine ⟨_, [], rfl, by simp, fun name other => ?_⟩
    rw [JsObject.member_toJson, startObject, JsObject.get_assign, get_idObject, if_neg other,
      Option.or_none]
  body := by
    have other : text "start" ≠ text "data" := by decide
    rw [fresh, List.flatMap_cons, bytes_other other]
    rfl
  undisturbed := by simp [fresh, going]

/-- A further event of a message is no start event and adds its bytes. -/
theorem Received.append {message next : SseMessage} {events : List SseEvent} {event : SseEvent}
    (received : message.Received events) (same : next.info = message.info)
    (kind : event.kind ≠ text "start")
    (chunks : next.chunks.flatten = message.chunks.flatten ++ event.bytes)
    (undisturbed : next.failed = false → message.failed = false ∧
      (message.chunks.map (dataEvent message.msgid) ++
        if message.ended then [finishEvent message.msgid] else []) ++ [event] =
          next.chunks.map (dataEvent next.msgid) ++
            if next.ended then [finishEvent next.msgid] else []) :
    next.Received (events ++ [event]) where
  started := by
    obtain ⟨value, rest, shape, later, members⟩ := received.started
    refine ⟨value, rest ++ [event], by rw [shape]; rfl, ?_, by rwa [same]⟩
    intro other member
    obtain member | rfl := mem_concat.mp member
    · exact later other member
    · exact kind
  body := by
    rw [List.flatMap_append, received.body, chunks]
    simp
  undisturbed := by
    intro fine
    obtain ⟨before, shape⟩ := undisturbed fine
    obtain ⟨value, rest, begins, -, -⟩ := received.started
    have tail := received.undisturbed before
    rw [begins] at tail ⊢
    rw [← shape, ← tail]
    rfl

end SseMessage

namespace SseStream

def events (stream : SseStream) : List SseEvent := stream.written.filterMap SseWrite.sent

/-- The info of a delivered message has no id of its own. -/
def Plain : Event → Prop
  | .move (.handler info) => info.get (text "id") = none
  | _ => True

/-- Messages are numbered in their order, and each event belongs to one of them. -/
structure Sound (stream : SseStream) : Prop where
  counted : stream.sse.lastMsgid = stream.sse.messages.length
  numbered : ∀ (index : Nat) (message : SseMessage),
    stream.sse.messages[index]? = some message → message.msgid = index
  owned : ∀ event ∈ stream.events, ∃ index < stream.sse.lastMsgid, event.id = some (index : Rat)
  received : ∀ message ∈ stream.sse.messages,
    message.Received (SseEvent.grouped message.msgid stream.events)

theorem grouped_append_self {msgid : Nat} (events : List SseEvent) {event : SseEvent}
    (own : event.id = some (msgid : Rat)) :
    SseEvent.grouped msgid (events ++ [event]) = SseEvent.grouped msgid events ++ [event] := by
  simp [SseEvent.grouped, own]

theorem grouped_append_other {msgid other : Nat} (events : List SseEvent) {event : SseEvent}
    (own : event.id = some (other : Rat)) (different : other ≠ msgid) :
    SseEvent.grouped msgid (events ++ [event]) = SseEvent.grouped msgid events := by
  simp [SseEvent.grouped, own, different]

theorem Sound.initial : Sound {} where
  counted := rfl
  numbered := by simp
  owned := by simp [events]
  received := by simp

variable {before : SseStream}

/-- A comment is no event. -/
theorem Sound.comment (sound : before.Sound) {write : SseWrite} (silent : write.sent = none) :
    Sound { before with written := before.written ++ [write] } := by
  have same : events { before with written := before.written ++ [write] } = before.events := by
    simp [events, silent]
  refine ⟨sound.counted, sound.numbered, ?_, ?_⟩
  · rw [same]
    exact sound.owned
  · rw [same]
    exact sound.received

/-- A new message gets the next id, and no earlier event has it. -/
theorem Sound.start (sound : before.Sound) {info : JsObject}
    (own : info.get (text "id") = none) :
    let message : SseMessage := { msgid := before.sse.lastMsgid, info }
    Sound {
      sse := {
        lastMsgid := before.sse.lastMsgid + 1
        messages := before.sse.messages ++ [message] }
      written := before.written ++ [.event .start message.startObject] } := by
  intro message
  have id := @SseMessage.id_startObject message own
  refine ⟨?_, ?_, ?_, ?_⟩
  · simp [sound.counted]
  · intro index other found
    by_cases within : index < before.sse.messages.length
    · rw [List.getElem?_append_left within] at found
      exact sound.numbered index other found
    · rw [List.getElem?_append_right (Nat.le_of_not_lt within)] at found
      obtain ⟨bound, rfl⟩ := List.getElem?_eq_some_iff.mp found
      simp only [List.length_singleton] at bound
      simp only [List.getElem_singleton, message, sound.counted]
      omega
  · intro event member
    simp only [events, List.filterMap_append] at member
    obtain member | member := List.mem_append.mp member
    · obtain ⟨index, less, same⟩ := sound.owned event member
      exact ⟨index, Nat.lt_succ_of_lt less, same⟩
    · obtain rfl := List.mem_singleton.mp member
      exact ⟨before.sse.lastMsgid, Nat.lt_succ_self _, id⟩
  · intro other member
    simp only [events, List.filterMap_append]
    obtain member | rfl := mem_concat.mp member
    · obtain ⟨index, found⟩ := List.getElem?_of_mem member
      have less := (List.getElem?_eq_some_iff.mp found).1
      have number := sound.numbered index other found
      have shape := grouped_append_other before.events id
        (show message.msgid ≠ other.msgid by simp only [message, sound.counted]; omega)
      exact shape ▸ sound.received other member
    · have shape := grouped_append_self before.events id
      have none : SseEvent.grouped message.msgid before.events = [] := by
        refine List.filter_eq_nil_iff.mpr fun event member same => ?_
        obtain ⟨index, less, known⟩ := sound.owned event member
        rw [known] at same
        have equal : index = before.sse.lastMsgid := by
          simpa [message] using of_decide_eq_true same
        omega
      rw [none, List.nil_append] at shape
      exact shape ▸ SseMessage.Received.start rfl rfl

/-- An event of one message leaves the others alone. -/
theorem Sound.change (sound : before.Sound) {index : Nat} {message next : SseMessage}
    {kind : SseKind} {value : JsObject} (found : before.sse.messages[index]? = some message)
    (id : SseEvent.id { kind := kind.name, value := value.toJson } = some (message.msgid : Rat))
    (msgid : next.msgid = message.msgid)
    (received : ∀ events, message.Received events →
      next.Received (events ++ [{ kind := kind.name, value := value.toJson }])) :
    Sound {
      sse := { before.sse with messages := before.sse.messages.set index next }
      written := before.written ++ [.event kind value] } := by
  have within := (List.getElem?_eq_some_iff.mp found).1
  have number := sound.numbered index message found
  refine ⟨?_, ?_, ?_, ?_⟩
  · simp [sound.counted]
  · intro other known present
    by_cases same : index = other
    · subst same
      obtain rfl := Option.some.inj ((List.getElem?_set_self within).symm.trans present)
      exact msgid.trans number
    · rw [List.getElem?_set_ne same] at present
      exact sound.numbered other known present
  · intro event member
    simp only [events, List.filterMap_append] at member
    obtain member | member := List.mem_append.mp member
    · exact sound.owned event member
    · obtain rfl := List.mem_singleton.mp member
      refine ⟨message.msgid, ?_, id⟩
      rw [sound.counted]
      omega
  · intro known member
    simp only [events, List.filterMap_append]
    obtain ⟨other, present⟩ := List.getElem?_of_mem member
    by_cases same : index = other
    · subst same
      obtain rfl := Option.some.inj ((List.getElem?_set_self within).symm.trans present)
      have shape := grouped_append_self before.events id
      rw [msgid]
      exact shape ▸ received _ (sound.received message (List.mem_of_getElem? found))
    · rw [List.getElem?_set_ne same] at present
      have shape := @grouped_append_other known.msgid _ before.events _ id
        (by rw [number, sound.numbered other known present]; exact same)
      exact shape ▸ sound.received known (List.mem_of_getElem? present)

/-- A move of a message adds its own events. -/
theorem Sound.move (sound : before.Sound) {move : SseMove} {sse : Sse} {write : SseWrite}
    (plain : Plain (.move move)) (moved : before.sse.step move = some (sse, write)) :
    Sound { sse, written := before.written ++ [write] } := by
  cases move with
  | handler info =>
      obtain ⟨rfl, rfl⟩ := Prod.mk.inj (Option.some.inj moved)
      exact sound.start plain
  | transform index chunk =>
      obtain ⟨message, found, moved⟩ := Option.bind_eq_some_iff.mp moved
      cases going : message.ended with
      | true => simp [going] at moved
      | false =>
          rw [going] at moved
          obtain ⟨rfl, rfl⟩ := Prod.mk.inj (Option.some.inj moved)
          refine sound.change found (SseMessage.id_dataEvent _ _) rfl fun events received => ?_
          refine received.append rfl (show text "data" ≠ text "start" by decide) ?_ ?_
          · have bytes := SseMessage.bytes_dataEvent message.msgid chunk
            simp only [SseMessage.dataEvent] at bytes
            simp [SseKind.name, bytes]
          · intro fine
            refine ⟨fine, ?_⟩
            simp [going, SseMessage.dataEvent, SseKind.name]
  | finish index =>
      obtain ⟨message, found, moved⟩ := Option.bind_eq_some_iff.mp moved
      cases going : message.ended with
      | true => simp [going] at moved
      | false =>
          rw [going] at moved
          obtain ⟨rfl, rfl⟩ := Prod.mk.inj (Option.some.inj moved)
          have other : SseKind.finish.name ≠ text "data" := by decide
          refine sound.change found (SseMessage.id_idObject _ _) rfl fun events received => ?_
          refine received.append rfl (show text "end" ≠ text "start" by decide) ?_ ?_
          · rw [SseMessage.bytes_other other, List.append_nil]
          · intro fine
            refine ⟨fine, ?_⟩
            simp [going, SseMessage.finishEvent, SseKind.name]
  | error index =>
      obtain ⟨message, found, moved⟩ := Option.bind_eq_some_iff.mp moved
      obtain ⟨rfl, rfl⟩ := Prod.mk.inj (Option.some.inj moved)
      have other : SseKind.peerError.name ≠ text "data" := by decide
      refine sound.change found (SseMessage.id_idObject _ _) rfl fun events received => ?_
      refine received.append rfl (show text "peer_error" ≠ text "start" by decide) ?_ ?_
      · rw [SseMessage.bytes_other other, List.append_nil]
      · intro fine
        cases fine

/-- A step keeps the stream in agreement with what was written. -/
theorem Sound.step {event : Event} {after : SseStream} (sound : before.Sound) (plain : Plain event)
    (stepped : system.step before event = some after) : after.Sound := by
  cases event with
  | move move =>
      obtain ⟨⟨sse, write⟩, moved, rfl⟩ := Option.map_eq_some_iff.mp stepped
      exact sound.move plain moved
  | ok =>
      obtain rfl := Option.some.inj stepped
      exact sound.comment rfl
  | keepAlive =>
      obtain rfl := Option.some.inj stepped
      exact sound.comment rfl

/-- These are the infos of the messages that the events deliver. -/
def infos (events : List Event) : List JsObject :=
  events.filterMap fun
    | .move (.handler info) => some info
    | _ => none

/-- The stream of one message gives these chunks. -/
def chunks (index : Nat) (events : List Event) : List Bytes :=
  events.filterMap fun
    | .move (.transform other chunk) => if other = index then some chunk else none
    | _ => none

def Fails (index : Nat) : Event → Bool
  | .move (.error other) => other = index
  | _ => false

def Ends (index : Nat) : Event → Bool
  | .move (.finish other) => other = index
  | _ => false

/-- The events tell all of one message, and its place is its id. -/
def told (events : List Event) (index : Nat) (info : JsObject) : SseMessage where
  msgid := index
  info
  chunks := chunks index events
  failed := events.any (Fails index)
  ended := events.any (Ends index)

/-- The state has the messages that the events so far tell, and no event is about a message that
was not delivered. -/
structure Follows (past : List Event) (stream : SseStream) : Prop where
  messages : ∀ index, stream.sse.messages[index]? = (infos past)[index]?.map (told past index)
  silent : ∀ index info, (infos past).length ≤ index →
    told past index info = { msgid := index, info }

section Events

variable {past : List Event} {index : Nat} {info : JsObject}

theorem infos_append (past more : List Event) : infos (past ++ more) = infos past ++ infos more :=
  List.filterMap_append

/-- One more event adds to the message that it is about. -/
theorem told_concat (event : Event) :
    told (past ++ [event]) index info =
      { told past index info with
        chunks := chunks index past ++ chunks index [event]
        failed := past.any (Fails index) || Fails index event
        ended := past.any (Ends index) || Ends index event } := by
  simp [told, chunks, List.filterMap_append]

/-- An event that is not about a message changes nothing about it. -/
theorem told_of_other {event : Event} (chunks : chunks index [event] = [])
    (fails : Fails index event = false) (ends : Ends index event = false) :
    told (past ++ [event]) index info = told past index info := by
  rw [told_concat, chunks, fails, ends, List.append_nil, Bool.or_false, Bool.or_false]
  rfl

theorem Follows.initial : Follows [] {} where
  messages _ := rfl
  silent _ _ _ := rfl

variable {before : SseStream}

/-- The number of messages is that of the infos. -/
theorem Follows.length (follows : Follows past before) :
    before.sse.messages.length = (infos past).length := by
  apply Nat.le_antisymm
  · apply List.getElem?_eq_none_iff.mp
    simpa using follows.messages (infos past).length |>.symm
  · apply List.getElem?_eq_none_iff.mp
    simpa using follows.messages before.sse.messages.length |>.symm

/-- An event that is about no message leaves the messages as they are. -/
theorem Follows.comment (follows : Follows past before) {event : Event}
    (none : infos [event] = []) (chunks : ∀ index, chunks index [event] = [])
    (fails : ∀ index, Fails index event = false) (ends : ∀ index, Ends index event = false)
    (written : List SseWrite) : Follows (past ++ [event]) { before with written } where
  messages index := by
    have same : told (past ++ [event]) index = told past index := by
      funext info
      exact told_of_other (chunks index) (fails index) (ends index)
    rw [infos_append, none, List.append_nil, same]
    exact follows.messages index
  silent index info beyond := by
    rw [infos_append, none, List.append_nil] at beyond
    rw [told_of_other (chunks index) (fails index) (ends index)]
    exact follows.silent index info beyond

/-- A new message has no chunks yet. -/
theorem Follows.handler (follows : Follows past before) (info : JsObject) (msgid : Nat)
    (numbered : msgid = (infos past).length) (written : List SseWrite) :
    Follows (past ++ [.move (.handler info)])
      { sse := { lastMsgid := msgid + 1, messages := before.sse.messages ++ [{ msgid, info }] }
        written } where
  messages index := by
    have same : told (past ++ [.move (.handler info)]) index = told past index := by
      funext other
      exact told_of_other rfl rfl rfl
    rw [infos_append, same]
    rcases Nat.lt_trichotomy index (infos past).length with less | rfl | more
    · rw [List.getElem?_append_left less, List.getElem?_append_left (follows.length ▸ less)]
      exact follows.messages index
    · rw [List.getElem?_append_right (Nat.le_of_eq follows.length), follows.length,
        List.getElem?_append_right (Nat.le_refl _), Nat.sub_self]
      show some _ = some _
      rw [numbered, follows.silent _ info (Nat.le_refl _)]
    · rw [List.getElem?_eq_none (by rw [List.length_append, follows.length]; exact more),
        List.getElem?_eq_none (by rw [List.length_append]; exact more)]
      rfl
  silent index other beyond := by
    rw [infos_append, List.length_append] at beyond
    rw [told_of_other rfl rfl rfl]
    exact follows.silent index other (Nat.le_of_add_right_le beyond)

/-- An event of one message changes that message alone. -/
theorem Follows.change (follows : Follows past before) {event : Event} {next : SseMessage}
    {message : SseMessage} (found : before.sse.messages[index]? = some message)
    (none : infos [event] = [])
    (others : ∀ other info, other ≠ index →
      told (past ++ [event]) other info = told past other info)
    (changed : ∀ info, told past index info = message → told (past ++ [event]) index info = next)
    (written : List SseWrite) :
    Follows (past ++ [event])
      { sse := { before.sse with messages := before.sse.messages.set index next }, written } where
  messages other := by
    rw [infos_append, none, List.append_nil]
    by_cases same : other = index
    · subst same
      have within := (List.getElem?_eq_some_iff.mp found).1
      have known := follows.messages other
      rw [found] at known
      obtain ⟨info, listed, told⟩ := Option.map_eq_some_iff.mp known.symm
      rw [List.getElem?_set_self within, listed, Option.map_some, changed info told]
    · have kept : told (past ++ [event]) other = told past other := by
        funext info
        exact others other info same
      rw [List.getElem?_set_ne (Ne.symm same), kept]
      exact follows.messages other
  silent other info beyond := by
    rw [infos_append, none, List.append_nil] at beyond
    have within := (List.getElem?_eq_some_iff.mp found).1
    rw [follows.length] at within
    rw [others other info (Nat.ne_of_gt (Nat.lt_of_lt_of_le within beyond))]
    exact follows.silent other info beyond

/-- Each step does what its event tells. -/
theorem Follows.step {event : Event} {after : SseStream} (follows : Follows past before)
    (sound : before.Sound) (stepped : system.step before event = some after) :
    Follows (past ++ [event]) after := by
  cases event with
  | move move =>
      obtain ⟨⟨sse, write⟩, moved, rfl⟩ := Option.map_eq_some_iff.mp stepped
      cases move with
      | handler info =>
          obtain ⟨rfl, rfl⟩ := Prod.mk.inj (Option.some.inj moved)
          exact follows.handler info _ (sound.counted.trans follows.length) _
      | transform index chunk =>
          obtain ⟨message, found, moved⟩ := Option.bind_eq_some_iff.mp moved
          obtain ⟨_, moved⟩ := Option.ite_none_left_eq_some.mp moved
          obtain ⟨rfl, rfl⟩ := Prod.mk.inj (Option.some.inj moved)
          refine follows.change found rfl (fun other info ne => ?_) (fun info same => ?_) _
          · exact told_of_other (by simp [chunks, ne.symm]) rfl rfl
          · rw [told_concat, ← same]
            simp [chunks, told, Fails, Ends]
      | finish index =>
          obtain ⟨message, found, moved⟩ := Option.bind_eq_some_iff.mp moved
          obtain ⟨_, moved⟩ := Option.ite_none_left_eq_some.mp moved
          obtain ⟨rfl, rfl⟩ := Prod.mk.inj (Option.some.inj moved)
          refine follows.change found rfl (fun other info ne => ?_) (fun info same => ?_) _
          · exact told_of_other rfl rfl (decide_eq_false ne.symm)
          · rw [told_concat, ← same]
            simp [chunks, told, Fails, Ends]
      | error index =>
          obtain ⟨message, found, moved⟩ := Option.bind_eq_some_iff.mp moved
          obtain ⟨rfl, rfl⟩ := Prod.mk.inj (Option.some.inj moved)
          refine follows.change found rfl (fun other info ne => ?_) (fun info same => ?_) _
          · exact told_of_other rfl (decide_eq_false ne.symm) rfl
          · rw [told_concat, ← same]
            simp [chunks, told, Fails, Ends]
  | ok =>
      obtain rfl := Option.some.inj stepped
      exact follows.comment rfl (fun _ => rfl) (fun _ => rfl) (fun _ => rfl) _
  | keepAlive =>
      obtain rfl := Option.some.inj stepped
      exact follows.comment rfl (fun _ => rfl) (fun _ => rfl) (fun _ => rfl) _

end Events

/-- The messages of a run are those that its events tell. -/
theorem sound_follows_of_run {events : List Event} {stream : SseStream}
    (plain : ∀ event ∈ events, Plain event)
    (ran : system.run system.initial events = some stream) :
    stream.Sound ∧ Follows events stream := by
  have both : (∀ event ∈ [] ++ events, Plain event) →
      stream.Sound ∧ Follows ([] ++ events) stream := by
    refine @TransitionSystem.run_history _ _ system
      (fun past stream => (∀ event ∈ past, Plain event) → stream.Sound ∧ Follows past stream)
      ?_ [] events _ _ (fun _ => ⟨Sound.initial, Follows.initial⟩) ran
    intro past before event after keeps stepped plain
    obtain ⟨sound, follows⟩ := keeps fun other member => plain other (List.mem_append_left _ member)
    have own := plain event (List.mem_append_right _ (List.mem_singleton_self _))
    exact ⟨sound.step own stepped, follows.step sound stepped⟩
  exact both plain

end SseStream

open SseStream in
/-- A client receives one event for each event that was written. Each one has the id of a message
that the run delivers, and the events with the id of a message start with its info, carry all of its
bytes, and end when its stream has ended. -/
theorem messages_received {json : JsonFunctions} {events : List SseStream.Event}
    {stream : SseStream}
    (plain : ∀ event ∈ events, Plain event)
    (ran : system.run system.initial events = some stream)
    (inverse : ∀ write ∈ stream.written, write.Inverse json) :
    ∃ received, SseEvent.received json (stream.body json) = some received ∧
      received = stream.written.filterMap SseWrite.sent ∧
      (∀ event ∈ received, ∃ index < (infos events).length, event.id = some (index : Rat)) ∧
      ∀ index info, (infos events)[index]? = some info →
        (told events index info).Received (SseEvent.grouped index received) := by
  obtain ⟨sound, follows⟩ := sound_follows_of_run plain ran
  refine ⟨_, received_body inverse, rfl, fun event member => ?_, fun index info listed => ?_⟩
  · obtain ⟨index, less, own⟩ := sound.owned event member
    exact ⟨index, follows.length ▸ sound.counted ▸ less, own⟩
  · have found := follows.messages index
    rw [listed, Option.map_some] at found
    exact sound.received _ (List.mem_of_getElem? found)

/-- The messages of the sample have a topic that tries to break its event. -/
def sampleTopic : JsObject := OrderedMap.empty.set (text "topic") (.string (text "a\n\nb"))

/-- One message ends and another one fails while the first is read. -/
def sampleStream : List SseStream.Event :=
  [.ok, .move (.handler sampleTopic), .move (.transform 0 [0xff, 0x0a]),
    .move (.handler sampleTopic), .keepAlive, .move (.transform 1 [0x22]), .move (.error 1), .move (.transform 0 []),
    .move (.finish 0)]

def sampleQuote (string : JsString) : JsString :=
  text "\"" ++ string.flatMap (fun unit =>
    if unit = codeUnit '\n' then text "\\n"
    else if unit = codeUnit '"' then text "\\\""
    else [unit]) ++ text "\""

def sampleValue : Json CodeUnit → JsString
  | .number value => text (toString value.num)
  | .string value => sampleQuote value
  | _ => []

def sampleStringify (value : Json CodeUnit) : JsString :=
  text "\x7b" ++ join (text ",") (value.members.map fun member =>
    sampleQuote member.1 ++ text ":" ++ sampleValue member.2) ++ text "\x7d"

/-- These functions print the objects of the sample and read them. -/
def sampleJson : JsonFunctions where
  stringify := sampleStringify
  parse string := ([SseMessage.startObject { msgid := 0, info := sampleTopic },
    SseMessage.startObject { msgid := 1, info := sampleTopic },
    SseMessage.dataObject 0 [0xff, 0x0a], SseMessage.dataObject 1 [0x22],
    SseMessage.dataObject 0 [], SseMessage.idObject 0, SseMessage.idObject 1].map
      JsObject.toJson).find? fun value => sampleStringify value = string

/-- The code units of a string can be checked one by one. -/
theorem JsonFunctions.Inverse.of_all {json : JsonFunctions} {value : Json CodeUnit}
    (parsed : json.parse (json.stringify value) = some value)
    (line : ((json.stringify value).all fun unit =>
      unit != codeUnit '\r' && unit != codeUnit '\n') = true)
    (wellFormed : Utf16.encode (Utf16.decode (json.stringify value)) = json.stringify value) :
    json.Inverse value :=
  ⟨parsed, by simpa using line, wellFormed⟩

open SseStream in
/-- The client gets both chunks of the first message and its end, and the bytes of the second
one. -/
theorem messages_received_sample : ∃ stream received,
    system.run system.initial sampleStream = some stream ∧
    SseEvent.received sampleJson (stream.body sampleJson) = some received ∧
    (SseEvent.grouped 0 received).tail =
      [SseMessage.dataEvent 0 [0xff, 0x0a], SseMessage.dataEvent 0 [], SseMessage.finishEvent 0] ∧
    (SseEvent.grouped 0 received).flatMap SseEvent.bytes = [0xff, 0x0a] ∧
    (SseEvent.grouped 1 received).flatMap SseEvent.bytes = [0x22] := by
  obtain ⟨stream, ran, written⟩ : ∃ stream,
      system.run system.initial sampleStream = some stream ∧ stream.written =
        [.ok, .event .start (SseMessage.startObject { msgid := 0, info := sampleTopic }),
          .event .data (SseMessage.dataObject 0 [0xff, 0x0a]),
          .event .start (SseMessage.startObject { msgid := 1, info := sampleTopic }), .keepAlive,
          .event .data (SseMessage.dataObject 1 [0x22]),
          .event .peerError (SseMessage.idObject 1),
          .event .data (SseMessage.dataObject 0 []), .event .finish (SseMessage.idObject 0)] :=
    ⟨_, rfl, rfl⟩
  have plain : ∀ event ∈ sampleStream, Plain event := by
    have own : sampleTopic.get (text "id") = none := rfl
    simp [sampleStream, Plain, own]
  have inverse : ∀ write ∈ stream.written, write.Inverse sampleJson := by
    rw [written]
    simp only [List.forall_mem_cons]
    refine ⟨trivial, .of_all rfl ?_ ?_, .of_all rfl ?_ ?_,
      .of_all rfl ?_ ?_, trivial, .of_all rfl ?_ ?_, .of_all rfl ?_ ?_,
      .of_all rfl ?_ ?_, .of_all rfl ?_ ?_, fun _ member => by cases member⟩
    all_goals decide +kernel
  obtain ⟨received, reads, -, -, each⟩ := messages_received plain ran inverse
  have first := each 0 sampleTopic rfl
  have second := each 1 sampleTopic rfl
  exact ⟨stream, received, ran, reads, first.undisturbed rfl, first.body, second.body⟩

end Centro
