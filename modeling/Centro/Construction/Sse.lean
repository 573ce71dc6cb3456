import Centro.Construction.Frame
import Centro.Library.EventStream
import Centro.Library.JsonSchema
import Centro.Library.OrderedMap
import Centro.Library.TransitionSystem

namespace Centro

open Library

/-- The own properties of an object are in the order in which they were first set. -/
abbrev JsObject := OrderedMap JsString (Json CodeUnit)

/-- This is `Object.assign(target, source)`. -/
def JsObject.assign (target source : JsObject) : JsObject :=
  source.entries.foldl (fun target entry => target.set entry.1 entry.2) target

def JsObject.toJson (object : JsObject) : Json CodeUnit := .object object.entries

/-- These are `JSON.stringify` and `JSON.parse`. The parser throws on what is no JSON. -/
structure JsonFunctions where
  stringify : Json CodeUnit → JsString
  parse : JsString → Option (Json CodeUnit)

/-- The method `toString('binary')` of a buffer reads each byte as a code unit. -/
def toBinary (bytes : Bytes) : JsString := bytes.map UInt8.toUInt16

/-- This is `Buffer.from(string, 'binary')`, which takes the low byte of each code unit. -/
def fromBinary (string : JsString) : Bytes := string.map UInt16.toUInt8

/-- The types of the events are `start`, `data`, `end` and `peer_error`. -/
inductive SseKind where
  | start
  | data
  | finish
  | peerError
  deriving DecidableEq

def SseKind.name : SseKind → JsString
  | start => text "start"
  | data => text "data"
  | finish => text "end"
  | peerError => text "peer_error"

/-- The response to a subscription consists of these writes. -/
inductive SseWrite where
  | event (kind : SseKind) (value : JsObject)
  | ok
  | keepAlive

def SseWrite.string (json : JsonFunctions) : SseWrite → JsString
  | event kind value => text "event: " ++ kind.name ++ text "\ndata: " ++
      json.stringify value.toJson ++ text "\n\n"
  | ok => text ":ok\n\n"
  | keepAlive => text ":ka\n\n"

/-- The function `handler` keeps the id of its message. The source stream gives chunks until it
ends, and it may fail. -/
structure SseMessage where
  msgid : Nat
  info : JsObject
  chunks : List Bytes := []
  failed : Bool := false
  ended : Bool := false

namespace SseMessage

/-- This object has only the id of the message. -/
def idObject (msgid : Nat) : JsObject := OrderedMap.empty.set (text "id") (.number msgid)

def startObject (message : SseMessage) : JsObject := (idObject message.msgid).assign message.info

def dataObject (msgid : Nat) (chunk : Bytes) : JsObject :=
  (idObject msgid).set (text "data") (.string (toBinary chunk))

end SseMessage

/-- The messages of one subscribe request share the counter `last_msgid`. -/
structure Sse where
  lastMsgid : Nat := 0
  messages : List SseMessage := []

/-- A message is delivered, or the stream of a delivered message gives a chunk, ends or fails. -/
inductive SseMove where
  | handler (info : JsObject)
  | transform (index : Nat) (chunk : Bytes)
  | finish (index : Nat)
  | error (index : Nat)

namespace Sse

/-- Each move writes one event. -/
def step (sse : Sse) : SseMove → Option (Sse × SseWrite)
  | .handler info =>
      let message : SseMessage := { msgid := sse.lastMsgid, info }
      some ({ lastMsgid := sse.lastMsgid + 1, messages := sse.messages ++ [message] },
        .event .start message.startObject)
  | .transform index chunk => do
      let message ← sse.messages[index]?
      if message.ended then none
      else some ({ sse with
        messages := sse.messages.set index { message with chunks := message.chunks ++ [chunk] } },
        .event .data (SseMessage.dataObject message.msgid chunk))
  | .finish index => do
      let message ← sse.messages[index]?
      if message.ended then none
      else some ({ sse with
        messages := sse.messages.set index { message with ended := true } },
        .event .finish (SseMessage.idObject message.msgid))
  | .error index => do
      let message ← sse.messages[index]?
      some ({ sse with messages := sse.messages.set index { message with failed := true } },
        .event .peerError (SseMessage.idObject message.msgid))

end Sse

/-- A response takes all writes in their order. -/
structure SseStream where
  sse : Sse := {}
  written : List SseWrite := []

namespace SseStream

inductive Event where
  | move (move : SseMove)
  | ok
  | keepAlive

def step (stream : SseStream) : Event → Option SseStream
  | .move move => (stream.sse.step move).map fun next =>
      { sse := next.1, written := stream.written ++ [next.2] }
  | .ok => some { stream with written := stream.written ++ [.ok] }
  | .keepAlive => some { stream with written := stream.written ++ [.keepAlive] }

def system : TransitionSystem SseStream Event where
  initial := {}
  step := step

/-- The writes are encoded one by one. -/
def body (json : JsonFunctions) (stream : SseStream) : Bytes :=
  stream.written.flatMap fun write => bufferFrom (write.string json)

end SseStream

/-- A client reads the type of an event and the object in its data. -/
structure SseEvent where
  kind : JsString
  value : Json CodeUnit

namespace SseEvent

/-- The client parses the body of the response as server-sent events with JSON in their data. -/
def received (json : JsonFunctions) (body : Bytes) : Option (List SseEvent) :=
  (EventStream.parse (Utf8.decode body)).mapM fun dispatched =>
    (json.parse (Utf16.encode dispatched.data)).map fun value =>
      { kind := Utf16.encode dispatched.event, value }

def id (event : SseEvent) : Option Rat := (event.value.member (text "id")).bind Json.number?

/-- These are the events of one message. -/
def grouped (msgid : Nat) (events : List SseEvent) : List SseEvent :=
  events.filter fun event => event.id = some (msgid : Rat)

/-- The strings of data events encode the bytes of the message. -/
def bytes (event : SseEvent) : Bytes :=
  if event.kind = text "data" then
    (((event.value.member (text "data")).bind Json.string?).map fromBinary).getD []
  else []

end SseEvent
end Centro
