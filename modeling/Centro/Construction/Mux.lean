import Centro.Construction.Handshake
import Centro.Library.JsonText

namespace Centro

open Library

/-- A frame has begun and is not at its end. -/
structure OpenFrame where
  frameLength : Nat
  framePos : Nat
  unfinished : framePos < frameLength

/-- This is the decoder of `frame-stream` with the option `unbuffered`. -/
structure FrameStream where
  buffer : Bytes := []
  openFrame : Option OpenFrame := none

/-- The decoder hands on a part of a frame. -/
structure Piece where
  data : Bytes
  frameEnd : Bool
  deriving DecidableEq

/-- The method `push` of a stream ignores empty data. -/
def Piece.pushed (piece : Piece) : List Piece := if piece.data = [] then [] else [piece]

/-- One call of `_transform` pushes these parts and may fail. -/
structure Decoded where
  pieces : List Piece := []
  stream : FrameStream := {}
  error : Option JsString := none

namespace FrameStream

/-- The loop of `_transform` is at the start of a frame. -/
def decodeFrames (maxSize : Nat) (chunk : Bytes) : Decoded :=
  if chunk.length < 4 then { stream := { buffer := chunk } }
  else
    let frameLength := LengthSize.four.read chunk
    if maxSize > 0 ∧ frameLength > maxSize then
      { error := some
          (text "Message is larger than the allowed maximum of " ++ text (toString maxSize)) }
    else
      let data := (chunk.drop 4).take frameLength
      if unfinished : data.length < frameLength then
        { pieces := Piece.pushed { data, frameEnd := false }
          stream := { openFrame := some { frameLength, framePos := data.length, unfinished } } }
      else
        let decoded := decodeFrames maxSize (chunk.drop (4 + frameLength))
        { decoded with pieces := Piece.pushed { data, frameEnd := true } ++ decoded.pieces }
termination_by chunk.length
decreasing_by
  rw [List.length_drop]
  omega

/-- The method `_transform`. -/
def transform (maxSize : Nat) (stream : FrameStream) (chunk : Bytes) : Decoded :=
  match stream.openFrame with
  | none => decodeFrames maxSize (stream.buffer ++ chunk)
  | some frame =>
      if unfinished : frame.framePos + chunk.length < frame.frameLength then
        let frame : OpenFrame :=
          { frame with framePos := frame.framePos + chunk.length, unfinished }
        { pieces := Piece.pushed { data := chunk, frameEnd := false }
          stream := { openFrame := some frame } }
      else
        let left := frame.frameLength - frame.framePos
        let decoded := decodeFrames maxSize (chunk.drop left)
        { decoded with
          pieces := Piece.pushed { data := chunk.take left, frameEnd := true } ++ decoded.pieces }

end FrameStream

/-- The first byte of a header is its type. -/
inductive HeaderType where
  | finish
  | handshake
  | status
  | finishedStatus
  | data
  | preHandshake
  | errorEnd
  | keepAlive
  | unknown
  deriving DecidableEq

def HeaderType.ofByte (byte : UInt8) : HeaderType :=
  [finish, handshake, status, finishedStatus, data, preHandshake, errorEnd, keepAlive].getD
    byte.toNat unknown

/-- This part of a `BPDuplex` tells what its peer has sent. The number is its identity. -/
structure BPDuplex where
  number : Nat
  chan : Nat
  handshakeReceived : Bool := false
  endPending : Bool := false
  errorEndPending : Bool := false
  ended : Bool := false
  finished : Bool := false

/-- These options of `BPMux` and its decoder are zero when there is no maximum. -/
structure MuxConfig where
  maxSize : Nat := 0
  maxOpen : Nat := 0
  maxHeaderSize : Nat := 0

/-- The events of a mux and of its duplexes, and the data that the duplexes get. -/
inductive MuxCall where
  | keepAlive
  | full
  | error (message : JsString)
  | peerMultiplex (number : Nat)
  | handshake (number : Nat) (handshakeData : Bytes)
  | status (number : Nat)
  | push (number : Nat) (data : Bytes)
  | duplexError (number : Nat) (message : JsString)
  | pushNull (number : Nat)
  | removed (number : Nat)

/-- This is the receiving side of `BPMux`. -/
structure BPMux where
  headerBuffers : Bytes := []
  readingDuplex : Option Nat := none
  duplexes : List BPDuplex := []
  made : Nat := 0
  calls : List MuxCall := []

namespace BPMux

def call (mux : BPMux) (made : MuxCall) : BPMux := { mux with calls := mux.calls ++ [made] }

def replace (mux : BPMux) (duplex : BPDuplex) : BPMux :=
  { mux with
    duplexes := mux.duplexes.map fun other =>
      if other.number = duplex.number then duplex else other }

/-- The method `_check_remove`. -/
def checkRemove (mux : BPMux) (duplex : BPDuplex) : BPMux :=
  if duplex.finished && duplex.ended then
    { mux with duplexes := mux.duplexes.filter (·.number ≠ duplex.number) }.call
      (.removed duplex.number)
  else mux.replace duplex

/-- The peer has ended its side of the duplex. -/
def endDuplex (mux : BPMux) (duplex : BPDuplex) (failed : Bool) : BPMux :=
  let mux := mux.checkRemove { duplex with ended := true }
  let mux := if failed then mux.call (.duplexError duplex.number (text "peer error")) else mux
  mux.call (.pushNull duplex.number)

/-- The method `_check_buffer` reports a header that is too short. -/
def checkBuffer (mux : BPMux) (buf : Bytes) (size : Nat) (next : BPMux) : BPMux :=
  if buf.length < size then
    mux.call (.error (text "short buffer length " ++ text (toString buf.length) ++ text " < " ++
      text (toString size)))
  else next

/-- The end of `_process_header` has a duplex. -/
def receive (mux : BPMux) (duplex : BPDuplex) (byte : UInt8) (buf : Bytes) : BPMux :=
  if duplex.handshakeReceived then
    match HeaderType.ofByte byte with
    | .finish => mux.endDuplex duplex false
    | .errorEnd => mux.endDuplex duplex true
    | .status | .finishedStatus => mux.checkBuffer buf 13 (mux.call (.status duplex.number))
    | .data => { mux with readingDuplex := some duplex.number }
    | _ => mux.call (.error (text "unknown type: " ++ text (toString byte.toNat)))
  else
    match HeaderType.ofByte byte with
    | .finish => mux.replace { duplex with endPending := true }
    | .errorEnd => mux.replace { duplex with errorEndPending := true }
    | .preHandshake => mux.checkBuffer buf 9 (mux.call (.status duplex.number))
    | .handshake =>
        let duplex := { duplex with handshakeReceived := true }
        let next := (mux.replace duplex).call (.handshake duplex.number (buf.drop 9))
        mux.checkBuffer buf 9 <|
          if duplex.errorEndPending then next.endDuplex duplex true
          else if duplex.endPending then next.endDuplex duplex false
          else next
    | .finishedStatus => mux
    | _ => mux.call (.error (text "expected handshake, got: " ++ text (toString byte.toNat)))

/-- A duplex on a channel that is not in use. -/
def add (mux : BPMux) (chan : Nat) : BPMux × BPDuplex :=
  let duplex : BPDuplex := { number := mux.made, chan }
  ({ mux with duplexes := mux.duplexes ++ [duplex], made := mux.made + 1 }, duplex)

/-- The method `_process_header`. -/
def processHeader (config : MuxConfig) (mux : BPMux) : Bytes → BPMux
  | [] => mux.checkBuffer [] 5 mux
  | byte :: rest =>
      if HeaderType.ofByte byte = .keepAlive then mux.call .keepAlive
      else mux.checkBuffer (byte :: rest) 5 <|
        let chan := LengthSize.four.read rest
        match mux.duplexes.find? fun duplex => duplex.chan = chan with
        | some duplex => mux.receive duplex byte (byte :: rest)
        | none =>
            if HeaderType.ofByte byte = .finishedStatus then mux
            else if config.maxOpen > 0 ∧ mux.duplexes.length = config.maxOpen then mux.call .full
            else
              let (mux, duplex) := mux.add chan
              (mux.call (.peerMultiplex duplex.number)).receive duplex byte (byte :: rest)

/-- A duplex that has ended gets no more data. -/
def push (mux : BPMux) (number : Nat) (data : Bytes) : BPMux :=
  if mux.duplexes.any fun duplex => duplex.number = number && !duplex.ended then
    mux.call (.push number data)
  else mux

/-- The header that is being read is not too big. -/
def within (config : MuxConfig) (mux : BPMux) : Bool :=
  config.maxHeaderSize = 0 || decide (mux.headerBuffers.length < config.maxHeaderSize)

def collect (config : MuxConfig) (mux : BPMux) (data : Bytes) : BPMux :=
  if mux.within config then { mux with headerBuffers := mux.headerBuffers ++ data } else mux

/-- The header is complete. -/
def endHeader (config : MuxConfig) (mux : BPMux) : BPMux :=
  let next := if mux.within config then mux.processHeader config mux.headerBuffers
    else mux.call (.error (text "header too big"))
  { next with headerBuffers := [] }

/-- The decoder writes its parts to the mux. -/
def write (config : MuxConfig) (mux : BPMux) (piece : Piece) : BPMux :=
  match mux.readingDuplex with
  | some number =>
      (if piece.frameEnd then { mux with readingDuplex := none } else mux).push number piece.data
  | none =>
      let mux := mux.collect config piece.data
      if piece.frameEnd then mux.endHeader config else mux

/-- An error of the decoder goes to the duplexes and to the mux. -/
def fail (mux : BPMux) (message : JsString) : BPMux :=
  let told := mux.duplexes.filter fun duplex => !(duplex.ended && duplex.finished)
  { mux with
    calls := mux.calls ++ told.map (fun duplex => .duplexError duplex.number message) ++
      [.error message] }

/-- A mux that has done nothing has some duplexes already. -/
def initial (chans : List Nat) : BPMux := chans.foldl (fun mux chan => (mux.add chan).1) {}

end BPMux

/-- A mux gets its data from a carrier through a decoder, which stops when it fails. -/
structure CarriedMux where
  inStream : FrameStream := {}
  failed : Bool := false
  mux : BPMux

namespace CarriedMux

def carry (config : MuxConfig) (carried : CarriedMux) (chunk : Bytes) : CarriedMux :=
  let decoded := carried.inStream.transform config.maxSize chunk
  let mux := decoded.pieces.foldl (BPMux.write config) carried.mux
  { inStream := decoded.stream
    failed := decoded.error.isSome
    mux := decoded.error.elim mux mux.fail }

/-- The carrier, the application and the writing side of a duplex cause these events. -/
inductive Event where
  | carry (chunk : Bytes)
  | multiplex (chan : Nat)
  | finish (number : Nat)

def step (config : MuxConfig) (carried : CarriedMux) : Event → Option CarriedMux
  | .carry chunk =>
      if carried.failed || decide (chunk = []) then none else some (carried.carry config chunk)
  | .multiplex chan =>
      if config.maxOpen > 0 ∧ carried.mux.duplexes.length = config.maxOpen then none
      else if carried.mux.duplexes.any fun duplex => duplex.chan = chan then none
      else some { carried with mux := (carried.mux.add chan).1 }
  | .finish number => do
      let duplex ← carried.mux.duplexes.find? fun duplex => duplex.number = number
      if duplex.finished then none
      else some { carried with mux := carried.mux.checkRemove { duplex with finished := true } }

def system (config : MuxConfig) (chans : List Nat) : TransitionSystem CarriedMux Event where
  initial := { mux := .initial chans }
  step := step config

def Event.chunk : Event → Option Bytes
  | .carry chunk => some chunk
  | _ => none

/-- The carrier brought these bytes. -/
def brought (events : List Event) : Bytes := (events.filterMap Event.chunk).flatten

end CarriedMux

/-- The method `_send_handshake` sends this header. -/
def handshakeMessage (chan free : Nat) (handshakeData : Bytes) : Bytes :=
  1 :: uint32BE chan ++ uint32BE free ++ handshakeData

/-- The method `__send` writes this header before data. -/
def dataHeader (chan seq : Nat) : Bytes := 4 :: uint32BE chan ++ uint32BE seq

/-- The text of a value goes through UTF-8. -/
def jsonData (numbers : JsonText.NumberText) (json : Json CodeUnit) : Bytes :=
  bufferFrom (JsonText.stringify numbers json)

/-- The function `JSON.parse` reads a buffer. -/
def readJson (numbers : JsonText.NumberText) (syntaxError : JsString → JsString) (data : Bytes) :
    Except JsString (Json CodeUnit) :=
  match JsonText.parse numbers (bufferToString data) with
  | some json => .ok json
  | none => .error (syntaxError (bufferToString data))

/-- The client makes its first duplex before all others. -/
def MuxCall.greeted : MuxCall → Option Bytes
  | .handshake 0 handshakeData => some handshakeData
  | _ => none

/-- The client emits an error for each of its mux and its duplexes. The listener for `handshake`
may add one. -/
def MuxCall.clientError (listener : Bytes → Option JsString) : MuxCall → Option JsString
  | .error message | .duplexError _ message => some message
  | .handshake 0 handshakeData => listener handshakeData
  | _ => none

end Centro
