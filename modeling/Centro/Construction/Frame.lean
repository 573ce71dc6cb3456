import Centro.Construction.Authorization
import Centro.Construction.Connection
import Centro.Library.Unicode

namespace Centro

open Library

abbrev Bytes := List UInt8

/-- This is `Buffer.from(string)`, which writes UTF-8. -/
def bufferFrom (string : JsString) : Bytes := Utf8.encode (Utf16.decode string)

/-- The method `toString` of a buffer reads UTF-8. -/
def bufferToString (buffer : Bytes) : JsString := Utf16.encode (Utf8.decode buffer)

/-- A client has one token as a string or several in an array. -/
inductive TokenOption where
  | string (token : JsString)
  | array (tokens : List JsString)

def TokenOption.tokens : TokenOption → List JsString
  | .string token => [token]
  | .array tokens => tokens

/-- The function `get_stokens`. -/
def getStokens (option : TokenOption) : JsString := join (text ",") option.tokens

/-- The method `writeUInt32BE` of a buffer. -/
def uint32BE (number : Nat) : Bytes :=
  [number / 2 ^ 24, number / 2 ^ 16 % 256, number / 2 ^ 8 % 256, number % 256].map UInt8.ofNat

/-- The encoder of `frame-stream` throws when the length of the message has more than 32 bits. -/
def encodeFrame (message : Bytes) : Option Bytes :=
  if message.length < 2 ^ 32 then some (uint32BE message.length ++ message) else none

/-- The function `stream_auth` writes these bytes first. -/
def streamAuth (option : TokenOption) : Option Bytes := encodeFrame (bufferFrom (getStokens option))

/-- The option `maxSize` has this default. -/
def maxSizeDefault : Nat := 1 * 1024 * 1024

/-- The decoder and the encoder know lengths of these sizes. -/
inductive LengthSize where
  | one
  | two
  | four
  deriving DecidableEq

namespace LengthSize

def bytes : LengthSize → Nat
  | .one => 1
  | .two => 2
  | .four => 4

/-- The methods `readUInt8`, `readUInt16BE` and `readUInt32BE` of a buffer. -/
def read (lengthSize : LengthSize) (buffer : Bytes) : Nat :=
  (buffer.take lengthSize.bytes).foldl (fun value byte => value * 256 + byte.toNat) 0

end LengthSize

/-- This is the decoder of `frame-stream`. -/
structure Decoder where
  lengthSize : LengthSize := .four
  buffer : Option Bytes := none
  frameLength : Option Nat := none

/-- While `read_frame` uses a decoder, its method `push` throws the frame and `cont` throws an
error. -/
inductive Thrown where
  | frame (message : Bytes)
  | error (message : JsString)

namespace Decoder

/-- The frame is complete or waits for more. -/
def cut (decoder : Decoder) (length : Nat) (chunk : Bytes) : Decoder × Option Thrown :=
  if chunk.length < decoder.lengthSize.bytes + length then
    ({ decoder with buffer := some chunk }, none)
  else ({ decoder with frameLength := none },
    some (.frame ((chunk.drop decoder.lengthSize.bytes).take length)))

/-- The method `_transform`. A maximum of zero is no maximum. -/
def transform (maxSize : Nat) (decoder : Decoder) (chunk : Bytes) : Decoder × Option Thrown :=
  if chunk = [] then (decoder, none)
  else
    let chunk := decoder.buffer.getD [] ++ chunk
    let decoder := { decoder with buffer := none }
    match decoder.frameLength with
    | some length => decoder.cut length chunk
    | none =>
        if chunk.length < decoder.lengthSize.bytes then
          ({ decoder with buffer := some chunk }, none)
        else
          let length := decoder.lengthSize.read chunk
          let decoder := { decoder with frameLength := some length }
          if maxSize > 0 ∧ length > maxSize then
            (decoder, some (.error
              (text "Message is larger than the allowed maximum of " ++ text (toString maxSize))))
          else decoder.cut length chunk

end Decoder

/-- The function `read_frame` does this with its stream and its callback. -/
inductive FrameAction where
  | read (data : Bytes)
  | unshift (data : Bytes)
  | callback (result : Except JsString Bytes)

/-- These are the variables of one call of `read_frame`, the calls of its callback and what it has
done so far. -/
structure FrameReader where
  decoder : Decoder := {}
  listening : Bool := true
  unshifted : Bytes := []
  calls : List (Except JsString Bytes) := []
  actions : List FrameAction := []

/-- The data that the action takes from the stream. -/
def FrameAction.data : FrameAction → Option Bytes
  | .read data => some data
  | _ => none

def FrameAction.isRead (action : FrameAction) : Bool := action.data.isSome

def FrameAction.isCallback : FrameAction → Bool
  | .callback _ => true
  | _ => false

/-- A stream has data that some calls of `read` return one after the other, or it ends. -/
inductive StreamEvent where
  | readable (reads : List Bytes)
  | ended

def StreamEvent.reads : StreamEvent → List Bytes
  | .readable reads => reads
  | .ended => []

namespace FrameReader

/-- The data that the calls of `read` have returned. -/
def reads (reader : FrameReader) : List Bytes := reader.actions.filterMap FrameAction.data

def cleanup (reader : FrameReader) (called : Except JsString Bytes) : FrameReader :=
  { reader with
    listening := false
    calls := reader.calls ++ [called]
    actions := reader.actions ++ [.callback called] }

/-- The function `onread` returns at a frame and goes on after an error. -/
def onread (maxSize : Nat) (reader : FrameReader) : List Bytes → FrameReader
  | [] => reader
  | data :: rest =>
      let buffer := reader.decoder.buffer
      let (decoder, thrown) := reader.decoder.transform maxSize data
      let reader := { reader with decoder, actions := reader.actions ++ [FrameAction.read data] }
      match thrown with
      | none => reader.onread maxSize rest
      | some (.frame v) =>
          let unshifted := (buffer.getD [] ++ data).drop (decoder.lengthSize.bytes + v.length)
          { reader with
            unshifted
            actions := reader.actions ++ [FrameAction.unshift unshifted] }.cleanup (.ok v)
      | some (.error message) => (reader.cleanup (.error message)).onread maxSize rest

def step (maxSize : Nat) (reader : FrameReader) (event : StreamEvent) : FrameReader :=
  if reader.listening then match event with
    | .readable reads => reader.onread maxSize reads
    | .ended => reader.cleanup (.error (text "ended before frame"))
  else reader

end FrameReader

/-- The function `read_frame` listens to a stream. -/
def readFrame (maxSize : Nat) (events : List StreamEvent) (lengthSize : LengthSize := .four) :
    FrameReader :=
  events.foldl (FrameReader.step maxSize) { decoder := { lengthSize } }

/-- The callback of `read_frame` calls `got_tokens` with these arguments. -/
def frameTokens : Except JsString Bytes → Option ErrorValue × Presented
  | .error message => (some (.error message), .missing)
  | .ok v => (none, .joined (bufferToString v))

example : (readFrame 8 [.readable [[0, 0], [0, 2, 7]], .readable [[8, 9]]]).unshifted = [9] := by
  decide

end Centro
