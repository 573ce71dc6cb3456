import Centro.Library.TransitionSystem
import Mathlib.Data.List.Basic

namespace Centro

open Library

/-- The class `LeftDuplex` makes the class `RightDuplex` for its peer. -/
inductive Side where
  | left
  | right
  deriving DecidableEq

namespace Side

def peer : Side → Side
  | left => right
  | right => left

end Side

variable (α : Type*)

/-- The chunks that `_write` got have the numbers of their callbacks. A chunk is a list of bytes, or
it has one object. -/
structure WritableState where
  written : List (List α) := []
  writing : Option Nat := none
  finalled : Bool := false
  called : List Nat := []

/-- The consumer receives chunks and, at the end of the stream, none. The member `_cb` is a callback
of the peer. -/
structure ReadableState where
  buffer : List (List α) := []
  reading : Bool := false
  ended : Bool := false
  endEmitted : Bool := false
  received : List (Option (List α)) := []
  _cb : Option Nat := none

structure Duplex where
  writable : WritableState α := {}
  readable : ReadableState α := {}

/-- The callbacks that `process.nextTick` got are called in order. -/
structure DuplexPair where
  left : Duplex α := {}
  right : Duplex α := {}
  ticks : List (Side × Nat) := []

variable {α}

namespace ReadableState

def length (readable : ReadableState α) : Nat := readable.buffer.flatten.length

/-- The method `push` answers if the buffer is below its mark. It does not keep an empty chunk. -/
def push (highWaterMark : Nat) (readable : ReadableState α) (chunk : List α) :
    ReadableState α × Bool :=
  let buffer := match chunk with
    | [] => readable.buffer
    | chunk => readable.buffer ++ [chunk]
  let readable := { readable with buffer, reading := false }
  (readable, readable.length < highWaterMark ∨ readable.length = 0)

def pushNull (readable : ReadableState α) : ReadableState α :=
  { readable with reading := false, ended := true }

/-- The buffer is left without the first bytes or objects. -/
def fromList : Nat → List (List α) → List (List α)
  | _, [] => []
  | count, chunk :: rest =>
      if count < chunk.length then chunk.drop count :: rest
      else fromList (count - chunk.length) rest

/-- A consumer takes this many bytes or objects from the buffer. -/
def take (readable : ReadableState α) (count : Nat) : ReadableState α :=
  { readable with
    buffer := fromList count readable.buffer
    received := if count = 0 then readable.received
      else readable.received ++ [some (readable.buffer.flatten.take count)] }

end ReadableState

namespace DuplexPair

def duplex (pair : DuplexPair α) : Side → Duplex α
  | .left => pair.left
  | .right => pair.right

def setWritable (pair : DuplexPair α) (writable : WritableState α) : Side → DuplexPair α
  | .left => { pair with left := { pair.left with writable } }
  | .right => { pair with right := { pair.right with writable } }

def setReadable (pair : DuplexPair α) (readable : ReadableState α) : Side → DuplexPair α
  | .left => { pair with left := { pair.left with readable } }
  | .right => { pair with right := { pair.right with readable } }

def nextTick (pair : DuplexPair α) (side : Side) (number : Nat) : DuplexPair α :=
  { pair with ticks := pair.ticks ++ [(side, number)] }

/-- The two methods `_write` differ in the member for the peer. -/
def write (highWaterMark : Nat) (side : Side) (pair : DuplexPair α) (chunk : List α) :
    DuplexPair α :=
  let writable := (pair.duplex side).writable
  let number := writable.written.length
  let pair := pair.setWritable
    { writable with written := writable.written ++ [chunk], writing := some number } side
  match (pair.duplex side.peer).readable.push highWaterMark chunk with
  | (readable, true) => (pair.setReadable readable side.peer).nextTick side number
  | (readable, false) => pair.setReadable { readable with _cb := some number } side.peer

/-- The two methods `_final` differ in the member for the peer, and their callback does nothing
here. -/
def final (side : Side) (pair : DuplexPair α) : DuplexPair α :=
  let pair := pair.setWritable { (pair.duplex side).writable with finalled := true } side
  pair.setReadable (pair.duplex side.peer).readable.pushNull side.peer

/-- The two methods `_read` are the same. -/
def read (side : Side) (pair : DuplexPair α) : DuplexPair α :=
  let readable := (pair.duplex side).readable
  match readable._cb with
  | none => pair
  | some number =>
      (pair.setReadable { readable with _cb := none } side).nextTick side.peer number

end DuplexPair

namespace RightDuplex

def _final : DuplexPair α → DuplexPair α := DuplexPair.final .right

def _read : DuplexPair α → DuplexPair α := DuplexPair.read .right

def _write (highWaterMark : Nat) : DuplexPair α → List α → DuplexPair α :=
  DuplexPair.write highWaterMark .right

end RightDuplex

namespace LeftDuplex

def _final : DuplexPair α → DuplexPair α := DuplexPair.final .left

def _read : DuplexPair α → DuplexPair α := DuplexPair.read .left

def _write (highWaterMark : Nat) : DuplexPair α → List α → DuplexPair α :=
  DuplexPair.write highWaterMark .left

end LeftDuplex

namespace DuplexPair

/-- A writer writes a chunk or ends, a consumer reads, a stream is at its end, or the next callback
is called. A stream may need `_read` before its buffer is below the mark. -/
inductive Event (α : Type*) where
  | write (side : Side) (chunk : List α)
  | final (side : Side)
  | read (side : Side) (count : Nat) (needReadable : Bool)
  | ended (side : Side)
  | tick

/-- The method `_read` is called again only after a `push`. -/
def wantsRead (highWaterMark : Nat) (readable : ReadableState α) (count : Nat)
    (needReadable : Bool) : Bool :=
  !readable.ended && !readable.reading &&
    (needReadable || readable.length = 0 || readable.length - count < highWaterMark)

/-- A consumer reads, and its stream calls `_read` before it takes from the buffer. -/
def consume (highWaterMark : Nat) (side : Side) (pair : DuplexPair α) (count : Nat)
    (needReadable : Bool) : DuplexPair α :=
  let readable := (pair.duplex side).readable
  let pair := if wantsRead highWaterMark readable count needReadable then
      let pair := pair.setReadable { readable with reading := true } side
      match side with
      | .left => LeftDuplex._read pair
      | .right => RightDuplex._read pair
    else pair
  pair.setReadable ((pair.duplex side).readable.take count) side

/-- A stream calls `_write` or `_final` after the callback before. Its consumer has no more than the
buffer, and the end comes once when this is empty. -/
def step (highWaterMark : Nat) (pair : DuplexPair α) : Event α → Option (DuplexPair α)
  | .write side chunk =>
      let writable := (pair.duplex side).writable
      if writable.writing = none ∧ writable.finalled = false then
        match side with
        | .left => some (LeftDuplex._write highWaterMark pair chunk)
        | .right => some (RightDuplex._write highWaterMark pair chunk)
      else none
  | .final side =>
      let writable := (pair.duplex side).writable
      if writable.writing = none ∧ writable.finalled = false then
        match side with
        | .left => some (LeftDuplex._final pair)
        | .right => some (RightDuplex._final pair)
      else none
  | .read side count needReadable =>
      if count ≤ (pair.duplex side).readable.length then
        some (pair.consume highWaterMark side count needReadable)
      else none
  | .ended side =>
      let readable := (pair.duplex side).readable
      if readable.ended ∧ readable.length = 0 ∧ readable.endEmitted = false then
        let received := readable.received ++ [none]
        some (pair.setReadable { readable with endEmitted := true, received } side)
      else none
  | .tick =>
      match pair.ticks with
      | [] => none
      | (side, number) :: ticks =>
          let writable := (pair.duplex side).writable
          let writing := if writable.writing = some number then none else writable.writing
          let called := writable.called ++ [number]
          some ({ pair with ticks }.setWritable { writable with writing, called } side)

def system (highWaterMark : Nat) : TransitionSystem (DuplexPair α) (Event α) where
  initial := {}
  step := step highWaterMark

end DuplexPair
end Centro
