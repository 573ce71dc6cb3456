import Mathlib.Data.List.Basic
import Mathlib.Tactic.Common

namespace Centro.Library.EventStream

/-- An event is dispatched with its type, its data and the last id before it. -/
structure Dispatched where
  event : List Char
  data : List Char
  lastEventId : List Char
  deriving DecidableEq

/-- The parser keeps these buffers between two lines. -/
structure Buffers where
  event : List Char := []
  data : List Char := []
  lastEventId : List Char := []
  deriving DecidableEq

def eventField : List Char := ['e', 'v', 'e', 'n', 't']

def dataField : List Char := ['d', 'a', 't', 'a']

/-- One space in front of a value is no part of it. -/
def unspaced : List Char → List Char
  | ' ' :: value => value
  | value => value

/-- Fields with other names do not change what is dispatched. -/
def Buffers.set (buffers : Buffers) (name value : List Char) : Buffers :=
  if name = eventField then { buffers with event := value }
  else if name = dataField then { buffers with data := buffers.data ++ value ++ ['\n'] }
  else if name = ['i', 'd'] ∧ Char.ofNat 0 ∉ value then { buffers with lastEventId := value }
  else buffers

/-- An event without data is dropped. -/
def Buffers.dispatch (buffers : Buffers) : Option Dispatched :=
  if buffers.data = [] then none
  else some {
    event := if buffers.event = [] then ['m', 'e', 's', 's', 'a', 'g', 'e'] else buffers.event
    data := buffers.data.dropLast
    lastEventId := buffers.lastEventId }

/-- An empty line dispatches, a line that begins with a colon is a comment, and any other line sets
the field before its first colon. -/
def Buffers.process (buffers : Buffers) : List Char → Buffers × Option Dispatched
  | [] => ({ lastEventId := buffers.lastEventId }, buffers.dispatch)
  | ':' :: _ => (buffers, none)
  | line => (buffers.set (line.takeWhile (· ≠ ':')) (unspaced ((line.dropWhile (· ≠ ':')).drop 1)),
      none)

/-- What the buffers hold at the end of the stream is dropped. -/
def Buffers.run : Buffers → List (List Char) → List Dispatched
  | _, [] => []
  | buffers, line :: rest => (buffers.process line).2.toList ++ (buffers.process line).1.run rest

/-- Lines end with CR LF, LF or CR. What is left at the end of the stream dispatches nothing. -/
def lines : List Char → List Char → List (List Char)
  | _, [] => []
  | line, '\r' :: '\n' :: rest => line :: lines [] rest
  | line, '\r' :: rest => line :: lines [] rest
  | line, '\n' :: rest => line :: lines [] rest
  | line, character :: rest => lines (line ++ [character]) rest

/-- One byte order mark in front of the stream is dropped. -/
def unmarked : List Char → List Char
  | character :: rest => if character = Char.ofNat 0xfeff then rest else character :: rest
  | [] => []

/-- These are the events of a stream that was decoded from UTF-8. -/
def parse (stream : List Char) : List Dispatched := ({} : Buffers).run (lines [] (unmarked stream))

/-- These characters stay within a line. -/
def Within (characters : List Char) : Prop :=
  ∀ character ∈ characters, character ≠ '\r' ∧ character ≠ '\n'

instance (characters : List Char) : Decidable (Within characters) :=
  inferInstanceAs (Decidable (∀ character ∈ characters, _))

theorem Within.append {first second : List Char} (left : Within first) (right : Within second) :
    Within (first ++ second) := by
  intro character member
  obtain member | member := List.mem_append.mp member
  · exact left character member
  · exact right character member

/-- A line is read up to its end. -/
theorem lines_line {line : List Char} (within : Within line) (before rest : List Char) :
    lines before (line ++ '\n' :: rest) = (before ++ line) :: lines [] rest := by
  induction line generalizing before with
  | nil => simp [lines]
  | cons character line ih =>
      obtain ⟨noReturn, noFeed⟩ := within character List.mem_cons_self
      have later := ih (fun other member => within other (List.mem_cons_of_mem _ member))
        (before ++ [character])
      rw [List.cons_append, lines, later, List.append_assoc]
      · rfl
      · intro rest' same
        exact absurd same noReturn
      · exact noReturn
      · exact noFeed

/-- A writer of a stream emits events with a line of data each, and comments. -/
inductive Block where
  | event (kind data : List Char)
  | comment (words : List Char)
  deriving DecidableEq

namespace Block

def characters : Block → List Char
  | event kind data =>
      (eventField ++ [':', ' '] ++ kind) ++ '\n' :: ((dataField ++ [':', ' '] ++ data) ++ ['\n', '\n'])
  | comment words => (':' :: words) ++ ['\n', '\n']

/-- A block is well formed when the type of its event has characters and each of its parts stays
within a line. -/
def WellFormed : Block → Prop
  | event kind data => kind ≠ [] ∧ Within kind ∧ Within data
  | comment words => Within words

def dispatched : Block → Option Dispatched
  | event kind data => some { event := kind, data, lastEventId := [] }
  | comment _ => none

end Block

theorem process_event (buffers : Buffers) (value : List Char) :
    buffers.process (eventField ++ [':', ' '] ++ value) = ({ buffers with event := value }, none) := by
  simp [eventField, Buffers.process, Buffers.set, unspaced]

theorem process_data (buffers : Buffers) (value : List Char) :
    buffers.process (dataField ++ [':', ' '] ++ value) =
      ({ buffers with data := buffers.data ++ value ++ ['\n'] }, none) := by
  simp [dataField, eventField, Buffers.process, Buffers.set, unspaced]

theorem run_line {line : List Char} (within : Within line) (buffers : Buffers) (rest : List Char) :
    buffers.run (lines [] (line ++ '\n' :: rest)) =
      (buffers.process line).2.toList ++ (buffers.process line).1.run (lines [] rest) := by
  rw [lines_line within, List.nil_append, Buffers.run]

theorem within_eventField : Within (eventField ++ [':', ' ']) := by
  simp [Within, eventField]

theorem within_dataField : Within (dataField ++ [':', ' ']) := by
  simp [Within, dataField]

theorem within_nil : Within [] := fun _ member => by cases member

/-- A block in front of a stream gives its event, and the buffers are empty after it. -/
theorem run_block {block : Block} (wellFormed : block.WellFormed) (rest : List Char) :
    ({} : Buffers).run (lines [] (block.characters ++ rest)) =
      block.dispatched.toList ++ ({} : Buffers).run (lines [] rest) := by
  cases block with
  | event kind data =>
      obtain ⟨named, kindWithin, dataWithin⟩ := wellFormed
      have shape : (Block.event kind data).characters ++ rest =
          (eventField ++ [':', ' '] ++ kind) ++ '\n' :: ((dataField ++ [':', ' '] ++ data) ++
            '\n' :: ([] ++ '\n' :: rest)) := by
        simp [Block.characters]
      rw [shape, run_line (within_eventField.append kindWithin), process_event,
        run_line (within_dataField.append dataWithin), process_data, run_line within_nil]
      simp [Buffers.process, Buffers.dispatch, Block.dispatched, named]
  | comment words =>
      have shape : (Block.comment words).characters ++ rest =
          (':' :: words) ++ '\n' :: ([] ++ '\n' :: rest) := by
        simp [Block.characters]
      have within : Within (':' :: words) := by
        intro character member
        obtain rfl | member := List.mem_cons.mp member
        · decide
        · exact wellFormed character member
      rw [shape, run_line within, run_line within_nil]
      simp [Buffers.process, Buffers.dispatch, Block.dispatched]

theorem run_blocks {blocks : List Block} (wellFormed : ∀ block ∈ blocks, block.WellFormed) :
    ({} : Buffers).run (lines [] (blocks.flatMap Block.characters)) =
      blocks.filterMap Block.dispatched := by
  induction blocks with
  | nil => rfl
  | cons block rest ih =>
      rw [List.flatMap_cons, run_block (wellFormed block List.mem_cons_self),
        ih fun other member => wellFormed other (List.mem_cons_of_mem _ member), List.filterMap_cons]
      cases block.dispatched <;> rfl

/-- No block begins with a byte order mark. -/
theorem unmarked_blocks (blocks : List Block) :
    unmarked (blocks.flatMap Block.characters) = blocks.flatMap Block.characters := by
  cases blocks with
  | nil => rfl
  | cons block rest => cases block <;> rfl

/-- The parser gives back the events of the blocks and nothing else. -/
theorem parse_blocks {blocks : List Block} (wellFormed : ∀ block ∈ blocks, block.WellFormed) :
    parse (blocks.flatMap Block.characters) = blocks.filterMap Block.dispatched := by
  rw [parse, unmarked_blocks, run_blocks wellFormed]

end Centro.Library.EventStream
