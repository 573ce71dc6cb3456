import Centro.Construction.Text
import Mathlib.Data.Nat.Log
import Mathlib.Data.Rat.Defs
import Mathlib.Algebra.Order.Ring.Unbundled.Rat

namespace Centro

/-- A JavaScript number is finite, infinite or no number. Both zeros are the same here. -/
inductive JsNumber where
  | nan
  | infinite (negative : Bool)
  | finite (value : Rat)
  deriving DecidableEq

namespace JsNumber

def zero : JsNumber := .finite 0

/-- This is the comparison `n >= length`. -/
def atLeast (length : Nat) : JsNumber → Bool
  | .nan => false
  | .infinite negative => !negative
  | .finite value => (length : Rat) ≤ value

/-- A natural number is the key of an element of an array. -/
def index : JsNumber → Option Nat
  | .finite value => if value.den = 1 ∧ 0 ≤ value then some value.num.toNat else none
  | _ => none

/-- The schema validator takes an infinite number for an integer. -/
def integer : JsNumber → Bool
  | .nan => false
  | .infinite _ => true
  | .finite value => value.den = 1

/-- A natural number is rounded to 53 binary digits, ties go to the even neighbour, and what is too
large becomes infinite. -/
def round (magnitude : Nat) : Option Nat :=
  if magnitude < 2 ^ 53 then some magnitude
  else
    let unit := 2 ^ (Nat.log2 magnitude - 52)
    let low := magnitude / unit
    let rest := magnitude % unit
    let near := if 2 * rest > unit ∨ (2 * rest = unit ∧ low % 2 = 1) then low + 1 else low
    if near * unit < 2 ^ 1024 then some (near * unit) else none

/-- These code units are white space or end a line. -/
def isSpace (unit : CodeUnit) : Bool :=
  (9 ≤ unit && unit ≤ 13) || (0x2000 ≤ unit && unit ≤ 0x200a) ||
    unit ∈ ([0x20, 0xa0, 0x1680, 0x2028, 0x2029, 0x202f, 0x205f, 0x3000, 0xfeff] : List CodeUnit)

/-- The value of a digit in any radix up to 36. -/
def digit (unit : CodeUnit) : Option Nat :=
  if 48 ≤ unit ∧ unit ≤ 57 then some (unit.toNat - 48)
  else if 97 ≤ unit ∧ unit ≤ 122 then some (unit.toNat - 87)
  else if 65 ≤ unit ∧ unit ≤ 90 then some (unit.toNat - 55)
  else none

/-- The digits of the radix at the front of a string. -/
def digits (radix : Nat) : JsString → List Nat
  | [] => []
  | unit :: rest => match digit unit with
      | some value => if value < radix then value :: digits radix rest else []
      | none => []

/-- The number that some digits stand for. -/
def ofDigits (negative : Bool) (radix : Nat) (found : List Nat) : JsNumber :=
  if found = [] then .nan
  else match round (found.foldl (fun value digit => value * radix + digit) 0) with
    | none => .infinite negative
    | some magnitude => .finite (if negative then -(magnitude : Rat) else magnitude)

/-- This is `parseInt(string)`. -/
def parseInt (string : JsString) : JsNumber :=
  let string := string.dropWhile isSpace
  let negative := string.head? == some (codeUnit '-')
  let string := if negative || string.head? == some (codeUnit '+') then string.tail else string
  if (text "0x").isPrefixOf string || (text "0X").isPrefixOf string then
    ofDigits negative 16 (digits 16 (string.drop 2))
  else ofDigits negative 10 (digits 10 string)

example : parseInt (text " -12px") = .finite (-12) := by decide

end JsNumber
end Centro
