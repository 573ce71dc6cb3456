import Mathlib.Algebra.Ring.Nat
import Mathlib.Tactic.Common
import Mathlib.Tactic.TypeStar

namespace Centro

/-- A JavaScript string is a sequence of UTF-16 code units. -/
abbrev CodeUnit := UInt16

abbrev JsString := List CodeUnit

/-- Literals of the source lie in the Basic Multilingual Plane. -/
def text (literal : String) : JsString :=
  literal.toList.map fun character => UInt16.ofNat character.toNat

def codeUnit (character : Char) : CodeUnit := UInt16.ofNat character.toNat

/-- The digits that `toString('hex')` and `digest('hex')` write. -/
def hexDigits : List CodeUnit := text "0123456789abcdef"

/-- A SHA-256 digest in hexadecimal has 64 digits. -/
structure Digest where
  digits : JsString
  length : digits.length = 64
  hex : ∀ digit ∈ digits, digit ∈ hexDigits

/-- The digits of a literal can be checked one by one. -/
theorem hex_of_all {digits : JsString}
    (all : (digits.all fun digit => decide (digit ∈ hexDigits)) = true) :
    ∀ digit ∈ digits, digit ∈ hexDigits := by
  simpa using all

/-- This is the scan of `split`: it counts the code units of the last match still to skip. -/
def splitScan (needle : JsString) : Nat → JsString → JsString → List JsString
  | _, piece, [] => [piece]
  | skip + 1, piece, _ :: rest => splitScan needle skip piece rest
  | 0, piece, unit :: rest =>
      if needle.isPrefixOf (unit :: rest) then piece :: splitScan needle (needle.length - 1) [] rest
      else splitScan needle 0 (piece ++ [unit]) rest

/-- This is `string.split(needle)` for a needle that is not empty. -/
def split (needle string : JsString) : List JsString := splitScan needle 0 [] string

/-- This is `pieces.join(glue)`. -/
def join (glue : JsString) (pieces : List JsString) : JsString := glue.intercalate pieces

/-- The function `replace` puts the connection id in the place of each `${self}`. -/
def replaceSelf (connid topic : JsString) : JsString :=
  join connid (split (text "$\x7bself\x7d") topic)

example : replaceSelf (text "ab") (text "x.$\x7bself\x7d.y$\x7bself\x7d") = text "x.ab.yab" := by decide

end Centro
