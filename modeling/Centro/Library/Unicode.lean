import Mathlib.Data.List.Basic
import Mathlib.Tactic.Common

namespace Centro.Library

/-- A decoder puts this character in the place of what it cannot read. -/
def replacement : Char := Char.ofNat 0xfffd

theorem ofNat_toNat (character : Char) : Char.ofNat character.toNat = character :=
  Char.ofNat_toNat character

/-- The code of a character is no surrogate. -/
theorem code_bounds (character : Char) :
    character.toNat < 0xd800 ∨ 0xdfff < character.toNat ∧ character.toNat < 0x110000 :=
  character.valid

namespace Utf16

theorem toNat_ofNat {number : Nat} (small : number < 0x10000) :
    (UInt16.ofNat number).toNat = number :=
  UInt16.toNat_ofNat_of_lt' small

/-- A character beyond the first 65536 is a pair of surrogates. -/
def encodeCharacter (character : Char) : List UInt16 :=
  if character.toNat < 0x10000 then [.ofNat character.toNat]
  else [.ofNat (0xd800 + (character.toNat - 0x10000) / 0x400),
    .ofNat (0xdc00 + (character.toNat - 0x10000) % 0x400)]

def encode (characters : List Char) : List UInt16 := characters.flatMap encodeCharacter

/-- A surrogate without a partner is unreadable. -/
def single (unit : UInt16) : Char :=
  if 0xd800 ≤ unit.toNat ∧ unit.toNat ≤ 0xdfff then replacement else .ofNat unit.toNat

def decode : List UInt16 → List Char
  | [] => []
  | high :: low :: rest =>
      if (0xd800 ≤ high.toNat ∧ high.toNat ≤ 0xdbff) ∧ 0xdc00 ≤ low.toNat ∧ low.toNat ≤ 0xdfff then
        .ofNat (0x10000 + (high.toNat - 0xd800) * 0x400 + (low.toNat - 0xdc00)) :: decode rest
      else single high :: decode (low :: rest)
  | [unit] => [single unit]

/-- A unit that is no surrogate stands alone. -/
theorem decode_single {unit : UInt16} (plain : unit.toNat < 0xd800 ∨ 0xdfff < unit.toNat)
    (rest : List UInt16) : decode (unit :: rest) = .ofNat unit.toNat :: decode rest := by
  have alone : single unit = .ofNat unit.toNat := by
    rw [single, if_neg (by omega)]
  cases rest with
  | nil => exact congrArg (fun character => [character]) alone
  | cons low rest => rw [decode, if_neg (by omega), alone]

theorem decode_encodeCharacter (character : Char) (rest : List UInt16) :
    decode (encodeCharacter character ++ rest) = character :: decode rest := by
  have bounds := code_bounds character
  unfold encodeCharacter
  split
  · next small =>
      have same : (UInt16.ofNat character.toNat).toNat = character.toNat :=
        toNat_ofNat (by omega)
      rw [List.singleton_append, decode_single (by omega), same, ofNat_toNat]
  · next large =>
      have high : (UInt16.ofNat (0xd800 + (character.toNat - 0x10000) / 0x400)).toNat =
          0xd800 + (character.toNat - 0x10000) / 0x400 :=
        toNat_ofNat (by omega)
      have low : (UInt16.ofNat (0xdc00 + (character.toNat - 0x10000) % 0x400)).toNat =
          0xdc00 + (character.toNat - 0x10000) % 0x400 :=
        toNat_ofNat (by omega)
      have code : 0x10000 + (0xd800 + (character.toNat - 0x10000) / 0x400 - 0xd800) * 0x400 +
          (0xdc00 + (character.toNat - 0x10000) % 0x400 - 0xdc00) = character.toNat := by
        omega
      rw [List.cons_append, List.singleton_append, decode, high, low, if_pos (by omega), code,
        ofNat_toNat]

/-- Decoding gives the characters back. -/
theorem decode_encode (characters : List Char) : decode (encode characters) = characters := by
  induction characters with
  | nil => rfl
  | cons character rest ih =>
      rw [encode, List.flatMap_cons, decode_encodeCharacter]
      exact congrArg _ ih

theorem encode_append (first second : List Char) :
    encode (first ++ second) = encode first ++ encode second :=
  List.flatMap_append

end Utf16

namespace Utf8

theorem toNat_ofNat {number : Nat} (small : number < 0x100) :
    (UInt8.ofNat number).toNat = number :=
  UInt8.toNat_ofNat_of_lt' small

/-- A character has begun. So many bytes are still needed, and the next one lies in these bounds. -/
structure Pending where
  needed : Nat
  lower : Nat
  upper : Nat
  code : Nat

/-- A byte that is not inside a character. -/
def first (byte : Nat) : List Char × Option Pending :=
  if byte < 0x80 then ([.ofNat byte], none)
  else if 0xc2 ≤ byte ∧ byte ≤ 0xdf then ([], some ⟨1, 0x80, 0xbf, byte - 0xc0⟩)
  else if 0xe0 ≤ byte ∧ byte ≤ 0xef then
    ([], some ⟨2, if byte = 0xe0 then 0xa0 else 0x80, if byte = 0xed then 0x9f else 0xbf,
      byte - 0xe0⟩)
  else if 0xf0 ≤ byte ∧ byte ≤ 0xf4 then
    ([], some ⟨3, if byte = 0xf0 then 0x90 else 0x80, if byte = 0xf4 then 0x8f else 0xbf,
      byte - 0xf0⟩)
  else ([replacement], none)

/-- A byte that does not go on with the character is read again on its own. -/
def next (pending : Pending) (byte : Nat) : List Char × Option Pending :=
  if pending.lower ≤ byte ∧ byte ≤ pending.upper then
    let code := pending.code * 64 + (byte - 0x80)
    if pending.needed = 1 then ([.ofNat code], none)
    else ([], some ⟨pending.needed - 1, 0x80, 0xbf, code⟩)
  else (replacement :: (first byte).1, (first byte).2)

/-- The decoder never fails. A character that the end cuts off is unreadable. -/
def decodeFrom : Option Pending → List UInt8 → List Char
  | none, [] => []
  | some _, [] => [replacement]
  | none, byte :: rest => (first byte.toNat).1 ++ decodeFrom (first byte.toNat).2 rest
  | some pending, byte :: rest =>
      (next pending byte.toNat).1 ++ decodeFrom (next pending byte.toNat).2 rest

def decode (bytes : List UInt8) : List Char := decodeFrom none bytes

def encode (characters : List Char) : List UInt8 := characters.flatMap String.utf8EncodeChar

example : decode [0x61, 0xe2, 0x82, 0x62, 0xff, 0xc3] =
    ['a', replacement, 'b', replacement, replacement] := by decide

/-- The decoder goes on with a byte between the bounds. -/
theorem decodeFrom_tail {needed lower upper code tail : Nat} (small : tail < 64)
    (inside : lower ≤ tail + 0x80 ∧ tail + 0x80 ≤ upper) (rest : List UInt8) :
    decodeFrom (some ⟨needed, lower, upper, code⟩) (.ofNat (tail + 0x80) :: rest) =
      if needed = 1 then .ofNat (code * 64 + tail) :: decodeFrom none rest
      else decodeFrom (some ⟨needed - 1, 0x80, 0xbf, code * 64 + tail⟩) rest := by
  have byte : (UInt8.ofNat (tail + 0x80)).toNat = tail + 0x80 := toNat_ofNat (by omega)
  rw [decodeFrom, byte, next, if_pos inside]
  dsimp only
  rw [Nat.add_sub_cancel]
  split <;> rfl

theorem decodeFrom_encodeChar (character : Char) (rest : List UInt8) :
    decodeFrom none (String.utf8EncodeChar character ++ rest) =
      character :: decodeFrom none rest := by
  have bounds := code_bounds character
  have whole := ofNat_toNat character
  have same : character.val.toNat = character.toNat := rfl
  unfold String.utf8EncodeChar
  dsimp only
  rw [same]
  generalize character.toNat = code at bounds whole
  split
  · next one =>
      rw [List.singleton_append, decodeFrom, toNat_ofNat (by omega), first, if_pos (by omega), whole]
      rfl
  · split
    · next two =>
        have value : (code / 64 % 0x20 + 0xc0 - 0xc0) * 64 + code % 0x40 = code := by omega
        rw [List.cons_append, List.singleton_append, decodeFrom, toNat_ofNat (by omega), first,
          if_neg (by omega), if_pos (by omega)]
        dsimp only [List.nil_append]
        rw [decodeFrom_tail (by omega) (by omega), if_pos rfl, value, whole]
    · split
      · next three =>
          have value : ((code / 4096 % 0x10 + 0xe0 - 0xe0) * 64 + code / 64 % 0x40) * 64 +
              code % 0x40 = code := by
            omega
          rw [List.cons_append, List.cons_append, List.singleton_append, decodeFrom,
            toNat_ofNat (by omega), first, if_neg (by omega), if_neg (by omega), if_pos (by omega)]
          dsimp only [List.nil_append]
          rw [decodeFrom_tail (by omega) (by split <;> split <;> omega), if_neg (by omega),
            decodeFrom_tail (by omega) (by omega), if_pos rfl, value, whole]
      · next four =>
          have value : (((code / 262144 % 0x08 + 0xf0 - 0xf0) * 64 + code / 4096 % 0x40) * 64 +
              code / 64 % 0x40) * 64 + code % 0x40 = code := by
            omega
          rw [List.cons_append, List.cons_append, List.cons_append, List.singleton_append, decodeFrom,
            toNat_ofNat (by omega), first, if_neg (by omega), if_neg (by omega), if_neg (by omega),
            if_pos (by omega)]
          dsimp only [List.nil_append]
          rw [decodeFrom_tail (by omega) (by split <;> split <;> omega), if_neg (by omega),
            decodeFrom_tail (by omega) (by omega), if_neg (by omega),
            decodeFrom_tail (by omega) (by omega), if_pos rfl, value, whole]

/-- Decoding gives the characters back. -/
theorem decode_encode (characters : List Char) : decode (encode characters) = characters := by
  induction characters with
  | nil => rfl
  | cons character rest ih =>
      rw [encode, List.flatMap_cons, decode, decodeFrom_encodeChar]
      exact congrArg _ ih

end Utf8
end Centro.Library
