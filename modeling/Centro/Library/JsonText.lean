import Centro.Library.JsonSchema
import Centro.Library.Unicode

namespace Centro.Library.JsonText

/-- These are the code units of a text. -/
abbrev Units := List UInt16

def ascii (character : Char) : UInt16 := .ofNat character.toNat

def literal (string : String) : Units := string.toList.map ascii

/-- A string writes these units as a backslash and a letter. -/
def escapes : List (UInt16 × UInt16) :=
  [(0x08, ascii 'b'), (0x09, ascii 't'), (0x0a, ascii 'n'), (0x0c, ascii 'f'), (0x0d, ascii 'r'),
    (0x22, ascii '"'), (0x5c, ascii '\\')]

def hexDigit (digit : Nat) : UInt16 :=
  .ofNat (if digit < 10 then 0x30 + digit else 0x61 + (digit - 10))

/-- A reader also knows the upper case. -/
def hexValue (unit : UInt16) : Option Nat :=
  if 0x30 ≤ unit.toNat ∧ unit.toNat ≤ 0x39 then some (unit.toNat - 0x30)
  else if 0x61 ≤ unit.toNat ∧ unit.toNat ≤ 0x66 then some (unit.toNat - 0x61 + 10)
  else if 0x41 ≤ unit.toNat ∧ unit.toNat ≤ 0x46 then some (unit.toNat - 0x41 + 10)
  else none

def isHigh (unit : UInt16) : Bool := decide (0xd800 ≤ unit.toNat ∧ unit.toNat ≤ 0xdbff)

def isLow (unit : UInt16) : Bool := decide (0xdc00 ≤ unit.toNat ∧ unit.toNat ≤ 0xdfff)

/-- Control characters and surrogates without a partner are written in hexadecimal. -/
def quoteUnit (unit : UInt16) : Units :=
  match escapes.find? fun escape => escape.1 = unit with
  | some escape => [ascii '\\', escape.2]
  | none =>
      if unit.toNat < 0x20 ∨ isHigh unit ∨ isLow unit then
        [ascii '\\', ascii 'u', hexDigit (unit.toNat / 0x1000),
          hexDigit (unit.toNat / 0x100 % 0x10), hexDigit (unit.toNat / 0x10 % 0x10),
          hexDigit (unit.toNat % 0x10)]
      else [unit]

def quoteUnits : Units → Units
  | [] => []
  | high :: low :: rest =>
      if isHigh high && isLow low then high :: low :: quoteUnits rest
      else quoteUnit high ++ quoteUnits (low :: rest)
  | [unit] => quoteUnit unit

def quote (string : Units) : Units := ascii '"' :: (quoteUnits string ++ [ascii '"'])

/-- The text of a number and the value of a numeral belong to floating point. -/
structure NumberText where
  write : Rat → Units
  read : Units → Rat

section Writer

variable (numbers : NumberText)

mutual

/-- This text has no spaces. -/
def stringify : Json UInt16 → Units
  | .null => literal "null"
  | .bool true => literal "true"
  | .bool false => literal "false"
  | .number value => numbers.write value
  | .string value => quote value
  | .array values => ascii '[' :: (stringifyItems values ++ [ascii ']'])
  | .object members => ascii '{' :: (stringifyMembers members ++ [ascii '}'])

def stringifyItems : List (Json UInt16) → Units
  | [] => []
  | [value] => stringify value
  | value :: next :: rest => stringify value ++ ascii ',' :: stringifyItems (next :: rest)

def stringifyMembers : List (Units × Json UInt16) → Units
  | [] => []
  | [(name, value)] => quote name ++ ascii ':' :: stringify value
  | (name, value) :: next :: rest =>
      quote name ++ ascii ':' :: (stringify value ++ ascii ',' :: stringifyMembers (next :: rest))

end

end Writer

def isSpace (unit : UInt16) : Bool :=
  decide (unit = 0x20) || decide (unit = 0x09) || decide (unit = 0x0a) || decide (unit = 0x0d)

def skip (text : Units) : Units := text.dropWhile isSpace

def isDigit (unit : UInt16) : Bool := decide (0x30 ≤ unit.toNat ∧ unit.toNat ≤ 0x39)

/-- A string is read unit by unit, and an escape takes more than one. -/
inductive Quoting where
  | plain
  | escaped
  | hex (left value : Nat)

def unquote : Quoting → Units → Option (Units × Units)
  | _, [] => none
  | .plain, unit :: rest =>
      if unit = ascii '"' then some ([], rest)
      else if unit = ascii '\\' then unquote .escaped rest
      else if unit.toNat < 0x20 then none
      else (unquote .plain rest).map fun (string, later) => (unit :: string, later)
  | .escaped, unit :: rest =>
      if unit = ascii 'u' then unquote (.hex 3 0) rest
      else match ((ascii '/', ascii '/') :: escapes).find? fun escape => escape.2 = unit with
        | some escape =>
            (unquote .plain rest).map fun (string, later) => (escape.1 :: string, later)
        | none => none
  | .hex left value, unit :: rest =>
      match hexValue unit, left with
      | none, _ => none
      | some digit, left + 1 => unquote (.hex left (value * 0x10 + digit)) rest
      | some digit, 0 => (unquote .plain rest).map fun (string, later) =>
          (.ofNat (value * 0x10 + digit) :: string, later)

/-- At least one digit is there. -/
def digits (text : Units) : Option (Units × Units) :=
  if text.takeWhile isDigit = [] then none
  else some (text.takeWhile isDigit, text.dropWhile isDigit)

/-- A part of a numeral may follow its first unit. -/
def following (opens : UInt16 → Bool) (part : Units → Option (Units × Units)) :
    Units → Option (Units × Units)
  | [] => some ([], [])
  | unit :: rest =>
      if opens unit then (part rest).map fun (front, later) => (unit :: front, later)
      else some ([], unit :: rest)

def integerPart : Units → Option (Units × Units)
  | [] => none
  | unit :: rest =>
      if unit = ascii '0' then some ([unit], rest) else digits (unit :: rest)

def exponentPart : Units → Option (Units × Units)
  | [] => none
  | unit :: rest =>
      if unit = ascii '+' ∨ unit = ascii '-' then
        (digits rest).map fun (front, later) => (unit :: front, later)
      else digits (unit :: rest)

/-- A numeral ends where the grammar of numbers does. -/
def numeral (text : Units) : Option (Units × Units) := do
  let (sign, rest) := match text with
    | unit :: rest => if unit = ascii '-' then ([unit], rest) else ([], text)
    | [] => ([], text)
  let (whole, rest) ← integerPart rest
  let (fraction, rest) ← following (fun unit => unit = ascii '.') digits rest
  let (exponent, rest) ←
    following (fun unit => unit = ascii 'e' ∨ unit = ascii 'E') exponentPart rest
  return (sign ++ whole ++ fraction ++ exponent, rest)

/-- A later member takes the value of an earlier one with its name. -/
def put (members : List (Units × Json UInt16)) (name : Units) (value : Json UInt16) :
    List (Units × Json UInt16) :=
  if name ∈ members.map Prod.fst then
    members.map fun member => if member.1 = name then (name, value) else member
  else members ++ [(name, value)]

def merge (members : List (Units × Json UInt16)) : List (Units × Json UInt16) :=
  members.foldl (fun merged member => put merged member.1 member.2) []

/-- The name of a member ends at its colon. -/
def readName (text : Units) : Option (Units × Units) :=
  match skip text with
  | [] => none
  | unit :: rest =>
      if unit = ascii '"' then match unquote .plain rest with
        | none => none
        | some (name, later) =>
            if (skip later).head? = some (ascii ':') then some (name, (skip later).tail) else none
      else none

section Reader

variable (numbers : NumberText)

mutual

def readValue : Nat → Units → Option (Json UInt16 × Units)
  | 0, _ => none
  | fuel + 1, text => match skip text with
      | [] => none
      | unit :: rest =>
          if unit = ascii '{' then
            if (skip rest).head? = some (ascii '}') then some (.object [], (skip rest).tail)
            else (readMembers fuel rest).map fun (members, later) =>
              (.object (merge members), later)
          else if unit = ascii '[' then
            if (skip rest).head? = some (ascii ']') then some (.array [], (skip rest).tail)
            else (readItems fuel rest).map fun (values, later) => (.array values, later)
          else if unit = ascii '"' then
            (unquote .plain rest).map fun (string, later) => (.string string, later)
          else if literal "true" <+: unit :: rest then some (.bool true, rest.drop 3)
          else if literal "false" <+: unit :: rest then some (.bool false, rest.drop 4)
          else if literal "null" <+: unit :: rest then some (.null, rest.drop 3)
          else (numeral (unit :: rest)).map fun (front, later) =>
            (.number (numbers.read front), later)

def readItems : Nat → Units → Option (List (Json UInt16) × Units)
  | 0, _ => none
  | fuel + 1, text => match readValue fuel text with
      | none => none
      | some (value, later) => match skip later with
          | [] => none
          | unit :: rest =>
              if unit = ascii ',' then
                (readItems fuel rest).map fun (values, later) => (value :: values, later)
              else if unit = ascii ']' then some ([value], rest)
              else none

def readMembers : Nat → Units → Option (List (Units × Json UInt16) × Units)
  | 0, _ => none
  | fuel + 1, text => match readName text with
      | none => none
      | some (name, rest) => match readValue fuel rest with
          | none => none
          | some (value, later) => match skip later with
              | [] => none
              | unit :: rest =>
                  if unit = ascii ',' then (readMembers fuel rest).map fun (members, later) =>
                    ((name, value) :: members, later)
                  else if unit = ascii '}' then some ([(name, value)], rest)
                  else none

end

/-- Nothing but spaces follows a value. Each unit of the text starts at most two calls. -/
def parse (text : Units) : Option (Json UInt16) :=
  match readValue numbers (2 * text.length + 1) text with
  | some (json, rest) => if skip rest = [] then some json else none
  | none => none

end Reader

/-- A number or a list of members ends here. -/
def Stops (rest : Units) : Prop :=
  rest = [] ∨ ∃ unit later, rest = unit :: later ∧
    (unit = ascii ',' ∨ unit = ascii ']' ∨ unit = ascii '}')

/-- The numeral of a number is read back. -/
structure Reads (numbers : NumberText) (number : Rat) : Prop where
  opens : ∃ unit front, numbers.write number = unit :: front ∧
    (unit = ascii '-' ∨ isDigit unit = true)
  ends : ∀ rest, Stops rest →
    numeral (numbers.write number ++ rest) = some (numbers.write number, rest)
  value : numbers.read (numbers.write number) = number
  plain : ∀ unit ∈ numbers.write number, unit.toNat < 0x80

/-- The members of each object have distinct names, and each numeral is read back. -/
inductive Printable (numbers : NumberText) : Json UInt16 → Prop where
  | null : Printable numbers .null
  | bool (value : Bool) : Printable numbers (.bool value)
  | number {value : Rat} (reads : Reads numbers value) : Printable numbers (.number value)
  | string (value : Units) : Printable numbers (.string value)
  | array {values : List (Json UInt16)} (each : ∀ value ∈ values, Printable numbers value) :
      Printable numbers (.array values)
  | object {members : List (Units × Json UInt16)} (distinct : (members.map Prod.fst).Nodup)
      (each : ∀ member ∈ members, Printable numbers member.2) : Printable numbers (.object members)

section Strings

theorem toNat_hexDigit {digit : Nat} (small : digit < 0x10) :
    (hexDigit digit).toNat = if digit < 10 then 0x30 + digit else 0x61 + (digit - 10) := by
  rw [hexDigit]
  split <;> exact Utf16.toNat_ofNat (by omega)

theorem hexValue_hexDigit {digit : Nat} (small : digit < 0x10) :
    hexValue (hexDigit digit) = some digit := by
  rw [hexValue, toNat_hexDigit small]
  split
  · rw [if_pos (by omega)]
    exact congrArg some (by omega)
  · rw [if_neg (by omega), if_pos (by omega)]
    exact congrArg some (by omega)

theorem unquote_plain {unit : UInt16} (noQuote : unit ≠ ascii '"') (noBackslash : unit ≠ ascii '\\')
    (printed : 0x20 ≤ unit.toNat) (rest : Units) :
    unquote .plain (unit :: rest) =
      (unquote .plain rest).map fun (string, later) => (unit :: string, later) := by
  rw [unquote, if_neg noQuote, if_neg noBackslash, if_neg (by omega)]

theorem unquote_surrogate {unit : UInt16} (surrogate : 0xd800 ≤ unit.toNat) (rest : Units) :
    unquote .plain (unit :: rest) =
      (unquote .plain rest).map fun (string, later) => (unit :: string, later) := by
  refine unquote_plain ?_ ?_ (by omega) rest
  · rintro rfl
    exact absurd surrogate (by decide)
  · rintro rfl
    exact absurd surrogate (by decide)

/-- Each unit of a string is read back. -/
theorem unquote_quoteUnit (unit : UInt16) (rest : Units) :
    unquote .plain (quoteUnit unit ++ rest) =
      (unquote .plain rest).map fun (string, later) => (unit :: string, later) := by
  have bound : unit.toNat < 0x10000 := unit.toNat_lt
  rw [quoteUnit]
  split
  · next escape found =>
      have listed := List.mem_of_find?_eq_some found
      have same : escape.1 = unit := by simpa using List.find?_some found
      subst same
      simp only [escapes, List.mem_cons, List.not_mem_nil, or_false] at listed
      rcases listed with rfl | rfl | rfl | rfl | rfl | rfl | rfl <;> rfl
  · next missing =>
      have other : ∀ escape ∈ escapes, escape.1 ≠ unit := by simpa using missing
      have noQuote : unit ≠ ascii '"' := fun same =>
        other (0x22, ascii '"') (by simp [escapes]) same.symm
      have noBackslash : unit ≠ ascii '\\' := fun same =>
        other (0x5c, ascii '\\') (by simp [escapes]) same.symm
      split
      · have joined : UInt16.ofNat ((((0 * 0x10 + unit.toNat / 0x1000) * 0x10 +
            unit.toNat / 0x100 % 0x10) * 0x10 + unit.toNat / 0x10 % 0x10) * 0x10 +
            unit.toNat % 0x10) = unit := by
          refine .trans (congrArg _ ?_) UInt16.ofNat_toNat
          omega
        have ne : ascii '\\' ≠ ascii '"' := by decide
        simp only [List.cons_append, List.nil_append, unquote, if_neg ne, if_true,
          hexValue_hexDigit (show unit.toNat / 0x1000 < 0x10 by omega),
          hexValue_hexDigit (show unit.toNat / 0x100 % 0x10 < 0x10 by omega),
          hexValue_hexDigit (show unit.toNat / 0x10 % 0x10 < 0x10 by omega),
          hexValue_hexDigit (show unit.toNat % 0x10 < 0x10 by omega), joined]
      · next printed =>
          have visible := Nat.le_of_not_lt fun low => printed (.inl low)
          exact unquote_plain noQuote noBackslash visible rest

theorem unquote_quoteUnits (string : Units) (rest : Units) :
    unquote .plain (quoteUnits string ++ ascii '"' :: rest) = some (string, rest) := by
  induction string using quoteUnits.induct with
  | case1 => rfl
  | case2 high low later paired ih =>
      have surrogates : 0xd800 ≤ high.toNat ∧ 0xdc00 ≤ low.toNat := by
        rw [Bool.and_eq_true, isHigh, isLow, decide_eq_true_eq, decide_eq_true_eq] at paired
        exact ⟨paired.1.1, paired.2.1⟩
      rw [quoteUnits, if_pos paired, List.cons_append, List.cons_append,
        unquote_surrogate surrogates.1, unquote_surrogate (by omega), ih]
      rfl
  | case3 high low later alone ih =>
      rw [quoteUnits, if_neg alone, List.append_assoc, unquote_quoteUnit, ih]
      rfl
  | case4 unit =>
      rw [quoteUnits, unquote_quoteUnit]
      rfl

end Strings

section Values

variable {numbers : NumberText}

theorem skip_of_printed {unit : UInt16} (printed : isSpace unit = false) (rest : Units) :
    skip (unit :: rest) = unit :: rest := by
  rw [skip, List.dropWhile_cons_of_neg (by simp [printed])]

theorem stops_comma (rest : Units) : Stops (ascii ',' :: rest) := .inr ⟨_, rest, rfl, .inl rfl⟩

theorem stops_bracket (rest : Units) : Stops (ascii ']' :: rest) :=
  .inr ⟨_, rest, rfl, .inr (.inl rfl)⟩

theorem stops_brace (rest : Units) : Stops (ascii '}' :: rest) :=
  .inr ⟨_, rest, rfl, .inr (.inr rfl)⟩

/-- A numeral opens with none of the units that another value opens with. -/
theorem Reads.unit {number : Rat} (reads : Reads numbers number) :
    ∃ unit front, numbers.write number = unit :: front ∧ 0x2d ≤ unit.toNat ∧ unit.toNat ≤ 0x39 := by
  obtain ⟨unit, front, same, rfl | digit⟩ := reads.opens
  · exact ⟨_, front, same, by decide, by decide⟩
  · rw [isDigit, decide_eq_true_eq] at digit
    exact ⟨unit, front, same, by omega, by omega⟩

/-- A value opens with a unit that is neither a space nor the end of a list. -/
theorem stringify_opens {json : Json UInt16} (printable : Printable numbers json) :
    ∃ unit rest, stringify numbers json = unit :: rest ∧ isSpace unit = false ∧
      unit ≠ ascii ']' := by
  cases printable with
  | null => exact ⟨_, _, rfl, by decide, by decide⟩
  | bool value => cases value <;> exact ⟨_, _, rfl, by decide, by decide⟩
  | number reads =>
      obtain ⟨unit, front, same, low, high⟩ := reads.unit
      refine ⟨unit, front, same, ?_, ?_⟩
      · simp only [isSpace, Bool.or_eq_false_iff, decide_eq_false_iff_not]
        refine ⟨⟨⟨?_, ?_⟩, ?_⟩, ?_⟩ <;> (rintro rfl; exact absurd low (by decide))
      · rintro rfl
        exact absurd high (by decide)
  | string value => exact ⟨_, _, rfl, by decide, by decide⟩
  | array each => exact ⟨_, _, rfl, by decide, by decide⟩
  | object distinct each => exact ⟨_, _, rfl, by decide, by decide⟩

/-- With so many calls the text of a value is read to its end. -/
def ReadsBack (numbers : NumberText) (json : Json UInt16) : Prop :=
  ∀ fuel rest, 2 * (stringify numbers json).length + 1 ≤ fuel → Stops rest →
    readValue numbers fuel (stringify numbers json ++ rest) = some (json, rest)

theorem readItems_stringify {values : List (Json UInt16)} (nonempty : values ≠ [])
    (each : ∀ value ∈ values, ReadsBack numbers value) :
    ∀ fuel rest, 2 * (stringifyItems numbers values).length + 2 ≤ fuel →
      readItems numbers fuel (stringifyItems numbers values ++ ascii ']' :: rest) =
        some (values, rest) := by
  induction values with
  | nil => exact absurd rfl nonempty
  | cons value others ih =>
      intro fuel rest enough
      obtain ⟨fuel, rfl⟩ : ∃ less, fuel = less + 1 := ⟨fuel - 1, by omega⟩
      have first := each value List.mem_cons_self fuel
      cases others with
      | nil =>
          rw [stringifyItems] at enough ⊢
          rw [readItems, first _ (by omega) (stops_bracket rest)]
          rfl
      | cons next others =>
          have later := ih nofun (fun value member => each value (List.mem_cons_of_mem _ member))
            fuel rest
          rw [stringifyItems, List.length_append, List.length_cons] at enough
          rw [stringifyItems, List.append_assoc, List.cons_append, readItems,
            first _ (by omega) (stops_comma _)]
          simp only [skip_of_printed (show isSpace (ascii ',') = false by decide), if_true,
            later (by omega), Option.map_some]

theorem readName_quote (name rest : Units) :
    readName (quote name ++ ascii ':' :: rest) = some (name, rest) := by
  have whole : quote name ++ ascii ':' :: rest =
      ascii '"' :: (quoteUnits name ++ ascii '"' :: ascii ':' :: rest) := by
    simp [quote]
  rw [readName, whole, skip_of_printed (by decide)]
  simp only [if_true, unquote_quoteUnits,
    skip_of_printed (show isSpace (ascii ':') = false by decide), List.head?_cons, List.tail_cons]

theorem readMembers_stringify {members : List (Units × Json UInt16)} (nonempty : members ≠ [])
    (each : ∀ member ∈ members, ReadsBack numbers member.2) :
    ∀ fuel rest, 2 * (stringifyMembers numbers members).length + 2 ≤ fuel →
      readMembers numbers fuel (stringifyMembers numbers members ++ ascii '}' :: rest) =
        some (members, rest) := by
  induction members with
  | nil => exact absurd rfl nonempty
  | cons member others ih =>
      obtain ⟨name, value⟩ := member
      intro fuel rest enough
      obtain ⟨fuel, rfl⟩ : ∃ less, fuel = less + 1 := ⟨fuel - 1, by omega⟩
      have first : ReadsBack numbers value := each (name, value) List.mem_cons_self
      cases others with
      | nil =>
          rw [stringifyMembers, List.length_append, List.length_cons] at enough
          rw [stringifyMembers, List.append_assoc, List.cons_append, readMembers, readName_quote]
          simp only [first fuel _ (by omega) (stops_brace rest),
            skip_of_printed (show isSpace (ascii '}') = false by decide), if_true,
            if_neg (show ascii '}' ≠ ascii ',' by decide)]
      | cons next others =>
          have later := ih nofun (fun value member => each value (List.mem_cons_of_mem _ member))
            fuel rest
          rw [stringifyMembers, List.length_append, List.length_cons, List.length_append,
            List.length_cons] at enough
          rw [stringifyMembers, List.append_assoc, List.cons_append, readMembers, readName_quote]
          simp only [List.append_assoc, List.cons_append, first fuel _ (by omega) (stops_comma _),
            skip_of_printed (show isSpace (ascii ',') = false by decide), if_true,
            later (by omega), Option.map_some]

theorem merge_of_nodup {members : List (Units × Json UInt16)}
    (distinct : (members.map Prod.fst).Nodup) : merge members = members := by
  suffices general : ∀ merged, ((merged ++ members).map Prod.fst).Nodup →
      members.foldl (fun merged member => put merged member.1 member.2) merged =
        merged ++ members from general [] distinct
  clear distinct
  induction members with
  | nil => simp
  | cons member others ih =>
      intro merged distinct
      have fresh : member.1 ∉ merged.map Prod.fst := by
        rw [List.map_append, List.map_cons] at distinct
        exact fun inside =>
          (List.nodup_append.mp distinct).2.2 _ inside _ List.mem_cons_self rfl
      rw [List.foldl_cons, put, if_neg fresh, ih _ (by simpa using distinct)]
      simp

theorem head_skip_ne {unit other : UInt16} (printed : isSpace unit = false) (ne : unit ≠ other)
    (rest : Units) : (skip (unit :: rest)).head? ≠ some other := by
  rw [skip_of_printed printed, List.head?_cons]
  exact fun same => ne (Option.some.inj same)

/-- No literal opens like a numeral. -/
theorem not_literal {first unit : UInt16} (ne : unit ≠ first) {word letters : Units}
    (same : word = first :: letters) (rest : Units) : ¬ word <+: unit :: rest := by
  subst same
  exact fun front => ne (List.cons_prefix_cons.mp front).1.symm

theorem readsBack_of_printable {json : Json UInt16} (printable : Printable numbers json) :
    ReadsBack numbers json := by
  induction printable with
  | null =>
      intro fuel rest enough _
      obtain ⟨fuel, rfl⟩ : ∃ less, fuel = less + 1 := ⟨fuel - 1, by omega⟩
      rfl
  | bool value =>
      intro fuel rest enough _
      obtain ⟨fuel, rfl⟩ : ∃ less, fuel = less + 1 := ⟨fuel - 1, by omega⟩
      cases value <;> rfl
  | @number value reads =>
      intro fuel rest enough stops
      obtain ⟨fuel, rfl⟩ : ∃ less, fuel = less + 1 := ⟨fuel - 1, by omega⟩
      obtain ⟨unit, front, same, low, high⟩ := reads.unit
      have other : ∀ character, (ascii character).toNat < 0x2d ∨ 0x39 < (ascii character).toNat →
          unit ≠ ascii character := by
        rintro character outside rfl
        omega
      have space : isSpace unit = false := by
        have bound : ∀ space : UInt16, space.toNat ≤ 0x20 → unit ≠ space := by
          rintro space small rfl
          omega
        simp [isSpace, bound 0x20 (by decide), bound 9 (by decide), bound 10 (by decide),
          bound 13 (by decide)]
      have ends := reads.ends rest stops
      have isTrue : literal "true" = ascii 't' :: literal "rue" := rfl
      have isFalse : literal "false" = ascii 'f' :: literal "alse" := rfl
      have isNull : literal "null" = ascii 'n' :: literal "ull" := rfl
      rw [same, List.cons_append] at ends
      rw [stringify, same, List.cons_append, readValue, skip_of_printed space]
      simp only [if_neg (other '{' (by decide)), if_neg (other '[' (by decide)),
        if_neg (other '"' (by decide)),
        if_neg (not_literal (other 't' (by decide)) isTrue (front ++ rest)),
        if_neg (not_literal (other 'f' (by decide)) isFalse (front ++ rest)),
        if_neg (not_literal (other 'n' (by decide)) isNull (front ++ rest)),
        ends, Option.map_some]
      rw [← same, reads.value]
  | string value =>
      intro fuel rest enough _
      obtain ⟨fuel, rfl⟩ : ∃ less, fuel = less + 1 := ⟨fuel - 1, by omega⟩
      rw [stringify, quote, List.cons_append, List.append_assoc, List.singleton_append, readValue,
        skip_of_printed (by decide)]
      simp only [if_neg (show ascii '"' ≠ ascii '{' by decide),
        if_neg (show ascii '"' ≠ ascii '[' by decide), if_true, unquote_quoteUnits, Option.map_some]
  | @array values each ih =>
      intro fuel rest enough _
      obtain ⟨fuel, rfl⟩ : ∃ less, fuel = less + 1 := ⟨fuel - 1, by omega⟩
      rw [stringify, List.length_cons, List.length_append, List.length_singleton] at enough
      rw [stringify, List.cons_append, List.append_assoc, List.singleton_append, readValue,
        skip_of_printed (by decide)]
      simp only [if_neg (show ascii '[' ≠ ascii '{' by decide), if_true]
      cases values with
      | nil => rfl
      | cons value others =>
          have items := readItems_stringify (List.cons_ne_nil value others) ih fuel rest (by omega)
          have opens : (skip (stringifyItems numbers (value :: others) ++
              ascii ']' :: rest)).head? ≠ some (ascii ']') := by
            obtain ⟨unit, front, same, printed, ne⟩ :=
              stringify_opens (each value List.mem_cons_self)
            cases others <;>
              (rw [stringifyItems, same]; exact head_skip_ne printed ne _)
          simp only [if_neg opens, items, Option.map_some]
  | @object members distinct each ih =>
      intro fuel rest enough _
      obtain ⟨fuel, rfl⟩ : ∃ less, fuel = less + 1 := ⟨fuel - 1, by omega⟩
      rw [stringify, List.length_cons, List.length_append, List.length_singleton] at enough
      rw [stringify, List.cons_append, List.append_assoc, List.singleton_append, readValue,
        skip_of_printed (by decide)]
      simp only [if_true]
      cases members with
      | nil => rfl
      | cons member others =>
          have inside :=
            readMembers_stringify (List.cons_ne_nil member others) ih fuel rest (by omega)
          have opens : (skip (stringifyMembers numbers (member :: others) ++
              ascii '}' :: rest)).head? ≠ some (ascii '}') := by
            cases others <;> exact head_skip_ne (by decide) (by decide) _
          simp only [if_neg opens, inside, Option.map_some, merge_of_nodup distinct]

/-- Each printable value is read back from its text. -/
theorem parse_stringify {json : Json UInt16} (printable : Printable numbers json) :
    parse numbers (stringify numbers json) = some json := by
  have back := readsBack_of_printable printable (2 * (stringify numbers json).length + 1) [] le_rfl
    (.inl rfl)
  rw [List.append_nil] at back
  rw [parse, back]
  rfl

/-- A number with one digit is read back. -/
theorem reads_digit {number : Rat} {unit : UInt16} (digit : isDigit unit = true)
    (written : numbers.write number = [unit]) (value : numbers.read [unit] = number) :
    Reads numbers number where
  opens := ⟨unit, [], written, .inr digit⟩
  ends rest stops := by
    have bounds := digit
    rw [isDigit, decide_eq_true_eq] at bounds
    have noSign : unit ≠ ascii '-' := by
      rintro rfl
      exact absurd bounds.1 (by decide)
    have whole : integerPart (unit :: rest) = some ([unit], rest) := by
      rw [integerPart]
      split
      · rfl
      · have ends : rest.takeWhile isDigit = [] ∧ rest.dropWhile isDigit = rest := by
          rcases stops with rfl | ⟨next, later, rfl, rfl | rfl | rfl⟩ <;> exact ⟨rfl, rfl⟩
        rw [digits, List.takeWhile_cons_of_pos digit, List.dropWhile_cons_of_pos digit, ends.1,
          ends.2, if_neg (List.cons_ne_nil _ _)]
    rw [written, List.singleton_append, numeral]
    simp only [if_neg noSign, whole, Option.bind_eq_bind, Option.bind_some]
    rcases stops with rfl | ⟨next, later, rfl, rfl | rfl | rfl⟩ <;> rfl
  value := by rw [written, value]
  plain other member := by
    have bounds := digit
    rw [isDigit, decide_eq_true_eq] at bounds
    rw [written, List.mem_singleton] at member
    subst member
    omega

end Values

section Paired

variable {numbers : NumberText}

/-- Each surrogate has its partner. -/
def Paired (units : Units) : Prop := ∃ characters, units = Utf16.encode characters

theorem paired_nil : Paired [] := ⟨[], rfl⟩

theorem Paired.append {first second : Units} (front : Paired first) (back : Paired second) :
    Paired (first ++ second) := by
  obtain ⟨early, rfl⟩ := front
  obtain ⟨late, rfl⟩ := back
  exact ⟨early ++ late, (Utf16.encode_append early late).symm⟩

/-- A code that is no surrogate is a character. -/
theorem toNat_character {code : Nat}
    (valid : code < 0xd800 ∨ 0xdfff < code ∧ code < 0x110000) : (Char.ofNat code).toNat = code := by
  rw [Char.ofNat, dif_pos valid]
  rfl

theorem paired_unit {unit : UInt16} (plain : isHigh unit = false ∧ isLow unit = false) :
    Paired [unit] := by
  have bound : unit.toNat < 0x10000 := unit.toNat_lt
  simp only [isHigh, isLow, decide_eq_false_iff_not] at plain
  have code : (Char.ofNat unit.toNat).toNat = unit.toNat :=
    toNat_character (by omega)
  refine ⟨[.ofNat unit.toNat], ?_⟩
  rw [Utf16.encode, List.flatMap_cons, List.flatMap_nil, List.append_nil, Utf16.encodeCharacter,
    code, if_pos bound, UInt16.ofNat_toNat]

theorem Paired.cons {unit : UInt16} {rest : Units}
    (plain : isHigh unit = false ∧ isLow unit = false)
    (later : Paired rest) : Paired (unit :: rest) :=
  (paired_unit plain).append later

theorem paired_plain {units : Units} (plain : ∀ unit ∈ units, unit.toNat < 0xd800) :
    Paired units := by
  induction units with
  | nil => exact paired_nil
  | cons unit rest ih =>
      have small := plain unit List.mem_cons_self
      refine .cons ?_ (ih fun other member => plain other (List.mem_cons_of_mem _ member))
      simp only [isHigh, isLow, decide_eq_false_iff_not]
      omega

theorem paired_of_all {units : Units} (plain : (units.all fun unit => unit.toNat < 0xd800) = true) :
    Paired units :=
  paired_plain fun unit member => of_decide_eq_true (List.all_eq_true.mp plain unit member)

theorem paired_surrogates {high low : UInt16} (paired : (isHigh high && isLow low) = true) :
    Paired [high, low] := by
  simp only [isHigh, isLow, Bool.and_eq_true, decide_eq_true_eq] at paired
  have code : (Char.ofNat (0x10000 + (high.toNat - 0xd800) * 0x400 + (low.toNat - 0xdc00))).toNat =
      0x10000 + (high.toNat - 0xd800) * 0x400 + (low.toNat - 0xdc00) :=
    toNat_character (by omega)
  refine ⟨[.ofNat (0x10000 + (high.toNat - 0xd800) * 0x400 + (low.toNat - 0xdc00))], ?_⟩
  rw [Utf16.encode, List.flatMap_cons, List.flatMap_nil, List.append_nil, Utf16.encodeCharacter,
    code, if_neg (by omega)]
  have first : 0xd800 + (0x10000 + (high.toNat - 0xd800) * 0x400 + (low.toNat - 0xdc00) - 0x10000) /
      0x400 = high.toNat := by
    omega
  have second : 0xdc00 + (0x10000 + (high.toNat - 0xd800) * 0x400 + (low.toNat - 0xdc00) -
      0x10000) % 0x400 = low.toNat := by
    omega
  rw [first, second, UInt16.ofNat_toNat, UInt16.ofNat_toNat]

theorem paired_quoteUnit (unit : UInt16) : Paired (quoteUnit unit) := by
  rw [quoteUnit]
  split
  · next escape found =>
      have listed := List.mem_of_find?_eq_some found
      simp only [escapes, List.mem_cons, List.not_mem_nil, or_false] at listed
      refine paired_of_all ?_
      rcases listed with rfl | rfl | rfl | rfl | rfl | rfl | rfl <;> decide
  · have bound : unit.toNat < 0x10000 := unit.toNat_lt
    split
    · have small : ∀ digit < 0x10, (hexDigit digit).toNat < 0xd800 := by
        intro digit less
        rw [toNat_hexDigit less]
        split <;> omega
      refine paired_plain ?_
      simp only [List.forall_mem_cons, List.not_mem_nil, false_implies, implies_true, and_true]
      exact ⟨by decide, by decide, small _ (by omega), small _ (by omega), small _ (by omega),
        small _ (by omega)⟩
    · next printed =>
        simp only [not_or, Bool.not_eq_true] at printed
        exact paired_unit printed.2

theorem paired_quoteUnits (string : Units) : Paired (quoteUnits string) := by
  induction string using quoteUnits.induct with
  | case1 => exact paired_nil
  | case2 high low later paired ih =>
      rw [quoteUnits, if_pos paired]
      exact (paired_surrogates paired).append ih
  | case3 high low later alone ih =>
      rw [quoteUnits, if_neg alone]
      exact (paired_quoteUnit high).append ih
  | case4 unit => exact paired_quoteUnit unit

theorem paired_quote (string : Units) : Paired (quote string) :=
  .cons ⟨by decide, by decide⟩ ((paired_quoteUnits string).append (paired_of_all (by decide)))

theorem paired_items {values : List (Json UInt16)}
    (each : ∀ value ∈ values, Paired (stringify numbers value)) :
    Paired (stringifyItems numbers values) := by
  induction values with
  | nil => exact paired_nil
  | cons value others ih =>
      have here := each value List.mem_cons_self
      cases others with
      | nil => exact here
      | cons next others =>
          have later := ih fun other member => each other (List.mem_cons_of_mem _ member)
          exact here.append (.cons ⟨by decide, by decide⟩ later)

theorem paired_members {members : List (Units × Json UInt16)}
    (each : ∀ member ∈ members, Paired (stringify numbers member.2)) :
    Paired (stringifyMembers numbers members) := by
  induction members with
  | nil => exact paired_nil
  | cons member others ih =>
      obtain ⟨name, value⟩ := member
      have here : Paired (stringify numbers value) := each (name, value) List.mem_cons_self
      cases others with
      | nil => exact (paired_quote name).append (.cons ⟨by decide, by decide⟩ here)
      | cons next others =>
          have later := ih fun other member => each other (List.mem_cons_of_mem _ member)
          exact (paired_quote name).append
            (.cons ⟨by decide, by decide⟩ (here.append (.cons ⟨by decide, by decide⟩ later)))

/-- The text of a value can be encoded without loss, also when its strings cannot. -/
theorem paired_stringify {json : Json UInt16} (printable : Printable numbers json) :
    Paired (stringify numbers json) := by
  induction printable with
  | null => exact show Paired (literal "null") from paired_of_all (by decide)
  | bool value =>
      cases value with
      | false => exact show Paired (literal "false") from paired_of_all (by decide)
      | true => exact show Paired (literal "true") from paired_of_all (by decide)
  | number reads =>
      exact paired_plain fun unit member => (reads.plain unit member).trans (by decide)
  | string value => exact paired_quote value
  | array each ih =>
      exact .cons ⟨by decide, by decide⟩ ((paired_items ih).append (paired_of_all (by decide)))
  | object distinct each ih =>
      exact .cons ⟨by decide, by decide⟩ ((paired_members ih).append (paired_of_all (by decide)))

end Paired

end Centro.Library.JsonText
