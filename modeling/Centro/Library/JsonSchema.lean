import Mathlib.Data.List.Nodup
import Mathlib.Data.Rat.Defs
import Mathlib.Tactic.TypeStar

namespace Centro.Library

/-- These are the values of JSON over strings of the given characters. -/
inductive Json (α : Type) where
  | null
  | bool (value : Bool)
  | number (value : Rat)
  | string (value : List α)
  | array (items : List (Json α))
  | object (members : List (List α × Json α))

namespace Json

variable {α : Type}

/-- The member of an object with the given name. -/
def member [DecidableEq α] (name : List α) : Json α → Option (Json α)
  | .object members => (members.find? fun member => member.1 = name).map Prod.snd
  | _ => none

def members : Json α → List (List α × Json α)
  | .object members => members
  | _ => []

def items : Json α → List (Json α)
  | .array items => items
  | _ => []

def string? : Json α → Option (List α)
  | .string value => some value
  | _ => none

def number? : Json α → Option Rat
  | .number value => some value
  | _ => none

def bool? : Json α → Option Bool
  | .bool value => some value
  | _ => none

end Json

/-- A schema accepts or rejects each value. -/
abbrev Schema (α : Type) := Json α → Bool

namespace Schema

variable {α : Type}

def boolean : Schema α
  | .bool _ => true
  | _ => false

/-- The type `integer` has no fractional part. -/
def integer (minimum : Option Rat) : Schema α
  | .number value => value.den = 1 && minimum.all fun bound => bound ≤ value
  | _ => false

/-- The length of a string is counted in the given measure. -/
def string (measure : List α → Nat) (maxLength : Option Nat) (pattern : Option (List α → Bool)) :
    Schema α
  | .string value => (maxLength.all fun bound => measure value ≤ bound) &&
      pattern.all fun accepts => accepts value
  | _ => false

def array (maxItems : Option Nat) (items : Schema α) : Schema α
  | .array values => (maxItems.all fun bound => values.length ≤ bound) && values.all items
  | _ => false

/-- Every required name is there, and each member satisfies the schemas for its name. A member with
a name of its own or one that a pattern accepts is not additional. -/
def object [DecidableEq α] (required : List (List α)) (properties : List (List α × Schema α))
    (additional : Bool) (patterns : List ((List α → Bool) × Schema α)) (maxProperties : Option Nat) :
    Schema α
  | .object members =>
      (required.all fun name => members.any fun member => member.1 = name) &&
      (maxProperties.all fun bound => members.length ≤ bound) &&
      members.all fun (name, value) =>
        (properties.all fun (known, schema) => known ≠ name || schema value) &&
        (patterns.all fun (accepts, schema) => !accepts name || schema value) &&
        (additional || (properties.any fun (known, _) => known = name) ||
          patterns.any fun (accepts, _) => accepts name)
  | _ => false

/-- A value satisfies two schemas. -/
def both (first second : Schema α) : Schema α := fun value => first value && second value

/-- A value satisfies exactly one of the schemas. -/
def oneOf (schemas : List (Schema α)) : Schema α := fun value =>
  schemas.countP (fun schema => schema value) = 1

/-- Only a string has a length. -/
def lengths (measure : List α → Nat) (minLength maxLength : Nat) : Schema α
  | .string value => minLength ≤ measure value && measure value ≤ maxLength
  | _ => true

/-- Only an array has items. -/
def minItems (bound : Nat) : Schema α
  | .array values => bound ≤ values.length
  | _ => true

/-- The value is one of these numbers. -/
def numbers (values : List Rat) : Schema α
  | .number value => values.contains value
  | _ => false

section Objects

variable [DecidableEq α] {required : List (List α)} {properties : List (List α × Schema α)}
  {additional : Bool} {patterns : List ((List α → Bool) × Schema α)} {maxProperties : Option Nat}

theorem object_eq_true {members : List (List α × Json α)} :
    object required properties additional patterns maxProperties (.object members) = true ↔
      (∀ name ∈ required, ∃ value, (name, value) ∈ members) ∧
      (∀ bound, maxProperties = some bound → members.length ≤ bound) ∧
      ∀ name value, (name, value) ∈ members →
        (∀ schema, (name, schema) ∈ properties → schema value = true) ∧
        (∀ accepts schema, (accepts, schema) ∈ patterns → accepts name = true →
          schema value = true) ∧
        (additional = true ∨ (∃ schema, (name, schema) ∈ properties) ∨
          ∃ accepts schema, (accepts, schema) ∈ patterns ∧ accepts name = true) := by
  rw [object, Bool.and_eq_true, Bool.and_eq_true, and_assoc]
  refine and_congr ?_ (and_congr ?_ ?_)
  · simp
  · cases maxProperties <;> simp
  · simp only [List.all_eq_true, Prod.forall]
    refine forall_congr' fun name => forall_congr' fun value => imp_congr_right fun _ => ?_
    rw [Bool.and_eq_true, Bool.and_eq_true, and_assoc]
    refine and_congr ?_ (and_congr ?_ ?_)
    · simp only [List.all_eq_true, Prod.forall, Bool.or_eq_true, decide_eq_true_eq, Ne,
        ← imp_iff_not_or]
      constructor
      · exact fun all schema known => all name schema known rfl
      · rintro all _ schema known rfl
        exact all schema known
    · simp only [List.all_eq_true, Prod.forall, Bool.or_eq_true, Bool.not_eq_true', ← Bool.not_eq_true,
        ← imp_iff_not_or]
    · simp [or_assoc]

/-- A member satisfies the schema for its name. -/
theorem object_member {json value : Json α} {name : List α} {schema : Schema α}
    (valid : object required properties additional patterns maxProperties json = true)
    (known : (name, schema) ∈ properties) (found : json.member name = some value) :
    schema value = true := by
  cases json with
  | object members =>
      obtain ⟨entry, first, rfl⟩ := Option.map_eq_some_iff.mp found
      have named : entry.1 = name := by simpa using List.find?_some first
      obtain ⟨_, _, each⟩ := object_eq_true.mp valid
      exact (each entry.1 entry.2 (List.mem_of_find?_eq_some first)).1 schema (named ▸ known)
  | _ => cases found

/-- Members that have a schema of their own each have to satisfy it. -/
theorem object_closed {entries : List (List α × Schema α × Json α)}
    (distinct : (properties.map Prod.fst).Nodup)
    (known : ∀ entry ∈ entries, (entry.1, entry.2.1) ∈ properties)
    (there : ∀ name ∈ required, name ∈ entries.map Prod.fst) :
    object required properties false [] none
        (.object (entries.map fun entry => (entry.1, entry.2.2))) = true ↔
      ∀ entry ∈ entries, entry.2.1 entry.2.2 = true := by
  rw [object_eq_true]
  constructor
  · rintro ⟨_, _, each⟩ entry member
    exact (each entry.1 entry.2.2 (List.mem_map_of_mem member)).1 _ (known entry member)
  · intro all
    refine ⟨fun name needed => ?_, nofun, fun name value member => ?_⟩
    · obtain ⟨entry, member, rfl⟩ := List.mem_map.mp (there name needed)
      exact ⟨entry.2.2, List.mem_map_of_mem member⟩
    · obtain ⟨entry, inside, same⟩ := List.mem_map.mp member
      obtain ⟨rfl, rfl⟩ := Prod.mk.inj same
      refine ⟨fun schema listed => ?_, by simp, .inr (.inl ⟨_, known entry inside⟩)⟩
      have only := List.inj_on_of_nodup_map distinct (known entry inside) listed rfl
      exact (Prod.mk.inj only).2 ▸ all entry inside

end Objects

end Schema
end Centro.Library
