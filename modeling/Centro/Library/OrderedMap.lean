import Mathlib.Data.List.Nodup

namespace Centro.Library

/-- This set keeps its members in the order of their insertion. -/
structure OrderedSet (α : Type*) where
  items : List α
  nodup : items.Nodup
  deriving DecidableEq

namespace OrderedSet

variable {α : Type*}

def empty : OrderedSet α := ⟨[], List.nodup_nil⟩

instance : Membership α (OrderedSet α) := ⟨fun set item => item ∈ set.items⟩

theorem mem_def {item : α} {set : OrderedSet α} : item ∈ set ↔ item ∈ set.items := Iff.rfl

def size (set : OrderedSet α) : Nat := set.items.length

/-- Members that are not kept leave the others in their order. -/
def filter (set : OrderedSet α) (keep : α → Bool) : OrderedSet α :=
  ⟨set.items.filter keep, set.nodup.filter _⟩

@[simp] theorem mem_filter {set : OrderedSet α} {keep : α → Bool} {item : α} :
    item ∈ set.filter keep ↔ item ∈ set ∧ keep item = true := List.mem_filter

/-- Each member is kept or counted. -/
theorem size_filter_not (set : OrderedSet α) (takes : α → Bool) :
    (set.filter fun item => !takes item).size + set.items.countP takes = set.size := by
  have whole := @List.length_eq_countP_add_countP _ takes set.items
  have rest : (set.items.filter fun item => !takes item).length =
      set.items.countP fun item => !takes item := List.countP_eq_length_filter.symm
  rw [size, size, filter, rest]
  simpa [Nat.add_comm] using whole.symm

@[simp] theorem not_mem_empty (item : α) : item ∉ (empty : OrderedSet α) := List.not_mem_nil

@[simp] theorem size_empty : (empty : OrderedSet α).size = 0 := rfl

theorem size_eq_zero {set : OrderedSet α} : set.size = 0 ↔ ∀ item, item ∉ set := by
  simp [size, mem_def, List.eq_nil_iff_forall_not_mem]

variable [DecidableEq α]

instance (item : α) (set : OrderedSet α) : Decidable (item ∈ set) :=
  inferInstanceAs (Decidable (item ∈ set.items))

/-- An item that is present keeps its place. -/
def add (set : OrderedSet α) (item : α) : OrderedSet α :=
  if present : item ∈ set.items then set
  else ⟨set.items ++ [item], by
    rw [List.nodup_append]
    refine ⟨set.nodup, List.nodup_singleton item, ?_⟩
    intro first member second last equal
    rw [List.mem_singleton.mp last] at equal
    exact present (equal ▸ member)⟩

def delete (set : OrderedSet α) (item : α) : OrderedSet α :=
  ⟨set.items.filter (· ≠ item), set.nodup.filter _⟩

@[simp] theorem mem_add {set : OrderedSet α} {item other : α} :
    other ∈ set.add item ↔ other ∈ set ∨ other = item := by
  unfold add
  split
  · next present =>
      constructor
      · exact Or.inl
      · rintro (member | rfl)
        · exact member
        · exact present
  · simp [mem_def]

@[simp] theorem mem_delete {set : OrderedSet α} {item other : α} :
    other ∈ set.delete item ↔ other ∈ set ∧ other ≠ item := by
  simp [mem_def, delete]

/-- A new member adds one. -/
theorem size_add {set : OrderedSet α} {item : α} (fresh : item ∉ set) :
    (set.add item).size = set.size + 1 := by
  have absent : item ∉ set.items := fresh
  rw [add, dif_neg absent, size, size, List.length_append]
  rfl

end OrderedSet

/-- This map keeps its entries in the order in which their keys were first set. -/
structure OrderedMap (κ ν : Type*) where
  entries : List (κ × ν)
  nodupKeys : (entries.map Prod.fst).Nodup
  deriving DecidableEq

namespace OrderedMap

variable {κ ν : Type*}

def empty : OrderedMap κ ν := ⟨[], List.nodup_nil⟩

def size (map : OrderedMap κ ν) : Nat := map.entries.length

def keys (map : OrderedMap κ ν) : List κ := map.entries.map Prod.fst

@[simp] theorem size_empty : (empty : OrderedMap κ ν).size = 0 := rfl

@[simp] theorem entries_empty : (empty : OrderedMap κ ν).entries = [] := rfl

theorem value_unique {map : OrderedMap κ ν} {key : κ} {first second : ν}
    (left : (key, first) ∈ map.entries) (right : (key, second) ∈ map.entries) :
    first = second := by
  have equal := List.inj_on_of_nodup_map map.nodupKeys left right rfl
  exact congrArg Prod.snd equal

variable [DecidableEq κ]

def get (map : OrderedMap κ ν) (key : κ) : Option ν :=
  (map.entries.find? fun entry => entry.1 = key).map Prod.snd

def has (map : OrderedMap κ ν) (key : κ) : Bool := (map.get key).isSome

/-- A key that is present keeps its place and gets the new value. -/
def set (map : OrderedMap κ ν) (key : κ) (value : ν) : OrderedMap κ ν :=
  if present : key ∈ map.keys then
    ⟨map.entries.map fun entry => if entry.1 = key then (key, value) else entry, by
      have same : (map.entries.map fun entry => if entry.1 = key then (key, value) else entry).map
          Prod.fst = map.entries.map Prod.fst := by
        rw [List.map_map]
        refine List.map_congr_left fun entry _ => ?_
        by_cases equal : entry.1 = key <;> simp [equal]
      exact same ▸ map.nodupKeys⟩
  else
    ⟨map.entries ++ [(key, value)], by
      rw [List.map_append, List.nodup_append]
      refine ⟨map.nodupKeys, List.nodup_singleton _, ?_⟩
      intro first member second last equal
      subst equal
      simp only [List.map_cons, List.map_nil, List.mem_singleton] at last
      exact present (last ▸ member)⟩

def delete (map : OrderedMap κ ν) (key : κ) : OrderedMap κ ν :=
  ⟨map.entries.filter (·.1 ≠ key), map.nodupKeys.sublist (List.filter_sublist.map _)⟩

/-- A key has the value of its only entry. -/
theorem get_eq_some {map : OrderedMap κ ν} {key : κ} {value : ν} :
    map.get key = some value ↔ (key, value) ∈ map.entries := by
  constructor
  · intro found
    obtain ⟨entry, first, rfl⟩ := Option.map_eq_some_iff.mp found
    have same : entry.1 = key := by simpa using List.find?_some first
    exact same ▸ List.mem_of_find?_eq_some first
  · intro member
    cases first : map.entries.find? fun entry => entry.1 = key with
    | none =>
        have differs := List.find?_eq_none.mp first _ member
        simp at differs
    | some entry =>
        have same : entry.1 = key := by simpa using List.find?_some first
        have other : (key, entry.2) ∈ map.entries := same ▸ List.mem_of_find?_eq_some first
        simp [get, first, value_unique other member]

theorem get_eq_none {map : OrderedMap κ ν} {key : κ} :
    map.get key = none ↔ ∀ value, (key, value) ∉ map.entries := by
  simp only [← get_eq_some, Option.eq_none_iff_forall_ne_some, ne_eq]

@[simp] theorem get_empty (key : κ) : (empty : OrderedMap κ ν).get key = none := rfl

theorem mem_keys {map : OrderedMap κ ν} {key : κ} :
    key ∈ map.keys ↔ ∃ value, map.get key = some value := by
  simp [keys, get_eq_some]

theorem mem_entries_set {map : OrderedMap κ ν} {key other : κ} {value stored : ν} :
    (other, stored) ∈ (map.set key value).entries ↔
      if other = key then stored = value else (other, stored) ∈ map.entries := by
  unfold set
  split
  · next present =>
      obtain ⟨old, found⟩ := mem_keys.mp present
      have member := get_eq_some.mp found
      simp only [List.mem_map]
      by_cases same : other = key
      · subst same
        constructor
        · rintro ⟨entry, inside, equal⟩
          by_cases here : entry.1 = other <;> simp_all
        · intro equal
          exact ⟨(other, old), member, by simp_all⟩
      · constructor
        · rintro ⟨entry, inside, equal⟩
          by_cases here : entry.1 = key <;> simp_all
        · intro inside
          exact ⟨(other, stored), by simp_all, by simp [same]⟩
  · next absent =>
      have fresh : ∀ old, (key, old) ∉ map.entries := fun old member =>
        absent (List.mem_map.mpr ⟨_, member, rfl⟩)
      by_cases same : other = key
      · subst same
        simp [fresh]
      · simp [same]

@[simp] theorem get_set {map : OrderedMap κ ν} {key other : κ} {value : ν} :
    (map.set key value).get other = if other = key then some value else map.get other := by
  refine Option.ext fun stored => ?_
  rw [get_eq_some, mem_entries_set]
  by_cases same : other = key
  · simp [same, eq_comm]
  · simp [same, get_eq_some]

/-- A key that has the value already keeps the map as it is. -/
theorem set_of_get {map : OrderedMap κ ν} {key : κ} {value : ν}
    (found : map.get key = some value) : map.set key value = map := by
  have present : key ∈ map.keys := mem_keys.mpr ⟨value, found⟩
  have same : map.entries.map (fun entry => if entry.1 = key then (key, value) else entry) =
      map.entries := by
    refine (List.map_congr_left fun entry member => ?_).trans (List.map_id _)
    split
    · next here =>
        subst here
        rw [value_unique (get_eq_some.mp found) member]
        rfl
    · rfl
  unfold set
  rw [dif_pos present]
  cases map
  simpa using same

/-- A new key comes last. -/
theorem entries_set_of_absent {map : OrderedMap κ ν} {key : κ} (value : ν)
    (absent : map.get key = none) : (map.set key value).entries = map.entries ++ [(key, value)] := by
  have missing : key ∉ map.keys := by
    rw [mem_keys, absent]
    simp
  unfold set
  rw [dif_neg missing]

theorem mem_entries_delete {map : OrderedMap κ ν} {key other : κ} {stored : ν} :
    (other, stored) ∈ (map.delete key).entries ↔ (other, stored) ∈ map.entries ∧ other ≠ key := by
  simp [delete]

theorem entries_delete {map : OrderedMap κ ν} {entry : κ × ν} {front back : List (κ × ν)}
    (entries : map.entries = front ++ entry :: back) :
    (map.delete entry.1).entries = front ++ back := by
  have distinct := map.nodupKeys
  rw [entries, List.map_append, List.map_cons, List.nodup_append] at distinct
  obtain ⟨_, rest, apart⟩ := distinct
  have other : ∀ item ∈ front ++ back, item.1 ≠ entry.1 := by
    intro item member
    rcases List.mem_append.mp member with early | late
    · exact apart item.1 (List.mem_map_of_mem early) entry.1 List.mem_cons_self
    · intro same
      exact (List.nodup_cons.mp rest).1 (same ▸ List.mem_map_of_mem late)
  have kept : (front ++ back).filter (·.1 ≠ entry.1) = front ++ back :=
    List.filter_eq_self.mpr fun item member => decide_eq_true (other item member)
  rw [List.filter_append] at kept
  simp only [delete, entries, List.filter_append, List.filter_cons, ne_eq, not_true_eq_false,
    decide_false, Bool.false_eq_true, if_false]
  exact kept

@[simp] theorem get_delete {map : OrderedMap κ ν} {key other : κ} :
    (map.delete key).get other = if other = key then none else map.get other := by
  refine Option.ext fun stored => ?_
  rw [get_eq_some, mem_entries_delete]
  by_cases same : other = key <;> simp [same, get_eq_some]

theorem size_eq_zero {map : OrderedMap κ ν} : map.size = 0 ↔ ∀ key, map.get key = none := by
  constructor
  · intro none key
    rw [get_eq_none, List.eq_nil_of_length_eq_zero none]
    simp
  · intro absent
    rw [size, List.length_eq_zero_iff, List.eq_nil_iff_forall_not_mem]
    rintro ⟨key, value⟩ member
    exact get_eq_none.mp (absent key) value member

end OrderedMap

/-- The loop visits each listed item that is still present when its turn comes. -/
def visitPresent {σ α : Type*} (present : σ → α → Bool) (body : σ → α → σ) : σ → List α → σ
  | state, [] => state
  | state, item :: rest =>
      visitPresent present body (if present state item then body state item else state) rest

/-- The loop keeps what each visit keeps. -/
theorem visitPresent_invariant {σ α : Type*} {present : σ → α → Bool} {body : σ → α → σ}
    {invariant : σ → Prop} {items : List α}
    (kept : ∀ state, ∀ item ∈ items, invariant state → present state item = true →
      invariant (body state item))
    {state : σ} (start : invariant state) : invariant (visitPresent present body state items) := by
  induction items generalizing state with
  | nil => exact start
  | cons item rest ih =>
      refine ih (fun state item member => kept state item (List.mem_cons_of_mem _ member)) ?_
      split
      · next here => exact kept state item List.mem_cons_self start here
      · exact start

/-- After the loop each listed item has what its own visit brings about, what an absent item
already has, and what no later visit takes away. -/
theorem visitPresent_reaches {σ α : Type*} {present : σ → α → Bool} {body : σ → α → σ}
    (invariant : σ → Prop) (settled : σ → α → Prop) {items : List α}
    (kept : ∀ state, ∀ item ∈ items, invariant state → present state item = true →
      invariant (body state item))
    (visited : ∀ state, ∀ item ∈ items, invariant state → present state item = true →
      settled (body state item) item)
    (absent : ∀ state, ∀ item ∈ items, invariant state → present state item = false →
      settled state item)
    (stays : ∀ state item other, settled state other → settled (body state item) other)
    {state : σ} (start : invariant state) :
    ∀ item ∈ items, settled (visitPresent present body state items) item := by
  induction items generalizing state with
  | nil => simp
  | cons item rest ih =>
      have later : ∀ {next : σ} {other : α}, settled next other →
          settled (visitPresent present body next rest) other := by
        intro next other done
        clear ih kept visited absent
        induction rest generalizing next with
        | nil => exact done
        | cons head tail ih =>
            refine ih ?_
            split
            · exact stays next head other done
            · exact done
      have step : invariant (if present state item then body state item else state) := by
        split
        · next here => exact kept state item List.mem_cons_self start here
        · exact start
      intro other member
      rcases List.mem_cons.mp member with rfl | inside
      · refine later ?_
        split
        · next here => exact visited state other List.mem_cons_self start here
        · next gone => exact absent state other List.mem_cons_self start (by simpa using gone)
      · exact ih (fun state item member => kept state item (List.mem_cons_of_mem _ member))
          (fun state item member => visited state item (List.mem_cons_of_mem _ member))
          (fun state item member => absent state item (List.mem_cons_of_mem _ member))
          step other inside

end Centro.Library
