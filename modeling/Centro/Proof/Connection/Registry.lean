import Centro.Proof.Connection.Effects

namespace Centro

open Library

/-- The registry reads these variables of a connection. -/
structure Entry where
  number : Nat
  accepted : Bool
  connid : JsString
  closed : Bool
  hsConns : OrderedSet Record

def Connection.entry (connection : Connection) : Entry where
  number := connection.number
  accepted := connection.accepted
  connid := connection.connid
  closed := connection.closed
  hsConns := connection.hsConns

def Entry.Open (entry : Entry) : Prop := entry.accepted = true ∧ entry.closed = false

/-- This invariant ties `_connids`, `_connections` and the sets `hs_conns` together. -/
structure Registry (shared : Shared) (entries : List Entry) : Prop where
  numbered : ∀ (number : Nat) (entry : Entry), entries[number]? = some entry → entry.number = number
  connids : ∀ (connid : JsString) (number : Nat), shared.connids.get connid = some number ↔
    ∃ entry : Entry, entries[number]? = some entry ∧ entry.Open ∧ entry.connid = connid
  records : ∀ (uri : Uri) (record : Record), record ∈ shared.registered uri ↔
    record.uri = uri ∧ ∃ entry : Entry, entries[record.connection]? = some entry ∧ entry.Open ∧
      record ∈ entry.hsConns
  nonempty : ∀ uri conns, shared.connections.get uri = some conns → conns.size ≠ 0
  shut : ∀ (number : Nat) (entry : Entry), entries[number]? = some entry → ¬entry.Open →
    ∀ record, record ∉ entry.hsConns
  owned : ∀ (number : Nat) (entry : Entry), entries[number]? = some entry →
    ∀ record ∈ entry.hsConns, record.connection = number
  known : ∀ uri, Notice.unknownUri uri ∉ shared.notices

namespace Shared

variable {shared : Shared} {record : Record}

@[simp] theorem register_connids : (shared.register record).connids = shared.connids := rfl

/-- A record is added under its uri. -/
@[simp] theorem mem_register {uri : Uri} {other : Record} :
    other ∈ (shared.register record).registered uri ↔
      other ∈ shared.registered uri ∨ (uri = record.uri ∧ other = record) := by
  by_cases same : uri = record.uri
  · subst same
    simp [register, registered]
  · simp [register, registered, same]

/-- A record leaves no set of its uri empty. -/
theorem register_nonempty
    (nonempty : ∀ uri conns, shared.connections.get uri = some conns → conns.size ≠ 0) :
    ∀ uri conns, (shared.register record).connections.get uri = some conns → conns.size ≠ 0 := by
  intro uri conns found
  simp only [register, OrderedMap.get_set] at found
  split at found
  · obtain rfl := Option.some.inj found
    intro none
    exact OrderedSet.size_eq_zero.mp none record (by simp)
  · exact nonempty uri conns found

@[simp] theorem unregister_connids : (shared.unregister record).connids = shared.connids := by
  unfold unregister
  split
  · rfl
  · dsimp only
    split <;> rfl

/-- A record is removed from its uri. -/
@[simp] theorem mem_unregister {uri : Uri} {other : Record} :
    other ∈ (shared.unregister record).registered uri ↔
      other ∈ shared.registered uri ∧ ¬(uri = record.uri ∧ other = record) := by
  cases found : shared.connections.get record.uri with
  | none =>
      have unchanged : (shared.unregister record).connections = shared.connections := by
        simp [unregister, found]
      simp only [registered, unchanged]
      constructor
      · intro member
        refine ⟨member, ?_⟩
        rintro ⟨rfl, rfl⟩
        simp [found] at member
      · exact And.left
  | some conns =>
      by_cases last : (conns.delete record).size = 0
      · have gone : (shared.unregister record).connections =
            shared.connections.delete record.uri := by simp [unregister, found, last]
        by_cases same : uri = record.uri
        · subst same
          have only := OrderedSet.size_eq_zero.mp last other
          simp only [OrderedSet.mem_delete] at only
          simp only [registered, gone, found, OrderedMap.get_delete, if_pos, Option.getD_none,
            OrderedSet.not_mem_empty, Option.getD_some, true_and, false_iff]
          exact only
        · simp [registered, gone, same]
      · have kept : (shared.unregister record).connections =
            shared.connections.set record.uri (conns.delete record) := by
          simp [unregister, found, last]
        by_cases same : uri = record.uri
        · subst same
          simp [registered, kept, found]
        · simp [registered, kept, same]

/-- A set that gets empty is removed with its uri. -/
theorem unregister_nonempty
    (nonempty : ∀ uri conns, shared.connections.get uri = some conns → conns.size ≠ 0) :
    ∀ uri conns, (shared.unregister record).connections.get uri = some conns → conns.size ≠ 0 := by
  intro uri conns found
  unfold unregister at found
  split at found
  · exact nonempty uri conns found
  · dsimp only at found
    split at found
    · simp only [OrderedMap.get_delete] at found
      split at found
      · cases found
      · exact nonempty uri conns found
    · next more =>
        simp only [OrderedMap.get_set] at found
        split at found
        · exact Option.some.inj found ▸ more
        · exact nonempty uri conns found

/-- The removal of a registered record is told to nobody. -/
theorem unregister_notices (present : record ∈ shared.registered record.uri) :
    (shared.unregister record).notices = shared.notices := by
  unfold unregister
  split
  · next missing => simp [registered, missing] at present
  · dsimp only
    split <;> rfl

/-- Taking records out of the sets keeps the shape of `_connections` and never meets an unknown URI,
as long as each record is registered. -/
theorem foldl_unregister (records : List Record) (nodup : records.Nodup)
    (present : ∀ record ∈ records, record ∈ shared.registered record.uri)
    (nonempty : ∀ uri conns, shared.connections.get uri = some conns → conns.size ≠ 0) :
    (records.foldl unregister shared).connids = shared.connids ∧
    (records.foldl unregister shared).notices = shared.notices ∧
    (∀ uri conns, (records.foldl unregister shared).connections.get uri = some conns →
      conns.size ≠ 0) ∧
    ∀ uri other, other ∈ (records.foldl unregister shared).registered uri ↔
      other ∈ shared.registered uri ∧ ¬(uri = other.uri ∧ other ∈ records) := by
  induction records generalizing shared with
  | nil => exact ⟨rfl, rfl, nonempty, fun uri other => by simp⟩
  | cons record rest ih =>
      obtain ⟨fresh, nodup⟩ := List.nodup_cons.mp nodup
      have here := present record List.mem_cons_self
      have remaining : ∀ other ∈ rest,
          other ∈ (shared.unregister record).registered other.uri := by
        intro other member
        refine mem_unregister.mpr ⟨present other (List.mem_cons_of_mem _ member), ?_⟩
        rintro ⟨_, rfl⟩
        exact fresh member
      obtain ⟨connids, notices, shape, members⟩ :=
        ih nodup remaining (unregister_nonempty nonempty)
      refine ⟨connids.trans unregister_connids, notices.trans (unregister_notices here), shape, ?_⟩
      intro uri other
      rw [List.foldl_cons, members, mem_unregister, List.mem_cons]
      by_cases same : other = record
      · subst same
        simp [fresh]
      · simp [same]

/-- The event `empty` is emitted exactly when the last id goes, and no id comes. -/
structure Drains (before after : Shared) : Prop where
  ids : ∀ connid number, after.connids.get connid = some number →
    before.connids.get connid = some number
  emptied : after.notices.count .empty = before.notices.count .empty +
    if before.connids.size ≠ 0 ∧ after.connids.size = 0 then 1 else 0

variable {before middle after : Shared}

/-- Nothing is added while the ids drain. -/
theorem Drains.stays (drains : before.Drains after) (none : before.connids.size = 0) :
    after.connids.size = 0 := by
  rw [OrderedMap.size_eq_zero] at none ⊢
  intro connid
  cases found : after.connids.get connid with
  | none => rfl
  | some number =>
      have known := drains.ids connid number found
      rw [none connid] at known
      cases known

/-- The ids that stay need no event `empty`. -/
theorem Drains.of_connids (connids : after.connids = before.connids)
    (notices : after.notices.count .empty = before.notices.count .empty) : before.Drains after where
  ids := fun connid number found => connids ▸ found
  emptied := by
    rw [connids, notices]
    simp

theorem Drains.refl (shared : Shared) : shared.Drains shared := .of_connids rfl rfl

/-- What drains can drain further. -/
theorem Drains.trans (first : before.Drains middle) (second : middle.Drains after) :
    before.Drains after where
  ids := fun connid number found => first.ids connid number (second.ids connid number found)
  emptied := by
    have stays := first.stays
    have gone := second.stays
    have now := first.emptied
    have later := second.emptied
    by_cases start : before.connids.size = 0 <;> by_cases half : middle.connids.size = 0 <;>
      by_cases last : after.connids.size = 0 <;> simp_all

/-- The removal of a record emits no event `empty`. -/
theorem unregister_count :
    (shared.unregister record).notices.count .empty = shared.notices.count .empty := by
  unfold unregister
  split
  · simp
  · dsimp only
    split <;> rfl

/-- The removal of records keeps the ids. -/
theorem foldl_unregister_connids (records : List Record) (shared : Shared) :
    (records.foldl unregister shared).connids = shared.connids := by
  induction records generalizing shared with
  | nil => rfl
  | cons record rest ih => rw [List.foldl_cons, ih, unregister_connids]

/-- The removal of records emits no event `empty`. -/
theorem foldl_unregister_count (records : List Record) (shared : Shared) :
    (records.foldl unregister shared).notices.count .empty = shared.notices.count .empty := by
  induction records generalizing shared with
  | nil => rfl
  | cons record rest ih => rw [List.foldl_cons, ih, unregister_count]

/-- The ids drain when one of them goes and `empty` is emitted behind the last one. -/
theorem Drains.delete {connid : JsString} {number : Nat}
    (present : before.connids.get connid = some number)
    (connids : after.connids = before.connids.delete connid)
    (notices : after.notices.count .empty = before.notices.count .empty +
      if after.connids.size = 0 then 1 else 0) : before.Drains after where
  ids := by
    intro other found known
    rw [connids, OrderedMap.get_delete] at known
    split at known
    · cases known
    · exact known
  emptied := by
    have some : before.connids.size ≠ 0 := by
      intro none
      rw [OrderedMap.size_eq_zero.mp none connid] at present
      cases present
    simpa [some] using notices

end Shared

/-- An update in place is read back at its own index and nowhere else. -/
theorem getElem?_update {α : Type*} {items : List α} {number : Nat} {old : α}
    (here : items[number]? = some old) (new : α) (other : Nat) :
    (items.set number new)[other]? = if other = number then some new else items[other]? := by
  have inside : number < items.length := (List.getElem?_eq_some_iff.mp here).1
  rw [List.getElem?_set]
  by_cases same : number = other
  · simp [same, same ▸ inside]
  · simp [same, Ne.symm same]

/-- After an update in place every item has a property that the old items and the new one have. -/
theorem forall_update {α : Type*} {items : List α} {number : Nat} {old new : α}
    {property : Nat → α → Prop} (here : items[number]? = some old)
    (every : ∀ other item, items[other]? = some item → property other item)
    (updated : property number new) :
    ∀ other item, (items.set number new)[other]? = some item → property other item := by
  intro other item present
  rw [getElem?_update here] at present
  split at present
  · next same =>
      obtain rfl := Option.some.inj present
      exact same ▸ updated
  · exact every other item present

namespace Registry

variable {shared : Shared} {entries : List Entry} {number : Nat} {entry : Entry}

/-- At first nothing is registered. -/
theorem initial : Registry {} [] where
  numbered := by simp
  connids := by simp
  records := by simp [Shared.registered]
  nonempty := by simp
  shut := by simp
  owned := by simp
  known := by simp

/-- A call of `transport_connected` brings its variables along. -/
theorem append (registry : Registry shared entries) (numbered : entry.number = entries.length)
    (unaccepted : entry.accepted = false) (bare : ∀ record, record ∉ entry.hsConns) :
    Registry shared (entries ++ [entry]) := by
  have lookup : ∀ {other : Nat} {found : Entry}, (entries ++ [entry])[other]? = some found →
      entries[other]? = some found ∨ (other = entries.length ∧ found = entry) := by
    intro other found present
    rw [List.getElem?_append] at present
    split at present
    · exact Or.inl present
    · obtain ⟨inside, rfl⟩ := List.getElem?_eq_some_iff.mp present
      have only : other - entries.length = 0 := by simpa using inside
      exact Or.inr ⟨by omega, by simp⟩
  have old : ∀ {other : Nat} {found : Entry}, entries[other]? = some found →
      (entries ++ [entry])[other]? = some found := by
    intro other found present
    rw [List.getElem?_append_left (List.getElem?_eq_some_iff.mp present).1]
    exact present
  have unopened : ¬entry.Open := fun isOpen => Bool.noConfusion (unaccepted.symm.trans isOpen.1)
  exact {
    numbered := by
      intro other found present
      rcases lookup present with before | ⟨rfl, rfl⟩
      · exact registry.numbered other found before
      · exact numbered
    connids := by
      intro connid other
      rw [registry.connids]
      constructor
      · rintro ⟨found, present, rest⟩
        exact ⟨found, old present, rest⟩
      · rintro ⟨found, present, isOpen, same⟩
        rcases lookup present with before | ⟨rfl, rfl⟩
        · exact ⟨found, before, isOpen, same⟩
        · exact absurd isOpen unopened
    records := by
      intro uri record
      rw [registry.records]
      refine and_congr_right fun _ => ?_
      constructor
      · rintro ⟨found, present, rest⟩
        exact ⟨found, old present, rest⟩
      · rintro ⟨found, present, isOpen, member⟩
        rcases lookup present with before | ⟨_, rfl⟩
        · exact ⟨found, before, isOpen, member⟩
        · exact absurd isOpen unopened
    nonempty := registry.nonempty
    shut := by
      intro other found present
      rcases lookup present with before | ⟨rfl, rfl⟩
      · exact registry.shut other found before
      · exact fun _ => bare
    owned := by
      intro other found present record member
      rcases lookup present with before | ⟨rfl, rfl⟩
      · exact registry.owned other found before record member
      · exact absurd member (bare record)
    known := registry.known }

/-- An accepted connection gets an id that no open connection has. -/
theorem accept (registry : Registry shared entries) (here : entries[number]? = some entry)
    (unaccepted : entry.accepted = false) (unclosed : entry.closed = false) {connid : JsString}
    (fresh : shared.connids.get connid = none) :
    Registry { shared with connids := shared.connids.set connid number }
      (entries.set number { entry with accepted := true, connid }) := by
  have unopened : ¬entry.Open := fun isOpen => Bool.noConfusion (unaccepted.symm.trans isOpen.1)
  have bare := registry.shut number entry here unopened
  exact {
    numbered := forall_update here registry.numbered (registry.numbered number entry here)
    connids := by
      intro id other
      simp only [OrderedMap.get_set, getElem?_update here]
      by_cases same : id = connid
      · subst same
        rw [if_pos rfl, Option.some.injEq]
        constructor
        · rintro rfl
          exact ⟨_, if_pos rfl, ⟨rfl, unclosed⟩, rfl⟩
        · rintro ⟨found, present, isOpen, named⟩
          split at present
          · next equal => exact equal.symm
          · have used := (registry.connids id other).mpr ⟨found, present, isOpen, named⟩
            simp [fresh] at used
      · rw [if_neg same, registry.connids]
        constructor
        · rintro ⟨found, present, isOpen, named⟩
          refine ⟨found, ?_, isOpen, named⟩
          rw [if_neg]
          · exact present
          · rintro rfl
            rw [here] at present
            exact unopened (Option.some.inj present ▸ isOpen)
        · rintro ⟨found, present, isOpen, named⟩
          split at present
          · obtain rfl := Option.some.inj present
            exact absurd named.symm same
          · exact ⟨found, present, isOpen, named⟩
    records := by
      intro uri record
      rw [show Shared.registered { shared with connids := shared.connids.set connid number } uri =
        shared.registered uri from rfl, registry.records]
      refine and_congr_right fun _ => ?_
      simp only [getElem?_update here]
      constructor
      · rintro ⟨found, present, isOpen, member⟩
        refine ⟨found, ?_, isOpen, member⟩
        rw [if_neg]
        · exact present
        · intro same
          rw [same, here] at present
          exact unopened (Option.some.inj present ▸ isOpen)
      · rintro ⟨found, present, isOpen, member⟩
        split at present
        · obtain rfl := Option.some.inj present
          exact absurd member (bare record)
        · exact ⟨found, present, isOpen, member⟩
    nonempty := registry.nonempty
    shut := forall_update here registry.shut fun _ => bare
    owned := forall_update here registry.owned fun record member => absurd member (bare record)
    known := registry.known }

/-- A token of an open connection adds its record on both sides. -/
theorem register (registry : Registry shared entries) (here : entries[number]? = some entry)
    (isOpen : entry.Open) {record : Record} (owner : record.connection = number) :
    Registry (shared.register record)
      (entries.set number { entry with hsConns := entry.hsConns.add record }) where
  numbered := forall_update here registry.numbered (registry.numbered number entry here)
  connids := by
    intro connid other
    rw [Shared.register_connids, registry.connids]
    simp only [getElem?_update here]
    by_cases same : other = number
    · subst same
      simp [here, Entry.Open]
    · simp [same]
  records := by
    intro uri other
    rw [Shared.mem_register, registry.records]
    simp only [getElem?_update here]
    by_cases same : other.connection = number
    · simp only [same, here, if_true, Option.some.injEq, exists_eq_left', OrderedSet.mem_add,
        show Entry.Open { entry with hsConns := entry.hsConns.add record } from isOpen, isOpen,
        true_and]
      constructor
      · rintro (⟨rfl, member⟩ | ⟨rfl, rfl⟩)
        · exact ⟨rfl, Or.inl member⟩
        · exact ⟨rfl, Or.inr rfl⟩
      · rintro ⟨rfl, member | rfl⟩
        · exact Or.inl ⟨rfl, member⟩
        · exact Or.inr ⟨rfl, rfl⟩
    · have differs : other ≠ record := fun equal => same (equal ▸ owner)
      simp [same, differs]
  nonempty := Shared.register_nonempty registry.nonempty
  shut := forall_update here registry.shut fun closed => absurd isOpen closed
  owned := by
    refine forall_update here registry.owned fun item member => ?_
    rcases OrderedSet.mem_add.mp member with before | rfl
    · exact registry.owned number entry here item before
    · exact owner
  known := registry.known

/-- A close takes the id and all records of its connection away. -/
theorem close (registry : Registry shared entries) (here : entries[number]? = some entry)
    (isOpen : entry.Open) :
    Registry
      { entry.hsConns.items.foldl Shared.unregister shared with
        connids := shared.connids.delete entry.connid }
      (entries.set number { entry with closed := true, hsConns := .empty }) := by
  have mine : ∀ record ∈ entry.hsConns.items, record ∈ shared.registered record.uri := by
    intro record member
    have owner := registry.owned number entry here record member
    exact (registry.records record.uri record).mpr ⟨rfl, entry, owner ▸ here, isOpen, member⟩
  obtain ⟨_, notices, shape, members⟩ :=
    Shared.foldl_unregister entry.hsConns.items entry.hsConns.nodup mine registry.nonempty
  have shutNow : ¬Entry.Open { entry with closed := true, hsConns := .empty } := by
    simp [Entry.Open]
  exact {
    numbered := forall_update here registry.numbered (registry.numbered number entry here)
    connids := by
      intro connid other
      simp only [OrderedMap.get_delete, getElem?_update here]
      by_cases same : connid = entry.connid
      · subst same
        simp only [if_true, reduceCtorEq, false_iff]
        rintro ⟨found, present, foundOpen, named⟩
        split at present
        · exact shutNow (Option.some.inj present ▸ foundOpen)
        · next differs =>
            have first := (registry.connids entry.connid other).mpr
              ⟨found, present, foundOpen, named⟩
            have second := (registry.connids entry.connid number).mpr ⟨entry, here, isOpen, rfl⟩
            exact differs (Option.some.inj (first.symm.trans second))
      · rw [if_neg same, registry.connids]
        constructor
        · rintro ⟨found, present, foundOpen, named⟩
          refine ⟨found, ?_, foundOpen, named⟩
          rw [if_neg]
          · exact present
          · rintro rfl
            rw [here] at present
            exact same (named.symm.trans (congrArg Entry.connid (Option.some.inj present)).symm)
        · rintro ⟨found, present, foundOpen, named⟩
          split at present
          · exact absurd (Option.some.inj present ▸ foundOpen) shutNow
          · exact ⟨found, present, foundOpen, named⟩
    records := by
      intro uri record
      refine (members uri record).trans ?_
      rw [registry.records]
      simp only [getElem?_update here]
      constructor
      · rintro ⟨⟨rfl, found, present, foundOpen, member⟩, kept⟩
        refine ⟨rfl, found, ?_, foundOpen, member⟩
        rw [if_neg]
        · exact present
        · intro same
          rw [same, here] at present
          obtain rfl := Option.some.inj present
          exact kept ⟨rfl, member⟩
      · rintro ⟨rfl, found, present, foundOpen, member⟩
        split at present
        · exact absurd (Option.some.inj present ▸ foundOpen) shutNow
        · next differs =>
            refine ⟨⟨rfl, found, present, foundOpen, member⟩, ?_⟩
            rintro ⟨_, inside⟩
            exact differs (registry.owned number entry here record inside)
    nonempty := shape
    shut := forall_update here registry.shut fun _ record => OrderedSet.not_mem_empty record
    owned := forall_update here registry.owned fun record member =>
      absurd member (OrderedSet.not_mem_empty record)
    known := fun uri unknown => registry.known uri (notices ▸ unknown) }

/-- A notice that is no unknown URI changes nothing here. -/
theorem notice (registry : Registry shared entries) {emitted : Notice}
    (known : ∀ uri, emitted ≠ .unknownUri uri) :
    Registry { shared with notices := shared.notices ++ [emitted] } entries :=
  { registry with
    known := by
      intro uri unknown
      rcases List.mem_append.mp unknown with before | last
      · exact registry.known uri before
      · exact known uri (List.mem_singleton.mp last).symm }

end Registry
end Centro
