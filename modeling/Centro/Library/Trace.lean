import Mathlib.Data.List.Basic

namespace Centro.Library

variable {α : Type*} {first second : α → Prop} {trace extra : List α}

/-- A trace that grew by one item has this item and those before. -/
theorem mem_concat {item last : α} : item ∈ trace ++ [last] ↔ item ∈ trace ∨ item = last := by
  rw [List.mem_append, List.mem_singleton]

/-- An item goes from the front of a queue to the end of a trace, where it says the same. -/
theorem filterMap_shift {β γ : Type*} {said : α → Option γ} {waiting : β → Option γ}
    {queue : List β} {head : β} {item : α} (same : waiting head = said item) :
    (trace ++ [item]).filterMap said ++ queue.filterMap waiting =
      trace.filterMap said ++ (head :: queue).filterMap waiting := by
  rw [List.filterMap_append, List.append_assoc, List.filterMap_cons, List.filterMap_cons, same]
  cases said item <;> rfl

/-- A member of a list has a front and a back. -/
theorem exists_split {items : List α} {index : Nat} {item : α}
    (found : items[index]? = some item) :
    ∃ front back, items = front ++ item :: back ∧ items.eraseIdx index = front ++ back ∧
      ∀ other, items.set index other = front ++ other :: back := by
  obtain ⟨within, rfl⟩ := List.getElem?_eq_some_iff.mp found
  refine ⟨items.take index, items.drop (index + 1), ?_, ?_, ?_⟩
  · rw [List.getElem_cons_drop, List.take_append_drop]
  · exact List.eraseIdx_eq_take_drop_succ items index
  · intro other
    rw [List.set_eq_take_append_cons_drop, if_pos within]

/-- A search passes by all items, or it passes by some and finds the next one. -/
theorem takeWhile_cases (passes : α → Bool) (items : List α) :
    items.takeWhile passes = items ∧ items.dropWhile passes = [] ∧
        (∀ item ∈ items, passes item = true) ∨
      ∃ front item rest, items = front ++ item :: rest ∧ items.takeWhile passes = front ∧
        items.dropWhile passes = item :: rest ∧ (∀ item ∈ front, passes item = true) ∧
        passes item = false := by
  induction items with
  | nil => exact .inl ⟨rfl, rfl, nofun⟩
  | cons head tail ih =>
      cases passed : passes head with
      | false => exact .inr ⟨[], head, tail, rfl, by simp [passed], by simp [passed], nofun, passed⟩
      | true =>
          rw [List.takeWhile_cons_of_pos passed, List.dropWhile_cons_of_pos passed]
          rcases ih with ⟨taken, dropped, all⟩ |
            ⟨front, item, rest, cut, taken, dropped, all, found⟩
          · exact .inl ⟨by rw [taken], dropped, List.forall_mem_cons.mpr ⟨passed, all⟩⟩
          · exact .inr ⟨head :: front, item, rest, by rw [cut]; rfl, by rw [taken], dropped,
              List.forall_mem_cons.mpr ⟨passed, all⟩, found⟩

/-- No later item of the trace has the second property once an item has the first. -/
def NeverAfter (first second : α → Prop) (trace : List α) : Prop :=
  trace.Pairwise fun earlier later => first earlier → ¬second later

instance [DecidablePred first] [DecidablePred second] : Decidable (NeverAfter first second trace) :=
  inferInstanceAs (Decidable (List.Pairwise _ _))

/-- Each item with the second property has an earlier item with the first. -/
def OnlyAfter (first second : α → Prop) (trace : List α) : Prop :=
  ∀ before item after, trace = before ++ item :: after → second item →
    ∃ earlier ∈ before, first earlier

@[simp] theorem neverAfter_nil : NeverAfter first second [] := List.Pairwise.nil

/-- A trace grows freely while it has no marking item, or by items without the second property. -/
theorem neverAfter_append :
    NeverAfter first second (trace ++ extra) ↔
      NeverAfter first second trace ∧ NeverAfter first second extra ∧
        ((∃ earlier ∈ trace, first earlier) → ∀ later ∈ extra, ¬second later) := by
  unfold NeverAfter
  rw [List.pairwise_append]
  refine and_congr_right fun _ => and_congr_right fun _ => ?_
  constructor
  · rintro apart ⟨earlier, member, marks⟩ later inside
    exact apart earlier member later inside marks
  · intro apart earlier member later inside marks
    exact apart ⟨earlier, member, marks⟩ later inside

theorem neverAfter_of_unmarked (unmarked : ∀ item ∈ trace, ¬first item) :
    NeverAfter first second trace :=
  List.pairwise_of_forall_mem_list fun earlier member _ _ marks =>
    absurd marks (unmarked earlier member)

theorem neverAfter_of_absent (absent : ∀ item ∈ trace, ¬second item) :
    NeverAfter first second trace :=
  List.pairwise_of_forall_mem_list fun _ _ later member _ => absent later member

@[simp] theorem onlyAfter_nil : OnlyAfter first second [] := by
  intro before item after cut
  simp at cut

/-- A trace grows by items that have their earlier item in it already. -/
theorem OnlyAfter.append (holds : OnlyAfter first second trace)
    (backed : ∀ item ∈ extra, second item → ∃ earlier ∈ trace, first earlier) :
    OnlyAfter first second (trace ++ extra) := by
  intro before item after cut marks
  rcases List.append_eq_append_iff.mp cut with ⟨middle, split, rest⟩ | ⟨middle, split, rest⟩
  · have inside : item ∈ extra := rest ▸ List.mem_append_right _ List.mem_cons_self
    obtain ⟨earlier, member, is⟩ := backed item inside marks
    exact ⟨earlier, by simp [split, member], is⟩
  · cases middle with
    | nil =>
        have inside : item ∈ extra := by
          rw [List.nil_append] at rest
          exact rest ▸ List.mem_cons_self
        obtain ⟨earlier, member, is⟩ := backed item inside marks
        exact ⟨earlier, by simpa [split] using member, is⟩
    | cons head tail =>
        simp only [List.cons_append, List.cons.injEq] at rest
        exact holds before item tail (by rw [split, rest.1]) marks

/-- Each item of the trace is justified by the items before it. -/
def Justified (reason : List α → α → Prop) (trace : List α) : Prop :=
  ∀ before item after, trace = before ++ item :: after → reason before item

variable {reason : List α → α → Prop}

@[simp] theorem justified_nil : Justified reason [] := by
  intro before item after cut
  simp at cut

/-- A trace grows by items that it justifies together with the new items before them. -/
theorem Justified.append (holds : Justified reason trace)
    (more : Justified (fun before item => reason (trace ++ before) item) extra) :
    Justified reason (trace ++ extra) := by
  intro before item after cut
  rcases List.append_eq_append_iff.mp cut with ⟨middle, split, rest⟩ | ⟨middle, split, rest⟩
  · rw [split]
    exact more middle item after rest
  · cases middle with
    | nil =>
        obtain rfl : trace = before := by simpa using split
        simpa using more [] item after rest.symm
    | cons head tail =>
        obtain ⟨rfl, rfl⟩ := List.cons.inj rest
        exact holds before item tail split

theorem Justified.concat {item : α} (holds : Justified reason trace) (here : reason trace item) :
    Justified reason (trace ++ [item]) := by
  apply holds.append
  intro before other after cut
  cases before with
  | nil =>
      obtain ⟨rfl, _⟩ := List.cons.inj cut
      simpa using here
  | cons head tail => simp at cut

theorem justified_of_forall (all : ∀ item ∈ trace, ∀ before, reason before item) :
    Justified reason trace := by
  rintro before item after rfl
  exact all item (by simp) before

/-- The keys that some item starts and no item ends are outstanding. -/
def outstanding {κ : Type*} (starts : α → Option κ) (ends : κ → α → Bool) (trace : List α) : Nat :=
  (trace.filterMap starts).countP fun key => !trace.any (ends key)

section Outstanding

variable {κ : Type*} {starts : α → Option κ} {ends : κ → α → Bool} {key : κ} {item : α}

/-- An item that starts nothing and ends nothing open keeps the number. -/
theorem outstanding_quiet (none : starts item = none)
    (idle : ∀ key, ends key item = true → key ∉ trace.filterMap starts ∨
      trace.any (ends key) = true) :
    outstanding starts ends (trace ++ [item]) = outstanding starts ends trace := by
  unfold outstanding
  rw [List.filterMap_append, List.filterMap_cons_none none, List.filterMap_nil, List.append_nil]
  refine List.countP_congr fun key member => ?_
  rw [List.any_append]
  cases ended : trace.any (ends key) with
  | true => simp
  | false =>
      cases here : ends key item with
      | true => exact absurd ended (by simp [(idle key here).resolve_left (not_not.mpr member)])
      | false => simp [here]

theorem outstanding_start (started : starts item = some key)
    (endless : ∀ key, ends key item = false)
    (fresh : trace.any (ends key) = false) :
    outstanding starts ends (trace ++ [item]) = outstanding starts ends trace + 1 := by
  have same (other : κ) : (trace ++ [item]).any (ends other) = trace.any (ends other) := by
    rw [List.any_append]
    simp [endless]
  unfold outstanding
  simp only [same]
  rw [List.filterMap_append, List.countP_append, List.filterMap_cons_some started]
  simp [fresh]

/-- An item that ends one open key takes it away. -/
theorem outstanding_end (none : starts item = none)
    (single : ∀ other, ends other item = true ↔ other = key)
    (nodup : (trace.filterMap starts).Nodup) (started : key ∈ trace.filterMap starts)
    (fresh : trace.any (ends key) = false) :
    outstanding starts ends trace = outstanding starts ends (trace ++ [item]) + 1 := by
  obtain ⟨front, back, split⟩ := List.append_of_mem started
  rw [split] at nodup
  obtain ⟨frontFree, backFree⟩ : key ∉ front ∧ key ∉ back := by
    have apart := List.nodup_append.mp nodup
    have tail := List.nodup_cons.mp apart.2.1
    exact ⟨fun member => apart.2.2 key member key List.mem_cons_self rfl, tail.1⟩
  have kept {keys : List κ} (absent : key ∉ keys) :
      (keys.countP fun other => !(trace ++ [item]).any (ends other)) =
        keys.countP fun other => !trace.any (ends other) := by
    refine List.countP_congr fun other member => ?_
    have different : ends other item = false := by
      refine Bool.eq_false_iff.mpr fun ended => absent ?_
      rw [← (single other).mp ended]
      exact member
    simp [List.any_append, different]
  unfold outstanding
  rw [List.filterMap_append, List.filterMap_cons_none none, List.filterMap_nil, List.append_nil,
    split, List.countP_append, List.countP_append, List.countP_cons, List.countP_cons,
    kept frontFree, kept backFree, List.any_append, fresh]
  simp [(single key).mpr rfl, Nat.add_assoc]

end Outstanding

/-- A trace has one cut at a marked item when no item on either side is marked. -/
theorem cut_unique {marked : α → Prop} {front back before after : List α} {here item : α}
    (frontClean : ∀ other ∈ front, ¬marked other) (backClean : ∀ other ∈ back, ¬marked other)
    (cut : front ++ here :: back = before ++ item :: after) (marks : marked item) :
    before = front ∧ after = back := by
  rcases List.append_eq_append_iff.mp cut with ⟨middle, split, rest⟩ | ⟨middle, split, rest⟩
  · cases middle with
    | nil =>
        rw [List.nil_append, List.cons.injEq] at rest
        exact ⟨by simpa using split, rest.2.symm⟩
    | cons head tail =>
        rw [List.cons_append, List.cons.injEq] at rest
        have inside : item ∈ back := by simp [rest.2]
        exact absurd marks (backClean item inside)
  · cases middle with
    | nil =>
        rw [List.nil_append, List.cons.injEq] at rest
        exact ⟨by simpa using split.symm, rest.2⟩
    | cons head tail =>
        rw [List.cons_append, List.cons.injEq] at rest
        have inside : item ∈ front := by simp [split, rest.1]
        exact absurd marks (frontClean item inside)

section Latest

variable {β : Type*} {read : α → Option β} {start : β}

/-- The last item of a trace that tells a value tells the current one. -/
def latest (read : α → Option β) (start : β) (trace : List α) : β :=
  trace.foldl (fun value item => (read item).getD value) start

@[simp] theorem latest_nil : latest read start [] = start := rfl

@[simp] theorem latest_concat {item : α} :
    latest read start (trace ++ [item]) = (read item).getD (latest read start trace) := by
  simp [latest]

/-- Items that tell nothing keep the current value. -/
theorem latest_append_of_silent (silent : ∀ item ∈ extra, read item = none) :
    latest read start (trace ++ extra) = latest read start trace := by
  induction extra generalizing trace with
  | nil => rw [List.append_nil]
  | cons head tail ih =>
      have quiet := silent head List.mem_cons_self
      rw [List.append_cons, ih fun item member => silent item (List.mem_cons_of_mem _ member),
        latest_concat, quiet, Option.getD_none]

end Latest

end Centro.Library
