import Mathlib.Data.List.Basic
import Mathlib.Data.List.Nodup

namespace Centro.Library

/-- Listeners wait in order to be called once. An emission has these listeners left to call, and
emissions may be nested. -/
structure Emitter (α : Type*) where
  waiting : List α := []
  emissions : List (List α) := []

namespace Emitter

variable {α : Type*} [DecidableEq α]

def once (emitter : Emitter α) (listener : α) : Emitter α :=
  { emitter with waiting := emitter.waiting ++ [listener] }

/-- An emission takes its next listener that still waits, or it ends. -/
def advance (emitter : Emitter α) : List α → Option α × Emitter α
  | [] => (none, emitter)
  | listener :: rest =>
      if listener ∈ emitter.waiting then
        (some listener,
          { waiting := emitter.waiting.erase listener, emissions := rest :: emitter.emissions })
      else emitter.advance rest

/-- An emission begins with the listeners that wait. -/
def emit (emitter : Emitter α) : Option α × Emitter α := emitter.advance emitter.waiting

/-- The innermost emission goes on after its listener returned. -/
def resume (emitter : Emitter α) : Option (Option α × Emitter α) :=
  match emitter.emissions with
  | [] => none
  | rest :: emissions => some ({ emitter with emissions }.advance rest)

/-- A listener is called outside of every emission, and events may occur in it. -/
def enter (emitter : Emitter α) : Emitter α :=
  { emitter with emissions := [] :: emitter.emissions }

variable {emitter after : Emitter α} {listener : α} {listeners rest : List α}

/-- An emission ends when none of its listeners waits. -/
theorem advance_eq_none (advanced : emitter.advance listeners = (none, after)) :
    after = emitter ∧ ∀ listener ∈ listeners, listener ∉ emitter.waiting := by
  induction listeners with
  | nil =>
      obtain ⟨-, rfl⟩ := Prod.mk.inj advanced
      exact ⟨rfl, fun _ member => by cases member⟩
  | cons head tail ih =>
      unfold advance at advanced
      split at advanced
      · cases advanced
      · next absent =>
          obtain ⟨same, gone⟩ := ih advanced
          exact ⟨same, List.forall_mem_cons.mpr ⟨absent, gone⟩⟩

/-- An emission passes over listeners that do not wait any more. -/
theorem advance_eq_some (advanced : emitter.advance listeners = (some listener, after)) :
    ∃ skipped rest, listeners = skipped ++ listener :: rest ∧
      (∀ other ∈ skipped, other ∉ emitter.waiting) ∧ listener ∈ emitter.waiting ∧
      after = { waiting := emitter.waiting.erase listener
                emissions := rest :: emitter.emissions } := by
  induction listeners with
  | nil => cases advanced
  | cons head tail ih =>
      unfold advance at advanced
      split at advanced
      · next waits =>
          simp only [Prod.mk.injEq, Option.some.injEq] at advanced
          obtain ⟨rfl, rfl⟩ := advanced
          exact ⟨[], tail, rfl, fun _ member => (List.not_mem_nil member).elim, waits, rfl⟩
      · next absent =>
          obtain ⟨skipped, rest, split, gone, waits, same⟩ := ih advanced
          refine ⟨head :: skipped, rest, by rw [split]; rfl, ?_, waits, same⟩
          exact List.forall_mem_cons.mpr ⟨absent, gone⟩

theorem resume_eq_some {resumed : Option α × Emitter α} (resumes : emitter.resume = some resumed) :
    ∃ rest emissions, emitter.emissions = rest :: emissions ∧
      resumed = { emitter with emissions }.advance rest := by
  unfold resume at resumes
  split at resumes
  · cases resumes
  · next rest emissions shape => exact ⟨rest, emissions, shape, (Option.some.inj resumes).symm⟩

/-- No listener waits, or some emission will call all that wait. -/
def Covered (emitter : Emitter α) : Prop :=
  emitter.waiting = [] ∨ ∃ listeners ∈ emitter.emissions,
    ∀ listener ∈ emitter.waiting, listener ∈ listeners

/-- The listeners of an emission that still wait are the first ones that wait. -/
def Ordered (emitter : Emitter α) : Prop :=
  ∀ listeners ∈ emitter.emissions, listeners.filter (· ∈ emitter.waiting) <+: emitter.waiting

theorem advance_perm (advanced : emitter.advance listeners = (some listener, after)) :
    emitter.waiting.Perm (listener :: after.waiting) := by
  obtain ⟨_, _, -, -, waits, rfl⟩ := advance_eq_some advanced
  exact List.perm_cons_erase waits

/-- An emission in progress was in progress before, or it has some of these listeners left. -/
theorem emissions_advance (advanced : emitter.advance listeners = (some listener, after)) :
    ∀ others ∈ after.emissions,
      others ∈ emitter.emissions ∨ ∀ other ∈ others, other ∈ listeners := by
  obtain ⟨skipped, rest, rfl, -, -, rfl⟩ := advance_eq_some advanced
  intro others member
  rcases List.mem_cons.mp member with rfl | member
  · exact Or.inr fun other left => List.mem_append_right _ (List.mem_cons_of_mem _ left)
  · exact Or.inl member

/-- An emission goes on without the listeners that it called. -/
theorem covered_advance (nodup : emitter.waiting.Nodup)
    (covered : emitter.Covered ∨ ∀ listener ∈ emitter.waiting, listener ∈ listeners) :
    (emitter.advance listeners).2.Covered := by
  cases advanced : emitter.advance listeners with
  | mk called after =>
      cases called with
      | none =>
          obtain ⟨rfl, gone⟩ := advance_eq_none advanced
          rcases covered with covered | all
          · exact covered
          · exact Or.inl <| List.eq_nil_iff_forall_not_mem.mpr fun listener waits =>
              gone listener (all listener waits) waits
      | some listener =>
          obtain ⟨skipped, rest, rfl, gone, waits, rfl⟩ := advance_eq_some advanced
          have left {other : α} (member : other ∈ emitter.waiting.erase listener) :
              other ∈ emitter.waiting ∧ other ≠ listener :=
            ⟨List.mem_of_mem_erase member, (nodup.mem_erase_iff.mp member).1⟩
          rcases covered with (none | ⟨others, member, all⟩) | all
          · simp [none] at waits
          · exact Or.inr ⟨others, List.mem_cons_of_mem _ member,
              fun other waits => all other (left waits).1⟩
          · refine Or.inr ⟨rest, List.mem_cons_self, fun other waits => ?_⟩
            obtain ⟨waited, different⟩ := left waits
            rcases List.mem_append.mp (all other waited) with early | late
            · exact absurd waited (gone other early)
            · exact (List.mem_cons.mp late).resolve_left different

theorem covered_resume {resumed : Option α × Emitter α} (nodup : emitter.waiting.Nodup)
    (covered : emitter.Covered) (resumes : emitter.resume = some resumed) : resumed.2.Covered := by
  obtain ⟨rest, emissions, shape, rfl⟩ := resume_eq_some resumes
  refine @covered_advance α _ { emitter with emissions } rest nodup ?_
  rcases covered with none | ⟨listeners, member, all⟩
  · exact Or.inl (Or.inl none)
  · rw [shape] at member
    rcases List.mem_cons.mp member with rfl | member
    · exact Or.inr all
    · exact Or.inl (Or.inr ⟨listeners, member, all⟩)

omit [DecidableEq α] in
theorem covered_enter (covered : emitter.Covered) : emitter.enter.Covered :=
  covered.imp id fun ⟨listeners, member, all⟩ => ⟨listeners, List.mem_cons_of_mem _ member, all⟩

theorem filter_of_absent {tail : List α} (absent : listener ∉ tail) :
    tail.filter (· ≠ listener) = tail := by
  refine List.filter_eq_self.mpr fun other member => ?_
  have different : other ≠ listener := fun same => absent (same ▸ member)
  simpa using different

/-- Without the head of those that wait the listeners of an emission stay in order. -/
theorem prefix_without {tail others : List α} (fresh : listener ∉ tail)
    (first : listeners.filter (· ∈ listener :: tail) <+: others)
    (left : others.filter (· ≠ listener) = tail) : listeners.filter (· ∈ tail) <+: tail := by
  have dropped := first.filter (· ≠ listener)
  rw [left, List.filter_filter] at dropped
  convert dropped using 2
  funext other
  by_cases same : other = listener
  · simp [same, fresh]
  · simp [same]

/-- The next listener that an emission calls is the first one that waits. -/
theorem ordered_advance (nodup : emitter.waiting.Nodup) (ordered : emitter.Ordered)
    (first : listeners.filter (· ∈ emitter.waiting) <+: emitter.waiting)
    (advanced : emitter.advance listeners = (some listener, after)) :
    emitter.waiting = listener :: after.waiting ∧ after.Ordered := by
  obtain ⟨skipped, rest, rfl, gone, waits, rfl⟩ := advance_eq_some advanced
  have silent : skipped.filter (· ∈ emitter.waiting) = [] :=
    List.filter_eq_nil_iff.mpr fun other member => by simpa using gone other member
  rw [List.filter_append, silent, List.nil_append, List.filter_cons_of_pos (by simpa using waits)]
    at first
  obtain ⟨last, shape⟩ := first
  generalize tailEq : rest.filter (· ∈ emitter.waiting) ++ last = tail at shape
  have waiting : emitter.waiting = listener :: tail := by
    rw [← shape, ← tailEq]
    rfl
  have fresh : listener ∉ tail := (List.nodup_cons.mp (waiting ▸ nodup)).1
  have erased : emitter.waiting.erase listener = tail := by rw [waiting, List.erase_cons_head]
  refine ⟨by rw [erased, waiting], fun others member => ?_⟩
  dsimp only at member ⊢
  rw [erased]
  rcases List.mem_cons.mp member with rfl | member
  · refine prefix_without fresh ?_ (filter_of_absent fresh)
    rw [← waiting, ← tailEq]
    exact List.prefix_append _ _
  · refine prefix_without fresh (waiting ▸ ordered others member) ?_
    rw [List.filter_cons_of_neg (by simp), filter_of_absent fresh]

theorem ordered_once (ordered : emitter.Ordered)
    (fresh : ∀ listeners ∈ emitter.emissions, listener ∉ listeners) :
    (emitter.once listener).Ordered := by
  intro listeners member
  have same : listeners.filter (· ∈ emitter.waiting ++ [listener]) =
      listeners.filter (· ∈ emitter.waiting) := by
    refine List.filter_congr fun other inside => ?_
    have different : other ≠ listener := fun same => fresh listeners member (same ▸ inside)
    simp [different]
  change listeners.filter (· ∈ emitter.waiting ++ [listener]) <+: emitter.waiting ++ [listener]
  rw [same]
  exact (ordered listeners member).trans (List.prefix_append _ _)

/-- An emission begins in the order of those that wait. -/
theorem filter_waiting (emitter : Emitter α) :
    emitter.waiting.filter (· ∈ emitter.waiting) = emitter.waiting :=
  List.filter_eq_self.mpr fun _ member => decide_eq_true member

theorem ordered_enter (ordered : emitter.Ordered) : emitter.enter.Ordered := by
  intro listeners member
  rcases List.mem_cons.mp member with rfl | member
  · exact List.nil_prefix
  · exact ordered listeners member

end Emitter
end Centro.Library
