import Centro.Library.Regex
import Mathlib.Algebra.Ring.Nat

namespace Centro.Library.Regex

variable {α : Type*}

/-- A backtracking matcher tries one more round before it goes on without it. A round that does not
move is no round. -/
def tries (reach : Nat → List Nat) : Nat → Nat → List Nat
  | 0, position => [position]
  | count + 1, position =>
      ((reach position).filter (position < ·)).flatMap (tries reach count) ++ [position]

/-- A backtracking matcher goes on at these positions, once for each way to get there. It does not
come back to an assertion. -/
def paths (subject : List α) : Regex α → Nat → List Nat
  | .seq first second, position => (first.paths subject position).flatMap (second.paths subject)
  | .alt first second, position => first.paths subject position ++ second.paths subject position
  | .star body, position => tries (body.paths subject) (subject.length - position) position
  | .upTo count body, position => tries (body.paths subject) count position
  | other, position => other.ends subject position

/-- These steps all move. -/
def advancing (reach : Nat → List Nat) (position : Nat) : List Nat :=
  (reach position).filter (position < ·)

variable {subject : List α} {reach other : Nat → List Nat} {position last count times : Nat}

theorem mem_tries : last ∈ tries reach count position ↔
    ∃ times ≤ count, Steps (advancing reach) times position last := by
  induction count generalizing position with
  | zero =>
      rw [tries, List.mem_singleton]
      constructor
      · rintro rfl
        exact ⟨0, Nat.le_refl 0, rfl⟩
      · rintro ⟨times, few, steps⟩
        obtain rfl := Nat.le_zero.mp few
        exact steps.symm
  | succ count ih =>
      rw [tries, List.mem_append, List.mem_flatMap, List.mem_singleton]
      constructor
      · rintro (⟨middle, reached, later⟩ | rfl)
        · obtain ⟨times, few, steps⟩ := ih.mp later
          exact ⟨times + 1, Nat.succ_le_succ few, middle, reached, steps⟩
        · exact ⟨0, Nat.zero_le _, rfl⟩
      · rintro ⟨times, few, steps⟩
        cases times with
        | zero => exact .inr steps.symm
        | succ times =>
            obtain ⟨middle, reached, later⟩ := steps
            exact .inl ⟨middle, reached, ih.mpr ⟨times, Nat.le_of_succ_le_succ few, later⟩⟩

/-- Steps that move go at least so far. -/
theorem Steps.far (steps : Steps (advancing reach) times position last) :
    position + times ≤ last := by
  induction times generalizing position with
  | zero => exact Nat.le_of_eq steps
  | succ times ih =>
      obtain ⟨middle, reached, later⟩ := steps
      have moved : position < middle := by simpa using (List.mem_filter.mp reached).2
      have rest := ih later
      omega

/-- Steps that do not move can be left out. -/
theorem Steps.advance (forward : ∀ position, ∀ middle ∈ reach position, position ≤ middle)
    (steps : Steps reach times position last) :
    ∃ fewer ≤ times, Steps (advancing reach) fewer position last := by
  induction times generalizing position with
  | zero => exact ⟨0, Nat.le_refl 0, steps⟩
  | succ times ih =>
      obtain ⟨middle, reached, later⟩ := steps
      obtain ⟨fewer, few, moves⟩ := ih later
      rcases Nat.eq_or_lt_of_le (forward position middle reached) with rfl | moved
      · exact ⟨fewer, Nat.le_succ_of_le few, moves⟩
      · exact ⟨fewer + 1, Nat.succ_le_succ few, middle,
          List.mem_filter.mpr ⟨reached, decide_eq_true moved⟩, moves⟩

theorem Steps.of_advance (steps : Steps (advancing reach) times position last) :
    Steps reach times position last := by
  induction times generalizing position with
  | zero => exact steps
  | succ times ih =>
      obtain ⟨middle, reached, later⟩ := steps
      exact ⟨middle, (List.mem_filter.mp reached).1, ih later⟩

/-- Steps within a bound only depend on what is reached within it. -/
theorem Steps.congr {bound : Nat}
    (same : ∀ position ≤ bound, ∀ middle, middle ∈ reach position ↔ middle ∈ other position)
    (within : ∀ position ≤ bound, ∀ middle ∈ reach position, middle ≤ bound)
    (inside : position ≤ bound) :
    Steps reach times position last ↔ Steps other times position last := by
  induction times generalizing position with
  | zero => exact Iff.rfl
  | succ times ih =>
      refine exists_congr fun middle => ?_
      rw [same position inside middle]
      refine and_congr_right fun reached => ih (within position inside middle ?_)
      exact (same position inside middle).mpr reached

theorem Steps.within {bound : Nat}
    (within : ∀ position ≤ bound, ∀ middle ∈ reach position, middle ≤ bound)
    (inside : position ≤ bound) (steps : Steps reach times position last) : last ≤ bound := by
  induction times generalizing position with
  | zero => exact steps ▸ inside
  | succ times ih =>
      obtain ⟨middle, reached, later⟩ := steps
      exact ih (within position inside middle reached) later

/-- Steps of a reach that does not go back do not go back. -/
theorem Steps.forward (forward : ∀ position, ∀ middle ∈ reach position, position ≤ middle)
    (steps : Steps reach times position last) : position ≤ last := by
  obtain ⟨fewer, _, moves⟩ := steps.advance forward
  exact Nat.le_of_add_right_le moves.far

/-- A match does not go back and stays within the subject. -/
theorem ends_bounds (regex : Regex α) :
    (∀ position, ∀ last ∈ regex.ends subject position, position ≤ last) ∧
      ∀ position ≤ subject.length, ∀ last ∈ regex.ends subject position,
        last ≤ subject.length := by
  induction regex with
  | empty =>
      constructor
      · exact fun position last reached => Nat.le_of_eq (List.mem_singleton.mp reached).symm
      · exact fun position inside last reached => List.mem_singleton.mp reached ▸ inside
  | item accepts =>
      constructor
      · intro position last reached
        rw [(mem_item.mp reached).1]
        exact Nat.le_succ position
      · intro position inside last reached
        obtain ⟨rfl, found, here, _⟩ := mem_item.mp reached
        exact (List.getElem?_eq_some_iff.mp here).1
  | seq first second early late =>
      constructor
      · intro position last reached
        obtain ⟨middle, before, after⟩ := mem_seq.mp reached
        exact Nat.le_trans (early.1 position middle before) (late.1 middle last after)
      · intro position inside last reached
        obtain ⟨middle, before, after⟩ := mem_seq.mp reached
        exact late.2 middle (early.2 position inside middle before) last after
  | alt first second one other =>
      constructor
      · intro position last reached
        exact (mem_alt.mp reached).elim (one.1 position last) (other.1 position last)
      · intro position inside last reached
        exact (mem_alt.mp reached).elim (one.2 position inside last) (other.2 position inside last)
  | star body each =>
      constructor
      · intro position last reached
        obtain ⟨times, _, steps⟩ := mem_star.mp reached
        exact steps.forward each.1
      · intro position inside last reached
        obtain ⟨times, _, steps⟩ := mem_star.mp reached
        exact steps.within each.2 inside
  | upTo count body each =>
      constructor
      · intro position last reached
        obtain ⟨times, _, steps⟩ := mem_upTo.mp reached
        exact steps.forward each.1
      · intro position inside last reached
        obtain ⟨times, _, steps⟩ := mem_upTo.mp reached
        exact steps.within each.2 inside
  | ahead positive body each =>
      constructor
      · exact fun position last reached => Nat.le_of_eq (mem_ahead.mp reached).1.symm
      · exact fun position inside last reached => (mem_ahead.mp reached).1 ▸ inside
  | behind positive body each =>
      constructor
      · exact fun position last reached => Nat.le_of_eq (mem_behind.mp reached).1.symm
      · exact fun position inside last reached => (mem_behind.mp reached).1 ▸ inside
  | start =>
      constructor
      · exact fun position last reached => Nat.le_of_eq (mem_start.mp reached).1.symm
      · exact fun position inside last reached => (mem_start.mp reached).1 ▸ inside
  | finish =>
      constructor
      · exact fun position last reached => Nat.le_of_eq (mem_finish.mp reached).1.symm
      · exact fun position inside last reached => (mem_finish.mp reached).1 ▸ inside

/-- Rounds of a matcher reach what steps reach. -/
theorem mem_tries_iff {body : Regex α} {reach : Nat → List Nat}
    (same : ∀ position ≤ subject.length, ∀ middle,
      middle ∈ reach position ↔ middle ∈ body.ends subject position)
    (inside : position ≤ subject.length) : last ∈ tries reach count position ↔
      ∃ times ≤ count, Steps (body.ends subject) times position last := by
  have bounds := @ends_bounds _ subject body
  have moves : ∀ place ≤ subject.length, ∀ middle, middle ∈ advancing reach place ↔
      middle ∈ advancing (body.ends subject) place := by
    intro place within middle
    rw [advancing, advancing, List.mem_filter, List.mem_filter, same place within]
  have stays : ∀ place ≤ subject.length, ∀ middle ∈ advancing reach place,
      middle ≤ subject.length := fun place within middle reached =>
    bounds.2 place within middle ((same place within middle).mp (List.mem_filter.mp reached).1)
  rw [mem_tries]
  constructor
  · rintro ⟨times, few, steps⟩
    exact ⟨times, few, ((Steps.congr moves stays inside).mp steps).of_advance⟩
  · rintro ⟨times, few, steps⟩
    obtain ⟨fewer, less, advanced⟩ := steps.advance bounds.1
    exact ⟨fewer, Nat.le_trans less few, (Steps.congr moves stays inside).mpr advanced⟩

/-- A backtracking matcher goes on at the positions at which a match can end. -/
theorem mem_paths {regex : Regex α} (inside : position ≤ subject.length) :
    last ∈ regex.paths subject position ↔ last ∈ regex.ends subject position := by
  induction regex generalizing position last with
  | seq first second early late =>
      rw [paths, mem_seq, List.mem_flatMap]
      refine exists_congr fun middle => ?_
      rw [early inside]
      exact and_congr_right fun reached =>
        late ((ends_bounds first).2 position inside middle reached)
  | alt first second one other =>
      rw [paths, mem_alt, List.mem_append, one inside, other inside]
  | star body each =>
      rw [paths, mem_star, mem_tries_iff (fun place within middle => each within) inside]
      constructor
      · rintro ⟨times, few, steps⟩
        exact ⟨times, by omega, steps⟩
      · rintro ⟨times, _, steps⟩
        obtain ⟨fewer, _, advanced⟩ := steps.advance (ends_bounds body).1
        have far := advanced.far
        have bounded := steps.within (ends_bounds body).2 inside
        exact ⟨fewer, by omega, advanced.of_advance⟩
  | upTo count body each =>
      rw [paths, mem_upTo, mem_tries_iff (fun place within middle => each within) inside]
  | _ => rw [paths] <;> simp

theorem count_paths_of_lt {regex : Regex α} (inside : position ≤ subject.length)
    (before : last < position) : (regex.paths subject position).count last = 0 := by
  rw [List.count_eq_zero, mem_paths inside]
  intro reached
  exact Nat.not_le.mpr before ((ends_bounds regex).1 position last reached)

/-- The expression for the positions without a mark has two ways to match at some of them. -/
structure Doubles (subject : List α) (mark double : Nat → Bool) (plain marked : Regex α) : Prop where
  plain : ∀ position < subject.length, plain.paths subject position = List.replicate
    (if mark position then 0 else if double position then 2 else 1) (position + 1)
  marked : ∀ position, marked.paths subject position =
    if position < subject.length ∧ mark position = true then [position + 1] else []
  apart : ∀ position, double position = true → mark position = false

namespace Doubles

variable {mark double : Nat → Bool} {plain marked : Regex α}

/-- A repetition either stops or passes one more position. -/
theorem paths_star (doubles : Doubles subject mark double plain marked)
    (below : position < subject.length) : (star plain).paths subject position =
      (List.replicate (if mark position then 0 else if double position then 2 else 1)
        (position + 1)).flatMap ((star plain).paths subject) ++ [position] := by
  have fuel : subject.length - position = subject.length - (position + 1) + 1 := by omega
  have moves : (plain.paths subject position).filter (position < ·) =
      plain.paths subject position := by
    rw [doubles.plain position below, List.filter_eq_self]
    intro middle member
    rw [List.eq_of_mem_replicate member]
    exact decide_eq_true (Nat.lt_succ_self position)
  have rest : ∀ middle ∈ plain.paths subject position,
      tries (plain.paths subject) (subject.length - (position + 1)) middle =
        (star plain).paths subject middle := by
    intro middle member
    rw [doubles.plain position below] at member
    rw [paths, List.eq_of_mem_replicate member]
  rw [paths, fuel, tries, moves, List.flatMap_congr rest, doubles.plain position below]

/-- Each round of the outer repetition passes a marked position. -/
theorem tries_marked (doubles : Doubles subject mark double plain marked) :
    tries ((seq marked (star plain)).paths subject) (count + 1) position =
      (if position < subject.length ∧ mark position = true then
        (seq (star plain) (upTo count (seq marked (star plain)))).paths subject (position + 1)
      else []) ++ [position] := by
  have reached : (seq marked (star plain)).paths subject position =
      if position < subject.length ∧ mark position = true then
        (star plain).paths subject (position + 1) else [] := by
    rw [paths, doubles.marked]
    split <;> simp
  have moves : ((seq marked (star plain)).paths subject position).filter (position < ·) =
      (seq marked (star plain)).paths subject position := by
    rw [List.filter_eq_self]
    intro middle member
    rw [reached] at member
    split at member
    · next both =>
        have further := (ends_bounds _).1 _ _ ((mem_paths both.1).mp member)
        exact decide_eq_true further
    · cases member
  rw [tries, moves, reached]
  split <;> rfl

/-- The ways to a position are those past the next position and those that stop first. -/
theorem count_step (doubles : Doubles subject mark double plain marked)
    (below : position < subject.length) :
    ((seq (star plain) (upTo count (seq marked (star plain)))).paths subject position).count last =
      (if mark position then 0 else if double position then 2 else 1) *
        ((seq (star plain) (upTo count (seq marked (star plain)))).paths subject
          (position + 1)).count last +
      (tries ((seq marked (star plain)).paths subject) count position).count last := by
  rw [paths, doubles.paths_star below, List.flatMap_append, List.flatMap_assoc, List.count_append,
    List.flatMap_singleton, List.count_flatMap, List.map_replicate, List.sum_replicate_nat,
    paths, paths]
  rfl

/-- A matcher stops at its position once. -/
theorem count_tries_self (doubles : Doubles subject mark double plain marked) :
    (tries ((seq marked (star plain)).paths subject) count position).count position = 1 := by
  cases count with
  | zero => exact List.count_singleton_self
  | succ count =>
      rw [doubles.tries_marked, List.count_append, List.count_singleton_self]
      split
      · next both => rw [count_paths_of_lt both.1 (Nat.lt_succ_self _)]
      · rfl

/-- The expression has two ways past each double position, and no way past too many marks. -/
theorem count_paths (doubles : Doubles subject mark double plain marked)
    (after : position ≤ last) (within : last ≤ subject.length) :
    ((seq (star plain) (upTo count (seq marked (star plain)))).paths subject position).count last =
      if between mark position last ≤ count then 2 ^ between double position last else 0 := by
  induction size : last - position generalizing position count with
  | zero =>
      obtain rfl : position = last := by omega
      rw [between_self, between_self, if_pos (Nat.zero_le _)]
      rcases Nat.eq_or_lt_of_le within with whole | below
      · have stops : (star plain).paths subject position = [position] := by
          rw [paths, whole, Nat.sub_self, tries]
        rw [paths, stops, List.flatMap_singleton, paths, doubles.count_tries_self]
        rfl
      · rw [doubles.count_step below, count_paths_of_lt below (Nat.lt_succ_self _), Nat.mul_zero,
          doubles.count_tries_self]
        rfl
  | succ rest ih =>
      have below : position < subject.length := by omega
      have apart : position ≠ last := by omega
      have next := fun count => @ih (position + 1) count (by omega) (by omega)
      have stops : (tries ((seq marked (star plain)).paths subject) count position).count last =
          if mark position = true ∧ 0 < count then
            ((seq (star plain) (upTo (count - 1) (seq marked (star plain)))).paths subject
              (position + 1)).count last else 0 := by
        cases count with
        | zero => simp [tries, apart]
        | succ count =>
            rw [doubles.tries_marked, List.count_append]
            simp only [below, true_and, Nat.succ_pos, and_true, Nat.add_sub_cancel]
            split <;> simp [apart]
      have marked := @between_succ mark position last (by omega)
      have doubled := @between_succ double position last (by omega)
      rw [doubles.count_step below, stops, next, next, marked, doubled]
      cases marks : mark position with
      | true =>
          have single : double position = false := by
            cases twice : double position with
            | false => rfl
            | true => exact absurd (doubles.apart position twice) (by simp [marks])
          simp only [single, if_true, Bool.false_eq_true, if_false, Nat.zero_mul, Nat.zero_add,
            true_and]
          cases count with
          | zero => simp
          | succ count =>
              rw [if_pos (Nat.succ_pos _), Nat.add_sub_cancel]
              simp only [Nat.add_comm 1, Nat.add_le_add_iff_right]
      | false =>
          simp only [Bool.false_eq_true, if_false, false_and, Nat.zero_add, Nat.add_zero]
          by_cases few : between mark (position + 1) last ≤ count
          · rw [if_pos few, if_pos few]
            cases double position <;> simp [Nat.pow_add]
          · rw [if_neg few, if_neg few, Nat.mul_zero]

end Doubles

end Centro.Library.Regex
