import Mathlib.Data.List.Range
import Mathlib.Tactic.Common
import Mathlib.Tactic.TypeStar

namespace Centro.Library

/-- These are the regular expressions with assertions that look at the text on either side. -/
inductive Regex (α : Type*) where
  | empty
  | item (accepts : α → Bool)
  | seq (first second : Regex α)
  | alt (first second : Regex α)
  | star (body : Regex α)
  | upTo (count : Nat) (body : Regex α)
  | ahead (positive : Bool) (body : Regex α)
  | behind (positive : Bool) (body : Regex α)
  | start
  | finish

namespace Regex

variable {α : Type*}

/-- One more round adds the positions that a single match reaches from the known ones. -/
def rounds (reach : Nat → List Nat) : Nat → List Nat → List Nat
  | 0, known => known
  | count + 1, known => rounds reach count (known ++ known.flatMap reach).eraseDups

/-- These are the positions at which a match from the given position can end. -/
def ends (subject : List α) : Regex α → Nat → List Nat
  | .empty, position => [position]
  | .item accepts, position => match subject[position]? with
      | some found => if accepts found then [position + 1] else []
      | none => []
  | .seq first second, position => (first.ends subject position).flatMap (second.ends subject)
  | .alt first second, position => first.ends subject position ++ second.ends subject position
  | .star body, position => rounds (body.ends subject) subject.length [position]
  | .upTo count body, position => rounds (body.ends subject) count [position]
  | .ahead positive body, position =>
      if (body.ends subject position).isEmpty == positive then [] else [position]
  | .behind positive body, position =>
      if ((List.range (position + 1)).any fun before =>
        (body.ends subject before).contains position) == positive then [position] else []
  | .start, position => if position = 0 then [position] else []
  | .finish, position => if position = subject.length then [position] else []

/-- A test looks for a match anywhere in the subject. -/
def test (regex : Regex α) (subject : List α) : Bool :=
  (List.range (subject.length + 1)).any fun position => !(regex.ends subject position).isEmpty

/-- Several expressions match one after the other. -/
def seqs : List (Regex α) → Regex α
  | [] => .empty
  | first :: rest => .seq first (seqs rest)

/-- A number of matches, one after the other, lead from one position to another. -/
def Steps (reach : Nat → List Nat) : Nat → Nat → Nat → Prop
  | 0, position, last => position = last
  | times + 1, position, last => ∃ middle ∈ reach position, Steps reach times middle last

/-- The rounds reach what so many matches reach. -/
theorem mem_rounds {reach : Nat → List Nat} {count last : Nat} {known : List Nat} :
    last ∈ rounds reach count known ↔
      ∃ position ∈ known, ∃ times ≤ count, Steps reach times position last := by
  induction count generalizing known with
  | zero =>
      constructor
      · exact fun member => ⟨last, member, 0, Nat.le_refl 0, rfl⟩
      · rintro ⟨position, member, times, few, steps⟩
        obtain rfl := Nat.le_zero.mp few
        obtain rfl : position = last := steps
        exact member
  | succ count ih =>
      rw [rounds, ih]
      constructor
      · rintro ⟨position, member, times, few, steps⟩
        rcases List.mem_append.mp (List.mem_eraseDups.mp member) with old | new
        · exact ⟨position, old, times, Nat.le_succ_of_le few, steps⟩
        · obtain ⟨before, early, reached⟩ := List.mem_flatMap.mp new
          exact ⟨before, early, times + 1, Nat.succ_le_succ few, position, reached, steps⟩
      · rintro ⟨position, member, times, few, steps⟩
        cases times with
        | zero =>
            exact ⟨position, List.mem_eraseDups.mpr (List.mem_append_left _ member), 0,
              Nat.zero_le _, steps⟩
        | succ times =>
            obtain ⟨middle, reached, later⟩ := steps
            exact ⟨middle, List.mem_eraseDups.mpr (List.mem_append_right _
              (List.mem_flatMap.mpr ⟨position, member, reached⟩)), times,
              Nat.le_of_succ_le_succ few, later⟩

section Ends

attribute [local simp] ends

variable {subject : List α} {position last : Nat}

theorem mem_item {accepts : α → Bool} : last ∈ (item accepts).ends subject position ↔
    last = position + 1 ∧ ∃ found, subject[position]? = some found ∧ accepts found = true := by
  rw [ends]
  cases subject[position]? with
  | none => simp
  | some found => by_cases accepted : accepts found <;> simp [accepted]

theorem mem_seq {first second : Regex α} : last ∈ (seq first second).ends subject position ↔
    ∃ middle ∈ first.ends subject position, last ∈ second.ends subject middle := by
  rw [ends, List.mem_flatMap]

theorem mem_alt {first second : Regex α} : last ∈ (alt first second).ends subject position ↔
    last ∈ first.ends subject position ∨ last ∈ second.ends subject position := by
  rw [ends, List.mem_append]

theorem mem_star {body : Regex α} : last ∈ (star body).ends subject position ↔
    ∃ times ≤ subject.length, Steps (body.ends subject) times position last := by
  rw [ends, mem_rounds]
  simp

theorem mem_upTo {count : Nat} {body : Regex α} : last ∈ (upTo count body).ends subject position ↔
    ∃ times ≤ count, Steps (body.ends subject) times position last := by
  rw [ends, mem_rounds]
  simp

/-- An assertion about what comes next either stays or fails. -/
theorem ends_ahead {positive found : Bool} {body : Regex α}
    (same : found = true ↔ ∃ reached, reached ∈ body.ends subject position) :
    (ahead positive body).ends subject position = if found = positive then [position] else [] := by
  rw [ends]
  cases reached : body.ends subject position with
  | nil => cases found <;> cases positive <;> simp_all
  | cons head rest => cases found <;> cases positive <;> simp_all

/-- An assertion about what came before either stays or fails. -/
theorem ends_behind {positive found : Bool} {body : Regex α}
    (same : found = true ↔ ∃ before ≤ position, position ∈ body.ends subject before) :
    (behind positive body).ends subject position = if found = positive then [position] else [] := by
  have seen : ((List.range (position + 1)).any fun before =>
      (body.ends subject before).contains position) = found := by
    rw [Bool.eq_iff_iff, same]
    simp only [List.any_eq_true, List.mem_range, Nat.lt_succ_iff, List.contains_iff_mem]
  rw [ends, seen]
  simp

/-- An assertion that is met keeps its position. -/
theorem mem_kept {found positive : Bool} :
    last ∈ (if found = positive then [position] else []) ↔
      last = position ∧ (found = true ↔ positive = true) := by
  cases found <;> cases positive <;> simp

theorem mem_ahead {positive : Bool} {body : Regex α} :
    last ∈ (ahead positive body).ends subject position ↔
      last = position ∧ ((∃ reached, reached ∈ body.ends subject position) ↔ positive = true) := by
  classical
  have same := decide_eq_true_iff (p := ∃ reached, reached ∈ body.ends subject position)
  rw [ends_ahead same, mem_kept, same]

theorem mem_behind {positive : Bool} {body : Regex α} :
    last ∈ (behind positive body).ends subject position ↔
      last = position ∧
        ((∃ before ≤ position, position ∈ body.ends subject before) ↔ positive = true) := by
  classical
  have same := decide_eq_true_iff (p := ∃ before ≤ position, position ∈ body.ends subject before)
  rw [ends_behind same, mem_kept, same]

theorem mem_start : last ∈ (start : Regex α).ends subject position ↔
    last = position ∧ position = 0 := by
  rw [ends]
  split
  · next here => simp [here]
  · next apart => simp [apart]

theorem mem_finish : last ∈ (finish : Regex α).ends subject position ↔
    last = position ∧ position = subject.length := by
  rw [ends]
  split
  · next here => simp [here]
  · next apart => simp [apart]

theorem test_eq_true {regex : Regex α} : regex.test subject = true ↔
    ∃ position ≤ subject.length, ∃ last, last ∈ regex.ends subject position := by
  simp only [test, List.any_eq_true, List.mem_range, Nat.lt_succ_iff, Bool.not_eq_true',
    List.isEmpty_eq_false_iff_exists_mem]

/-- Assertions at the start each have to match the whole subject. -/
theorem test_anchored {bodies : List (Regex α)} :
    (seqs (start :: bodies.map fun body => ahead true (seq body finish))).test subject = true ↔
      ∀ body ∈ bodies, subject.length ∈ body.ends subject 0 := by
  have each : ∀ position last, last ∈ (seqs (bodies.map fun body =>
      ahead true (seq body finish))).ends subject position ↔
        last = position ∧ ∀ body ∈ bodies, subject.length ∈ body.ends subject position := by
    intro position last
    induction bodies generalizing position last with
    | nil => simp [seqs, ends]
    | cons body rest ih =>
        simp only [List.map_cons, seqs, mem_seq, mem_ahead, mem_finish, iff_true, ih]
        constructor
        · rintro ⟨_, ⟨rfl, reached, _, whole, rfl, rfl⟩, rfl, others⟩
          refine ⟨rfl, fun other member => ?_⟩
          rcases List.mem_cons.mp member with rfl | later
          · exact whole
          · exact others other later
        · rintro ⟨rfl, all⟩
          exact ⟨last, ⟨rfl, _, _, all body List.mem_cons_self, rfl, rfl⟩, rfl,
            fun other later => all other (List.mem_cons_of_mem _ later)⟩
  rw [test_eq_true]
  constructor
  · rintro ⟨position, _, last, matched⟩
    obtain ⟨_, anchor, later⟩ := mem_seq.mp matched
    obtain ⟨rfl, rfl⟩ := mem_start.mp anchor
    exact ((each _ _).mp later).2
  · intro all
    exact ⟨0, Nat.zero_le _, 0, mem_seq.mpr ⟨0, mem_start.mpr ⟨rfl, rfl⟩,
      (each 0 0).mpr ⟨rfl, all⟩⟩⟩

/-- Each of several items takes one position. -/
theorem mem_seqs_items {β : Type*} {accepts : β → α → Bool} {items : List β}
    (reached : last ∈ (seqs (items.map fun unit => item (accepts unit))).ends subject position) :
    last = position + items.length := by
  induction items generalizing position with
  | nil => exact List.mem_singleton.mp reached
  | cons unit rest ih =>
      obtain ⟨middle, here, later⟩ := mem_seq.mp reached
      obtain ⟨rfl, _⟩ := mem_item.mp here
      rw [ih later, List.length_cons]
      omega

/-- So many items at most make up the whole subject. -/
theorem mem_upTo_item {count : Nat} {accepts : α → Bool} :
    subject.length ∈ (upTo count (item accepts)).ends subject 0 ↔
      subject.length ≤ count ∧ ∀ found ∈ subject, accepts found = true := by
  have steps : ∀ times position last,
      Steps ((item accepts).ends subject) times position last ↔ last = position + times ∧
        ∀ place, position ≤ place → place < last →
          ∃ found, subject[place]? = some found ∧ accepts found = true := by
    intro times
    induction times with
    | zero =>
        intro position last
        constructor
        · rintro rfl
          exact ⟨rfl, fun place early late => absurd early (Nat.not_le.mpr late)⟩
        · exact fun both => both.1.symm
    | succ times ih =>
        intro position last
        constructor
        · rintro ⟨middle, reached, later⟩
          obtain ⟨rfl, here⟩ := mem_item.mp reached
          obtain ⟨rfl, others⟩ := (ih _ _).mp later
          refine ⟨by omega, fun place early late => ?_⟩
          rcases Nat.eq_or_lt_of_le early with rfl | after
          · exact here
          · exact others place after late
        · rintro ⟨rfl, all⟩
          exact ⟨position + 1, mem_item.mpr ⟨rfl, all position (Nat.le_refl _) (by omega)⟩,
            (ih _ _).mpr ⟨by omega, fun place early late => all place (by omega) late⟩⟩
  rw [mem_upTo]
  constructor
  · rintro ⟨times, few, passed⟩
    obtain ⟨size, all⟩ := (steps _ _ _).mp passed
    refine ⟨by omega, fun found member => ?_⟩
    obtain ⟨place, below, rfl⟩ := List.getElem_of_mem member
    obtain ⟨other, here, accepted⟩ := all place (Nat.zero_le _) below
    rw [List.getElem?_eq_getElem below] at here
    exact Option.some.inj here ▸ accepted
  · rintro ⟨few, all⟩
    refine ⟨subject.length, few, (steps _ _ _).mpr ⟨(Nat.zero_add _).symm, ?_⟩⟩
    intro place _ below
    exact ⟨_, List.getElem?_eq_getElem below, all _ (List.getElem_mem below)⟩

end Ends

/-- The number of marked positions from one position to another. -/
def between (mark : Nat → Bool) (position last : Nat) : Nat :=
  (List.range' position (last - position)).countP mark

section Between

variable {mark : Nat → Bool} {position middle last : Nat}

@[simp] theorem between_self (mark : Nat → Bool) (position : Nat) :
    between mark position position = 0 := by
  simp [between]

theorem between_succ (below : position < last) : between mark position last =
    (if mark position then 1 else 0) + between mark (position + 1) last := by
  obtain ⟨rest, rfl⟩ := Nat.exists_eq_add_of_lt below
  have size : position + rest + 1 - position = rest + 1 := by omega
  have tail : position + rest + 1 - (position + 1) = rest := by omega
  rw [between, between, size, tail, List.range'_succ, List.countP_cons, Nat.add_comm]

theorem between_add (early : position ≤ middle) (late : middle ≤ last) :
    between mark position last = between mark position middle + between mark middle last := by
  obtain ⟨front, rfl⟩ := Nat.exists_eq_add_of_le early
  obtain ⟨back, rfl⟩ := Nat.exists_eq_add_of_le late
  have whole : position + front + back - position = front + back := by omega
  have here : position + front - position = front := by omega
  have there : position + front + back - (position + front) = back := by omega
  rw [between, between, between, whole, here, there, ← List.countP_append,
    List.range'_append_1]

theorem between_le (mark : Nat → Bool) (position last : Nat) :
    between mark position last ≤ last - position := by
  have few := @List.countP_le_length _ mark (List.range' position (last - position))
  rwa [List.length_range'] at few

/-- The marked positions are counted along the subject. -/
theorem between_eq {subject : List α} (measure : Nat → List α → Nat)
    (empty : ∀ position, measure position [] = 0)
    (step : ∀ position item rest, subject.drop position = item :: rest →
      measure position (item :: rest) =
        (if mark position then 1 else 0) + measure (position + 1) rest) :
    between mark 0 subject.length = measure 0 subject := by
  have all : ∀ (rest : List α) (position : Nat), subject.drop position = rest →
      between mark position (position + rest.length) = measure position rest := by
    intro rest
    induction rest with
    | nil => simp [empty]
    | cons item rest ih =>
        intro position dropped
        have later : subject.drop (position + 1) = rest := by
          rw [← List.drop_drop, dropped]
          rfl
        have size : position + (item :: rest).length = position + 1 + rest.length := by
          rw [List.length_cons]
          omega
        rw [size, between_succ (by omega), ih _ later, step position item rest dropped]
  have whole := all subject 0 rfl
  rwa [Nat.zero_add] at whole

end Between

/-- Of two expressions for a single item, one matches at the marked positions and the other one at
those without a mark. -/
structure Marks (subject : List α) (mark : Nat → Bool) (plain marked : Regex α) : Prop where
  plain : ∀ position last, last ∈ plain.ends subject position ↔
    last = position + 1 ∧ position < subject.length ∧ mark position = false
  marked : ∀ position last, last ∈ marked.ends subject position ↔
    last = position + 1 ∧ position < subject.length ∧ mark position = true

namespace Marks

variable {subject : List α} {mark : Nat → Bool} {plain marked : Regex α} {position last : Nat}

theorem steps_plain (marks : Marks subject mark plain marked) {times : Nat}
    (inside : position ≤ subject.length) : Steps (plain.ends subject) times position last ↔
      last = position + times ∧ last ≤ subject.length ∧ between mark position last = 0 := by
  induction times generalizing position with
  | zero =>
      constructor
      · rintro rfl
        exact ⟨rfl, inside, between_self mark position⟩
      · exact fun both => both.1.symm
  | succ times ih =>
      constructor
      · rintro ⟨middle, reached, later⟩
        obtain ⟨rfl, below, unmarked⟩ := (marks.plain position middle).mp reached
        obtain ⟨rfl, within, none⟩ := (ih below).mp later
        refine ⟨by omega, within, ?_⟩
        rw [between_succ (by omega), unmarked, none]
        rfl
      · rintro ⟨rfl, within, none⟩
        rw [between_succ (by omega), Nat.add_eq_zero_iff] at none
        have unmarked : mark position = false := by simpa using none.1
        refine ⟨position + 1, (marks.plain _ _).mpr ⟨rfl, by omega, unmarked⟩, ?_⟩
        exact (ih (by omega)).mpr ⟨by omega, within, none.2⟩

theorem mem_star_plain (marks : Marks subject mark plain marked)
    (inside : position ≤ subject.length) : last ∈ (star plain).ends subject position ↔
      position ≤ last ∧ last ≤ subject.length ∧ between mark position last = 0 := by
  rw [mem_star]
  constructor
  · rintro ⟨times, _, steps⟩
    obtain ⟨rfl, within, none⟩ := (marks.steps_plain inside).mp steps
    exact ⟨Nat.le_add_right _ _, within, none⟩
  · rintro ⟨after, within, none⟩
    exact ⟨last - position, by omega,
      (marks.steps_plain inside).mpr ⟨by omega, within, none⟩⟩

theorem mem_seq_marked (marks : Marks subject mark plain marked) :
    last ∈ (seq marked (star plain)).ends subject position ↔
      position < last ∧ last ≤ subject.length ∧ mark position = true ∧
        between mark (position + 1) last = 0 := by
  rw [mem_seq]
  constructor
  · rintro ⟨middle, reached, later⟩
    obtain ⟨rfl, below, here⟩ := (marks.marked position middle).mp reached
    obtain ⟨after, within, none⟩ := (marks.mem_star_plain below).mp later
    exact ⟨after, within, here, none⟩
  · rintro ⟨after, within, here, none⟩
    exact ⟨position + 1, (marks.marked _ _).mpr ⟨rfl, by omega, here⟩,
      (marks.mem_star_plain (by omega)).mpr ⟨after, within, none⟩⟩

/-- Each of these steps passes one marked position. -/
theorem steps_marked (marks : Marks subject mark plain marked) {times : Nat}
    (inside : position ≤ subject.length)
    (steps : Steps ((seq marked (star plain)).ends subject) times position last) :
    position ≤ last ∧ last ≤ subject.length ∧ between mark position last = times := by
  induction times generalizing position with
  | zero =>
      obtain rfl : position = last := steps
      exact ⟨Nat.le_refl _, inside, between_self mark position⟩
  | succ times ih =>
      obtain ⟨middle, reached, later⟩ := steps
      obtain ⟨after, within, here, none⟩ := marks.mem_seq_marked.mp reached
      obtain ⟨further, bounded, rest⟩ := ih within later
      refine ⟨by omega, bounded, ?_⟩
      rw [between_succ (by omega), @between_add _ _ middle _ after further, none, rest, here]
      simp only [if_true]
      omega

/-- After some positions without a mark, such steps lead to the end. -/
theorem reaches_end (marks : Marks subject mark plain marked) (inside : position ≤ subject.length) :
    ∃ middle, position ≤ middle ∧ middle ≤ subject.length ∧ between mark position middle = 0 ∧
      Steps ((seq marked (star plain)).ends subject) (between mark middle subject.length) middle
        subject.length := by
  induction size : subject.length - position generalizing position with
  | zero =>
      obtain rfl : position = subject.length := by omega
      refine ⟨_, Nat.le_refl _, Nat.le_refl _, between_self mark _, ?_⟩
      rw [between_self]
      rfl
  | succ rest ih =>
      obtain ⟨middle, after, within, none, steps⟩ := @ih (position + 1) (by omega) (by omega)
      cases here : mark position with
      | false =>
          refine ⟨middle, by omega, within, ?_, steps⟩
          rw [between_succ (by omega), here, none]
          rfl
      | true =>
          refine ⟨position, Nat.le_refl _, inside, between_self mark _, ?_⟩
          rw [between_succ (by omega), here, @between_add _ _ middle _ after within, none]
          simp only [if_true, Nat.zero_add, Nat.add_comm 1]
          exact ⟨middle, marks.mem_seq_marked.mpr ⟨by omega, within, here, none⟩, steps⟩

/-- The marked positions of a whole subject are bounded. -/
theorem mem_counted (marks : Marks subject mark plain marked) {count : Nat} :
    subject.length ∈
        (seq (star plain) (upTo count (seq marked (star plain)))).ends subject 0 ↔
      between mark 0 subject.length ≤ count := by
  rw [mem_seq]
  constructor
  · rintro ⟨middle, reached, later⟩
    obtain ⟨_, within, none⟩ := (marks.mem_star_plain (Nat.zero_le _)).mp reached
    obtain ⟨times, few, steps⟩ := mem_upTo.mp later
    obtain ⟨after, _, rest⟩ := marks.steps_marked within steps
    rw [@between_add _ _ middle _ (Nat.zero_le _) after, none, rest, Nat.zero_add]
    exact few
  · intro few
    obtain ⟨middle, _, within, none, steps⟩ := marks.reaches_end (Nat.zero_le _)
    refine ⟨middle, (marks.mem_star_plain (Nat.zero_le _)).mpr ⟨Nat.zero_le _, within, none⟩,
      mem_upTo.mpr ⟨_, ?_, steps⟩⟩
    rw [@between_add _ _ middle _ (Nat.zero_le _) within, none, Nat.zero_add] at few
    exact few

end Marks

end Regex
end Centro.Library
