import Centro.Library.Backtracking
import Centro.Proof.Pattern

namespace Centro

open Library

variable {config : Config} {topic : JsString} {position last : Nat}

/-- These are the ways in which `re_max_wildcard_somes` takes one code unit: an ordinary one, a
wildcard that does not begin a word, a wildcard that does not end a word, and a whole word. -/
def alternatives (config : Config) : List (Regex CodeUnit) :=
  [.item fun unit => decide (unit ≠ config.wildcardSome),
    .seq (.behind false (.alt .start (.item fun unit => decide (unit = config.separator))))
      (.item fun unit => decide (unit = config.wildcardSome)),
    .seq (.item fun unit => decide (unit = config.wildcardSome))
      (.ahead false (.alt .finish (.item fun unit => decide (unit = config.separator)))),
    wsw config]

/-- The number of alternatives that match at the position. -/
def applying (config : Config) (topic : JsString) (position : Nat) : Nat :=
  (alternatives config).countP fun body => !(body.ends topic position).isEmpty

/-- A matcher never has two ways to go on. -/
def Unambiguous (config : Config) (topic : JsString) : Prop :=
  (∀ position, applying config topic position ≤ 1) ∧
    ∀ last, ((reMaxWildcardSomes config).paths topic 0).count last ≤ 1

/-- The position holds a wildcard with something of the same word on either side. -/
def innerAt (config : Config) (topic : JsString) (position : Nat) : Bool :=
  !opensAt config topic position && decide (topic[position]? = some config.wildcardSome) &&
    !closesAt config topic (position + 1)

/-- One unit matches exactly itself. -/
theorem ends_unit {unit : CodeUnit} :
    (Regex.item fun other => decide (other = unit)).ends topic position =
      if topic[position]? = some unit then [position + 1] else [] := by
  rw [Regex.ends]
  cases topic[position]? <;> simp

/-- Any other unit matches inside the topic. -/
theorem ends_otherUnit {unit : CodeUnit} (below : position < topic.length) :
    (Regex.item fun other => decide (other ≠ unit)).ends topic position =
      if topic[position]? = some unit then [] else [position + 1] := by
  rw [Regex.ends, List.getElem?_eq_getElem below]
  simp

/-- This part of the pattern matches a wildcard that opens no word. -/
theorem ends_notOpening :
    (Regex.seq (.behind false (.alt .start (.item fun unit => decide (unit = config.separator))))
      (.item fun unit => decide (unit = config.wildcardSome))).ends topic position =
      if opensAt config topic position = false ∧ topic[position]? = some config.wildcardSome then
        [position + 1] else [] := by
  rw [Regex.ends, Regex.ends_behind opensAt_iff.symm]
  cases opensAt config topic position <;> simp [ends_unit]

/-- This part of the pattern matches a wildcard that closes no word. -/
theorem ends_notClosing :
    (Regex.seq (.item fun unit => decide (unit = config.wildcardSome))
      (.ahead false (.alt .finish (.item fun unit => decide (unit = config.separator))))).ends topic
        position =
      if topic[position]? = some config.wildcardSome ∧ closesAt config topic (position + 1) = false
      then [position + 1] else [] := by
  rw [Regex.ends, ends_unit]
  split
  · next found =>
      have below := (List.getElem?_eq_some_iff.mp found).1
      rw [List.flatMap_singleton, Regex.ends_ahead (closesAt_iff below).symm]
      simp [found]
  · next other => simp [other]

/-- The expression for a wildcard between separators matches exactly there. -/
theorem ends_wsw : (wsw config).ends topic position =
    if wildcardAt config topic position = true then [position + 1] else [] := by
  rw [wsw, Regex.seqs, Regex.ends, Regex.ends_behind opensAt_iff.symm, Regex.seqs, wildcardAt]
  cases opensAt config topic position with
  | false => simp
  | true =>
      rw [if_pos rfl, List.flatMap_singleton, Regex.ends, ends_unit]
      split
      · next found =>
          have below := (List.getElem?_eq_some_iff.mp found).1
          rw [List.flatMap_singleton, Regex.seqs, Regex.ends,
            Regex.ends_ahead (closesAt_iff below).symm]
          cases closesAt config topic (position + 1) <;> simp [found, Regex.seqs, Regex.ends]
      · next other => simp [other]

/-- Two alternatives match at a wildcard inside a word, and at most one anywhere else. -/
theorem applying_eq (config : Config) (topic : JsString) (position : Nat) :
    applying config topic position = if position < topic.length then
      if innerAt config topic position then 2 else 1 else 0 := by
  unfold applying alternatives innerAt
  simp only [List.countP_cons, List.countP_nil, ends_notOpening, ends_notClosing, ends_wsw]
  by_cases below : position < topic.length
  · rw [if_pos below, ends_otherUnit below, wildcardAt]
    by_cases found : topic[position]? = some config.wildcardSome
    · cases opensAt config topic position <;> cases closesAt config topic (position + 1) <;>
        simp [found]
    · simp [found]
  · have none : topic[position]? = none := List.getElem?_eq_none_iff.mpr (Nat.le_of_not_lt below)
    simp [below, Regex.ends, wildcardAt]

/-- The expression for the other code units has two ways past a wildcard inside a word. -/
theorem doubles_wildcards (config : Config) (topic : JsString) :
    Regex.Doubles topic (wildcardAt config topic) (innerAt config topic) (nonWsw config)
      (wsw config) where
  plain position below := by
    have ordinary : (Regex.item fun unit => decide (unit ≠ config.wildcardSome)).paths topic
        position = _ := ends_otherUnit below
    have opening : (Regex.seq (.behind false (.alt .start (.item fun unit =>
        decide (unit = config.separator)))) (.item fun unit =>
        decide (unit = config.wildcardSome))).paths topic position = _ := ends_notOpening
    have closing : (Regex.seq (.item fun unit => decide (unit = config.wildcardSome))
        (.ahead false (.alt .finish (.item fun unit =>
        decide (unit = config.separator))))).paths topic position = _ := ends_notClosing
    rw [nonWsw, Regex.paths, ordinary, Regex.paths, opening, closing, wildcardAt, innerAt]
    by_cases found : topic[position]? = some config.wildcardSome
    · cases opensAt config topic position <;> cases closesAt config topic (position + 1) <;>
        simp [found]
    · simp [found]
  marked position := by
    have whole : (wsw config).paths topic position = _ := ends_wsw
    rw [whole]
    refine if_congr ⟨fun marked => ⟨?_, marked⟩, And.right⟩ rfl rfl
    simp only [wildcardAt, Bool.and_eq_true, decide_eq_true_eq] at marked
    exact (List.getElem?_eq_some_iff.mp marked.1.2).1
  apart position inner := by
    simp only [innerAt, Bool.and_eq_true, Bool.not_eq_true'] at inner
    simp [wildcardAt, inner.1.1]

/-- The number of ways to a position doubles with each wildcard inside a word. -/
theorem count_ways (config : Config) {topic : JsString} {last : Nat} (within : last ≤ topic.length) :
    ((reMaxWildcardSomes config).paths topic 0).count last =
      if Regex.between (wildcardAt config topic) 0 last ≤ config.maxWildcardSomes then
        2 ^ Regex.between (innerAt config topic) 0 last else 0 :=
  (doubles_wildcards config topic).count_paths (Nat.zero_le last) within

/-- A wildcard inside a word is inside the topic. -/
theorem innerAt_lt (inner : innerAt config topic position = true) : position < topic.length := by
  simp only [innerAt, Bool.and_eq_true, decide_eq_true_eq] at inner
  exact (List.getElem?_eq_some_iff.mp inner.1.2).1

/-- The matcher has at most one way to go on if no wildcard is inside a word, and only then. -/
theorem unambiguous_iff (config : Config) (topic : JsString) :
    Unambiguous config topic ↔ ∀ position, innerAt config topic position = false := by
  constructor
  · rintro ⟨single, _⟩ position
    have few := single position
    rw [applying_eq] at few
    cases inner : innerAt config topic position with
    | false => rfl
    | true =>
        rw [if_pos (innerAt_lt inner), inner] at few
        exact absurd few (by decide)
  · intro outer
    constructor
    · intro position
      rw [applying_eq, outer]
      split <;> simp
    · intro last
      rcases Nat.lt_or_ge topic.length last with beyond | within
      · have unreached : last ∉ (reMaxWildcardSomes config).paths topic 0 := by
          intro reached
          have inside := (Regex.ends_bounds _).2 0 (Nat.zero_le _) last
            ((Regex.mem_paths (Nat.zero_le _)).mp reached)
          exact Nat.not_lt.mpr inside beyond
        rw [List.count_eq_zero.mpr unreached]
        exact Nat.zero_le 1
      · have none : Regex.between (innerAt config topic) 0 last = 0 := by
          rw [Regex.between, List.countP_eq_zero]
          simp [outer]
        rw [count_ways config within, none]
        split <;> simp

/-- The default configuration has two ways past the wildcard in the middle. -/
theorem pattern_ambiguous : applying {} (text "a#b") 1 = 2 ∧
    ((reMaxWildcardSomes {}).paths (text "a#b") 0).count 3 = 2 ∧
    ¬∀ (config : Config) (topic : JsString), config.wildcardSome ≠ config.separator →
      Unambiguous config topic := by
  have twice : applying {} (text "a#b") 1 = 2 := by decide
  refine ⟨twice, by decide, fun all => ?_⟩
  have single := (all {} (text "a#b") (by decide)).1 1
  rw [twice] at single
  exact absurd single (by decide)

end Centro
