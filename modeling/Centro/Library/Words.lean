import Mathlib.Tactic.Common
import Mathlib.Tactic.TypeStar

namespace Centro.Library

variable {α : Type*} [DecidableEq α]

/-- The separator cuts a topic into its words. -/
def words (separator : α) (topic : List α) : List (List α) := topic.splitOn separator

/-- A part without separators in front of a separator is the first word. -/
theorem words_append (separator : α) (front rest : List α) (clean : separator ∉ front) :
    words separator (front ++ separator :: rest) = front :: words separator rest := by
  refine List.splitOnP_append_cons_of_forall_mem (p := (· == separator)) ?_ _
    (beq_self_eq_true separator) rest
  intro item member
  exact beq_false_of_ne fun equal => clean (equal ▸ member)

theorem words_ne_nil (separator : α) (topic : List α) : words separator topic ≠ [] :=
  List.splitOnP_ne_nil _ _

theorem words_cons (separator item : α) (rest : List α) : words separator (item :: rest) =
    if item = separator then [] :: words separator rest
    else (words separator rest).modifyHead (List.cons item) := by
  simp [words, List.splitOn_cons_eq_if_modifyHead]

/-- There is one word more than there are separators. -/
theorem length_words (separator : α) (topic : List α) :
    (words separator topic).length = topic.count separator + 1 := by
  induction topic with
  | nil => rfl
  | cons item rest ih =>
      rw [words_cons]
      by_cases here : item = separator
      · simp [here, ih]
      · simp [here, ih]

/-- Words have no separators. -/
theorem not_mem_words (separator : α) (topic : List α) :
    ∀ word ∈ words separator topic, separator ∉ word := by
  induction topic with
  | nil => simp [words]
  | cons item rest ih =>
      rw [words_cons]
      by_cases here : item = separator
      · simpa [here] using ih
      · cases later : words separator rest with
        | nil => exact absurd later (words_ne_nil separator rest)
        | cons front more =>
            rw [later] at ih
            rw [if_neg here, List.modifyHead_cons]
            intro word member
            rcases List.mem_cons.mp member with rfl | tail
            · rw [List.mem_cons, not_or]
              exact ⟨fun same => here same.symm, ih front List.mem_cons_self⟩
            · exact ih word (List.mem_cons_of_mem _ tail)

/-- The first word is empty when nothing or a separator comes first. -/
theorem head_words (separator : α) (topic : List α) : (words separator topic).head? = some [] ↔
    topic.head? = none ∨ topic.head? = some separator := by
  cases topic with
  | nil => simp [words]
  | cons item rest =>
      rw [words_cons]
      by_cases here : item = separator
      · simp [here]
      · cases later : words separator rest with
        | nil => exact absurd later (words_ne_nil separator rest)
        | cons front more => simp [here]

/-- This counts the places where a mark is a whole word. The flag tells whether a word begins. -/
def isolated (separator mark : α) : Bool → List α → Nat
  | _, [] => 0
  | opens, item :: rest =>
      (if opens ∧ item = mark ∧ (rest.head? = none ∨ rest.head? = some separator) then 1 else 0) +
        isolated separator mark (item = separator) rest

/-- The whole words are those that begin at a place where the scan has come to the begin of a word. -/
theorem count_words {separator mark : α} (apart : mark ≠ separator) (topic : List α) :
    (words separator topic).count [mark] = isolated separator mark true topic ∧
      (words separator topic).tail.count [mark] = isolated separator mark false topic := by
  induction topic with
  | nil => simp [words, isolated]
  | cons item rest ih =>
      rw [words_cons]
      by_cases here : item = separator
      · subst here
        simp [isolated, apart.symm, ih.1]
      · have first := head_words separator rest
        cases later : words separator rest with
        | nil => exact absurd later (words_ne_nil separator rest)
        | cons front more =>
            rw [later] at ih first
            simp only [List.head?_cons, Option.some.injEq] at first
            simp only [here, if_false, List.modifyHead_cons, List.tail_cons, isolated,
              decide_false, Bool.false_eq_true, false_and, Nat.zero_add]
            simp only [List.tail_cons] at ih
            refine ⟨?_, ih.2⟩
            simp only [List.count_cons, ih.2, ← first]
            simp [Nat.add_comm]

/-- A mark that separates words is no word. -/
theorem count_words_separator (separator : α) (topic : List α) :
    (words separator topic).count [separator] = 0 := by
  rw [List.count_eq_zero]
  exact fun member => not_mem_words separator topic _ member (List.mem_singleton_self _)

section Glue

variable {separator mark : α} {glue rest : List α}

theorem isolated_false_le (opens : Bool) (rest : List α) :
    isolated separator mark false rest ≤ isolated separator mark opens rest := by
  cases rest with
  | nil => exact Nat.le_refl _
  | cons item rest => simp [isolated]

theorem isolated_le_append (opens : Bool) (front rest : List α) :
    isolated separator mark false rest ≤ isolated separator mark opens (front ++ rest) := by
  induction front generalizing opens with
  | nil => exact isolated_false_le opens rest
  | cons item front ih =>
      rw [List.cons_append, isolated]
      exact Nat.le_add_left_of_le (ih _)

/-- A part without separators and marks ends no word that is a mark. -/
theorem isolated_append (opens : Bool) (full : glue ≠ [])
    (plain : ∀ item ∈ glue, item ≠ separator ∧ item ≠ mark) (rest : List α) :
    isolated separator mark opens (glue ++ rest) = isolated separator mark false rest := by
  induction glue generalizing opens with
  | nil => exact absurd rfl full
  | cons item glue ih =>
      obtain ⟨apart, other⟩ := plain item List.mem_cons_self
      rw [List.cons_append, isolated, if_neg fun all => other all.2.1, Nat.zero_add,
        decide_eq_false apart]
      by_cases last : glue = []
      · rw [last, List.nil_append]
      · exact ih false last fun later member => plain later (List.mem_cons_of_mem _ member)

/-- Another glue behind a front part does not make a mark of it. -/
theorem isolated_glue_le (opens : Bool) (front : List α) {others more : List α} (full : glue ≠ [])
    (plain : ∀ item ∈ glue, item ≠ separator ∧ item ≠ mark)
    (fewer : isolated separator mark false rest ≤ isolated separator mark false more) :
    isolated separator mark opens (front ++ (glue ++ rest)) ≤
      isolated separator mark opens (front ++ (others ++ more)) := by
  induction front generalizing opens with
  | nil =>
      rw [List.nil_append, List.nil_append, isolated_append opens full plain]
      exact Nat.le_trans fewer (isolated_le_append opens others more)
  | cons item front ih =>
      rw [List.cons_append, List.cons_append, isolated, isolated]
      refine Nat.add_le_add ?_ (ih _)
      cases front with
      | nil =>
          obtain ⟨first, later, rfl⟩ := List.exists_cons_of_ne_nil full
          have apart := (plain first List.mem_cons_self).1
          simp [apart]
      | cons next front => exact Nat.le_refl _

/-- The glue between pieces only takes marks away. -/
theorem isolated_intercalate_le (opens : Bool) (others : List α) (pieces : List (List α))
    (full : glue ≠ []) (plain : ∀ item ∈ glue, item ≠ separator ∧ item ≠ mark) :
    isolated separator mark opens (glue.intercalate pieces) ≤
      isolated separator mark opens (others.intercalate pieces) := by
  induction pieces generalizing opens with
  | nil => exact Nat.le_refl _
  | cons piece pieces ih =>
      by_cases last : pieces = []
      · simp [last]
      · rw [List.intercalate_cons_of_ne_nil last, List.intercalate_cons_of_ne_nil last,
          List.append_assoc, List.append_assoc]
        exact isolated_glue_le opens piece full plain (ih false)

end Glue

/-- The front of a topic that ends at a separator is its first word only if it has none itself. -/
def FirstWord (separator : α) (word topic : List α) : Prop :=
  (words separator topic).head? = some word

theorem firstWord_append {separator : α} {front : List α} (rest : List α)
    (clean : separator ∉ front) : FirstWord separator front (front ++ separator :: rest) := by
  rw [FirstWord, words_append separator front rest clean]
  rfl

/-- The first word reaches to the first separator. -/
theorem firstWord_takeWhile (separator : α) (topic : List α) :
    FirstWord separator (topic.takeWhile (· ≠ separator)) topic := by
  induction topic with
  | nil => rfl
  | cons item rest ih =>
      rw [FirstWord, words_cons]
      by_cases here : item = separator
      · simp [here]
      · rw [FirstWord] at ih
        simp [here, ih, List.head?_modifyHead]

theorem FirstWord.unique {separator : α} {first second topic : List α}
    (left : FirstWord separator first topic) (right : FirstWord separator second topic) :
    first = second :=
  Option.some.inj (left.symm.trans right)

/-- A pattern has a word for exactly one word and a word for any number of words. -/
structure Wildcards (α : Type*) where
  one : List α
  some : List α

/-- The AMQP rules match the words of a pattern with the words of a topic. -/
def matchWords (wildcards : Wildcards α) : List (List α) → List (List α) → Bool
  | [], topic => topic.isEmpty
  | word :: pattern, topic =>
      if word = wildcards.some then topic.tails.any (matchWords wildcards pattern)
      else match topic with
        | [] => false
        | next :: rest =>
            (word == wildcards.one || word == next) && matchWords wildcards pattern rest

/-- A pattern matches a topic when their words match. -/
def matchTopic (wildcards : Wildcards α) (separator : α) (pattern topic : List α) : Bool :=
  matchWords wildcards (words separator pattern) (words separator topic)

/-- A literal first word of a pattern is the first word of each topic it matches. -/
theorem matchTopic_firstWord {wildcards : Wildcards α} {separator : α}
    {word pattern topic : List α} (first : FirstWord separator word pattern)
    (notOne : word ≠ wildcards.one) (notSome : word ≠ wildcards.some)
    (matched : matchTopic wildcards separator pattern topic = true) :
    FirstWord separator word topic := by
  unfold FirstWord at first ⊢
  unfold matchTopic at matched
  cases patternWords : words separator pattern with
  | nil => exact absurd patternWords (words_ne_nil separator pattern)
  | cons front rest =>
      obtain rfl : front = word := by simpa [patternWords] using first
      cases topicWords : words separator topic with
      | nil => exact absurd topicWords (words_ne_nil separator topic)
      | cons next tail =>
          simp only [patternWords, topicWords, matchWords, notSome, if_false, Bool.and_eq_true,
            Bool.or_eq_true, beq_iff_eq, notOne, false_or] at matched
          simp [matched.1]

end Centro.Library
