import Centro.Construction.Pattern
import Centro.Library.Words

namespace Centro

open Library

variable {config : Config} {topic : JsString} {position last : Nat}

def separatorAt (config : Config) (topic : JsString) (position : Nat) : Bool :=
  topic[position]? = some config.separator

/-- A word begins at the position. -/
def opensAt (config : Config) (topic : JsString) (position : Nat) : Bool :=
  position = 0 ∨ topic[position - 1]? = some config.separator

/-- A word ends at the position. -/
def closesAt (config : Config) (topic : JsString) (position : Nat) : Bool :=
  topic[position]? = none ∨ topic[position]? = some config.separator

/-- The position holds a word that is the wildcard. -/
def wildcardAt (config : Config) (topic : JsString) (position : Nat) : Bool :=
  opensAt config topic position && decide (topic[position]? = some config.wildcardSome) &&
    closesAt config topic (position + 1)

theorem mem_unit {unit : CodeUnit} :
    last ∈ (Regex.item fun other => decide (other = unit)).ends topic position ↔
      last = position + 1 ∧ topic[position]? = some unit := by
  simp [Regex.mem_item]

theorem mem_otherUnit {unit : CodeUnit} :
    last ∈ (Regex.item fun other => decide (other ≠ unit)).ends topic position ↔
      last = position + 1 ∧ position < topic.length ∧ ¬topic[position]? = some unit := by
  rw [Regex.mem_item]
  refine and_congr_right fun _ => ?_
  cases found : topic[position]? with
  | none => simp [List.getElem?_eq_none_iff.mp found]
  | some other => simp [(List.getElem?_eq_some_iff.mp found).1]

/-- The expression for words stops at each separator. -/
theorem marks_words (config : Config) (topic : JsString) :
    Regex.Marks topic (separatorAt config topic)
      (.item fun unit => decide (unit ≠ config.separator))
      (.item fun unit => decide (unit = config.separator)) where
  plain position last := by
    rw [mem_otherUnit, separatorAt, decide_eq_false_iff_not]
  marked position last := by
    rw [mem_unit, separatorAt, decide_eq_true_iff]
    refine and_congr_right fun _ => ⟨fun found => ⟨?_, found⟩, And.right⟩
    exact (List.getElem?_eq_some_iff.mp found).1

theorem opensAt_iff : (∃ before ≤ position, position ∈
    (Regex.alt .start (.item fun unit => decide (unit = config.separator))).ends topic before) ↔
      opensAt config topic position = true := by
  rw [opensAt, decide_eq_true_iff]
  constructor
  · rintro ⟨before, _, reached⟩
    rcases Regex.mem_alt.mp reached with start | behind
    · obtain ⟨rfl, rfl⟩ := Regex.mem_start.mp start
      exact .inl rfl
    · obtain ⟨rfl, found⟩ := mem_unit.mp behind
      exact .inr found
  · rintro (rfl | found)
    · exact ⟨0, Nat.le_refl 0, Regex.mem_alt.mpr (.inl (Regex.mem_start.mpr ⟨rfl, rfl⟩))⟩
    · cases position with
      | zero => exact ⟨0, Nat.le_refl 0, Regex.mem_alt.mpr (.inl (Regex.mem_start.mpr ⟨rfl, rfl⟩))⟩
      | succ before =>
          exact ⟨before, Nat.le_succ _, Regex.mem_alt.mpr (.inr (mem_unit.mpr ⟨rfl, found⟩))⟩

theorem closesAt_iff (inside : position ≤ topic.length) : (∃ reached, reached ∈
    (Regex.alt .finish (.item fun unit => decide (unit = config.separator))).ends topic position) ↔
      closesAt config topic position = true := by
  rw [closesAt, decide_eq_true_iff]
  constructor
  · rintro ⟨reached, member⟩
    rcases Regex.mem_alt.mp member with finish | ahead
    · exact .inl (List.getElem?_eq_none_iff.mpr (Nat.le_of_eq (Regex.mem_finish.mp finish).2.symm))
    · exact .inr (mem_unit.mp ahead).2
  · rintro (none | found)
    · have whole := Nat.le_antisymm inside (List.getElem?_eq_none_iff.mp none)
      exact ⟨position, Regex.mem_alt.mpr (.inl (Regex.mem_finish.mpr ⟨rfl, whole⟩))⟩
    · exact ⟨position + 1, Regex.mem_alt.mpr (.inr (mem_unit.mpr ⟨rfl, found⟩))⟩

/-- The pattern calls this `wsw`. -/
def wsw (config : Config) : Regex CodeUnit :=
  .seqs [.behind true (.alt .start (.item fun unit => decide (unit = config.separator))),
    .item fun unit => decide (unit = config.wildcardSome),
    .ahead true (.alt .finish (.item fun unit => decide (unit = config.separator)))]

/-- The pattern repeats this in `non_wsw`. -/
def nonWsw (config : Config) : Regex CodeUnit :=
  .alt (.item fun unit => decide (unit ≠ config.wildcardSome))
    (.alt (.seq (.behind false (.alt .start (.item fun unit => decide (unit = config.separator))))
        (.item fun unit => decide (unit = config.wildcardSome)))
      (.seq (.item fun unit => decide (unit = config.wildcardSome))
        (.ahead false (.alt .finish (.item fun unit => decide (unit = config.separator))))))

/-- The expression for wildcards stops at each word that is the wildcard. -/
theorem marks_wildcards (config : Config) (topic : JsString) :
    Regex.Marks topic (wildcardAt config topic) (nonWsw config) (wsw config) where
  plain position last := by
    rw [nonWsw, Regex.mem_alt, mem_otherUnit, Regex.mem_alt, Regex.mem_seq, Regex.mem_seq]
    simp only [Regex.mem_behind, Regex.mem_ahead, mem_unit, opensAt_iff, Bool.false_eq_true, iff_false,
      Bool.not_eq_true]
    constructor
    · rintro (⟨next, below, other⟩ | ⟨_, ⟨rfl, inside⟩, next, found⟩ |
        ⟨_, ⟨next, found⟩, rfl, inside⟩)
      · exact ⟨next, below, by simp [wildcardAt, other]⟩
      · exact ⟨next, (List.getElem?_eq_some_iff.mp found).1, by simp [wildcardAt, inside]⟩
      · have below := (List.getElem?_eq_some_iff.mp found).1
        rw [next, closesAt_iff below, Bool.not_eq_true] at inside
        exact ⟨next, below, by simp [wildcardAt, inside]⟩
    · rintro ⟨next, below, unmarked⟩
      by_cases found : topic[position]? = some config.wildcardSome
      · right
        cases opens : opensAt config topic position with
        | false => exact .inl ⟨position, ⟨rfl, rfl⟩, next, found⟩
        | true =>
            have closes : closesAt config topic (position + 1) = false := by
              simpa [wildcardAt, opens, found] using unmarked
            refine .inr ⟨position + 1, ⟨rfl, found⟩, next, ?_⟩
            rw [closesAt_iff below, closes]
            exact Bool.false_ne_true
      · exact .inl ⟨next, below, found⟩
  marked position last := by
    simp only [wsw, Regex.seqs, Regex.mem_seq, Regex.mem_behind, Regex.mem_ahead, mem_unit, opensAt_iff,
      iff_true]
    constructor
    · rintro ⟨_, ⟨rfl, opens⟩, _, ⟨rfl, found⟩, _, ⟨rfl, closes⟩, empty⟩
      have below := (List.getElem?_eq_some_iff.mp found).1
      rw [closesAt_iff below] at closes
      exact ⟨List.mem_singleton.mp empty, below, by simp [wildcardAt, opens, found, closes]⟩
    · rintro ⟨rfl, below, marked⟩
      simp only [wildcardAt, Bool.and_eq_true, decide_eq_true_eq] at marked
      exact ⟨position, ⟨rfl, marked.1.1⟩, position + 1, ⟨rfl, marked.1.2⟩, position + 1,
        ⟨rfl, (closesAt_iff below).mpr marked.2⟩, List.mem_singleton_self _⟩

/-- The marked positions for words are the separators. -/
theorem between_separators (config : Config) (topic : JsString) :
    Regex.between (separatorAt config topic) 0 topic.length = topic.count config.separator := by
  refine Regex.between_eq (fun _ rest => rest.count config.separator) (fun _ => rfl) ?_
  intro position unit rest dropped
  have found : topic[position]? = some unit := by
    rw [← List.head?_drop, dropped]
    rfl
  rw [List.count_cons, separatorAt, found]
  by_cases same : unit = config.separator <;> simp [same, Nat.add_comm]

/-- The marked positions for wildcards are the words that are the wildcard. -/
theorem between_wildcards (config : Config) (topic : JsString) :
    Regex.between (wildcardAt config topic) 0 topic.length =
      isolated config.separator config.wildcardSome true topic := by
  refine Regex.between_eq (fun position rest =>
    isolated config.separator config.wildcardSome (opensAt config topic position) rest)
    (fun _ => rfl) ?_
  intro position unit rest dropped
  have found : topic[position]? = some unit := by
    rw [← List.head?_drop, dropped]
    rfl
  have next : topic[position + 1]? = rest.head? := by
    rw [← List.head?_drop, ← List.drop_drop, dropped]
    rfl
  have opens : opensAt config topic (position + 1) = decide (unit = config.separator) := by
    simp [opensAt, found]
  rw [isolated, opens]
  simp only [wildcardAt, found, closesAt, next, Option.some.injEq, Bool.and_eq_true,
    decide_eq_true_eq, and_assoc]

/-- The part of the pattern that bounds the words. -/
def reMaxWords (config : Config) : Regex CodeUnit :=
  .seq (.star (.item fun unit => decide (unit ≠ config.separator)))
    (repeated (config.maxWords - 1) (.seq (.item fun unit => decide (unit = config.separator))
      (.star (.item fun unit => decide (unit ≠ config.separator)))))

/-- The part of the pattern that bounds the wildcards. -/
def reMaxWildcardSomes (config : Config) : Regex CodeUnit :=
  .seq (.star (nonWsw config))
    (.upTo config.maxWildcardSomes (.seq (wsw config) (.star (nonWsw config))))

theorem mem_reMaxWildcardSomes : topic.length ∈ (reMaxWildcardSomes config).ends topic 0 ↔
    isolated config.separator config.wildcardSome true topic ≤ config.maxWildcardSomes := by
  rw [reMaxWildcardSomes, (marks_wildcards config topic).mem_counted, between_wildcards]

/-- The pattern bounds words, wildcards and the length, each on its own. -/
theorem test_getTopicPattern (config : Config) (topic : JsString) :
    (getTopicPattern config).test topic = true ↔
      topic.length ∈ (reMaxWords config).ends topic 0 ∧
      isolated config.separator config.wildcardSome true topic ≤ config.maxWildcardSomes ∧
      ∀ length, config.maxTopicLength = some length →
        topic.length ≤ length ∧ ∀ unit ∈ topic, unit ∉ lineTerminators := by
  rw [← mem_reMaxWildcardSomes]
  cases size : config.maxTopicLength with
  | none =>
      have pattern : getTopicPattern config = .seqs (.start :: [reMaxWords config, reMaxWildcardSomes config].map
          fun body => .ahead true (.seq body .finish)) := by
        simp only [getTopicPattern, size, List.map_cons, List.map_nil]
        rfl
      rw [pattern, Regex.test_anchored]
      simp
  | some length =>
      have pattern : getTopicPattern config = .seqs (.start :: [reMaxWords config,
          reMaxWildcardSomes config, .upTo length (.item fun unit => unit ∉ lineTerminators)].map
          fun body => .ahead true (.seq body .finish)) := by
        simp only [getTopicPattern, size, List.map_cons, List.map_nil]
        rfl
      rw [pattern, Regex.test_anchored]
      simp [Regex.mem_upTo_item]

/-- A positive bound for the words bounds the separators. -/
theorem mem_reMaxWords (some : 1 ≤ config.maxWords) :
    topic.length ∈ (reMaxWords config).ends topic 0 ↔
      topic.count config.separator < config.maxWords := by
  obtain ⟨count, same⟩ := Nat.exists_eq_add_of_le some
  have bound : ((config.maxWords : Int) - 1) = .ofNat count := by
    change (config.maxWords : Int) - 1 = count
    omega
  rw [reMaxWords, bound, repeated, (marks_words config topic).mem_counted, between_separators]
  omega

/-- A bound of zero makes the pattern ask for the six characters of the repetition at the end. -/
theorem count_of_mem_reMaxWords (none : config.maxWords = 0)
    (member : topic.length ∈ (reMaxWords config).ends topic 0) :
    topic.count config.separator ≤ 7 := by
  have bound : ((config.maxWords : Int) - 1) = .negSucc 0 := by
    rw [none]
    rfl
  rw [reMaxWords, bound, repeated] at member
  obtain ⟨first, begun, later⟩ := Regex.mem_seq.mp member
  obtain ⟨second, marked, literal⟩ := Regex.mem_seq.mp later
  have words := marks_words config topic
  obtain ⟨_, inside, before⟩ := (words.mem_star_plain (Nat.zero_le _)).mp begun
  obtain ⟨after, within, here, between⟩ := words.mem_seq_marked.mp marked
  have last : topic.length = second + 6 := Regex.mem_seqs_items literal
  have rest := Regex.between_le (separatorAt config topic) second topic.length
  rw [← between_separators, @Regex.between_add _ _ first _ (Nat.zero_le _) inside, before,
    Regex.between_succ (Nat.lt_of_lt_of_le after within), here, if_pos rfl,
    @Regex.between_add _ _ second _ after within, between]
  omega

/-- The pattern counts the words of a topic, the words that are the wildcard, and the code units. -/
theorem pattern_counts (apart : config.wildcardSome ≠ config.separator) (positive : 1 ≤ config.maxWords)
    (plain : ∀ length, config.maxTopicLength = some length →
      ∀ unit ∈ topic, unit ∉ lineTerminators) :
    (getTopicPattern config).test topic = true ↔
      (words config.separator topic).length ≤ config.maxWords ∧
      (words config.separator topic).count [config.wildcardSome] ≤ config.maxWildcardSomes ∧
      ∀ length, config.maxTopicLength = some length → topic.length ≤ length := by
  rw [test_getTopicPattern, mem_reMaxWords positive, length_words, (count_words apart topic).1]
  refine and_congr Iff.rfl (and_congr_right fun _ => ?_)
  constructor
  · intro bounded length same
    exact (bounded length same).1
  · intro bounded length same
    exact ⟨bounded length same, plain length same⟩

theorem pattern_counts_sample :
    (getTopicPattern {}).test (text "a.#") = true ↔
      (words (codeUnit '.') (text "a.#")).length ≤ 100 ∧
      (words (codeUnit '.') (text "a.#")).count [codeUnit '#'] ≤ 3 ∧
      ∀ length, (some (4 * 1024) : Option Nat) = some length → (text "a.#").length ≤ length :=
  @pattern_counts {} (text "a.#") (by decide) (by decide) fun _ _ => List.forall_iff_forall_mem.mp
    (by simp [text, lineTerminators])

end Centro
