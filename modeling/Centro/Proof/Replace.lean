import Centro.Construction.Text
import Mathlib.Data.List.Infix
import Mathlib.Algebra.BigOperators.Group.List.Basic

namespace Centro

variable {needle glue piece string topic connid : JsString} {pieces : List JsString}

theorem splitScan_ne_nil (needle : JsString) (skip : Nat) (piece rest : JsString) :
    splitScan needle skip piece rest ≠ [] := by
  induction rest generalizing skip piece with
  | nil => simp [splitScan]
  | cons unit rest ih =>
      cases skip with
      | zero =>
          rw [splitScan]
          split
          · simp
          · exact ih 0 _
      | succ skip => exact ih skip piece

theorem join_cons (glue piece : JsString) (some : pieces ≠ []) :
    join glue (piece :: pieces) = piece ++ glue ++ join glue pieces :=
  List.intercalate_cons_of_ne_nil some

/-- The scan loses only the code units that it skips. -/
theorem join_splitScan (full : needle ≠ []) (skip : Nat) (piece rest : JsString) :
    join needle (splitScan needle skip piece rest) = piece ++ rest.drop skip := by
  induction rest generalizing skip piece with
  | nil => simp [splitScan, join]
  | cons unit rest ih =>
      cases skip with
      | succ skip => exact ih skip piece
      | zero =>
          rw [splitScan]
          split
          · next found =>
              obtain ⟨tail, same⟩ := List.isPrefixOf_iff_prefix.mp found
              rw [join_cons _ _ (splitScan_ne_nil _ _ _ _), ih, List.nil_append, List.drop_zero, ← same]
              cases needle with
              | nil => exact absurd rfl full
              | cons first more =>
                  obtain ⟨rfl, rfl⟩ := List.cons.inj same
                  simp
          · rw [ih]
            simp

/-- Joining the pieces with the needle gives the string back. -/
theorem join_split (full : needle ≠ []) (string : JsString) :
    join needle (split needle string) = string := by
  simp [split, join_splitScan full]

/-- The needle starts nowhere in the piece, with what follows the piece. -/
def Unmatched (needle piece rest : JsString) : Prop :=
  ∀ front back, piece = front ++ back → back ≠ [] → ¬needle <+: back ++ rest

theorem Unmatched.not_infix {rest : JsString} (full : needle ≠ [])
    (unmatched : Unmatched needle piece rest) : ¬needle <:+: piece := by
  rintro ⟨front, tail, same⟩
  refine unmatched front (needle ++ tail) (by rw [← same, List.append_assoc]) (by simp [full]) ?_
  rw [List.append_assoc]
  exact List.prefix_append _ _

theorem Unmatched.concat {unit : CodeUnit} {rest : JsString}
    (unmatched : Unmatched needle piece (unit :: rest)) (here : ¬needle <+: unit :: rest) :
    Unmatched needle (piece ++ [unit]) rest := by
  intro front back same some
  obtain ⟨early, last, rfl⟩ := List.eq_nil_or_concat' back |>.resolve_left some
  rw [← List.append_assoc] at same
  obtain ⟨rfl, single⟩ := List.append_inj' same rfl
  obtain rfl := List.singleton_inj.mp single
  rw [List.append_assoc]
  by_cases empty : early = []
  · simpa [empty] using here
  · exact unmatched front early rfl empty

/-- No piece of the scan contains the needle. -/
theorem not_infix_splitScan (full : needle ≠ []) (skip : Nat) (piece rest : JsString)
    (unmatched : Unmatched needle piece (rest.drop skip)) :
    ∀ part ∈ splitScan needle skip piece rest, ¬needle <:+: part := by
  induction rest generalizing skip piece with
  | nil =>
      simp only [splitScan, List.mem_singleton]
      rintro part rfl
      exact unmatched.not_infix full
  | cons unit rest ih =>
      cases skip with
      | succ skip => exact ih skip piece unmatched
      | zero =>
          rw [splitScan]
          split
          · intro part member
            rcases List.mem_cons.mp member with rfl | later
            · exact unmatched.not_infix full
            · refine ih _ [] ?_ part later
              intro front back same some
              exact absurd (List.append_eq_nil_iff.mp same.symm).2 some
          · next absent =>
              refine ih 0 _ (unmatched.concat ?_)
              rwa [← List.isPrefixOf_iff_prefix]

/-- The scan goes on where the needle starts nowhere in a front part. -/
theorem splitScan_unmatched {front rest : JsString} (unmatched : Unmatched needle front rest)
    (piece : JsString) :
    splitScan needle 0 piece (front ++ rest) = splitScan needle 0 (piece ++ front) rest := by
  induction front generalizing piece with
  | nil => simp
  | cons first front ih =>
      have absent : needle.isPrefixOf (first :: (front ++ rest)) = false := by
        rw [Bool.eq_false_iff, ne_eq, List.isPrefixOf_iff_prefix]
        exact unmatched [] (first :: front) rfl (List.cons_ne_nil _ _)
      have later : Unmatched needle front rest := fun early back same =>
        unmatched (first :: early) back (by rw [same, List.cons_append])
      rw [List.cons_append, splitScan, absent, if_neg Bool.false_ne_true, ih later]
      simp

theorem splitScan_skip (needle : JsString) (skip : Nat) (piece rest : JsString) :
    splitScan needle skip piece rest = splitScan needle 0 piece (rest.drop skip) := by
  induction skip generalizing rest with
  | zero => rfl
  | succ skip ih =>
      cases rest with
      | nil => simp [splitScan]
      | cons unit rest => exact ih rest

/-- A needle ends a piece. -/
theorem splitScan_needle (full : needle ≠ []) (piece rest : JsString) :
    splitScan needle 0 piece (needle ++ rest) = piece :: splitScan needle 0 [] rest := by
  cases needle with
  | nil => exact absurd rfl full
  | cons first more =>
      have found : (first :: more).isPrefixOf (first :: (more ++ rest)) = true :=
        List.isPrefixOf_iff_prefix.mpr (List.prefix_append _ _)
      rw [List.cons_append, splitScan, found, if_pos rfl, splitScan_skip]
      simp

/-- What comes behind a piece of a joined string. -/
def following (glue : JsString) : List JsString → JsString
  | [] => []
  | piece :: late => glue ++ join glue (piece :: late)

theorem join_following (glue piece : JsString) (late : List JsString) :
    join glue (piece :: late) = piece ++ following glue late := by
  cases late with
  | nil => simp [join, following]
  | cons next late => rw [join_cons _ _ (List.cons_ne_nil _ _), List.append_assoc, following]

/-- Each piece stands somewhere in the joined string. -/
theorem exists_join (glue : JsString) (early : List JsString) (piece : JsString)
    (late : List JsString) :
    ∃ front, join glue (early ++ piece :: late) = front ++ piece ++ following glue late := by
  induction early with
  | nil => exact ⟨[], join_following glue piece late⟩
  | cons first early ih =>
      obtain ⟨front, same⟩ := ih
      have some : early ++ piece :: late ≠ [] := by simp
      refine ⟨first ++ glue ++ front, ?_⟩
      rw [List.cons_append, join_cons _ _ some, same]
      simp only [List.append_assoc]

/-- Splitting gives the pieces back that were joined when the needle starts in none of them. -/
theorem split_join_of_unmatched (full : needle ≠ []) (some : pieces ≠ [])
    (unmatched : ∀ early piece late, pieces = early ++ piece :: late →
      Unmatched needle piece (following needle late)) :
    split needle (join needle pieces) = pieces := by
  induction pieces with
  | nil => exact absurd rfl some
  | cons piece rest ih =>
      rw [join_following, split, splitScan_unmatched (unmatched [] piece rest rfl), List.nil_append]
      cases rest with
      | nil => rfl
      | cons second rest =>
          have later := ih (List.cons_ne_nil _ _) fun early part late cut =>
            unmatched (piece :: early) part late (by rw [cut, List.cons_append])
          rw [following, splitScan_needle full]
          exact congrArg _ later

/-- Splitting at one code unit gives the pieces back that it joins. -/
theorem split_join {unit : CodeUnit} (some : pieces ≠ []) (clean : ∀ piece ∈ pieces, unit ∉ piece) :
    split [unit] (join [unit] pieces) = pieces := by
  refine split_join_of_unmatched (List.cons_ne_nil _ _) some ?_
  rintro early piece late rfl front back same nonempty starts
  obtain ⟨first, more, rfl⟩ := List.exists_cons_of_ne_nil nonempty
  obtain ⟨tail, equal⟩ := starts
  obtain ⟨rfl, -⟩ := List.cons.inj equal
  exact clean piece (by simp) (by simp [same])

/-- The text that stands for the connection id. -/
def placeholder : JsString := text "$\x7bself\x7d"

/-- These are the places in a topic where `replace` puts the connection id. -/
def occurrences (topic : JsString) : Nat := (split placeholder topic).length - 1

theorem split_ne_nil (needle string : JsString) : split needle string ≠ [] :=
  splitScan_ne_nil _ _ _ _

/-- A topic without the placeholder has no such place. -/
theorem occurrences_eq_zero : occurrences topic = 0 ↔ ¬placeholder <:+: topic := by
  have full : placeholder ≠ [] := by decide
  have joined := join_split full topic
  have clean := not_infix_splitScan full 0 [] topic (by
    intro front back same some
    exact absurd (List.append_eq_nil_iff.mp same.symm).2 some)
  rw [occurrences]
  cases pieces : split placeholder topic with
  | nil => exact absurd pieces (split_ne_nil _ _)
  | cons first rest =>
      rw [pieces] at joined
      cases rest with
      | nil =>
          have alone : first = topic := by simpa [join] using joined
          have inside : first ∈ splitScan placeholder 0 [] topic := by
            rw [← split, pieces]
            exact List.mem_singleton_self _
          simpa [alone] using clean first inside
      | cons second rest =>
          rw [join_cons _ _ (List.cons_ne_nil _ _)] at joined
          have inside : placeholder <:+: topic := ⟨first, _, joined⟩
          simp [inside]

theorem replaceSelf_eq_self (connid : JsString) (plain : ¬placeholder <:+: topic) :
    replaceSelf connid topic = topic := by
  have none := occurrences_eq_zero.mpr plain
  have joined := join_split (show placeholder ≠ [] by decide) topic
  rw [occurrences] at none
  cases pieces : split placeholder topic with
  | nil => exact absurd pieces (split_ne_nil _ _)
  | cons first rest =>
      obtain rfl : rest = [] := by simpa [pieces] using none
      rw [pieces] at joined
      rw [replaceSelf, show split (text "$\x7bself\x7d") topic = [first] from pieces]
      simpa [join] using joined

/-- No code unit before a placeholder is a hexadecimal digit. -/
def Detached (topic : JsString) : Prop :=
  ∀ front back, topic = front ++ placeholder ++ back → ∀ digit ∈ front.getLast?, digit ∉ hexDigits

/-- The places of a literal can be checked one by one. -/
theorem detached_of_all
    (all : ((List.range (topic.length + 1)).all fun place =>
      !placeholder.isPrefixOf (topic.drop place) ||
        (topic.take place).getLast?.all fun digit => decide (digit ∉ hexDigits)) = true) :
    Detached topic := by
  rintro front back rfl digit last
  have here := List.all_eq_true.mp all front.length
    (List.mem_range.mpr (by simp only [List.length_append]; omega))
  have starts : placeholder.isPrefixOf ((front ++ placeholder ++ back).drop front.length) = true := by
    rw [List.append_assoc, List.drop_left, List.isPrefixOf_iff_prefix]
    exact List.prefix_append _ _
  rw [starts, List.append_assoc, List.take_left, Option.mem_def.mp last] at here
  exact of_decide_eq_true here

/-- Where the connection id replaces the placeholders of such a topic, it starts nowhere else. -/
theorem unmatched_split (hex : ∀ digit ∈ connid, digit ∈ hexDigits) (absent : ¬connid <:+: topic)
    (detached : Detached topic) {early late : List JsString}
    (cut : split placeholder topic = early ++ piece :: late) :
    Unmatched connid piece (following connid late) := by
  have joined := join_split (show placeholder ≠ [] by decide) topic
  obtain ⟨front, same⟩ := exists_join placeholder early piece late
  rw [cut, same] at joined
  have plain : ¬connid <:+: piece := by
    rintro ⟨before, after, inside⟩
    exact absent ⟨front ++ before, after ++ following placeholder late, by simp [← joined, ← inside]⟩
  intro before back whole nonempty starts
  rcases List.prefix_or_prefix_of_prefix starts (List.prefix_append back _) with inside | inside
  · obtain ⟨rest, same⟩ := inside
    exact plain ⟨before, rest, by rw [whole, ← same, List.append_assoc]⟩
  · obtain ⟨start, last, rfl⟩ := List.eq_nil_or_concat' back |>.resolve_left nonempty
    have digit : last ∈ hexDigits := hex last (inside.subset (by simp))
    cases late with
    | nil =>
        simp only [following, List.append_nil] at starts
        obtain ⟨rest, same⟩ := starts
        exact plain ⟨before, rest, by rw [whole, ← same, List.append_assoc]⟩
    | cons next late =>
        refine detached (front ++ piece) (join placeholder (next :: late)) ?_ last ?_ digit
        · rw [← joined, following]
          simp only [List.append_assoc]
        · rw [whole, ← List.append_assoc, ← List.append_assoc]
          exact List.getLast?_concat

/-- The pieces between the placeholders come back when the connection id is taken out again. -/
theorem split_replaceSelf (full : connid ≠ []) (hex : ∀ digit ∈ connid, digit ∈ hexDigits)
    (absent : ¬connid <:+: topic) (detached : Detached topic) :
    split connid (replaceSelf connid topic) = split placeholder topic :=
  split_join_of_unmatched full (split_ne_nil _ _) fun _ _ _ cut =>
    unmatched_split hex absent detached cut

/-- An additive measure of a joined string. -/
theorem measure_join (measure : JsString → Nat)
    (additive : ∀ front back, measure (front ++ back) = measure front + measure back)
    (glue : JsString) (some : pieces ≠ []) : measure (join glue pieces) =
      (pieces.map measure).sum + (pieces.length - 1) * measure glue := by
  induction pieces with
  | nil => exact absurd rfl some
  | cons piece rest ih =>
      cases rest with
      | nil => simp [join]
      | cons second rest =>
          rw [join_cons _ _ (List.cons_ne_nil _ _), additive, additive, ih (List.cons_ne_nil _ _)]
          simp only [List.map_cons, List.sum_cons, List.length_cons, Nat.add_sub_cancel,
            Nat.succ_mul]
          omega

/-- The replacement changes an additive measure at each of its places. -/
theorem measure_replaceSelf (measure : JsString → Nat)
    (additive : ∀ front back, measure (front ++ back) = measure front + measure back)
    (connid topic : JsString) :
    measure (replaceSelf connid topic) + occurrences topic * measure placeholder =
      measure topic + occurrences topic * measure connid := by
  have before := measure_join measure additive placeholder (split_ne_nil placeholder topic)
  have after := measure_join measure additive connid (split_ne_nil placeholder topic)
  rw [join_split (by decide)] at before
  have same : join connid (split placeholder topic) = replaceSelf connid topic := rfl
  rw [same] at after
  rw [after, before, occurrences]
  omega

end Centro
