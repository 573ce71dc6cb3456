import Centro.Construction.Number
import Mathlib.Data.Rat.Lemmas

namespace Centro.JsNumber

variable {n : JsNumber} {key length : Nat}

/-- Exactly the natural numbers are keys of elements. -/
theorem index_eq_some : n.index = some key ↔ n = .finite key := by
  constructor
  · intro found
    cases n with
    | finite value =>
        simp only [index, Option.ite_none_right_eq_some, Option.some.injEq] at found
        obtain ⟨⟨whole, positive⟩, rfl⟩ := found
        have sign : 0 ≤ value.num := Rat.num_nonneg.mpr positive
        congr 1
        rw [← Rat.intCast_natCast, Int.toNat_of_nonneg sign]
        exact ((Rat.den_eq_one_iff value).mp whole).symm
    | _ => cases found
  · rintro rfl
    exact if_pos ⟨rfl, Rat.natCast_nonneg⟩

@[simp] theorem index_natCast (key : Nat) : (JsNumber.finite key).index = some key :=
  index_eq_some.mpr rfl

@[simp] theorem atLeast_natCast (key length : Nat) :
    (JsNumber.finite key).atLeast length = decide (length ≤ key) := by
  exact decide_eq_decide.mpr Rat.natCast_le_natCast

/-- A number that is as large as some length is not negative. -/
theorem atLeast_zero (large : n.atLeast length = true) : n.atLeast 0 = true := by
  cases n with
  | nan => exact large
  | infinite negative => exact large
  | finite value =>
      simp only [atLeast, decide_eq_true_eq] at large ⊢
      exact le_trans Rat.natCast_nonneg large

/-- An integer that is not negative is a natural number or infinite. -/
theorem index_or_atLeast (whole : n.integer = true) :
    (∃ key, n.index = some key) ∨ n.atLeast length = true ↔ n.atLeast 0 = true := by
  constructor
  · rintro (⟨key, found⟩ | large)
    · rw [index_eq_some.mp found, atLeast_natCast]
      exact decide_eq_true (Nat.zero_le key)
    · exact atLeast_zero large
  · intro positive
    cases n with
    | nan => cases whole
    | infinite negative => exact .inr positive
    | finite value =>
        simp only [integer, decide_eq_true_eq] at whole
        simp only [atLeast, decide_eq_true_eq, Nat.cast_zero] at positive
        exact .inl ⟨value.num.toNat, by simp [index, whole, positive]⟩

/-- What `parseInt` finds is an integer, infinite or no number. -/
theorem integer_parseInt (string : JsString) :
    parseInt string = .nan ∨ (parseInt string).integer = true := by
  have each : ∀ negative radix found, ofDigits negative radix found = .nan ∨
      (ofDigits negative radix found).integer = true := by
    intro negative radix found
    unfold ofDigits
    split
    · exact .inl rfl
    · right
      split
      · rfl
      · cases negative <;> simp [integer]
  unfold parseInt
  dsimp only
  split <;> split <;> exact each _ _ _

end Centro.JsNumber
