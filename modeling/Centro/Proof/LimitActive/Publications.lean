import Centro.Construction.ActivePublications
import Centro.Library.Trace

namespace Centro

open Library

variable {Stream Options Arguments : Type*}

namespace PublishCall

/-- A request that is passed on is an accepted publication. -/
def accepted : PublishCall Stream Options Arguments → Option Nat
  | next publication _ => some publication
  | _ => none

/-- The callback of the publication is called. -/
def completes (publication : Nat) : PublishCall Stream Options Arguments → Bool
  | cb2 other _ => other == publication
  | _ => false

def completion : PublishCall Stream Options Arguments → Option (Nat × PublishAnswer Arguments)
  | cb2 publication arguments => some (publication, .arguments arguments)
  | _ => none

def passedOn : PublishCall Stream Options Arguments → Option (Nat × PublishAnswer Arguments)
  | cb publication answer => some (publication, answer)
  | _ => none

end PublishCall

namespace ActivePublications

variable {maxPublications : Nat} {before after state : ActivePublications Stream Options Arguments}
  {event : PublishEvent Stream Options Arguments}

/-- These publications were accepted, and their callback was not called yet. -/
def outstanding (calls : List (PublishCall Stream Options Arguments)) : Nat :=
  (calls.filterMap PublishCall.accepted).countP fun publication =>
    !calls.any (PublishCall.completes publication)

/-- A request is refused when the limit is reached, and it is passed on otherwise. -/
def Decided (maxPublications : Nat) (calls : List (PublishCall Stream Options Arguments)) :
    PublishCall Stream Options Arguments → Prop
  | .refused _ _ => outstanding calls = maxPublications
  | .next _ _ => outstanding calls < maxPublications
  | _ => True

/-- The counter is the number of outstanding publications and keeps to the limit. A request is
refused exactly at the limit, and every call of a callback is passed on. -/
structure Exact (maxPublications : Nat) (state : ActivePublications Stream Options Arguments) :
    Prop where
  counted : state.count = outstanding state.calls
  lower : 0 ≤ state.count
  upper : state.count ≤ maxPublications
  decided : Justified (Decided maxPublications) state.calls
  passed : state.calls.filterMap PublishCall.completion = state.calls.filterMap PublishCall.passedOn

/-- The variable of a publication is the callback once `cb2` was called. -/
structure Tracked (state : ActivePublications Stream Options Arguments) : Prop where
  numbers : state.calls.filterMap PublishCall.accepted = List.range state.publications.length
  noted : ∀ publication decrement, state.publications[publication]? = some decrement →
    (decrement = .cb ↔ state.calls.any (PublishCall.completes publication) = true)
  unknown : ∀ publication, state.publications.length ≤ publication →
    state.calls.any (PublishCall.completes publication) = false

/-- The outstanding publications are those with their own function. -/
theorem Tracked.outstanding_eq (tracked : state.Tracked) :
    outstanding state.calls = state.publications.countP (· = .own) := by
  have same : (List.range state.publications.length).map
      (fun publication => !state.calls.any (PublishCall.completes publication)) =
      state.publications.map fun decrement => decide (decrement = .own) := by
    refine List.ext_getElem (by simp) fun publication within _ => ?_
    rw [List.length_map, List.length_range] at within
    have noted := tracked.noted publication _ (List.getElem?_eq_getElem within)
    simp only [List.getElem_map, List.getElem_range]
    cases kind : state.publications[publication] <;> simp_all
  calc outstanding state.calls
      = ((List.range state.publications.length).map fun publication =>
          !state.calls.any (PublishCall.completes publication)).countP id := by
        rw [outstanding, tracked.numbers, List.countP_map]
        rfl
    _ = state.publications.countP (· = .own) := by
        rw [same, List.countP_map]
        rfl

/-- The counter is the number of publications with their own function. -/
structure Counted (maxPublications : Nat) (state : ActivePublications Stream Options Arguments) :
    Prop where
  tracked : state.Tracked
  count : state.count = state.publications.countP (· = .own)
  upper : state.count ≤ maxPublications
  decided : Justified (Decided maxPublications) state.calls
  passed : state.calls.filterMap PublishCall.completion = state.calls.filterMap PublishCall.passedOn

theorem Counted.exact (counted : state.Counted maxPublications) : state.Exact maxPublications where
  counted := by rw [counted.count, counted.tracked.outstanding_eq]
  lower := by
    rw [counted.count]
    exact Int.natCast_nonneg _
  upper := counted.upper
  decided := counted.decided
  passed := counted.passed

end ActivePublications
end Centro
