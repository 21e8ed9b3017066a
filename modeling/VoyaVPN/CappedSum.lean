import Mathlib.Algebra.BigOperators.Group.List.Basic
import Mathlib.Algebra.Order.BigOperators.Group.List
import Mathlib.Algebra.Order.Monoid.Defs
import Mathlib.Tactic.Abel

/-! Sums that stop at a limit. Adding capped sums and capping again forgets nothing that the
capped sum of everything remembers, as long as nothing added is negative. -/
namespace CappedSum

variable {α : Type*} [AddCommMonoid α] [LinearOrder α]

def cappedSum (limit : α) (values : List α) : α := min limit values.sum

def NonNegative (values : List α) : Prop := ∀ value ∈ values, 0 ≤ value

variable {limit : α}

@[simp] theorem cappedSum_nil (hlimit : 0 ≤ limit) : cappedSum limit [] = 0 := by
  rw [cappedSum, List.sum_nil, min_eq_right hlimit]

theorem cappedSum_le (values : List α) : cappedSum limit values ≤ limit := min_le_left _ _

variable [IsOrderedAddMonoid α]

theorem NonNegative.sum {values : List α} (h : NonNegative values) : 0 ≤ values.sum :=
  List.sum_nonneg h

theorem min_add_min (hlimit : 0 ≤ limit) {first second : α} (hfirst : 0 ≤ first)
    (hsecond : 0 ≤ second) :
    min limit (min limit first + min limit second) = min limit (first + second) := by
  rcases le_total limit first with hbig | hsmall
  · have hleft : limit ≤ min limit first + min limit second := by
      rw [min_eq_left hbig]
      exact le_add_of_nonneg_right (le_min hlimit hsecond)
    have hright : limit ≤ first + second := hbig.trans (le_add_of_nonneg_right hsecond)
    rw [min_eq_left hleft, min_eq_left hright]
  · rcases le_total limit second with hbig | hsmall'
    · have hleft : limit ≤ min limit first + min limit second := by
        rw [min_eq_left hbig]
        exact le_add_of_nonneg_left (le_min hlimit hfirst)
      have hright : limit ≤ first + second := hbig.trans (le_add_of_nonneg_left hfirst)
      rw [min_eq_left hleft, min_eq_left hright]
    · rw [min_eq_right hsmall, min_eq_right hsmall']

theorem cappedSum_append (hlimit : 0 ≤ limit) {first second : List α}
    (hfirst : NonNegative first) (hsecond : NonNegative second) :
    cappedSum limit (first ++ second) =
      min limit (cappedSum limit first + cappedSum limit second) := by
  rw [cappedSum, cappedSum, cappedSum, List.sum_append,
    min_add_min hlimit hfirst.sum hsecond.sum]

theorem cappedSum_nonneg (hlimit : 0 ≤ limit) {values : List α} (h : NonNegative values) :
    0 ≤ cappedSum limit values :=
  le_min hlimit h.sum

theorem cappedSum_le_append {first second : List α} (hfirst : NonNegative first) :
    cappedSum limit second ≤ cappedSum limit (first ++ second) := by
  have hsum : second.sum ≤ (first ++ second).sum := by
    rw [List.sum_append]
    exact le_add_of_nonneg_left hfirst.sum
  exact min_le_min_left limit hsum

end CappedSum
