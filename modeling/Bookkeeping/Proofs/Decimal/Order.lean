import Bookkeeping.Proofs.Decimal.Rational
import Mathlib.Algebra.Order.Field.Basic
import Mathlib.Algebra.Order.Field.Rat
import Mathlib.Order.Compare

/-!
# The order of decimals

Decimals compare as the numbers that they denote (`Decimal.compare_eq`), whatever their places.
-/

namespace Bookkeeping

namespace Decimal

theorem toRat_lt_iff {a b : Decimal} :
    a.toRat < b.toRat ↔ a.coefficient * tens b.places < b.coefficient * tens a.places := by
  have ha : (0 : ℚ) < tens a.places := by exact_mod_cast tens_pos a.places
  have hb : (0 : ℚ) < tens b.places := by exact_mod_cast tens_pos b.places
  rw [toRat, toRat, div_lt_div_iff₀ ha hb]
  exact_mod_cast Iff.rfl

/-- Decimals compare as their numbers. -/
theorem compare_eq (a b : Decimal) : a.compare b = Ord.compare a.toRat b.toRat := by
  rw [compare]
  rcases lt_trichotomy a.toRat b.toRat with h | h | h
  · rw [compare_lt_iff_lt.2 h]
    exact compare_lt_iff_lt.2 (toRat_lt_iff.1 h)
  · rw [compare_eq_iff_eq.2 h]
    exact compare_eq_iff_eq.2 (toRat_eq_iff.1 h)
  · rw [compare_gt_iff_gt.2 h]
    exact compare_gt_iff_gt.2 (toRat_lt_iff.1 h)

end Decimal

end Bookkeeping
