import Bookkeeping.Decimal.Arithmetic
import Mathlib.Algebra.Field.Rat
import Mathlib.Data.Rat.Cast.CharZero
import Mathlib.Tactic.FieldSimp

/-!
# The rational number of a decimal

`Decimal.toRat` is the number that a decimal denotes.  Decimals are equal exactly if their numbers
are (`same_iff`), whatever their places and the sign of a zero.  Two decimals add exactly
(`AddsExactly`) if their sum is there and denotes the sum of their numbers; a zero adds exactly to
everything.
-/

namespace Bookkeeping

namespace Decimal

/-- The number that the decimal denotes. -/
def toRat (d : Decimal) : ℚ := d.coefficient / tens d.places

theorem tens_ne_zero (k : Nat) : (tens k : ℚ) ≠ 0 := by
  exact_mod_cast Nat.pos_iff_ne_zero.1 (tens_pos k)

theorem toRat_eq_iff {a b : Decimal} :
    a.toRat = b.toRat ↔ a.coefficient * tens b.places = b.coefficient * tens a.places := by
  have ha := tens_ne_zero a.places
  have hb := tens_ne_zero b.places
  rw [toRat, toRat, div_eq_div_iff ha hb]
  exact_mod_cast Iff.rfl

/-- Decimals are equal if they denote the same number. -/
theorem same_iff {a b : Decimal} : a.same b ↔ a.toRat = b.toRat := by
  rw [toRat_eq_iff, same, compare, beq_iff_eq, Std.LawfulEqCmp.compare_eq_iff_eq]

theorem isZero_iff_toRat {d : Decimal} : d.isZero ↔ d.toRat = 0 := by
  rw [isZero_iff, toRat, div_eq_zero_iff, or_iff_left (tens_ne_zero d.places)]
  exact_mod_cast Iff.rfl

theorem toRat_whole (negative : Bool) (n : Nat) (h : n < 79228162514264337593543950336) :
    (whole negative n h).toRat = if negative then -(n : ℚ) else n := by
  cases negative <;> simp [toRat, coefficient, whole, tens]

theorem toRat_neg (d : Decimal) : d.neg.toRat = -d.toRat := by
  rw [toRat, toRat, ← neg_div, ← Int.cast_neg]
  congr 2
  rw [coefficient, coefficient, neg]
  cases d.negative <;> simp

/-! ## Exact sums -/

/-- The sum is there, and nothing of it is rounded away. -/
def AddsExactly (a b : Decimal) : Prop := ∃ s, a.add? b = some s ∧ s.toRat = a.toRat + b.toRat

theorem addsExactly_of_isZero_left {a b : Decimal} (h : a.isZero) : a.AddsExactly b := by
  refine ⟨b, ?_, ?_⟩
  · rw [add?, if_pos h]
  · rw [isZero_iff_toRat.1 h, zero_add]

theorem AddsExactly.symm {a b : Decimal} (h : a.AddsExactly b) : b.AddsExactly a := by
  obtain ⟨s, hs, hrat⟩ := h
  by_cases ha : a.isZero
  · by_cases hb : b.isZero
    · exact addsExactly_of_isZero_left hb
    · refine ⟨b, ?_, ?_⟩
      · rw [add?, if_neg hb, if_pos ha]
      · rw [isZero_iff_toRat.1 ha, add_zero]
  · by_cases hb : b.isZero
    · exact addsExactly_of_isZero_left hb
    · refine ⟨s, ?_, by rw [hrat, add_comm]⟩
      simp only [add?, ha, hb, Bool.false_eq_true, if_false] at hs ⊢
      rw [max_comm, Int.add_comm]
      exact hs

theorem addsExactly_of_isZero {a b : Decimal} (h : a.isZero ∨ b.isZero) : a.AddsExactly b := by
  rcases h with h | h
  · exact addsExactly_of_isZero_left h
  · exact (addsExactly_of_isZero_left h).symm

theorem roundEven_one (m : Nat) : roundEven m 1 = m := by
  simp [roundEven, Nat.mod_one]

/-- A mantissa that fits keeps all its places. -/
theorem shrink?_of_lt {s : Bool} {m p : Nat} (hm : m < limit) (hp : p ≤ 28) :
    shrink? s m p = some ⟨s, m, p, hm, hp⟩ := by
  have hfit : fit? s m p = some ⟨s, m, p, hm, hp⟩ := by
    rw [fit?, dif_pos ⟨hm, hp⟩]
  have htens : tens 0 = 1 := rfl
  rw [shrink?, List.range_succ_eq_map, List.findSome?_cons, htens, roundEven_one, Nat.sub_zero,
    hfit]

theorem coefficient_mk_natAbs (n : Int) {p : Nat} (hn : n.natAbs < limit) (hp : p ≤ 28) :
    coefficient ⟨decide (n < 0), n.natAbs, p, hn, hp⟩ = n := by
  simp only [coefficient, decide_eq_true_eq]
  split <;> omega

theorem toRat_scale (d : Decimal) {p : Nat} (h : d.places ≤ p) :
    d.toRat = (d.coefficient * tens (p - d.places) : Int) / tens p := by
  have hp : tens p = tens d.places * tens (p - d.places) := by
    show 10 ^ p = 10 ^ d.places * 10 ^ (p - d.places)
    rw [← Nat.pow_add, Nat.add_sub_cancel' h]
  have hd := tens_ne_zero d.places
  have hr := tens_ne_zero (p - d.places)
  rw [toRat, hp]
  push_cast
  field_simp

/-- Decimals add exactly if their sum fits at the larger number of places. -/
theorem addsExactly_of_lt {a b : Decimal}
    (h : (a.coefficient * tens (max a.places b.places - a.places) +
      b.coefficient * tens (max a.places b.places - b.places)).natAbs < limit) :
    a.AddsExactly b := by
  by_cases hz : a.isZero ∨ b.isZero
  · exact addsExactly_of_isZero hz
  · obtain ⟨ha, hb⟩ := not_or.1 hz
    have hp : max a.places b.places ≤ 28 := Nat.max_le.2 ⟨a.places_le, b.places_le⟩
    obtain ⟨n, hn⟩ : ∃ n, n = a.coefficient * tens (max a.places b.places - a.places) +
      b.coefficient * tens (max a.places b.places - b.places) := ⟨_, rfl⟩
    rw [← hn] at h
    refine ⟨⟨decide (n < 0), n.natAbs, max a.places b.places, h, hp⟩, ?_, ?_⟩
    · simp only [add?, ha, hb, Bool.false_eq_true, if_false, ← hn]
      exact shrink?_of_lt h hp
    · rw [toRat, coefficient_mk_natAbs n h hp, toRat_scale a (Nat.le_max_left _ _),
        toRat_scale b (Nat.le_max_right _ _), ← add_div, ← Int.cast_add, ← hn]

end Decimal

end Bookkeeping
