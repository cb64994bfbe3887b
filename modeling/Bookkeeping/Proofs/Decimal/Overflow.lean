import Bookkeeping.Proofs.Decimal.Vanishing
import Mathlib.Tactic.Linarith

/-!
# Quotients that overflow

A quotient is there just if it does not round to more than the largest mantissa, which is odd: half
a unit above it is rounded up to the even one, which is too large (`isSome_div?_iff`).  Nothing is
lost at the places behind, of which the division drops as many as it has to.
-/

namespace Bookkeeping

namespace Decimal

/-! ## The division overflows beyond the range -/

theorem digits_lt {m q r k : Nat} (hq : q * tens k < limit) (hr : r < m) (hk : k ≤ 9) :
    (q * m + r) * tens k < (limit + tens 9) * m := by
  have hm : 0 < m := by omega
  have hnine : tens k ≤ tens 9 := Nat.pow_le_pow_right (by decide) hk
  calc (q * m + r) * tens k < (q * m + m) * tens k :=
        Nat.mul_lt_mul_of_pos_right (by omega) (tens_pos k)
    _ = (q * tens k + tens k) * m := by rw [Nat.add_mul, Nat.add_mul, Nat.mul_right_comm,
        Nat.mul_comm m]
    _ ≤ (limit + tens 9) * m := Nat.mul_le_mul_right m (by omega)

/-- What reaches beyond the point within a step is in the range if it is small enough there. -/
theorem inRange_of_past_point {m q r k : Nat} {s : Int} (hpos : 0 < s + k)
    (h : (q * m + r) * tens k < (limit + tens 9) * m) : InRange m q r s := by
  intro hs
  have hle : (q * m + r) * tens (-s).toNat * 10 ≤ (q * m + r) * tens k := by
    rw [Nat.mul_assoc, ← tens_succ]
    exact Nat.mul_le_mul_left _ (Nat.pow_le_pow_right (by decide) (by omega))
  have hm : 0 < m := Nat.pos_of_ne_zero fun hm => by
    rw [hm, Nat.mul_zero] at h
    omega
  rw [limit] at h ⊢
  rw [show tens 9 = 1000000000 from rfl] at h
  omega

theorem inRange_of_step {m q r k : Nat} {s : Int} (hneg : s + k ≤ 0)
    (h : InRange m (q * tens k + r * tens k / m) (r * tens k % m) (s + k)) : InRange m q r s := by
  intro hs
  have hlater := h hneg
  rwa [digits_step, Nat.mul_assoc (q * m + r), ← tens_add,
    show k + (-(s + k)).toNat = (-s).toNat by omega] at hlater

/-- A number that is not rounded up beyond the range is within it. -/
theorem inRange_of_rounded_lt {m q r : Nat} (hr : r < m)
    (h : (if 2 * r > m || (2 * r == m && q % 2 == 1) then q + 1 else q) < limit) :
    InRange m q r 0 := by
  intro _
  rw [show tens (-0 : Int).toNat = 1 from rfl, Nat.mul_one]
  rcases Nat.lt_or_ge q (limit - 1) with hlt | hge
  · have hle : q * m + m ≤ (limit - 1) * m := by
      rw [← Nat.succ_mul]
      exact Nat.mul_le_mul_right m hlt
    rw [limit] at hle ⊢
    omega
  · -- the last mantissa is odd, so that a half would have been rounded up
    split at h
    · omega
    · rename_i hdown
      simp only [Bool.or_eq_true, Bool.and_eq_true, decide_eq_true_eq, beq_iff_eq] at hdown
      have hlast : q = limit - 1 := by omega
      rw [hlast, limit] at hdown ⊢
      omega

/-- A division that comes to an end has stayed within the range. -/
theorem inRange_of_divideFrom {m q r : Nat} {s : Int} {padded : Bool} {found : Quotient}
    (h : divideFrom m q r s padded = some found) (hr : r < m) (hq : q < limit) :
    InRange m q r s := by
  have hm : 0 < m := by omega
  fun_induction divideFrom m q r s padded with
  | case1 q r s padded hdone =>
    obtain ⟨rfl, hpos⟩ := hdone
    intro hs
    obtain rfl := Int.le_antisymm hs hpos
    have hdown : ¬(2 * 0 > m || (2 * 0 == m && q % 2 == 1)) := by
      simp [hm.ne]
    exact inRange_of_rounded_lt hr (by rwa [if_neg hdown]) hs
  | case2 | case4 | case6 | case8 => cases h
  | case3 q r s padded hmore k _ hroom hk rounded hsmall =>
    have hzero : digitsAdded q r s = 0 := by simpa only [k, digitsAdded, dite_eq_ite] using hk
    intro hs
    obtain ⟨hr', -⟩ := full_of_digitsAdded_eq_zero hmore (by omega) hzero
    obtain rfl : s = 0 := by omega
    exact inRange_of_rounded_lt hr (by simpa only [rounded, dite_eq_ite] using hsmall) hs
  | case5 q r s padded hmore k _ _ hk rounded hlarge hpos =>
    intro hs
    exact absurd hs hpos
  | case7 q r s padded hmore k _ _ hk hroom q' r' hq' ih =>
    have hk : k = digitsAdded q r s := by simp only [k, digitsAdded, dite_eq_ite]
    by_cases hneg : s + k ≤ 0
    · exact inRange_of_step hneg (ih h (Nat.mod_lt _ hm) hq')
    · exact inRange_of_past_point (Int.lt_of_not_ge hneg)
        (digits_lt (Nat.lt_of_not_le hroom) hr (hk ▸ digitsAdded_le_nine q r s))
  | case9 q r s padded hmore k _ _ hk hroom q' r' hlarge hpos =>
    have hk : k = digitsAdded q r s := by simp only [k, digitsAdded, dite_eq_ite]
    exact inRange_of_past_point (Int.lt_of_not_ge hpos)
      (digits_lt (Nat.lt_of_not_le hroom) hr (hk ▸ digitsAdded_le_nine q r s))

/-! ## The quotient as a number -/

/-- The bound on a quotient, in terms of mantissas. -/
theorem abs_div_lt_iff {a d : Decimal} (hd : ¬d.isZero) :
    |a.toRat / d.toRat| < limit - 1 / 2 ↔
      2 * (a.mantissa * tens d.places) < (2 * limit - 1) * (tens a.places * d.mantissa) := by
  have hpos : (0 : ℚ) < tens a.places * d.mantissa := by
    exact_mod_cast Nat.mul_pos (tens_pos _) (Nat.pos_of_ne_zero (mt beq_iff_eq.2 hd))
  have hcast : ((2 * limit - 1 : Nat) : ℚ) = 2 * limit - 1 := by
    rw [limit]
    norm_num
  have hdouble : (a.mantissa * tens d.places : ℚ) <
      (limit - 1 / 2) * (tens a.places * d.mantissa) ↔
      2 * (a.mantissa * tens d.places : ℚ) < (2 * limit - 1) * (tens a.places * d.mantissa) := by
    constructor <;> intro h <;> linarith
  rw [abs_div, abs_toRat, abs_toRat, div_div_div_eq, div_lt_iff₀ hpos, hdouble, ← hcast]
  exact_mod_cast Iff.rfl

/-- A quotient is within the range if it is less than half a unit above the largest mantissa. -/
theorem inRange_iff {a d : Decimal} (hd : ¬d.isZero) :
    InRange d.mantissa (a.mantissa / d.mantissa) (a.mantissa % d.mantissa)
      (a.places - d.places) ↔ |a.toRat / d.toRat| < limit - 1 / 2 := by
  have hdpos : 0 < d.mantissa := Nat.pos_of_ne_zero (mt beq_iff_eq.2 hd)
  rw [abs_div_lt_iff hd, InRange, Nat.div_add_mod']
  rcases Nat.lt_or_ge d.places a.places with hlt | hge
  · -- the quotient has places, so that it is no larger than the number
    have hsmall : a.mantissa * tens d.places * 10 ≤ (limit - 1) * (tens a.places * d.mantissa) :=
      calc a.mantissa * tens d.places * 10 = a.mantissa * tens (d.places + 1) := by
            rw [tens_succ, Nat.mul_assoc]
        _ ≤ (limit - 1) * (tens a.places * d.mantissa) :=
          Nat.mul_le_mul (Nat.le_sub_one_of_lt a.mantissa_lt)
            ((Nat.pow_le_pow_right (by decide) hlt).trans (Nat.le_mul_of_pos_right _ hdpos))
    have hpos := Nat.mul_pos (tens_pos a.places) hdpos
    rw [limit] at hsmall ⊢
    exact iff_of_true (fun h => by omega) (by omega)
  · have htens : tens d.places = tens (-(a.places - d.places : Int)).toNat * tens a.places := by
      rw [← tens_add]
      congr 1
      omega
    rw [forall_prop_of_true (by omega), htens, ← Nat.mul_assoc a.mantissa,
      ← Nat.mul_assoc 2 (a.mantissa * _), Nat.mul_comm (tens a.places) d.mantissa,
      ← Nat.mul_assoc (2 * limit - 1)]
    exact (Nat.mul_lt_mul_right (tens_pos a.places)).symm

/-- A quotient is there just if it does not round to more than the largest mantissa. -/
theorem isSome_div?_iff {a d : Decimal} (hd : ¬d.isZero) :
    (a.div? d).isSome ↔ |a.toRat / d.toRat| < limit - 1 / 2 := by
  by_cases ha : a.isZero
  · rw [div?, if_neg hd, if_pos ha, isZero_iff_toRat.1 ha, zero_div, abs_zero, limit]
    norm_num
  · rw [← inRange_iff hd]
    refine ⟨fun h => ?_, isSome_div?_of_inRange hd ha⟩
    rw [div?_eq hd ha] at h
    obtain ⟨z, hz⟩ := Option.isSome_iff_exists.1 h
    obtain ⟨found, hfound, -⟩ := Option.bind_eq_some_iff.1 hz
    exact inRange_of_divideFrom hfound
      (Nat.mod_lt _ (Nat.pos_of_ne_zero (mt beq_iff_eq.2 hd)))
      ((Nat.div_le_self _ _).trans_lt a.mantissa_lt)

end Decimal

end Bookkeeping
