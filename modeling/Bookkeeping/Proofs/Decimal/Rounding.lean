import Bookkeeping.Proofs.Decimal.Vanishing
import Mathlib.Algebra.Order.Floor.Ring
import Mathlib.Data.Nat.Find
import Mathlib.Data.Rat.Floor
import Mathlib.Tactic.Linarith

/-!
# Sums as rounded numbers

A number is rounded to the most places at which it fits, up to the most that a decimal has
(`Decimal.rounded`).  The sum of two decimals is the rounded sum of their numbers, unless that does
not fit without any places (`Decimal.toRat_add?`); so it is exact just if there is a decimal of the
exact sum (`Decimal.rounded_eq_self_iff`).
-/

namespace Bookkeeping

namespace Decimal

/-! ## The nearest whole number -/

/-- The whole number is nearest to the number, and even if another one is as near. -/
def IsNearest (q : ℚ) (m : ℤ) : Prop := |q - m| ≤ 1 / 2 ∧ (|q - m| = 1 / 2 → Even m)

variable {q : ℚ} {m n : ℤ}

theorem IsNearest.unique (hm : IsNearest q m) (hn : IsNearest q n) : m = n := by
  by_contra hne
  -- They are at most one apart, so that the number is halfway between them, and both are even.
  have hdist : |(m : ℚ) - n| ≤ |q - m| + |q - n| := by
    have := abs_sub_le (m : ℚ) q n
    rwa [abs_sub_comm (m : ℚ) q] at this
  have hapart : (1 : ℚ) ≤ |(m : ℚ) - n| := by
    exact_mod_cast Int.one_le_abs (sub_ne_zero.2 hne)
  obtain ⟨k, hk⟩ := hm.2 (by linarith [hm.1, hn.1])
  obtain ⟨l, hl⟩ := hn.2 (by linarith [hm.1, hn.1])
  have hone : |m - n| ≤ 1 := by
    have : |(m : ℚ) - n| ≤ 1 := by linarith [hm.1, hn.1]
    exact_mod_cast this
  rw [abs_le] at hone
  omega

theorem IsNearest.neg (h : IsNearest q m) : IsNearest (-q) (-m) := by
  have hdist : |-q - ((-m : ℤ) : ℚ)| = |q - m| := by
    rw [show -q - ((-m : ℤ) : ℚ) = -(q - m) by push_cast; ring, abs_neg]
  rw [IsNearest, hdist]
  exact ⟨h.1, fun hhalf => (h.2 hhalf).neg⟩

theorem isNearest_intCast (m : ℤ) : IsNearest m m := by
  rw [IsNearest, sub_self, abs_zero]
  exact ⟨by norm_num, fun h => absurd h (by norm_num)⟩

/-- The whole number nearest to the number, or the even one of two. -/
def nearest (q : ℚ) : ℤ :=
  if 2 * Int.fract q < 1 ∨ 2 * Int.fract q = 1 ∧ Even ⌊q⌋ then ⌊q⌋ else ⌊q⌋ + 1

theorem isNearest_nearest (q : ℚ) : IsNearest q (nearest q) := by
  have hnonneg := Int.fract_nonneg q
  have hlt := Int.fract_lt_one q
  have hfloor : q - ⌊q⌋ = Int.fract q := Int.self_sub_floor q
  unfold nearest
  split
  · rename_i h
    rw [IsNearest, hfloor, abs_of_nonneg hnonneg]
    refine ⟨by rcases h with h | h <;> linarith, fun hhalf => ?_⟩
    rcases h with h | h
    · linarith
    · exact h.2
  · rename_i h
    obtain ⟨hge, hodd⟩ := not_or.1 h
    have habove : q - ((⌊q⌋ + 1 : ℤ) : ℚ) = -(1 - Int.fract q) := by
      rw [Int.cast_add, Int.cast_one, ← hfloor]
      ring
    rw [IsNearest, habove, abs_neg, abs_of_nonneg (by linarith)]
    refine ⟨by linarith, fun hhalf => ?_⟩
    rw [Int.even_add_one]
    exact fun heven => hodd ⟨by linarith, heven⟩

theorem nearest_eq_iff : nearest q = m ↔ IsNearest q m :=
  ⟨fun h => h ▸ isNearest_nearest q, fun h => (isNearest_nearest q).unique h⟩

theorem nearest_intCast (m : ℤ) : nearest m = m := nearest_eq_iff.2 (isNearest_intCast m)

/-- What is nearest is too large for a mantissa from half a unit below on, the last mantissa being
odd. -/
theorem limit_le_abs_nearest_iff : (limit : ℤ) ≤ |nearest q| ↔ (limit : ℚ) - 1 / 2 ≤ |q| := by
  obtain ⟨hle, heven⟩ := isNearest_nearest q
  have hdist := abs_sub_abs_le_abs_sub q (nearest q)
  have hdist' := abs_sub_abs_le_abs_sub (nearest q : ℚ) q
  rw [abs_sub_comm (nearest q : ℚ) q] at hdist'
  constructor
  · intro h
    have : (limit : ℚ) ≤ |(nearest q : ℚ)| := by exact_mod_cast h
    linarith
  · intro h
    by_contra hlt
    have hlast : |nearest q| ≤ limit - 1 := by omega
    have hlast' : |(nearest q : ℚ)| ≤ limit - 1 := by exact_mod_cast hlast
    obtain ⟨k, hk⟩ := heven (by linarith)
    have hmost : (limit : ℤ) - 1 ≤ |nearest q| := by
      have : (limit : ℚ) - 1 ≤ |(nearest q : ℚ)| := by linarith
      exact_mod_cast this
    rw [limit] at hlast hmost
    rcases abs_choice (nearest q) with h | h <;> rw [h] at hlast hmost <;> omega

/-! ## Rounding a fraction -/

/-- What is rounded is at most half a divisor away, and halfway it is even. -/
theorem roundEven_spec (m : Nat) {k : Nat} (hk : 0 < k) :
    2 * m ≤ 2 * (roundEven m k * k) + k ∧ 2 * (roundEven m k * k) ≤ 2 * m + k ∧
      (2 * m = 2 * (roundEven m k * k) + k ∨ 2 * (roundEven m k * k) = 2 * m + k →
        roundEven m k % 2 = 0) := by
  have hm := Nat.div_add_mod' m k
  have hr := Nat.mod_lt m hk
  have hsucc : (m / k + 1) * k = m / k * k + k := Nat.succ_mul _ _
  unfold roundEven
  dsimp only
  split <;> rename_i h <;>
    simp only [Bool.or_eq_true, Bool.and_eq_true, decide_eq_true_eq, beq_iff_eq] at h <;> omega

theorem isNearest_roundEven (m : Nat) {k : Nat} (hk : 0 < k) :
    IsNearest ((m : ℚ) / k) (roundEven m k : ℕ) := by
  obtain ⟨hup, hdown, heven⟩ := roundEven_spec m hk
  have hkpos : (0 : ℚ) < k := by exact_mod_cast hk
  have hdist : (m : ℚ) / k - ((roundEven m k : ℕ) : ℤ) = (m - roundEven m k * k) / k := by
    rw [Int.cast_natCast]
    field_simp
  have hup : 2 * (m : ℚ) ≤ 2 * (roundEven m k * k) + k := by exact_mod_cast hup
  have hdown : 2 * (roundEven m k * k : ℚ) ≤ 2 * m + k := by exact_mod_cast hdown
  rw [IsNearest, hdist, abs_div, abs_of_pos hkpos, div_le_iff₀ hkpos, div_eq_iff hkpos.ne', abs_le]
  refine ⟨⟨by linarith, by linarith⟩, fun hhalf => ?_⟩
  rw [Int.even_coe_nat, Nat.even_iff]
  refine heven ?_
  rcases abs_choice ((m : ℚ) - roundEven m k * k) with h | h <;> rw [h] at hhalf
  · left
    have : 2 * (m : ℚ) = 2 * (roundEven m k * k) + k := by linarith
    exact_mod_cast this
  · right
    have : 2 * (roundEven m k * k : ℚ) = 2 * m + k := by linarith
    exact_mod_cast this

/-- A fraction of whole numbers is rounded by its mantissa, whatever its sign. -/
theorem nearest_div (n : ℤ) {k : Nat} (hk : 0 < k) :
    nearest (n / k) = if n < 0 then -(roundEven n.natAbs k : ℤ) else roundEven n.natAbs k := by
  have hround := isNearest_roundEven n.natAbs hk
  rw [nearest_eq_iff]
  split <;> rename_i hn
  · have hcast : ((n.natAbs : ℕ) : ℚ) = -n := by
      rw [← Int.cast_natCast, Int.ofNat_natAbs_of_nonpos hn.le, Int.cast_neg]
    rw [hcast, neg_div] at hround
    simpa using hround.neg
  · have hcast : ((n.natAbs : ℕ) : ℚ) = n := by
      rw [← Int.cast_natCast, Int.natAbs_of_nonneg (not_lt.1 hn)]
    rwa [hcast] at hround

/-! ## Numbers of as many places as fit -/

/-- With `p` places the number does not round to more than the largest mantissa. -/
def Fits (q : ℚ) (p : Nat) : Prop := |q| * tens p < limit - 1 / 2

instance : DecidablePred (Fits q) := fun p =>
  inferInstanceAs (Decidable (|q| * tens p < limit - 1 / 2))

/-- The most places with which the number fits. -/
def mostPlaces (q : ℚ) : Nat := Nat.findGreatest (Fits q) maxPlaces

/-- The number, rounded to the most places with which it fits. -/
def rounded (q : ℚ) : ℚ := nearest (q * tens (mostPlaces q)) / tens (mostPlaces q)

theorem tens_pos_rat (p : Nat) : (0 : ℚ) < tens p := by exact_mod_cast tens_pos p

theorem Fits.mono {p p' : Nat} (h : Fits q p') (hp : p ≤ p') : Fits q p := by
  have htens : (tens p : ℚ) ≤ tens p' := by
    exact_mod_cast Nat.pow_le_pow_right (by decide) hp
  exact (mul_le_mul_of_nonneg_left htens (abs_nonneg q)).trans_lt h

theorem fits_zero_iff : Fits q 0 ↔ |q| < limit - 1 / 2 := by
  rw [Fits, show tens 0 = 1 from rfl, Nat.cast_one, mul_one]

theorem fits_iff_nearest {p : Nat} : Fits q p ↔ |nearest (q * tens p)| < limit := by
  rw [← not_iff_not, not_lt, limit_le_abs_nearest_iff, abs_mul, abs_of_pos (tens_pos_rat p), Fits,
    not_lt]

theorem div_tens_mul_tens (n : ℤ) {places k : Nat} (hk : k ≤ places) :
    (n / tens places : ℚ) * tens (places - k) = n / tens k := by
  have hplaces : tens places = tens k * tens (places - k) := by
    rw [← tens_add, Nat.add_sub_cancel' hk]
  have hne := tens_ne_zero (places - k)
  have hk := tens_ne_zero k
  rw [hplaces, Nat.cast_mul]
  field_simp

/-- A fraction fits if its rounded mantissa does. -/
theorem fits_div_iff {n : ℤ} {places k : Nat} (hk : k ≤ places) :
    Fits (n / tens places) (places - k) ↔ roundEven n.natAbs (tens k) < limit := by
  rw [fits_iff_nearest, div_tens_mul_tens n hk, nearest_div n (tens_pos k)]
  split
  · rw [abs_neg, Nat.abs_cast]
    exact_mod_cast Iff.rfl
  · rw [Nat.abs_cast]
    exact_mod_cast Iff.rfl

theorem le_mostPlaces {p : Nat} (h : Fits q p) (hp : p ≤ maxPlaces) : p ≤ mostPlaces q :=
  Nat.le_findGreatest hp h

theorem fits_mostPlaces (h : Fits q 0) : Fits q (mostPlaces q) :=
  Nat.findGreatest_spec (Nat.zero_le _) h

/-- With one place more than it keeps, the number would not fit. -/
theorem mostPlaces_eq {p : Nat} (hp : p ≤ maxPlaces) (h : Fits q p) (hnext : ¬Fits q (p + 1)) :
    mostPlaces q = p := by
  refine Nat.le_antisymm (Nat.le_of_not_lt fun hlt => hnext ?_) (le_mostPlaces h hp)
  exact (fits_mostPlaces (h.mono (Nat.zero_le p))).mono hlt

/-- Rounding loses at most half a unit of the last place that is kept. -/
theorem abs_rounded_sub_le (q : ℚ) : |rounded q - q| ≤ 1 / (2 * tens (mostPlaces q)) := by
  have hpos := tens_pos_rat (mostPlaces q)
  have hnear := (isNearest_nearest (q * tens (mostPlaces q))).1
  have hscaled : rounded q - q =
      -((q * tens (mostPlaces q) - nearest (q * tens (mostPlaces q))) / tens (mostPlaces q)) := by
    unfold rounded
    field_simp
    ring
  rw [hscaled, abs_neg, abs_div, abs_of_pos hpos, div_le_iff₀ hpos]
  calc |q * tens (mostPlaces q) - nearest (q * tens (mostPlaces q))| ≤ 1 / 2 := hnear
    _ = 1 / (2 * tens (mostPlaces q)) * tens (mostPlaces q) := by field_simp

/-- A number that is whole with some places that fit is not changed by rounding. -/
theorem rounded_of_fits {n : ℤ} {p : Nat} (hp : p ≤ maxPlaces) (h : Fits (n / tens p) p) :
    rounded (n / tens p) = n / tens p := by
  obtain ⟨k, hk⟩ := Nat.exists_eq_add_of_le (le_mostPlaces h hp)
  have hne := tens_ne_zero p
  have hk' := tens_ne_zero k
  have hscaled : (n / tens p : ℚ) * tens (mostPlaces (n / tens p)) = (n * tens k : ℤ) := by
    rw [hk, tens_add, Nat.cast_mul]
    push_cast
    field_simp
  rw [rounded, hscaled, nearest_intCast, hk, tens_add]
  push_cast
  field_simp

theorem fits_toRat (d : Decimal) : Fits d.toRat d.places := by
  have hlast : (d.mantissa : ℚ) ≤ limit - 1 := by
    have : d.mantissa + 1 ≤ limit := d.mantissa_lt
    have : (d.mantissa : ℚ) + 1 ≤ limit := by exact_mod_cast this
    linarith
  rw [Fits, abs_toRat, div_mul_cancel₀ _ (tens_ne_zero _)]
  linarith

/-- Rounding does not change the number of a decimal. -/
theorem rounded_toRat (d : Decimal) : rounded d.toRat = d.toRat :=
  rounded_of_fits d.places_le (fits_toRat d)

/-- What is rounded is the number of a decimal. -/
theorem exists_toRat_eq_rounded (h : Fits q 0) : ∃ d : Decimal, d.toRat = rounded q := by
  have hlt := fits_iff_nearest.1 (fits_mostPlaces h)
  have hmantissa : (nearest (q * tens (mostPlaces q))).natAbs < limit := by
    rw [Int.abs_eq_natAbs] at hlt
    exact_mod_cast hlt
  have hplaces : mostPlaces q ≤ 28 := Nat.findGreatest_le maxPlaces
  refine ⟨⟨decide (nearest (q * tens (mostPlaces q)) < 0), _, mostPlaces q, hmantissa, hplaces⟩, ?_⟩
  rw [toRat, coefficient_mk_natAbs, rounded]

/-- Rounding changes a number just if it is not the number of a decimal. -/
theorem rounded_eq_self_iff (h : Fits q 0) : rounded q = q ↔ ∃ d : Decimal, d.toRat = q := by
  constructor
  · intro hself
    rw [← hself]
    exact exists_toRat_eq_rounded h
  · rintro ⟨d, rfl⟩
    exact rounded_toRat d

/-! ## Sums -/

/-- What is made to fit is the rounded number, if that fits at all. -/
theorem toRat_shrink? (n : ℤ) {places : Nat} (hplaces : places ≤ 28) :
    (shrink? (n < 0) n.natAbs places).map toRat =
      if Fits (n / tens places) 0 then some (rounded (n / tens places)) else none := by
  cases hs : shrink? (n < 0) n.natAbs places with
  | none =>
    have hlast := List.findSome?_eq_none_iff.1 hs places (List.mem_range.2 (Nat.lt_succ_self _))
    have hfull : ¬Fits (n / tens places) 0 := by
      rw [← Nat.sub_self places, fits_div_iff le_rfl]
      intro hlt
      rw [fit?, dif_pos ⟨hlt, by omega⟩] at hlast
      cases hlast
    rw [if_neg hfull]
    rfl
  | some s =>
    obtain ⟨k, hk, hfit, hbefore⟩ := findSome?_range hs
    obtain ⟨hnegative, hmantissa, hp⟩ := fit?_eq_some_iff.1 hfit
    have hk : k ≤ places := by omega
    have hfits : Fits (n / tens places) (places - k) := by
      rw [fits_div_iff hk, ← hmantissa]
      exact s.mantissa_lt
    rw [if_pos (hfits.mono (Nat.zero_le _)), Option.map_some]
    congr 1
    have hcoefficient : s.coefficient = nearest (n / tens k) := by
      rw [nearest_div n (tens_pos k), coefficient, hnegative, hmantissa]
      simp only [decide_eq_true_eq]
    cases k with
    | zero =>
      have hexact : s.coefficient = n := by
        rw [hcoefficient, show tens 0 = 1 from rfl, Nat.cast_one, div_one, nearest_intCast]
      rw [toRat, hexact, hp, rounded_of_fits hplaces hfits]
      rfl
    | succ k =>
      -- a place more would have been kept if the mantissa fitted then
      have hnext : ¬Fits (n / tens places) (places - (k + 1) + 1) := by
        rw [show places - (k + 1) + 1 = places - k by omega, fits_div_iff (by omega)]
        intro hlt
        have hnone := hbefore k (Nat.lt_succ_self k)
        rw [fit?, dif_pos ⟨hlt, by omega⟩] at hnone
        cases hnone
      have hle : places - (k + 1) ≤ maxPlaces := (Nat.sub_le _ _).trans hplaces
      rw [toRat, hcoefficient, hp, rounded, mostPlaces_eq hle hfits hnext,
        div_tens_mul_tens n hk]

/-- A sum of decimals is the rounded sum of their numbers, if that fits at all. -/
theorem toRat_add? (a b : Decimal) :
    (a.add? b).map toRat =
      if Fits (a.toRat + b.toRat) 0 then some (rounded (a.toRat + b.toRat)) else none := by
  by_cases ha : a.isZero
  · rw [add?, if_pos ha, isZero_iff_toRat.1 ha, zero_add, rounded_toRat,
      if_pos ((fits_toRat b).mono (Nat.zero_le _))]
    rfl
  by_cases hb : b.isZero
  · rw [add?, if_neg ha, if_pos hb, isZero_iff_toRat.1 hb, add_zero, rounded_toRat,
      if_pos ((fits_toRat a).mono (Nat.zero_le _))]
    rfl
  · have hsum : a.toRat + b.toRat =
        ((a.coefficient * tens (max a.places b.places - a.places) +
          b.coefficient * tens (max a.places b.places - b.places) : ℤ) : ℚ) /
          tens (max a.places b.places) := by
      rw [toRat_scale a (Nat.le_max_left _ _), toRat_scale b (Nat.le_max_right _ _), ← add_div,
        ← Int.cast_add]
    rw [add?, if_neg ha, if_neg hb, hsum]
    exact toRat_shrink? _ (Nat.max_le.2 ⟨a.places_le, b.places_le⟩)

theorem add?_eq_none_iff {a b : Decimal} : a.add? b = none ↔ ¬Fits (a.toRat + b.toRat) 0 := by
  have hsum := toRat_add? a b
  split at hsum <;> rename_i hfits
  · refine iff_of_false (fun hnone => ?_) (not_not.2 hfits)
    rw [hnone] at hsum
    cases hsum
  · exact iff_of_true (Option.map_eq_none_iff.1 hsum) hfits

theorem toRat_of_add? {a b s : Decimal} (h : a.add? b = some s) :
    Fits (a.toRat + b.toRat) 0 ∧ s.toRat = rounded (a.toRat + b.toRat) := by
  have hsum := toRat_add? a b
  rw [h, Option.map_some] at hsum
  split at hsum <;> rename_i hfits
  · exact ⟨hfits, Option.some.inj hsum⟩
  · cases hsum

end Decimal

end Bookkeeping
