import Bookkeeping.Proofs.Decimal.Rational

/-!
# Sums at a common number of places

Decimals that can be written with the same number of places add exactly if their sum, written so,
fits (`addsExactly_of_common`).  Each of them may have more places than that.  If the sum is too
long with these, the first mantissa that fits has lost nothing but zeros (`shrink?_of_dvd`).
-/

namespace Bookkeeping

namespace Decimal

theorem tens_add (k l : Nat) : tens (k + l) = tens k * tens l := Nat.pow_add 10 k l

theorem roundEven_of_dvd {m k : Nat} (h : tens k ∣ m) : roundEven m (tens k) = m / tens k := by
  have hpos := tens_pos k
  have hne : tens k ≠ 0 := by omega
  simp [roundEven, Nat.mod_eq_zero_of_dvd h, hne.symm]

/-- A mantissa that ends in enough zeros loses only zeros. -/
theorem shrink?_of_dvd {s : Bool} {m places k : Nat} (hk : k ≤ places) (hplaces : places ≤ 28)
    (hdvd : tens k ∣ m) (hfits : m / tens k < limit) :
    ∃ d l, shrink? s m places = some d ∧ tens l ∣ m ∧ l ≤ places ∧ d.negative = s ∧
      d.mantissa = m / tens l ∧ d.places = places - l := by
  have hbound : places - k ≤ 28 := by omega
  have hfit : (fit? s (roundEven m (tens k)) (places - k)).isSome := by
    rw [roundEven_of_dvd hdvd, fit?, dif_pos ⟨hfits, hbound⟩]
    rfl
  have hsome : ((List.range (k + 1)).findSome? fun l =>
      fit? s (roundEven m (tens l)) (places - l)).isSome :=
    List.findSome?_isSome_iff.2 ⟨k, List.mem_range.2 (by omega), hfit⟩
  -- dropping `k` places is enough, so the search ends there at the latest
  have hshrink : shrink? s m places = (List.range (k + 1)).findSome? fun l =>
      fit? s (roundEven m (tens l)) (places - l) := by
    have hlen : places + 1 = k + 1 + (places - k) := by omega
    rw [shrink?, hlen, List.range_add, List.findSome?_append, Option.or_of_isSome hsome]
  obtain ⟨d, hd⟩ := Option.isSome_iff_exists.1 hsome
  obtain ⟨l, hl, hfound⟩ := List.exists_of_findSome?_eq_some hd
  have hle : l ≤ k := by
    have := List.mem_range.1 hl
    omega
  have hdvd' : tens l ∣ m := (Nat.pow_dvd_pow 10 hle).trans hdvd
  rw [roundEven_of_dvd hdvd'] at hfound
  obtain ⟨hs, hm, hp⟩ := fit?_eq_some_iff.1 hfound
  exact ⟨d, l, hshrink.trans hd, hdvd', by omega, hs, hm, hp⟩

/-- Dropping zeros does not change the number. -/
theorem toRat_of_dropped {d : Decimal} {n : ℤ} {places l : Nat} (hdvd : tens l ∣ n.natAbs)
    (hl : l ≤ places) (hnegative : d.negative = decide (n < 0))
    (hmantissa : d.mantissa = n.natAbs / tens l) (hplaces : d.places = places - l) :
    d.toRat = n / tens places := by
  obtain ⟨q, hq⟩ := hdvd
  have hpos := tens_pos l
  have hn : n = d.coefficient * tens l := by
    have hm : d.mantissa = q := by rw [hmantissa, hq, Nat.mul_div_cancel_left _ hpos]
    have habs : (n.natAbs : ℤ) = q * tens l := by
      rw [hq, Nat.mul_comm]
      exact_mod_cast rfl
    rw [coefficient, hnegative, hm]
    by_cases h : n < 0
    · simp only [h, decide_true, if_true, Int.neg_mul]
      omega
    · simp only [h, decide_false, Bool.false_eq_true, if_false]
      omega
  have hd := tens_ne_zero d.places
  have hr := tens_ne_zero l
  have htens : tens places = tens d.places * tens l := by
    rw [← tens_add, hplaces, Nat.sub_add_cancel hl]
  rw [toRat, hn, htens]
  push_cast
  field_simp

/-- The sum at the larger number of places denotes the sum. -/
theorem toRat_add_eq (a b : Decimal) {p : Nat} (ha : a.places ≤ p) (hb : b.places ≤ p) :
    a.toRat + b.toRat =
      (a.coefficient * tens (p - a.places) + b.coefficient * tens (p - b.places) : ℤ) / tens p := by
  rw [toRat_scale a ha, toRat_scale b hb, ← add_div, ← Int.cast_add]

/-- Decimals add exactly if their sum at the larger number of places fits without its last zeros. -/
theorem addsExactly_of_dvd {a b : Decimal} {s : ℤ} {places k : Nat}
    (hplaces : places = max a.places b.places)
    (hs : s = a.coefficient * tens (places - a.places) + b.coefficient * tens (places - b.places))
    (hk : k ≤ places) (hdvd : tens k ∣ s.natAbs) (hfits : s.natAbs / tens k < limit) :
    a.AddsExactly b := by
  by_cases hz : a.isZero ∨ b.isZero
  · exact addsExactly_of_isZero hz
  · obtain ⟨hza, hzb⟩ := not_or.1 hz
    have hbound : places ≤ 28 := hplaces ▸ Nat.max_le.2 ⟨a.places_le, b.places_le⟩
    obtain ⟨d, l, hshrink, hdvd', hl, hd⟩ :=
      shrink?_of_dvd (s := decide (s < 0)) hk hbound hdvd hfits
    refine ⟨d, ?_, ?_⟩
    · simp only [add?, hza, hzb, Bool.false_eq_true, if_false, ← hplaces, ← hs]
      exact hshrink
    · rw [toRat_of_dropped hdvd' hl hd.1 hd.2.1 hd.2.2, toRat_add_eq a b (p := places) (by omega)
        (by omega), ← hs]

/-- Decimals add exactly if their sum fits at a number of places that is enough for both. -/
theorem addsExactly_of_common {a b : Decimal} {p : Nat} {m n : ℤ} (ha : a.toRat = m / tens p)
    (hb : b.toRat = n / tens p) (hfits : (m + n).natAbs < limit) : a.AddsExactly b := by
  obtain ⟨places, hplaces⟩ : ∃ places, places = max a.places b.places := ⟨_, rfl⟩
  obtain ⟨s, hs⟩ : ∃ s, s = a.coefficient * tens (places - a.places) +
    b.coefficient * tens (places - b.places) := ⟨_, rfl⟩
  have hsum := toRat_add_eq a b (p := places) (by omega) (by omega)
  rw [← hs, ha, hb, ← add_div, div_eq_div_iff (tens_ne_zero _) (tens_ne_zero _)] at hsum
  have hcross : (m + n) * tens places = s * tens p := by exact_mod_cast hsum
  rcases Nat.lt_or_ge p places with hlt | hle
  · -- the places of the sum beyond `p` are zeros
    have hexact : s = (m + n) * tens (places - p) := by
      have htens : tens places = tens (places - p) * tens p := by
        rw [← tens_add, Nat.sub_add_cancel hlt.le]
      rw [htens, Nat.cast_mul, ← mul_assoc] at hcross
      exact (mul_right_cancel₀ (by exact_mod_cast (tens_pos p).ne') hcross).symm
    have habs : s.natAbs = (m + n).natAbs * tens (places - p) := by
      rw [hexact, Int.natAbs_mul, Int.natAbs_natCast]
    refine addsExactly_of_dvd hplaces hs (Nat.sub_le places p) ⟨(m + n).natAbs, ?_⟩ ?_
    · rw [habs, Nat.mul_comm]
    · rwa [habs, Nat.mul_div_cancel _ (tens_pos _)]
  · have hexact : m + n = s * tens (p - places) := by
      have htens : tens p = tens (p - places) * tens places := by
        rw [← tens_add, Nat.sub_add_cancel hle]
      rw [htens, Nat.cast_mul, ← mul_assoc] at hcross
      exact mul_right_cancel₀ (by exact_mod_cast (tens_pos places).ne') hcross
    refine addsExactly_of_lt ?_
    rw [← hplaces, ← hs]
    rw [hexact, Int.natAbs_mul, Int.natAbs_natCast] at hfits
    exact (Nat.le_mul_of_pos_right _ (tens_pos _)).trans_lt hfits

end Decimal

end Bookkeeping
