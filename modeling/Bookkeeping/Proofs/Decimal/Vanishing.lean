import Bookkeeping.Proofs.Decimal.Grid
import Mathlib.Algebra.Order.Field.Basic
import Mathlib.Algebra.Order.Field.Rat
import Mathlib.Tactic.LinearCombination

/-!
# Products and quotients that vanish

A product or a quotient of numbers other than zero is zero if it is too small for the places that a
decimal has.  A quotient is zero exactly if the number is at most half of the least decimal
(`isZero_div?_iff`); a factor that makes zero of something is at most one half
(`le_half_of_mul?`).  What is so large as a divisor, or so small as a factor, never makes a number
overflow (`isSome_div?_of_one_le`, `isSome_mul?_of_le_half`).
-/

namespace Bookkeeping

namespace Decimal

/-! ## Rounding to zero -/

theorem rounded_eq_zero_iff (m q r : Nat) :
    (if 2 * r > m || (2 * r == m && q % 2 == 1) then q + 1 else q) = 0 ↔ q = 0 ∧ 2 * r ≤ m := by
  split <;> rename_i h <;>
    simp only [Bool.or_eq_true, Bool.and_eq_true, decide_eq_true_eq, beq_iff_eq] at h <;> omega

theorem roundEven_eq_zero_iff {m k : Nat} (hk : 0 < k) : roundEven m k = 0 ↔ 2 * m ≤ k := by
  refine (rounded_eq_zero_iff k (m / k) (m % k)).trans ⟨fun ⟨hdiv, hmod⟩ => ?_, fun h => ?_⟩
  · rwa [Nat.mod_eq_of_lt (Nat.lt_of_div_eq_zero hk hdiv)] at hmod
  · have hlt : m < k := by omega
    rw [Nat.div_eq_of_lt hlt, Nat.mod_eq_of_lt hlt]
    exact ⟨rfl, h⟩

theorem roundEven_le (m k : Nat) : roundEven m k ≤ m / k + 1 := by
  rw [roundEven]
  split <;> omega

theorem findSome?_range {α : Type} {f : Nat → Option α} {n : Nat} {x : α}
    (h : (List.range n).findSome? f = some x) : ∃ k < n, f k = some x ∧ ∀ i < k, f i = none := by
  induction n with
  | zero => cases h
  | succ n ih =>
    rw [List.range_succ, List.findSome?_append] at h
    cases hn : (List.range n).findSome? f with
    | some y =>
      rw [hn, Option.some_or] at h
      obtain ⟨k, hk, hf, hlt⟩ := ih (hn.trans h)
      exact ⟨k, Nat.lt_succ_of_lt hk, hf, hlt⟩
    | none =>
      rw [hn, Option.none_or, List.findSome?_singleton] at h
      refine ⟨n, Nat.lt_succ_self n, h, fun i hi => ?_⟩
      exact List.findSome?_eq_none_iff.1 hn i (List.mem_range.2 hi)

/-- What is lost as it is made to fit had at most half a unit of the last place. -/
theorem two_mul_le_of_shrink? {s : Bool} {m places : Nat} {z : Decimal}
    (h : shrink? s m places = some z) (hz : z.isZero) : 2 * m ≤ tens (places - 28) := by
  obtain ⟨k, hk, hfit, hbefore⟩ := findSome?_range h
  obtain ⟨-, hmantissa, hplaces⟩ := fit?_eq_some_iff.1 hfit
  have hle := z.places_le
  have hround : roundEven m (tens k) = 0 := hmantissa ▸ (beq_iff_eq.1 hz)
  have hm := (roundEven_eq_zero_iff (tens_pos k)).1 hround
  cases k with
  | zero =>
    rw [show tens 0 = 1 from rfl] at hm
    omega
  | succ k =>
    -- one place fewer dropped is a place too many, so just as many were dropped as had to be
    have hnone := hbefore k (Nat.lt_succ_self k)
    have hsmall : roundEven m (tens k) < limit := by
      have hlt : m / tens k < 10 := by
        rw [Nat.div_lt_iff_lt_mul (tens_pos k)]
        rw [tens_succ] at hm
        have := tens_pos k
        omega
      have := roundEven_le m (tens k)
      rw [limit]
      omega
    have hmany : ¬places - k ≤ 28 := fun hle => by
      rw [fit?, dif_pos ⟨hsmall, hle⟩] at hnone
      cases hnone
    rwa [show k + 1 = places - 28 by omega] at hm

theorem isSome_shrink? {s : Bool} {m places k : Nat} (hk : k ≤ places)
    (hfits : roundEven m (tens k) < limit) (hplaces : places - k ≤ 28) :
    (shrink? s m places).isSome := by
  refine List.findSome?_isSome_iff.2 ⟨k, List.mem_range.2 (by omega), ?_⟩
  rw [fit?, dif_pos ⟨hfits, hplaces⟩]
  rfl

/-! ## Products -/

/-- A factor that makes zero of a number is at most one half. -/
theorem le_half_of_mul? {a f z : Decimal} (h : a.mul? f = some z) (hz : z.isZero)
    (ha : ¬a.isZero) : 2 * f.mantissa ≤ tens f.places := by
  have hpos : 0 < a.mantissa := Nat.pos_of_ne_zero (mt beq_iff_eq.2 ha)
  have hpa := a.places_le
  rw [mul?] at h
  split at h
  · rename_i hzero
    have hf : f.mantissa = 0 := beq_iff_eq.1 ((Bool.or_eq_true _ _ ▸ hzero).resolve_left ha)
    rw [hf]
    exact Nat.zero_le _
  · split at h
    · rename_i hshort
      simp only [Bool.and_eq_true, decide_eq_true_eq] at hshort
      have hlimit : shortLimit = 4294967296 := rfl
      calc 2 * f.mantissa ≤ tens 10 := by
            rw [show tens 10 = 10000000000 from rfl]
            omega
        _ ≤ tens f.places := Nat.pow_le_pow_right (by decide) (by omega)
    · calc 2 * f.mantissa ≤ 2 * (a.mantissa * f.mantissa) :=
            Nat.mul_le_mul_left 2 (Nat.le_mul_of_pos_left _ hpos)
        _ ≤ tens (a.places + f.places - 28) := two_mul_le_of_shrink? h hz
        _ ≤ tens f.places := Nat.pow_le_pow_right (by decide) (by omega)

/-- By a factor of at most one half everything can be multiplied. -/
theorem isSome_mul?_of_le_half (b : Decimal) {f : Decimal} (h : 2 * f.mantissa ≤ tens f.places) :
    (b.mul? f).isSome := by
  rw [mul?]
  split
  · rfl
  · split
    · rfl
    · refine isSome_shrink? (k := f.places) (by omega) ?_ (by have := b.places_le; omega)
      have hhalf : b.mantissa * f.mantissa / tens f.places ≤ b.mantissa / 2 := by
        rw [Nat.le_div_iff_mul_le (by decide), Nat.mul_comm]
        calc 2 * (b.mantissa * f.mantissa / tens f.places)
            ≤ 2 * (b.mantissa * f.mantissa) / tens f.places := Nat.mul_div_le_mul_div_assoc _ _ _
          _ = b.mantissa * (2 * f.mantissa) / tens f.places := by rw [Nat.mul_left_comm]
          _ ≤ b.mantissa * tens f.places / tens f.places :=
            Nat.div_le_div_right (Nat.mul_le_mul_left _ h)
          _ = b.mantissa := Nat.mul_div_cancel _ (tens_pos _)
      have := roundEven_le (b.mantissa * f.mantissa) (tens f.places)
      have := b.mantissa_lt
      rw [limit]
      omega

/-! ## Quotients

The division finds the digits of a quotient in steps; `q` is what has been found at `s` places, and
`r` is left over. -/

theorem headroom_fits {q : Nat} (hq : q < limit) (k : Nat) : q * tens (headroom q k) < limit := by
  induction k with
  | zero => simpa [headroom, tens] using hq
  | succ k ih =>
    rw [headroom]
    split
    · assumption
    · exact ih

theorem le_of_headroom_lt {q k : Nat} (h : headroom q k < k) :
    limit ≤ q * tens (headroom q k + 1) := by
  induction k with
  | zero => exact absurd h (Nat.not_lt_zero _)
  | succ k ih =>
    rw [headroom] at h ⊢
    split at h
    · exact absurd h (Nat.lt_irrefl _)
    · rename_i hfull
      rw [if_neg hfull]
      rcases Nat.lt_or_ge (headroom q k) k with hlt | hge
      · exact ih hlt
      · rw [Nat.le_antisymm (headroom_le q k) hge]
        exact Nat.le_of_not_lt hfull

/-- The number of digits that the next step of a division adds. -/
def digitsAdded (q r : Nat) (s : Int) : Nat :=
  if r = 0 then min 9 (-s).toNat else headroom q (min 9 (28 - s).toNat)

theorem digitsAdded_le (q r : Nat) {s : Int} (hs : s ≤ 28) : s + digitsAdded q r s ≤ 28 := by
  have := headroom_le q (min 9 (28 - s).toNat)
  rw [digitsAdded]
  split <;> omega

theorem digitsAdded_le_nine (q r : Nat) (s : Int) : digitsAdded q r s ≤ 9 := by
  have := headroom_le q (min 9 (28 - s).toNat)
  rw [digitsAdded]
  split <;> omega

theorem digitsAdded_fits {q : Nat} (hq : q < limit) {r : Nat} (hr : r ≠ 0) (s : Int) :
    q * tens (digitsAdded q r s) < limit := by
  rw [digitsAdded, if_neg hr]
  exact headroom_fits hq _

theorem digitsAdded_full {q r : Nat} {s : Int} (hr : r ≠ 0)
    (h : digitsAdded q r s < min 9 (28 - s).toNat) : limit ≤ q * tens (digitsAdded q r s + 1) := by
  rw [digitsAdded, if_neg hr] at h ⊢
  exact le_of_headroom_lt h

theorem dropDigit_pos {m : Nat} (h : 10 ≤ m) (rest : Bool) : 0 < dropDigit m rest := by
  rw [dropDigit]
  split <;> omega

theorem dropDigit_le (m : Nat) (rest : Bool) : dropDigit m rest ≤ m / 10 + 1 := by
  rw [dropDigit]
  split <;> omega

/-- A step that adds no digit is at the last place, or has no room for another one. -/
theorem full_of_digitsAdded_eq_zero {q r : Nat} {s : Int} (hmore : ¬(r = 0 ∧ 0 ≤ s)) (hs : s ≤ 28)
    (h : digitsAdded q r s = 0) : r ≠ 0 ∧ (s = 28 ∨ 10 ≤ q) := by
  have hr : r ≠ 0 := by
    intro hr
    rw [digitsAdded, if_pos hr] at h
    omega
  refine ⟨hr, ?_⟩
  rcases Int.lt_or_eq_of_le hs with hlt | heq
  · right
    have hfull := digitsAdded_full (q := q) hr (by rw [h]; omega)
    rw [h, show tens (0 + 1) = 10 from rfl, limit] at hfull
    omega
  · exact .inl heq

/-- The left over rest in terms of what it was. -/
theorem no_digit_iff {m q r k l : Nat} (hm : 0 < m) (hkl : k ≤ l) :
    q * tens k + r * tens k / m = 0 ∧ 2 * (r * tens k % m * tens (l - k)) ≤ m ↔
      q = 0 ∧ 2 * (r * tens l) ≤ m := by
  have hk := tens_pos k
  have htens : tens l = tens k * tens (l - k) := by rw [← tens_add, Nat.add_sub_cancel' hkl]
  rw [htens, ← Nat.mul_assoc r]
  constructor
  · rintro ⟨hzero, hle⟩
    obtain ⟨hq, hdiv⟩ := Nat.add_eq_zero_iff.1 hzero
    rw [Nat.mod_eq_of_lt (Nat.lt_of_div_eq_zero hm hdiv)] at hle
    exact ⟨(Nat.mul_eq_zero.1 hq).resolve_right hk.ne', hle⟩
  · rintro ⟨rfl, hle⟩
    have hlt : r * tens k < m := by
      have := Nat.le_mul_of_pos_right (r * tens k) (tens_pos (l - k))
      omega
    rw [Nat.div_eq_of_lt hlt, Nat.mod_eq_of_lt hlt]
    exact ⟨by omega, hle⟩

theorem le_rounded (m q r : Nat) :
    q ≤ if 2 * r > m || (2 * r == m && q % 2 == 1) then q + 1 else q := by
  split <;> omega

/-- A quotient is zero if no digit was found yet, and what is left over has at most half a unit of
the last place. -/
theorem divideFrom_eq_zero_iff {m q r : Nat} {s : Int} {padded : Bool} {found : Quotient}
    (h : divideFrom m q r s padded = some found) (hr : r < m) (hs : s ≤ 28) :
    found.whole = 0 ↔ q = 0 ∧ 2 * (r * tens (28 - s).toNat) ≤ m := by
  fun_induction divideFrom m q r s padded with
  | case1 q r s padded hdone =>
    cases h
    rw [hdone.1]
    simp
  | case2 | case4 | case6 | case8 => cases h
  | case3 q r s padded hmore k _ _ hk rounded _ =>
    cases h
    have hk : digitsAdded q r s = 0 := by simpa only [k, digitsAdded, dite_eq_ite] using hk
    obtain ⟨-, hlast | hlarge⟩ := full_of_digitsAdded_eq_zero hmore hs hk
    · rw [hlast, show tens (28 - (28 : Int)).toNat = 1 from rfl, Nat.mul_one]
      simpa only [rounded, dite_eq_ite] using rounded_eq_zero_iff m q r
    · have hle : q ≤ rounded := by simpa only [rounded, dite_eq_ite] using le_rounded m q r
      show rounded = 0 ↔ _
      omega
  | case5 q r s padded hmore k _ _ hk rounded hlarge _ =>
    cases h
    have hle : rounded ≤ q + 1 := by
      simp only [rounded]
      split <;> omega
    rw [limit] at hlarge
    have := dropDigit_pos (m := rounded) (by omega) false
    show dropDigit rounded false = 0 ↔ _
    omega
  | case7 q r s padded hmore k _ _ hk hroom q' r' hq' ih =>
    have hle := digitsAdded_le q r hs
    have hk' : k = digitsAdded q r s := by simp only [k, digitsAdded, dite_eq_ite]
    rw [ih h (Nat.mod_lt _ (by omega)) (by omega),
      show (28 - (s + k)).toNat = (28 - s).toNat - k by omega]
    exact no_digit_iff (by omega) (by omega)
  | case9 q r s padded hmore k _ _ hk hroom q' r' hlarge _ =>
    cases h
    rw [limit] at hlarge
    have hpos := dropDigit_pos (m := q') (by omega) (r' != 0)
    have hle := digitsAdded_le q r hs
    have hk' : k = digitsAdded q r s := by simp only [k, digitsAdded, dite_eq_ite]
    have hdigit := no_digit_iff (q := q) (k := k) (l := (28 - s).toNat) (r := r) (m := m)
      (by omega) (by omega)
    show dropDigit q' (r' != 0) = 0 ↔ _
    rw [← hdigit]
    show _ ↔ q' = 0 ∧ _
    omega


/-- What has been found so far, at as many places, is not to be rounded beyond the range. -/
def InRange (m q r : Nat) (s : Int) : Prop :=
  s ≤ 0 → 2 * ((q * m + r) * tens (-s).toNat) < (2 * limit - 1) * m

/-- A step keeps the number that has been found and what is left over of it. -/
theorem digits_step (m q r k : Nat) :
    (q * tens k + r * tens k / m) * m + r * tens k % m = (q * m + r) * tens k := by
  have := Nat.div_add_mod' (r * tens k) m
  rw [Nat.add_mul, Nat.add_mul, Nat.add_assoc, this, Nat.mul_right_comm]

theorem InRange.step {m q r k : Nat} {s : Int} (h : InRange m q r s) :
    InRange m (q * tens k + r * tens k / m) (r * tens k % m) (s + k) := by
  intro hs
  rw [digits_step, Nat.mul_assoc (q * m + r), ← tens_add,
    show k + (-(s + k)).toNat = (-s).toNat by omega]
  exact h (by omega)

theorem InRange.fits {m q r k : Nat} {s : Int} (h : InRange m q r s) (hs : s ≤ 0)
    (hk : k ≤ (-s).toNat) : q * tens k < limit := by
  have hlt : 2 * (q * tens k) * m < (2 * limit - 1) * m :=
    calc 2 * (q * tens k) * m = 2 * (q * m * tens k) := by
          rw [Nat.mul_assoc, Nat.mul_right_comm q]
      _ ≤ 2 * ((q * m + r) * tens (-s).toNat) :=
        Nat.mul_le_mul_left 2 (Nat.mul_le_mul (Nat.le_add_right _ _)
          (Nat.pow_le_pow_right (by decide) hk))
      _ < (2 * limit - 1) * m := h hs
  have := Nat.lt_of_mul_lt_mul_right hlt
  rw [limit] at this ⊢
  omega

/-- A quotient within the range is not rounded up beyond it. -/
theorem InRange.rounded_lt {m q r : Nat} {s : Int} (h : InRange m q r s) (hs : s ≤ 0) :
    (if 2 * r > m || (2 * r == m && q % 2 == 1) then q + 1 else q) < limit := by
  have hq := h.fits (k := 0) hs (Nat.zero_le _)
  rw [show tens 0 = 1 from rfl, Nat.mul_one] at hq
  have hlt : 2 * (q * m + r) < (2 * limit - 1) * m :=
    (Nat.mul_le_mul_left 2 (Nat.le_mul_of_pos_right _ (tens_pos _))).trans_lt (h hs)
  split
  · rename_i hup
    simp only [Bool.or_eq_true, Bool.and_eq_true, decide_eq_true_eq, beq_iff_eq] at hup
    by_contra hge
    have hlast : q = limit - 1 := by omega
    rw [hlast, limit] at hlt
    omega
  · exact hq

/-- With a divisor that leaves the number within the range, the division comes to an end. -/
theorem exists_divideFrom {m q r : Nat} {s : Int} (padded : Bool) (hr : r < m) (hs : s ≤ 28)
    (hq : q < limit) (hrange : InRange m q r s) :
    ∃ found, divideFrom m q r s padded = some found ∧ found.whole < limit ∧ found.places ≤ 28 := by
  have hm : 0 < m := by omega
  fun_induction divideFrom m q r s padded with
  | case1 q r s padded hdone => exact ⟨_, rfl, hq, hs⟩
  | case2 q r s padded hmore k hnone =>
    have hk : k = digitsAdded q r s := by simp only [k, digitsAdded, dite_eq_ite]
    have hfull := digitsAdded_full (q := q) (s := s) hnone.1 (by omega)
    exact absurd hfull (Nat.not_le_of_lt (hrange.fits (by omega) (by omega)))
  | case3 q r s padded hmore k _ _ hk rounded hsmall => exact ⟨_, rfl, hsmall, hs⟩
  | case4 q r s padded hmore k _ hk rounded hlarge hneg =>
    refine absurd ?_ hlarge
    simpa only [rounded, dite_eq_ite] using hrange.rounded_lt hneg
  | case5 q r s padded hmore k _ _ hk rounded hlarge _ =>
    refine ⟨_, rfl, ?_, by show s - 1 ≤ 28; omega⟩
    have hle : rounded ≤ q + 1 := by
      simp only [rounded]
      split <;> omega
    have := dropDigit_le rounded false
    show dropDigit rounded false < limit
    rw [limit] at hq ⊢
    omega
  | case6 q r s padded hmore k hnone hk hlarge =>
    have hk : k = digitsAdded q r s := by simp only [k, digitsAdded, dite_eq_ite]
    refine absurd hlarge (Nat.not_le_of_lt ?_)
    by_cases hzero : r = 0
    · rw [digitsAdded, if_pos hzero] at hk
      exact hrange.fits (by omega) (by omega)
    · rw [hk]
      exact digitsAdded_fits hq hzero s
  | case7 q r s padded hmore k _ _ hk hroom q' r' hq' ih =>
    have hk' : k = digitsAdded q r s := by simp only [k, digitsAdded, dite_eq_ite]
    have := digitsAdded_le q r hs
    exact ih (Nat.mod_lt _ hm) (by omega) hq' hrange.step
  | case8 q r s padded hmore k _ hk hroom q' hlarge hneg =>
    have := hrange.step (k := k) |>.fits (k := 0) hneg (Nat.zero_le _)
    rw [show tens 0 = 1 from rfl, Nat.mul_one] at this
    exact absurd this hlarge
  | case9 q r s padded hmore k _ _ hk hroom q' r' hlarge _ =>
    have hk' : k = digitsAdded q r s := by simp only [k, digitsAdded, dite_eq_ite]
    have hle := digitsAdded_le q r hs
    refine ⟨_, rfl, ?_, by show s + k - 1 ≤ 28; omega⟩
    have hdigits : r * tens k / m < tens k := by
      rw [Nat.div_lt_iff_lt_mul hm, Nat.mul_comm]
      exact Nat.mul_lt_mul_of_pos_left hr (tens_pos k)
    have hnine : tens k ≤ tens 9 :=
      Nat.pow_le_pow_right (by decide) (hk' ▸ digitsAdded_le_nine q r s)
    have hdrop := dropDigit_le q' (r' != 0)
    have hq' : q' = q * tens k + r * tens k / m := rfl
    show dropDigit q' (r' != 0) < limit
    rw [limit] at hroom ⊢
    rw [show tens 9 = 1000000000 from rfl] at hnine
    omega


/-! ### Zeros behind the quotient -/

/-- Zeros may be missing at the end, and as many places. -/
def Trimmed (q s : Nat) (p : Nat × Nat) : Prop := p.1 ≤ q ∧ p.2 ≤ s ∧ (p.1 = 0 ↔ q = 0)

theorem Trimmed.trans {q s : Nat} {p p' : Nat × Nat} (h : Trimmed q s p)
    (h' : Trimmed p.1 p.2 p') : Trimmed q s p' :=
  ⟨h'.1.trans h.1, h'.2.1.trans h.2.1, h'.2.2.trans h.2.2⟩

theorem trimmed_div {q s e : Nat} (h : q % tens e = 0) : Trimmed q s (q / tens e, s - e) := by
  refine ⟨Nat.div_le_self _ _, Nat.sub_le _ _, ?_⟩
  have hsplit := Nat.div_add_mod q (tens e)
  rw [h, Nat.add_zero] at hsplit
  refine ⟨fun hzero => ?_, fun hq => by show q / tens e = 0; rw [hq, Nat.zero_div]⟩
  rw [← hsplit, show q / tens e = 0 from hzero, Nat.mul_zero]

theorem trimmed_dropZeroPlaces (e q s : Nat) : Trimmed q s (dropZeroPlaces e q s) := by
  rw [dropZeroPlaces]
  split
  · rename_i h
    exact trimmed_div h.2
  · exact ⟨Nat.le_refl _, Nat.le_refl _, Iff.rfl⟩

theorem trimmed_dropEights (q s : Nat) : Trimmed q s (dropEights q s) := by
  fun_induction dropEights q s with
  | case1 q s h ih => exact (trimmed_div h.2.2).trans ih
  | case2 q s h => exact ⟨Nat.le_refl _, Nat.le_refl _, Iff.rfl⟩

theorem trimmed_dropPadding (q s : Nat) : Trimmed q s (dropPadding q s) :=
  (((trimmed_dropEights q s).trans (trimmed_dropZeroPlaces 4 _ _)).trans
    (trimmed_dropZeroPlaces 2 _ _)).trans (trimmed_dropZeroPlaces 1 _ _)

/-- The mantissa and the places of the quotient. -/
def Quotient.parts (found : Quotient) : Nat × Nat :=
  if found.padded then dropPadding found.whole found.places.toNat
  else (found.whole, found.places.toNat)

theorem Quotient.trimmed_parts (found : Quotient) :
    Trimmed found.whole found.places.toNat found.parts := by
  rw [Quotient.parts]
  split
  · exact trimmed_dropPadding _ _
  · exact ⟨Nat.le_refl _, Nat.le_refl _, Iff.rfl⟩

theorem div?_eq {a d : Decimal} (hd : ¬d.isZero) (ha : ¬a.isZero) : a.div? d =
    (divideFrom d.mantissa (a.mantissa / d.mantissa) (a.mantissa % d.mantissa)
      (a.places - d.places) false).bind fun found =>
        fit? (a.negative != d.negative) found.parts.1 found.parts.2 := by
  rw [div?, if_neg hd, if_neg ha]
  rfl

theorem isSome_div?_of_inRange {a d : Decimal} (hd : ¬d.isZero) (ha : ¬a.isZero)
    (h : InRange d.mantissa (a.mantissa / d.mantissa) (a.mantissa % d.mantissa)
      (a.places - d.places)) : (a.div? d).isSome := by
  have hdpos : 0 < d.mantissa := Nat.pos_of_ne_zero (mt beq_iff_eq.2 hd)
  have hplaces := a.places_le
  obtain ⟨found, hfound, hwhole, hfits⟩ := exists_divideFrom false (Nat.mod_lt a.mantissa hdpos)
    (by omega) ((Nat.div_le_self _ _).trans_lt a.mantissa_lt) h
  obtain ⟨hparts, hpartsplaces, -⟩ := found.trimmed_parts
  rw [div?_eq hd ha, hfound, Option.bind_some, fit?, dif_pos ⟨hparts.trans_lt hwhole, by omega⟩]
  rfl

/-! ### The quotient as a number -/

theorem abs_toRat (d : Decimal) : |d.toRat| = d.mantissa / tens d.places := by
  rw [toRat, abs_div, Nat.abs_cast, coefficient]
  split <;> simp

/-- The least of the decimals above zero. -/
def unit : ℚ := 1 / tens maxPlaces

theorem unit_le_abs {d : Decimal} (hd : ¬d.isZero) : unit ≤ |d.toRat| := by
  have hpos : 1 ≤ d.mantissa := Nat.one_le_iff_ne_zero.2 (mt beq_iff_eq.2 hd)
  rw [abs_toRat, unit]
  refine div_le_div₀ (Nat.cast_nonneg _) (by exact_mod_cast hpos)
    (by exact_mod_cast tens_pos _) ?_
  exact_mod_cast Nat.pow_le_pow_right (by decide) d.places_le

theorem unit_pos : 0 < unit := div_pos one_pos (by exact_mod_cast tens_pos _)

/-- A divisor that makes zero of a number is at least two. -/
theorem two_le_of_abs_div_le {a d : Decimal} (ha : ¬a.isZero) (hd : ¬d.isZero)
    (h : |a.toRat / d.toRat| ≤ unit / 2) : 2 ≤ |d.toRat| := by
  have hpos : 0 < |d.toRat| := unit_pos.trans_le (unit_le_abs hd)
  rw [abs_div, div_le_iff₀ hpos] at h
  have hle : unit * 2 ≤ unit * |d.toRat| :=
    calc unit * 2 ≤ |a.toRat| * 2 := mul_le_mul_of_nonneg_right (unit_le_abs ha) zero_le_two
      _ ≤ unit / 2 * |d.toRat| * 2 := mul_le_mul_of_nonneg_right h zero_le_two
      _ = unit * |d.toRat| := by rw [mul_right_comm, div_mul_cancel₀ _ two_ne_zero]
  exact le_of_mul_le_mul_left hle unit_pos

/-- The quotient is at most half of the least decimal, in terms of mantissas. -/
theorem abs_div_le_iff {a d : Decimal} (hd : ¬d.isZero) :
    |a.toRat / d.toRat| ≤ unit / 2 ↔
      2 * (a.mantissa * tens (28 - (a.places - d.places : Int)).toNat) ≤ d.mantissa := by
  have hpos : (0 : ℚ) < d.mantissa := by
    exact_mod_cast Nat.pos_of_ne_zero (mt beq_iff_eq.2 hd)
  have hplaces := a.places_le
  have htens : tens (28 - (a.places - d.places : Int)).toNat * tens a.places =
      tens 28 * tens d.places := by
    rw [← tens_add, ← tens_add]
    congr 1
    omega
  have ha : (0 : ℚ) < tens a.places := by exact_mod_cast tens_pos _
  have hu : (0 : ℚ) < tens maxPlaces := by exact_mod_cast tens_pos _
  have hcast : ((tens (28 - (a.places - d.places : Int)).toNat : ℚ)) * tens a.places =
      tens maxPlaces * tens d.places := by
    exact_mod_cast htens
  rw [abs_div, abs_toRat, abs_toRat, unit, div_div_div_eq, div_div, div_le_div_iff₀
    (mul_pos ha hpos) (mul_pos hu two_pos), one_mul]
  have hleft : a.mantissa * tens d.places * (tens maxPlaces * 2) =
      (2 * (a.mantissa * tens (28 - (a.places - d.places : Int)).toNat) : ℚ) * tens a.places := by
    linear_combination (-2 * a.mantissa : ℚ) * hcast
  rw [hleft, mul_comm _ (d.mantissa : ℚ), mul_le_mul_iff_of_pos_right ha]
  exact_mod_cast Iff.rfl

/-- A quotient is zero if the number is at most half of the least decimal. -/
theorem isZero_div?_iff {a d z : Decimal} (h : a.div? d = some z) :
    z.isZero ↔ |a.toRat / d.toRat| ≤ unit / 2 := by
  have hd : ¬d.isZero := fun hd => by
    rw [div?, if_pos hd] at h
    cases h
  rw [abs_div_le_iff hd]
  by_cases ha : a.isZero
  · rw [div?, if_neg hd, if_pos ha] at h
    cases h
    have hzero : a.mantissa = 0 := beq_iff_eq.1 ha
    rw [hzero, Nat.zero_mul]
    exact iff_of_true rfl (Nat.zero_le _)
  · have hpos : 0 < a.mantissa := Nat.pos_of_ne_zero (mt beq_iff_eq.2 ha)
    have hdpos : 0 < d.mantissa := Nat.pos_of_ne_zero (mt beq_iff_eq.2 hd)
    have hplaces := a.places_le
    rw [div?_eq hd ha] at h
    obtain ⟨found, hfound, hfit⟩ := Option.bind_eq_some_iff.1 h
    obtain ⟨-, hmantissa, -⟩ := fit?_eq_some_iff.1 hfit
    have hzero := divideFrom_eq_zero_iff hfound (Nat.mod_lt _ hdpos) (by omega)
    rw [isZero, beq_iff_eq, hmantissa, found.trimmed_parts.2.2, hzero]
    have hdigit := no_digit_iff (q := 0) (k := 0) (r := a.mantissa) hdpos (Nat.zero_le
      (28 - (a.places - d.places : Int)).toNat)
    simpa [tens] using hdigit

/-- A divisor of at least one leaves every quotient within the range. -/
theorem isSome_div?_of_one_le (a : Decimal) {d : Decimal} (h : 1 ≤ |d.toRat|) :
    (a.div? d).isSome := by
  have hle : tens d.places ≤ d.mantissa := by
    rw [abs_toRat, le_div_iff₀ (by exact_mod_cast tens_pos _), one_mul] at h
    exact_mod_cast h
  have hdpos : 0 < d.mantissa := (tens_pos _).trans_le hle
  have hd : ¬d.isZero := fun hd => hdpos.ne' (beq_iff_eq.1 hd)
  have hplaces := a.places_le
  by_cases ha : a.isZero
  · rw [div?, if_neg hd, if_pos ha]
    rfl
  · refine isSome_div?_of_inRange hd ha fun hs => ?_
    have hvalue : a.mantissa * tens (-(a.places - d.places : Int)).toNat ≤
        (limit - 1) * d.mantissa :=
      Nat.mul_le_mul (Nat.le_sub_one_of_lt a.mantissa_lt)
        ((Nat.pow_le_pow_right (by decide) (by omega)).trans hle)
    rw [Nat.div_add_mod']
    rw [limit] at hvalue ⊢
    omega

end Decimal

end Bookkeeping
