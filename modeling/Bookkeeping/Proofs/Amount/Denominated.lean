import Bookkeeping.Proofs.Amount.Sum
import Bookkeeping.Proofs.Decimal.Grid
import Mathlib.Algebra.BigOperators.Group.List.Basic
import Mathlib.Algebra.Order.BigOperators.Group.List
import Mathlib.Algebra.Order.Field.Rat
import Mathlib.Algebra.Order.Ring.Abs
import Mathlib.Data.List.Perm.Subperm

/-!
# Amounts with commodities

An amount is denominated if it has a commodity or is zero.  Sums of denominated amounts hold what
both hold, with no exception (`Denominated.holding_add`).  `total` is what a list of amounts holds
together.  If the amounts fit together (`FitTogether`), that is, if they all fit one decimal at one
number of places, then what one part of them comes to and what another part comes to add exactly
(`FitTogether.addsExactly`).
-/

namespace Bookkeeping

namespace Amount

/-- The amount has a commodity, unless it is zero. -/
def Denominated (a : Amount) : Prop := a.commodity = none → a.isZero

variable {a b s : Amount}

theorem denominated_of_isSome (h : a.commodity.isSome) : a.Denominated := by
  intro hnone
  rw [hnone] at h
  cases h

theorem Denominated.exists_commodity (h : a.Denominated) (hne : ¬a.isZero) :
    ∃ c, a.commodity = some c := by
  cases hc : a.commodity with
  | none => exact absurd (h hc) hne
  | some c => exact ⟨c, rfl⟩

theorem additive_denominated : Additive Denominated where
  compatible {a b} ha hb hsym := by
    by_cases hz : a.isZero ∨ b.isZero
    · exact compatible_of_isZero hz
    · obtain ⟨hza, hzb⟩ := not_or.1 hz
      obtain ⟨c, hc⟩ := ha.exists_commodity hza
      obtain ⟨d, hd⟩ := hb.exists_commodity hzb
      have hsame : c.same d := by
        rw [Commodity.same_iff, ← symbol_of_commodity_some hc, ← symbol_of_commodity_some hd, hsym]
      rw [compatible, hc, hd]
      simp [hsame]
  sum {a b s} ha hb hs hrat hnone := by
    have hboth : a.commodity = none ∧ b.commodity = none := by
      rw [hs, sumCommodity] at hnone
      rcases hca : a.commodity with _ | c <;> rcases hcb : b.commodity with _ | d <;>
        simp only [hca, hcb] at hnone
      · exact ⟨rfl, rfl⟩
      · cases hnone
      · cases hnone
      · split at hnone
        · split at hnone <;> cases hnone
        · split at hnone <;> cases hnone
    rw [isZero_iff_toRat, hrat, isZero_iff_toRat.1 (ha hboth.1), isZero_iff_toRat.1 (hb hboth.2),
      add_zero]

theorem Denominated.symbol_of_isZero (hb : b.Denominated) (hs : s.commodity = a.sumCommodity b)
    (hza : a.isZero) (hzb : ¬b.isZero) : s.symbol = b.symbol := by
  obtain ⟨d, hd⟩ := hb.exists_commodity hzb
  rcases hc : a.commodity with _ | c
  · rw [symbol, hs, sumCommodity, hc, hd, symbol_of_commodity_some hd]
    rfl
  · rw [symbol_of_commodities hc hd hs, if_pos hza]

theorem Denominated.symbol_of_ne_zero (ha : a.Denominated) (hs : s.commodity = a.sumCommodity b)
    (hza : ¬a.isZero) : s.symbol = a.symbol := by
  obtain ⟨c, hc⟩ := ha.exists_commodity hza
  rcases hd : b.commodity with _ | d
  · rw [symbol, hs, sumCommodity, hc, hd, symbol_of_commodity_some hc]
    rfl
  · rw [symbol_of_commodities hc hd hs, if_neg hza]

/-- The sum holds what both amounts hold together. -/
theorem Denominated.holding_add (ha : a.Denominated) (hb : b.Denominated) (hcompat : a.compatible b)
    (hs : s.commodity = a.sumCommodity b)
    (hrat : s.quantity.toRat = a.quantity.toRat + b.quantity.toRat) (k : String) :
    s.holding k = a.holding k + b.holding k := by
  by_cases hza : a.isZero
  · rw [isZero_iff_toRat.1 hza, zero_add] at hrat
    rw [holding_of_isZero hza, zero_add]
    by_cases hzb : b.isZero
    · have hzs : s.isZero := isZero_iff_toRat.2 (hrat.trans (isZero_iff_toRat.1 hzb))
      rw [holding_of_isZero hzs, holding_of_isZero hzb]
    · rw [holding, holding, hb.symbol_of_isZero hs hza hzb, hrat]
  · have hsym := ha.symbol_of_ne_zero hs hza
    by_cases hzb : b.isZero
    · rw [isZero_iff_toRat.1 hzb, add_zero] at hrat
      rw [holding_of_isZero hzb, add_zero, holding, holding, hsym, hrat]
    · have hab : a.symbol = b.symbol :=
        (symbol_eq_of_compatible hcompat).resolve_right (not_or.2 ⟨hza, hzb⟩)
      rw [holding, holding, holding, hsym, ← hab, hrat]
      by_cases hk : k = a.symbol
      · rw [if_pos hk, if_pos hk, if_pos hk]
      · rw [if_neg hk, if_neg hk, if_neg hk, add_zero]

/-! ## Many amounts -/

/-- What the amounts hold together of the commodity with this symbol. -/
def total (as : List Amount) (symbol : String) : ℚ := (as.map (·.holding symbol)).sum

/-- At one number of places all quantities are whole, and the sum of their absolute values is still
a mantissa. -/
def FitTogether (as : List Amount) : Prop :=
  ∃ p ≤ 28, (∀ a ∈ as, ∃ n : ℤ, a.quantity.toRat = n / Decimal.tens p) ∧
    (as.map fun a => |a.quantity.toRat|).sum * Decimal.tens p < Decimal.limit

variable {as bs : List Amount} {k : String}

theorem total_cons (a : Amount) (as : List Amount) (k : String) :
    total (a :: as) k = a.holding k + total as k := List.sum_cons

theorem total_append (as bs : List Amount) (k : String) :
    total (as ++ bs) k = total as k + total bs k := by
  rw [total, List.map_append, List.sum_append]
  rfl

theorem total_perm (h : as.Perm bs) (k : String) : total as k = total bs k := (h.map _).sum_eq

theorem FitTogether.mono (h : as.Subperm bs) (hbs : FitTogether bs) : FitTogether as := by
  obtain ⟨p, hp, hwhole, hsum⟩ := hbs
  refine ⟨p, hp, fun a ha => hwhole a (h.subset ha), lt_of_le_of_lt ?_ hsum⟩
  obtain ⟨cs, hperm, hsub⟩ := h
  have hle : (cs.map fun a => |a.quantity.toRat|).sum ≤
      (bs.map fun a => |a.quantity.toRat|).sum := by
    refine (hsub.map _).sum_le_sum fun r hr => ?_
    obtain ⟨a, -, rfl⟩ := List.mem_map.1 hr
    exact abs_nonneg _
  rw [← (hperm.map _).sum_eq]
  exact mul_le_mul_of_nonneg_right hle (Nat.cast_nonneg _)

theorem exists_total_eq {p : Nat} (h : ∀ a ∈ as, ∃ n : ℤ, a.quantity.toRat = n / Decimal.tens p)
    (k : String) : ∃ n : ℤ, total as k = n / Decimal.tens p := by
  induction as with
  | nil => exact ⟨0, by rw [Int.cast_zero, zero_div]; rfl⟩
  | cons a as ih =>
    obtain ⟨n, hn⟩ := ih fun b hb => h b (.tail _ hb)
    obtain ⟨m, hm⟩ := h a (.head _)
    rw [total_cons, hn, holding]
    by_cases hk : k = a.symbol
    · exact ⟨m + n, by rw [if_pos hk, hm, ← add_div, Int.cast_add]⟩
    · exact ⟨n, by rw [if_neg hk, zero_add]⟩

theorem abs_total_le (as : List Amount) (k : String) :
    |total as k| ≤ (as.map fun a => |a.quantity.toRat|).sum := by
  induction as with
  | nil => exact (abs_zero (α := ℚ)).le
  | cons a as ih =>
    have ha : |a.holding k| ≤ |a.quantity.toRat| := by
      rw [holding]
      by_cases hk : k = a.symbol
      · rw [if_pos hk]
      · rw [if_neg hk, abs_zero]
        exact abs_nonneg _
    rw [total_cons, List.map_cons, List.sum_cons]
    exact (abs_add_le _ _).trans (add_le_add ha ih)

/-- What two parts of the amounts come to in a commodity adds exactly. -/
theorem FitTogether.addsExactly (h : FitTogether (as ++ bs)) {x y : Decimal}
    (hx : x.toRat = total as k) (hy : y.toRat = total bs k) : x.AddsExactly y := by
  obtain ⟨p, -, hwhole, hsum⟩ := h
  obtain ⟨m, hm⟩ := exists_total_eq (fun a ha => hwhole a (List.mem_append_left _ ha)) k
  obtain ⟨n, hn⟩ := exists_total_eq (fun a ha => hwhole a (List.mem_append_right _ ha)) k
  refine Decimal.addsExactly_of_common (hx.trans hm) (hy.trans hn) ?_
  have htens := Decimal.tens_ne_zero p
  have hall : ((m + n : ℤ) : ℚ) = total (as ++ bs) k * Decimal.tens p := by
    rw [total_append, hm, hn, ← add_div, div_mul_cancel₀ _ htens, Int.cast_add]
  have hlt : |((m + n : ℤ) : ℚ)| < Decimal.limit := by
    rw [hall, abs_mul, Nat.abs_cast]
    exact (mul_le_mul_of_nonneg_right (abs_total_le _ k) (Nat.cast_nonneg _)).trans_lt hsum
  rw [← Int.cast_abs, Int.abs_eq_natAbs] at hlt
  exact_mod_cast hlt

end Amount

end Bookkeeping
