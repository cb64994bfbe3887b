import Bookkeeping.Amount.Basic
import Bookkeeping.Proofs.Decimal.Rational

/-!
# Sums of amounts

An amount holds its number under its symbol and nothing under any other (`Amount.holding`), a bare
number being held under the empty symbol.  The sum of two amounts holds what both hold together,
with one exception (`holding_add_iff`): a zero with a commodity gives its commodity to a bare number
(`Amount.relabels`), so that the number is missing where it was and turns up where nothing was.
-/

namespace Bookkeeping

namespace Amount

/-- The commodity has a symbol, so that bare numbers are a commodity of their own. -/
def WellFormed (a : Amount) : Prop := ∀ c, a.commodity = some c → c.symbol ≠ ""

/-- What the amount holds of the commodity with this symbol. -/
def holding (a : Amount) (symbol : String) : ℚ :=
  if symbol = a.symbol then a.quantity.toRat else 0

/-- The first is a zero with a commodity and the second a bare number that is not zero. -/
def labels (a b : Amount) : Bool :=
  a.isZero && a.commodity.isSome && !b.isZero && b.commodity.isNone

/-- One of the two is a bare number that takes the commodity of the other, a zero. -/
def relabels (a b : Amount) : Bool := a.labels b || b.labels a

/-- One is a bare number and the other an amount of a commodity without a symbol, so that they have
one symbol but are not of one commodity, and neither is zero. -/
def Mixes (a b : Amount) : Prop :=
  a.symbol = "" ∧ b.symbol = "" ∧ a.commodity.isSome ≠ b.commodity.isSome ∧ ¬a.isZero ∧ ¬b.isZero

variable {a b s : Amount}

theorem isZero_iff_toRat : a.isZero ↔ a.quantity.toRat = 0 := Decimal.isZero_iff_toRat

theorem holding_of_isZero (h : a.isZero) (k : String) : a.holding k = 0 := by
  rw [holding, isZero_iff_toRat.1 h, ite_self]

theorem wellFormed_of_commodity_none (h : a.commodity = none) : a.WellFormed := by
  intro c hc
  rw [h] at hc
  cases hc

theorem symbol_of_commodity_none (h : a.commodity = none) : a.symbol = "" := by
  rw [symbol, h]
  rfl

theorem symbol_of_commodity_some {c : Commodity} (h : a.commodity = some c) :
    a.symbol = c.symbol := by
  rw [symbol, h]
  rfl

theorem WellFormed.symbol_eq_empty_iff (h : a.WellFormed) : a.symbol = "" ↔ a.commodity = none := by
  refine ⟨fun hs => ?_, symbol_of_commodity_none⟩
  cases hc : a.commodity with
  | none => rfl
  | some c => exact absurd ((symbol_of_commodity_some hc).symm.trans hs) (h c hc)

/-! ## The commodity of the sum -/

theorem sumCommodity_eq (a b : Amount) :
    a.sumCommodity b = a.commodity ∨ a.sumCommodity b = b.commodity := by
  rw [sumCommodity]
  rcases a.commodity with _ | c <;> rcases b.commodity with _ | d
  case some.some =>
    by_cases hsame : c.same d
    · by_cases hp : c.precision < d.precision <;> simp [hsame, hp]
    · by_cases hz : a.isZero <;> simp [hsame, hz]
  all_goals simp

theorem WellFormed.of_sumCommodity (ha : a.WellFormed) (hb : b.WellFormed)
    (hs : s.commodity = a.sumCommodity b) : s.WellFormed := by
  intro c hc
  rw [hs] at hc
  rcases sumCommodity_eq a b with h | h
  · exact ha c (h ▸ hc)
  · exact hb c (h ▸ hc)

theorem symbol_of_symbol_eq (hs : s.commodity = a.sumCommodity b) (h : a.symbol = b.symbol) :
    s.symbol = a.symbol := by
  rcases sumCommodity_eq a b with hc | hc
  · rw [symbol, hs, hc, ← symbol]
  · rw [symbol, hs, hc, ← symbol, h]

theorem symbol_of_commodities {c d : Commodity} (hca : a.commodity = some c)
    (hcb : b.commodity = some d) (hs : s.commodity = a.sumCommodity b) :
    s.symbol = if a.isZero then b.symbol else a.symbol := by
  have hsame : c.same d → c.symbol = d.symbol := Commodity.same_iff.1
  rw [sumCommodity, hca, hcb] at hs
  rw [symbol, hs, symbol_of_commodity_some hca, symbol_of_commodity_some hcb]
  by_cases h : c.same d
  · by_cases hp : c.precision < d.precision <;> simp [h, hp, hsame]
  · by_cases hz : a.isZero <;> simp [h, hz]

/-- A zero on the left leaves the symbol of the right alone, unless that is a bare number. -/
theorem symbol_of_isZero_left (ha : a.WellFormed) (hs : s.commodity = a.sumCommodity b)
    (hz : a.isZero) (hne : ¬b.isZero) : s.symbol = b.symbol ↔ a.labels b = false := by
  rcases hca : a.commodity with _ | c
  · simp [symbol, hs, sumCommodity, labels, hca]
  · rcases hcb : b.commodity with _ | d
    · have hlab : a.labels b = true := by simp [labels, hz, hca, hne, hcb]
      have hc := ha c hca
      simp [symbol, hs, sumCommodity, hca, hcb, hlab, hc]
    · have hlab : a.labels b = false := by simp [labels, hcb]
      rw [hlab, symbol_of_commodities hca hcb hs, if_pos hz]
      simp

/-- A zero on the right leaves the symbol of the left alone, unless that is a bare number. -/
theorem symbol_of_isZero_right (hb : b.WellFormed) (hs : s.commodity = a.sumCommodity b)
    (hz : b.isZero) (hne : ¬a.isZero) : s.symbol = a.symbol ↔ b.labels a = false := by
  rcases hcb : b.commodity with _ | d
  · rcases hca : a.commodity with _ | c <;> simp [symbol, hs, sumCommodity, labels, hca, hcb]
  · rcases hca : a.commodity with _ | c
    · have hlab : b.labels a = true := by simp [labels, hz, hca, hne, hcb]
      have hd := hb d hcb
      simp [symbol, hs, sumCommodity, hca, hcb, hlab, hd]
    · have hlab : b.labels a = false := by simp [labels, hca]
      rw [hlab, symbol_of_commodities hca hcb hs, if_neg hne]
      simp

/-! ## The sum -/

theorem compatible_of_isZero (h : a.isZero ∨ b.isZero) : a.compatible b := by
  rw [compatible]
  rcases a.commodity with _ | c <;> rcases b.commodity with _ | d <;> rcases h with h | h <;>
    simp [h]

/-- Amounts that stand under one symbol can be added unless they mix. -/
theorem compatible_iff_not_mixes (h : a.symbol = b.symbol) : a.compatible b ↔ ¬a.Mixes b := by
  rw [Mixes, compatible]
  rcases hca : a.commodity with _ | c <;> rcases hcb : b.commodity with _ | d
  · simp
  · have ha := symbol_of_commodity_none hca
    cases a.isZero <;> simp [ha, h.symm.trans ha]
  · have hb := symbol_of_commodity_none hcb
    cases a.isZero <;> simp [hb, h.trans hb]
  · rw [symbol_of_commodity_some hca, symbol_of_commodity_some hcb] at h
    simp [Commodity.same_iff.2 h]

/-- Commodities that have symbols do not mix with bare numbers. -/
theorem not_mixes_of_wellFormed (ha : a.WellFormed) (hb : b.WellFormed) : ¬a.Mixes b := by
  rintro ⟨hsa, hsb, hne, -⟩
  rw [ha.symbol_eq_empty_iff.1 hsa, hb.symbol_eq_empty_iff.1 hsb] at hne
  exact hne rfl

theorem compatible_of_symbol_eq (ha : a.WellFormed) (hb : b.WellFormed)
    (h : a.symbol = b.symbol) : a.compatible b :=
  (compatible_iff_not_mixes h).2 (not_mixes_of_wellFormed ha hb)

theorem symbol_eq_of_compatible (h : a.compatible b) :
    a.symbol = b.symbol ∨ a.isZero ∨ b.isZero := by
  rw [compatible] at h
  rcases hca : a.commodity with _ | c <;> rcases hcb : b.commodity with _ | d <;>
    rw [hca, hcb] at h
  · left
    rw [symbol_of_commodity_none hca, symbol_of_commodity_none hcb]
  · right
    simpa using h
  · right
    simpa using h
  · rw [symbol_of_commodity_some hca, symbol_of_commodity_some hcb]
    simpa [Commodity.same_iff, or_assoc] using h

/-- The sum of compatible amounts is the sum of the numbers, under a commodity of one of them. -/
theorem add_of_compatible (h : a.compatible b) (hexact : a.quantity.AddsExactly b.quantity) :
    ∃ s, a.add b = .ok s ∧ s.commodity = a.sumCommodity b ∧
      s.quantity.toRat = a.quantity.toRat + b.quantity.toRat := by
  obtain ⟨q, hq, hrat⟩ := hexact
  refine ⟨{ quantity := q, commodity := a.sumCommodity b }, ?_, rfl, hrat⟩
  rw [add, if_pos h, hq]

/-- The sum of the amounts is there, and nothing of it is rounded away. -/
def AddsExactly (a b : Amount) : Prop := a.compatible b ∧ a.quantity.AddsExactly b.quantity

theorem add_of_not_compatible (h : ¬a.compatible b) : a.add b = .error (a.mismatch b) := by
  rw [add, if_neg h]

theorem compatible_of_add (h : a.add b = .ok s) : a.compatible b := by
  by_contra hnot
  rw [add_of_not_compatible hnot] at h
  cases h

/-- Two nonzero amounts of one number hold the same exactly if they have one symbol. -/
theorem holding_eq_iff (hrat : s.quantity.toRat = a.quantity.toRat) (hne : ¬a.isZero) :
    (∀ k, s.holding k = a.holding k) ↔ s.symbol = a.symbol := by
  constructor
  · intro h
    by_contra hsym
    have hk := h a.symbol
    rw [holding, holding, if_neg (Ne.symm hsym), if_pos rfl] at hk
    exact hne (isZero_iff_toRat.2 hk.symm)
  · intro h k
    rw [holding, holding, h, hrat]

/-- The sum holds what both amounts hold together, unless it relabels one of them. -/
theorem holding_add_iff (ha : a.WellFormed) (hb : b.WellFormed) (hcompat : a.compatible b)
    (hs : s.commodity = a.sumCommodity b)
    (hrat : s.quantity.toRat = a.quantity.toRat + b.quantity.toRat) :
    (∀ k, s.holding k = a.holding k + b.holding k) ↔ a.relabels b = false := by
  by_cases hsym : a.symbol = b.symbol
  · have hnone : a.commodity = none ↔ b.commodity = none := by
      rw [← ha.symbol_eq_empty_iff, ← hb.symbol_eq_empty_iff, hsym]
    have hrel : a.relabels b = false := by
      rcases hca : a.commodity with _ | c <;> rcases hcb : b.commodity with _ | d <;>
        simp_all [relabels, labels]
    refine iff_of_true (fun k => ?_) hrel
    rw [holding, holding, holding, symbol_of_symbol_eq hs hsym, ← hsym, hrat]
    by_cases hk : k = a.symbol
    · rw [if_pos hk, if_pos hk, if_pos hk]
    · rw [if_neg hk, if_neg hk, if_neg hk, add_zero]
  · have hzero := (symbol_eq_of_compatible hcompat).resolve_left hsym
    by_cases hza : a.isZero
    · have hrat' : s.quantity.toRat = b.quantity.toRat := by
        rw [hrat, isZero_iff_toRat.1 hza, zero_add]
      simp only [holding_of_isZero hza, zero_add]
      by_cases hzb : b.isZero
      · have hzs : s.isZero := isZero_iff_toRat.2 (hrat'.trans (isZero_iff_toRat.1 hzb))
        refine iff_of_true (fun k => ?_) ?_
        · rw [holding_of_isZero hzs, holding_of_isZero hzb]
        · simp [relabels, labels, hza, hzb]
      · have hlab : b.labels a = false := by simp [labels, hza, hzb]
        rw [holding_eq_iff hrat' hzb, symbol_of_isZero_left ha hs hza hzb, relabels, hlab,
          Bool.or_false]
    · have hzb := hzero.resolve_left hza
      have hrat' : s.quantity.toRat = a.quantity.toRat := by
        rw [hrat, isZero_iff_toRat.1 hzb, add_zero]
      have hlab : a.labels b = false := by simp [labels, hza]
      simp only [holding_of_isZero hzb, add_zero]
      rw [holding_eq_iff hrat' hza, symbol_of_isZero_right hb hs hzb hza, relabels, hlab,
        Bool.false_or]

/-! ## Kinds of amounts -/

/-- Whether an amount is of this kind depends on its commodity alone. -/
def OnCommodity (P : Amount → Prop) : Prop :=
  ∀ {a s : Amount}, P a → s.commodity = a.commodity → P s

theorem onCommodity_true : OnCommodity fun _ => True := fun _ _ => trivial

theorem onCommodity_wellFormed : OnCommodity WellFormed := fun ha hs c hc => ha c (hs ▸ hc)

/-- A sum of amounts of this kind is of this kind again. -/
def SumClosed (P : Amount → Prop) : Prop :=
  ∀ a b s, P a → P b → s.commodity = a.sumCommodity b →
    s.quantity.toRat = a.quantity.toRat + b.quantity.toRat → P s

theorem OnCommodity.sumClosed {P : Amount → Prop} (hP : OnCommodity P) : SumClosed P := by
  intro a b s ha hb hs _
  rcases sumCommodity_eq a b with h | h
  · exact hP ha (hs.trans h)
  · exact hP hb (hs.trans h)

/-- Amounts of this kind that have one symbol can be added, and their sum is of this kind again. -/
structure Additive (P : Amount → Prop) : Prop where
  compatible : ∀ {a b : Amount}, P a → P b → a.symbol = b.symbol → a.compatible b
  sum : ∀ {a b s : Amount}, P a → P b → s.commodity = a.sumCommodity b →
    s.quantity.toRat = a.quantity.toRat + b.quantity.toRat → P s

theorem Additive.sumClosed {P : Amount → Prop} (h : Additive P) : SumClosed P := fun _ _ _ => h.sum

theorem additive_wellFormed : Additive WellFormed :=
  ⟨compatible_of_symbol_eq, fun ha hb hs _ => ha.of_sumCommodity hb hs⟩

end Amount

end Bookkeeping
