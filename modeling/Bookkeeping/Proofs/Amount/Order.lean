import Bookkeeping.Proofs.Amount.Sum
import Bookkeeping.Proofs.Decimal.Order
import Bookkeeping.Value.Basic

/-!
# The order of amounts

Two amounts can be compared if they are of one commodity (`Amount.Alike`) or if one of them is zero
(`compatible_iff`), and then they compare as their numbers do (`compare?_eq_some_iff`).  So the
order is dual to itself, and amounts that compare as equal are equal.  A zero compares with
everything: it may stand between a loss and a gain of different commodities, which do not compare
themselves.  Nowhere else is the order not transitive (`order_of_compatible`).
-/

namespace Bookkeeping

namespace Amount

/-- Both are bare numbers, or of commodities with the same symbol. -/
def Alike (a b : Amount) : Prop :=
  a.commodity.map Commodity.symbol = b.commodity.map Commodity.symbol

instance (a b : Amount) : Decidable (a.Alike b) := by
  unfold Alike
  infer_instance

variable {a b c : Amount} {o : Ordering}

theorem Alike.symbol_eq (h : a.Alike b) : a.symbol = b.symbol := by
  unfold symbol
  rw [h]

/-- Symbols tell commodities apart, but a commodity without a symbol not from bare numbers. -/
theorem alike_iff : a.Alike b ↔ a.symbol = b.symbol ∧ a.commodity.isSome = b.commodity.isSome := by
  unfold Alike symbol
  rcases a.commodity with _ | c <;> rcases b.commodity with _ | d <;> simp

theorem compatible_iff : a.compatible b ↔ a.Alike b ∨ a.isZero ∨ b.isZero := by
  unfold compatible Alike
  rcases a.commodity with _ | c <;> rcases b.commodity with _ | d <;>
    simp [Commodity.same_iff, or_assoc]

theorem compatible_symm (h : a.compatible b) : b.compatible a := by
  rw [compatible_iff] at h ⊢
  rcases h with h | h | h
  · exact .inl h.symm
  · exact .inr (.inr h)
  · exact .inr (.inl h)

/-- Amounts that can be compared compare as their numbers. -/
theorem compare?_eq_some_iff : a.compare? b = some o ↔
    a.compatible b ∧ o = Ord.compare a.quantity.toRat b.quantity.toRat := by
  unfold compare? compare
  rw [Decimal.compare_eq]
  by_cases h : a.compatible b
  · rw [if_pos h]
    simp [Except.toOption, h, eq_comm]
  · rw [if_neg h]
    simp [Except.toOption, h]

theorem compare?_eq_none_iff : a.compare? b = none ↔ ¬a.compatible b := by
  rw [Option.eq_none_iff_forall_ne_some]
  constructor
  · intro h hcompatible
    exact h _ (compare?_eq_some_iff.2 ⟨hcompatible, rfl⟩)
  · intro h o ho
    exact h (compare?_eq_some_iff.1 ho).1

theorem compare?_eq_lt_iff :
    a.compare? b = some .lt ↔ a.compatible b ∧ a.quantity.toRat < b.quantity.toRat := by
  rw [compare?_eq_some_iff, @eq_comm Ordering, compare_lt_iff_lt]

/-- Turned round, the order is the other one. -/
theorem compare?_swap (a b : Amount) : b.compare? a = (a.compare? b).map Ordering.swap := by
  by_cases h : a.compatible b
  · rw [compare?_eq_some_iff.2 ⟨h, rfl⟩, Option.map_some]
    refine compare?_eq_some_iff.2 ⟨compatible_symm h, ?_⟩
    exact Std.OrientedCmp.eq_swap.symm
  · rw [compare?_eq_none_iff.2 h, Option.map_none]
    exact compare?_eq_none_iff.2 fun hba => h (compatible_symm hba)

/-- Amounts compare as equal if they are equal and can be compared. -/
theorem compare?_eq_eq_iff : a.compare? b = some .eq ↔ a.same b ∧ a.compatible b := by
  rw [compare?_eq_some_iff, @eq_comm Ordering, compare_eq_iff_eq, and_comm]
  refine and_congr_left fun hcompatible => ?_
  have hzero : a.quantity.toRat = b.quantity.toRat → (a.isZero ↔ b.isZero) := fun h => by
    rw [isZero_iff_toRat, isZero_iff_toRat, h]
  rw [same, Bool.or_eq_true, Bool.and_eq_true, Bool.and_eq_true, beq_iff_eq, Decimal.same_iff]
  constructor
  · intro h
    rcases compatible_iff.1 hcompatible with halike | hz | hz
    · exact .inr ⟨halike.symbol_eq, h⟩
    · exact .inl ⟨hz, (hzero h).1 hz⟩
    · exact .inl ⟨(hzero h).2 hz, hz⟩
  · rintro (⟨ha, hb⟩ | ⟨-, h⟩)
    · rw [isZero_iff_toRat.1 ha, isZero_iff_toRat.1 hb]
    · exact h

/-- Of equal amounts only a bare number and one of a commodity without a symbol do not compare. -/
theorem compatible_iff_of_same (h : a.same b) :
    a.compatible b ↔ a.commodity.isSome = b.commodity.isSome ∨ a.isZero := by
  rw [same, Bool.or_eq_true, Bool.and_eq_true, Bool.and_eq_true, beq_iff_eq, Decimal.same_iff] at h
  rw [compatible_iff, alike_iff]
  rcases h with ⟨ha, hb⟩ | ⟨hsymbol, hrat⟩
  · simp [ha]
  · have hzero : b.isZero ↔ a.isZero := by rw [isZero_iff_toRat, isZero_iff_toRat, hrat]
    simp [hsymbol, hzero]

/-- Where amounts rise in two steps, the first is less than the last, unless it is a zero that they
meet at and they are of different commodities. -/
theorem order_of_compatible (hab : a.compare? b = some .lt) (hbc : b.compare? c = some .lt) :
    a.compare? c = if b.isZero ∧ ¬a.Alike c then none else some .lt := by
  obtain ⟨hcab, hltab⟩ := compare?_eq_lt_iff.1 hab
  obtain ⟨hcbc, hltbc⟩ := compare?_eq_lt_iff.1 hbc
  have hlt := hltab.trans hltbc
  split_ifs with h
  · obtain ⟨hb, halike⟩ := h
    -- The first lies below zero and the last above it, so that neither compares with everything.
    rw [isZero_iff_toRat.1 hb] at hltab hltbc
    rw [compare?_eq_none_iff, compatible_iff, isZero_iff_toRat, isZero_iff_toRat]
    rintro (hac | hz | hz)
    · exact halike hac
    · exact hltab.ne hz
    · exact hltbc.ne' hz
  · refine compare?_eq_lt_iff.2 ⟨compatible_iff.2 ?_, hlt⟩
    by_cases hb : b.isZero
    · exact .inl (not_not.1 fun halike => h ⟨hb, halike⟩)
    · rcases compatible_iff.1 hcab with h₁ | h₁ | h₁
      · rcases compatible_iff.1 hcbc with h₂ | h₂ | h₂
        · exact .inl (h₁.trans h₂)
        · exact absurd h₂ hb
        · exact .inr (.inr h₂)
      · exact .inr (.inl h₁)
      · exact absurd h₁ hb

/-- Amounts compare as equal if they are equal, save a bare number and as much of a commodity
without a symbol, and commodities that are read have one.  They compare both ways round or not at
all.  Of amounts that rise in two steps the first is less than the last, save where they meet at a
zero and are of different commodities, which do not compare. -/
theorem ordering_coherent (a b c : Amount) :
    (a.compare? b = some .eq ↔
      a.same b ∧ (a.commodity.isSome = b.commodity.isSome ∨ a.isZero)) ∧
    (a.WellFormed → b.WellFormed → (a.compare? b = some .eq ↔ a.same b)) ∧
    b.compare? a = (a.compare? b).map Ordering.swap ∧
    (a.compare? b = some .lt → b.compare? c = some .lt →
      a.compare? c = if b.isZero ∧ ¬a.Alike c then none else some .lt) := by
  refine ⟨?_, fun ha hb => ?_, compare?_swap a b, order_of_compatible⟩
  · rw [compare?_eq_eq_iff]
    exact and_congr_right compatible_iff_of_same
  · rw [compare?_eq_eq_iff, and_iff_left_of_imp]
    intro h
    rw [same, Bool.or_eq_true, Bool.and_eq_true, Bool.and_eq_true, beq_iff_eq] at h
    rcases h with ⟨hz, -⟩ | ⟨hsymbol, -⟩
    · exact compatible_of_isZero (.inl hz)
    · exact compatible_of_symbol_eq ha hb hsymbol

/-- Eight dollars lost. -/
def loss : Amount := ⟨.whole true 8 (by decide), some { symbol := "$" }, false⟩

/-- Eight dollars gained. -/
def gain : Amount := loss.neg

/-- Eight euros gained. -/
def gainInEuros : Amount := { gain with commodity := some { symbol := "EUR" } }

/-- Over zero a loss is less than a gain of the same commodity. -/
theorem ordering_coherent_gain :
    loss.compare? zero = some .lt ∧ zero.compare? gain = some .lt ∧
      loss.compare? gain = some .lt := by
  have hloss : loss.compare? zero = some .lt := by decide
  have hgain : zero.compare? gain = some .lt := by decide
  obtain ⟨-, -, -, htrans⟩ := ordering_coherent loss zero gain
  exact ⟨hloss, hgain, (htrans hloss hgain).trans (if_neg (by decide))⟩

/-- A loss in dollars is less than zero and zero less than a gain in euros, but the two do not
compare; and five of a commodity without a symbol equal the number five, but do not compare with
it. -/
theorem zero_between_commodities :
    (loss.compare? zero = some .lt ∧ zero.compare? gainInEuros = some .lt ∧
      loss.compare? gainInEuros = none) ∧
    ∃ five unnamed : Amount, five.same unnamed ∧ five.compare? unnamed = none := by
  refine ⟨by decide, { quantity := .whole false 5 (by decide) },
    { quantity := .whole false 5 (by decide), commodity := some { symbol := "" } }, ?_⟩
  decide

end Amount

end Bookkeeping
