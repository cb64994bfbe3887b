import Bookkeeping.Proofs.Balance.Representation
import Bookkeeping.Proofs.Decimal.Rounding
import Bookkeeping.Proofs.Value.Holding

/-!
# Taking away what was added

A balance holds the rounded sum once an amount is added (`Balance.holding_addAmount`), so taking the
amount away again brings back what was held if the sum was exact, and else only if the two roundings
make up for one another (`Balance.same_of_undone_iff`).  A zero that was held under the symbol is
gone in any case.
-/

namespace Bookkeeping

open Decimal

/-! ## Amounts -/

namespace Amount

variable {x y s : Amount}

theorem toRat_neg (a : Amount) : a.neg.quantity.toRat = -a.quantity.toRat := by
  unfold neg
  split
  · rename_i hz
    rw [isZero_iff_toRat.1 hz, neg_zero]
  · exact Decimal.toRat_neg a.quantity

theorem toRat_of_add (h : x.add y = .ok s) :
    Fits (x.quantity.toRat + y.quantity.toRat) 0 ∧
      s.quantity.toRat = rounded (x.quantity.toRat + y.quantity.toRat) := by
  unfold add at h
  split at h
  · split at h
    · rename_i q hq
      cases h
      exact toRat_of_add? hq
    · cases h
  · cases h

/-- A sum is exact just if there is a decimal of the exact sum. -/
theorem exact_add_iff (h : x.add y = .ok s) :
    s.quantity.toRat = x.quantity.toRat + y.quantity.toRat ↔
      ∃ e : Decimal, e.toRat = x.quantity.toRat + y.quantity.toRat := by
  obtain ⟨hfits, hs⟩ := toRat_of_add h
  rw [hs, rounded_eq_self_iff hfits]

/-- Compatible amounts overflow if their sum does not fit. -/
theorem add_eq_overflow_iff (h : x.compatible y) :
    x.add y = .error .overflow ↔ ¬Fits (x.quantity.toRat + y.quantity.toRat) 0 := by
  rw [← add?_eq_none_iff, add, if_pos h]
  cases x.quantity.add? y.quantity <;> simp

end Amount

/-! ## Balances -/

namespace Balance

variable {a x : Amount} {b c d : Balance} {k : String}

theorem rounded_holding (b : Balance) (k : String) : rounded (b.holding k) = b.holding k := by
  unfold holding
  split
  · exact rounded_toRat _
  · have hzero := rounded_toRat zero
    rwa [isZero_iff_toRat.1 rfl] at hzero

/-- The rounded sum is stored under the symbol. -/
theorem exists_rounded_of_addAmount (h : b.addAmount a = .ok c) :
    ∃ s, c = b.store a.symbol s ∧
      s.quantity.toRat = rounded (b.holding a.symbol + a.quantity.toRat) := by
  unfold addAmount at h
  split at h
  · rename_i hnone
    cases h
    refine ⟨a, rfl, ?_⟩
    rw [holding_of_amount?_none hnone, zero_add, rounded_toRat]
  · rename_i held hheld
    split at h
    · rename_i s hs
      cases h
      refine ⟨s, rfl, ?_⟩
      rw [holding_of_amount?_some hheld, (Amount.toRat_of_add hs).2]
    · cases h

theorem holding_addAmount (h : b.addAmount a = .ok c) :
    c.holding a.symbol = rounded (b.holding a.symbol + a.quantity.toRat) := by
  obtain ⟨s, rfl, hs⟩ := exists_rounded_of_addAmount h
  rw [holding_store, if_pos rfl, hs]

/-- No zero is left under a symbol to which an amount was added. -/
theorem nonzero_of_addAmount (h : b.addAmount a = .ok c) (hx : c.amount? a.symbol = some x) :
    x.isZero = false := by
  obtain ⟨s, rfl, -⟩ := exists_rounded_of_addAmount h
  rw [amount?_store, if_pos rfl] at hx
  split at hx
  · cases hx
  · rename_i hz
    cases hx
    exact Bool.eq_false_iff.2 hz

/-- What counts of an amount other than zero is how much of the commodity is held. -/
theorem essence_amount?_eq_iff (hb : b.BySymbol) (hc : c.BySymbol)
    (hnonzero : ∀ x, c.amount? k = some x → x.isZero = false) :
    (c.amount? k).map Amount.essence = (b.amount? k).map Amount.essence ↔
      (∀ x, b.amount? k = some x → x.isZero = false) ∧ c.holding k = b.holding k := by
  have hne {x : Amount} (hx : x.isZero = false) : x.quantity.toRat ≠ 0 := by
    rw [ne_eq, ← Amount.isZero_iff_toRat, hx]
    exact Bool.false_ne_true
  cases hck : c.amount? k with
  | none =>
    rw [holding_of_amount?_none hck]
    cases hbk : b.amount? k with
    | none => simp [holding_of_amount?_none hbk]
    | some x =>
      rw [holding_of_amount?_some hbk]
      refine iff_of_false (by simp) ?_
      rintro ⟨hx, hrat⟩
      exact hne (hx x rfl) hrat.symm
  | some y =>
    have hy := hnonzero y hck
    rw [holding_of_amount?_some hck, Option.map_some, Amount.essence, if_neg (by simp [hy]),
      hc k y hck]
    cases hbk : b.amount? k with
    | none =>
      rw [holding_of_amount?_none hbk]
      refine iff_of_false (by simp) ?_
      rintro ⟨-, hrat⟩
      exact hne hy hrat
    | some x =>
      rw [holding_of_amount?_some hbk, Option.map_some, Amount.essence, hb k x hbk]
      by_cases hx : x.isZero
      · simp [hx]
      · simp [hx]

theorem same_iff_amount? :
    b.same c ↔ ∀ k, (b.amount? k).map Amount.essence = (c.amount? k).map Amount.essence :=
  ⟨amount?_essence_of_same, same_of_amount?⟩

/-- Taking an amount away again leaves what was held just if this is no zero and the two roundings
bring it back. -/
theorem same_of_undone_iff (hb : b.BySymbol) (hadd : b.addAmount a = .ok c)
    (hsub : c.subAmount a = .ok d) :
    d.same b ↔ (∀ x, b.amount? a.symbol = some x → x.isZero = false) ∧
      rounded (rounded (b.holding a.symbol + a.quantity.toRat) - a.quantity.toRat) =
        b.holding a.symbol := by
  unfold subAmount at hsub
  have hsymbol := Amount.symbol_neg a
  have hd : d.holding a.symbol =
      rounded (rounded (b.holding a.symbol + a.quantity.toRat) - a.quantity.toRat) := by
    have hrounded := holding_addAmount hsub
    rwa [hsymbol, Amount.toRat_neg, ← sub_eq_add_neg, holding_addAmount hadd] at hrounded
  have hnonzero (x : Amount) (hx : d.amount? a.symbol = some x) : x.isZero = false :=
    nonzero_of_addAmount hsub (hsymbol.symm ▸ hx)
  rw [← hd, ← essence_amount?_eq_iff hb ((hb.addAmount hadd).addAmount hsub) hnonzero,
    same_iff_amount?]
  constructor
  · intro h
    exact h a.symbol
  · intro h k
    by_cases hk : k = a.symbol
    · rw [hk, h]
    · rw [amount?_addAmount_of_ne hsub (hsymbol.symm ▸ hk), amount?_addAmount_of_ne hadd hk]

/-- What is held with an exact sum comes back. -/
theorem same_of_exact (hb : b.BySymbol) (hadd : b.addAmount a = .ok c)
    (hsub : c.subAmount a = .ok d)
    (hexact : ∃ e : Decimal, e.toRat = b.holding a.symbol + a.quantity.toRat)
    (hnonzero : ∀ x, b.amount? a.symbol = some x → x.isZero = false) : d.same b := by
  rw [same_of_undone_iff hb hadd hsub]
  obtain ⟨e, he⟩ := hexact
  refine ⟨hnonzero, ?_⟩
  rw [← he, rounded_toRat, he, add_sub_cancel_right, rounded_holding]

/-- The sum of compatible amounts is the exact one rounded to as many places as fit, and overflows
only if that is more than the largest number.  A balance is what it was once an amount is added and
taken away again, as long as no zero was held and the sum was exact, or the roundings make up for
one another. -/
theorem sums_undone_iff (x y : Amount) (b : Balance) (a : Amount) :
    (x.compatible y →
      (x.add y = .error .overflow ↔
        (limit : ℚ) - 1 / 2 ≤ |x.quantity.toRat + y.quantity.toRat|) ∧
      ∀ s, x.add y = .ok s →
        s.quantity.toRat = rounded (x.quantity.toRat + y.quantity.toRat) ∧
          |s.quantity.toRat - (x.quantity.toRat + y.quantity.toRat)| ≤
            1 / (2 * tens (mostPlaces (x.quantity.toRat + y.quantity.toRat))) ∧
          (s.quantity.toRat = x.quantity.toRat + y.quantity.toRat ↔
            ∃ e : Decimal, e.toRat = x.quantity.toRat + y.quantity.toRat)) ∧
    (Arises (fun _ _ => True) b → ∀ c d, b.addAmount a = .ok c → c.subAmount a = .ok d →
      (d.same b ↔ (∀ x, b.amount? a.symbol = some x → x.isZero = false) ∧
        rounded (rounded (b.holding a.symbol + a.quantity.toRat) - a.quantity.toRat) =
          b.holding a.symbol) ∧
      ((∃ e : Decimal, e.toRat = b.holding a.symbol + a.quantity.toRat) →
        (∀ x, b.amount? a.symbol = some x → x.isZero = false) → d.same b)) := by
  refine ⟨fun hxy => ⟨?_, fun s hs => ?_⟩, fun hb c d hadd hsub =>
    ⟨same_of_undone_iff hb.bySymbol hadd hsub, same_of_exact hb.bySymbol hadd hsub⟩⟩
  · rw [Amount.add_eq_overflow_iff hxy, fits_zero_iff, not_lt]
  · obtain ⟨-, hrounded⟩ := Amount.toRat_of_add hs
    have hloss := abs_rounded_sub_le (x.quantity.toRat + y.quantity.toRat)
    rw [← hrounded] at hloss
    exact ⟨hrounded, hloss, Amount.exact_add_iff hs⟩

/-- A dollar is left when one is added to it and taken away again. -/
theorem sums_undone_dollar :
    Arises (fun _ _ => True) (ofAmount dollar) ∧ dollar.compatible dollar ∧
      (∃ s, dollar.add dollar = .ok s ∧ s.quantity.toRat = 1 + 1) ∧
      ∃ c d, (ofAmount dollar).addAmount dollar = .ok c ∧ c.subAmount dollar = .ok d ∧
        d.same (ofAmount dollar) := by
  have hdollar : Arises (fun _ _ => True) (ofAmount dollar) := .ofAmount dollar
  have hcompatible : dollar.compatible dollar := by decide
  have hheld : (ofAmount dollar).holding dollar.symbol = 1 := by
    rw [holding_ofAmount, Amount.holding, if_pos rfl, toRat_dollar]
  have hadd : (ofAmount dollar).addAmount dollar =
      .ok ((Attempt.update (·.addAmount dollar)).exec (ofAmount dollar)).2 := rfl
  have hsub : subAmount ((Attempt.update (·.addAmount dollar)).exec (ofAmount dollar)).2 dollar =
      .ok (ofAmount dollar) := rfl
  have htwo : ∃ e : Decimal, e.toRat = 1 + 1 := by
    refine ⟨.whole false 2 (by decide), ?_⟩
    norm_num [Decimal.toRat_whole]
  obtain ⟨hsum, hundone⟩ := sums_undone_iff dollar dollar (ofAmount dollar) dollar
  obtain ⟨s, hs⟩ : ∃ s, dollar.add dollar = .ok s := ⟨_, rfl⟩
  obtain ⟨-, -, hexact⟩ := (hsum hcompatible).2 s hs
  obtain ⟨-, hback⟩ := hundone hdollar _ _ hadd hsub
  rw [toRat_dollar] at hexact hback
  rw [hheld] at hback
  refine ⟨hdollar, hcompatible, ⟨s, hs, hexact.2 htwo⟩, _, _, hadd, hsub, hback htwo ?_⟩
  intro x hx
  rw [eq_of_amount?_ofAmount hx]
  rfl

/-- A third of one, to all the places there are. -/
def third : Amount :=
  { quantity :=
      ⟨false, 3333333333333333333333333333, 28, by decide, leastDollar.quantity.places_le⟩ }

/-- Ten and a third, to all the places that fit. -/
def tenAndThird : Amount :=
  { quantity := ⟨false, 10333333333333333333333333333, 27, by decide, by decide⟩ }

/-- The sum of ten and a third is no decimal; it has lost a place, which does not come back. -/
theorem third_loses_place :
    Arises (fun _ _ => True) (ofAmount third) ∧ third.compatible ten ∧
      third.add ten = .ok tenAndThird ∧
      tenAndThird.quantity.toRat ≠ third.quantity.toRat + ten.quantity.toRat ∧
      (¬∃ e : Decimal, e.toRat = third.quantity.toRat + ten.quantity.toRat) ∧
      ∃ c d, (ofAmount third).addAmount ten = .ok c ∧ c.subAmount ten = .ok d ∧
        ¬d.same (ofAmount third) := by
  have hadd : third.add ten = .ok tenAndThird := rfl
  have hinexact : tenAndThird.quantity.toRat ≠ third.quantity.toRat + ten.quantity.toRat := by
    rw [toRat_ten]
    norm_num [third, tenAndThird, Decimal.toRat, Decimal.coefficient, Decimal.tens]
  exact ⟨.ofAmount third, by decide, hadd, hinexact,
    mt (Amount.exact_add_iff hadd).2 hinexact, _, _, rfl, rfl, by decide⟩

end Balance

end Bookkeeping
