import Bookkeeping.Proofs.Balance.Sum
import Bookkeeping.Proofs.Decimal.Vanishing

/-!
# Negated balances

Negation leaves nothing behind that addition could tell: from negated balances, adding negated
amounts comes to the negated result, or fails just as it did (`Attempt.Mirrors`).  No exactness is
asked for, since decimals round alike on both sides of zero (`Decimal.add?_negate`).
-/

namespace Bookkeeping

/-! ## Steps and their images -/

namespace Attempt

variable {σ ε α β : Type} {f : σ → σ} {x y : Attempt σ ε α} {k l : α → Attempt σ ε β}

/-- The step `y` does to the image of a state what `x` does to the state. -/
def Mirrors (f : σ → σ) (x y : Attempt σ ε α) : Prop :=
  ∀ s, y.exec (f s) = ((x.exec s).1, f (x.exec s).2)

theorem Mirrors.bind (h : Mirrors f x y) (hk : ∀ a, Mirrors f (k a) (l a)) :
    Mirrors f (x >>= k) (y >>= l) := by
  intro s
  rw [exec_bind, exec_bind, h s]
  rcases x.exec s with ⟨_ | a, t⟩
  · rfl
  · exact hk a t

theorem mirrors_pure (a : α) : Mirrors f (pure a : Attempt σ ε α) (pure a) := fun _ => rfl

theorem mirrors_ofExcept (r : Except ε α) : Mirrors f (ofExcept r) (ofExcept r) := fun _ => rfl

theorem mirrors_modify {g h : σ → σ} (hgh : ∀ s, h (f s) = f (g s)) :
    Mirrors f (modify g : Attempt σ ε PUnit) (modify h) := fun s => by
  rw [exec_modify, exec_modify, hgh]

theorem mirrors_update {g h : σ → Except ε σ} (hgh : ∀ s, h (f s) = (g s).map f) :
    Mirrors f (update g) (update h) := fun s => by
  rw [exec_update, exec_update, hgh]
  cases g s <;> rfl

theorem mirrors_forM {γ : Type} {g : γ → γ} {step : γ → Attempt σ ε Unit}
    (hstep : ∀ c, Mirrors f (step c) (step (g c))) (cs : List γ) :
    Mirrors f (cs.forM step) ((cs.map g).forM step) := by
  induction cs with
  | nil => exact mirrors_pure ()
  | cons c cs ih => exact (hstep c).bind fun _ => ih

end Attempt

open Attempt

/-! ## Numbers -/

namespace Decimal

/-- The number with the other sign; zero stays as it is. -/
def negate (d : Decimal) : Decimal := if d.isZero then d else d.neg

theorem negate_of_isZero {d : Decimal} (h : d.isZero) : d.negate = d := if_pos h

theorem negate_of_not_isZero {d : Decimal} (h : ¬d.isZero) : d.negate = d.neg := if_neg h

theorem fit?_not (s : Bool) (m p : Nat) : fit? (!s) m p = (fit? s m p).map neg := by
  rw [fit?, fit?]
  split <;> rfl

theorem shrink?_not (s : Bool) (m p : Nat) : shrink? (!s) m p = (shrink? s m p).map neg := by
  rw [shrink?, shrink?, List.map_findSome?]
  simp only [fit?_not, Function.comp_def]

/-- Only zero becomes zero as it is made to fit. -/
theorem eq_zero_of_shrink? {s : Bool} {m p : Nat} {z : Decimal} (h : shrink? s m p = some z)
    (hz : z.isZero) (hp : p ≤ 28) : m = 0 := by
  have hle := two_mul_le_of_shrink? h hz
  rw [Nat.sub_eq_zero_of_le hp, show tens 0 = 1 from rfl] at hle
  omega

/-- What is made to fit loses as much on either side of zero. -/
theorem shrink?_negate (n : Int) {p : Nat} (hp : p ≤ 28) :
    shrink? (-n < 0) (-n).natAbs p = (shrink? (n < 0) n.natAbs p).map negate := by
  by_cases hn : n = 0
  · rw [hn, Int.neg_zero, shrink?_of_lt (by decide) hp]
    rfl
  · have hsign : decide (-n < 0) = !decide (n < 0) := by
      rw [← decide_not, decide_eq_decide]
      omega
    rw [hsign, Int.natAbs_neg, shrink?_not]
    cases hz : shrink? (n < 0) n.natAbs p with
    | none => rfl
    | some z =>
      have hne : ¬z.isZero := fun h => hn (Int.natAbs_eq_zero.1 (eq_zero_of_shrink? hz h hp))
      rw [Option.map_some, Option.map_some, negate_of_not_isZero hne]

/-- Sums round alike on both sides of zero. -/
theorem add?_negate (a b : Decimal) : a.negate.add? b.negate = (a.add? b).map negate := by
  by_cases ha : a.isZero
  · rw [negate_of_isZero ha, add?, add?, if_pos ha, if_pos ha]
    rfl
  by_cases hb : b.isZero
  · have ha' : ¬a.neg.isZero := ha
    rw [negate_of_not_isZero ha, negate_of_isZero hb, add?, add?, if_neg ha, if_neg ha', if_pos hb,
      if_pos hb, Option.map_some, negate_of_not_isZero ha]
  · have ha' : ¬a.neg.isZero := ha
    have hb' : ¬b.neg.isZero := hb
    rw [negate_of_not_isZero ha, negate_of_not_isZero hb, add?, add?, if_neg ha, if_neg ha',
      if_neg hb, if_neg hb', ← shrink?_negate _ (Nat.max_le.2 ⟨a.places_le, b.places_le⟩)]
    simp only [coefficient_neg, Int.neg_add, Int.neg_mul]
    rfl

end Decimal

/-! ## Amounts -/

namespace Amount

theorem neg_eq (a : Amount) : a.neg = { a with quantity := a.quantity.negate } := by
  by_cases h : a.isZero
  · rw [neg, if_pos h, Decimal.negate_of_isZero h]
  · rw [neg, if_neg h, Decimal.negate_of_not_isZero h]

theorem commodity_neg (a : Amount) : a.neg.commodity = a.commodity := by
  rw [neg_eq]

theorem compatible_neg (a b : Amount) : a.neg.compatible b.neg = a.compatible b := by
  rw [compatible, compatible, commodity_neg, commodity_neg, isZero_neg, isZero_neg]

theorem mixes_neg_right (a b : Amount) : a.Mixes b.neg ↔ a.Mixes b := by
  rw [Mixes, Mixes, symbol_neg, commodity_neg, isZero_neg]

theorem sumCommodity_neg (a b : Amount) : a.neg.sumCommodity b.neg = a.sumCommodity b := by
  rw [sumCommodity, sumCommodity, commodity_neg, commodity_neg, isZero_neg]

/-- The sum of the negatives is the negative of the sum. -/
theorem neg_add_neg (a b : Amount) : a.neg.add b.neg = (a.add b).map neg := by
  rw [add, add, compatible_neg, sumCommodity_neg, mismatch, symbol_neg, symbol_neg,
    show a.neg.quantity = a.quantity.negate by rw [neg_eq],
    show b.neg.quantity = b.quantity.negate by rw [neg_eq], Decimal.add?_negate]
  split
  · cases a.quantity.add? b.quantity with
    | none => rfl
    | some q => exact congrArg Except.ok (neg_eq { quantity := q, commodity := _ }).symm
  · rfl

end Amount

/-! ## Balances -/

namespace Balance

variable {a : Amount} {b c : Balance}

theorem ext_amount? (h : ∀ k, b.amount? k = c.amount? k) : b = c :=
  congrArg Balance.mk (Index.ext_get? h)

theorem amount?_neg (b : Balance) (k : String) : b.neg.amount? k = (b.amount? k).map Amount.neg :=
  Index.get?_mapValues _ _ _

theorem takes_neg : b.Takes a.neg ↔ b.Takes a := by
  simp only [Takes, Amount.symbol_neg, Amount.mixes_neg_right]

theorem Keyed.neg {P : Amount → Prop} (hP : Amount.OnCommodity P) (hb : b.Keyed P) :
    b.neg.Keyed P := by
  intro k x hx
  rw [amount?_neg, Option.map_eq_some_iff] at hx
  obtain ⟨a, ha, rfl⟩ := hx
  obtain ⟨hsym, hne, hkind⟩ := hb k a ha
  exact ⟨(Amount.symbol_neg a).trans hsym, (Amount.isZero_neg a).trans hne,
    hP hkind (Amount.commodity_neg a)⟩

theorem neg_store (b : Balance) (symbol : String) (a : Amount) :
    (b.store symbol a).neg = b.neg.store symbol a.neg := by
  refine ext_amount? fun k => ?_
  rw [amount?_neg, amount?_store, amount?_store, amount?_neg, Amount.isZero_neg]
  by_cases hk : k = symbol
  · rw [if_pos hk, if_pos hk]
    by_cases hz : a.isZero
    · rw [if_pos hz, if_pos hz]
      rfl
    · rw [if_neg hz, if_neg hz]
      rfl
  · rw [if_neg hk, if_neg hk]

theorem neg_addAmount_neg (b : Balance) (a : Amount) :
    b.neg.addAmount a.neg = (b.addAmount a).map neg := by
  rw [addAmount, addAmount, Amount.symbol_neg, amount?_neg]
  cases b.amount? a.symbol with
  | none => exact congrArg Except.ok (neg_store _ _ _).symm
  | some held =>
    rw [Option.map_some]
    simp only
    rw [Amount.neg_add_neg]
    cases held.add a with
    | ok sum => exact congrArg Except.ok (neg_store _ _ _).symm
    | error e => rfl

theorem amounts_neg (b : Balance) : b.neg.amounts = b.amounts.map Amount.neg := by
  rw [amounts, neg, Index.values, Index.mapValues, List.map_map, amounts, Index.values,
    List.map_map]
  rfl

/-- Amounts are added as their negatives are to negated balances. -/
theorem mirrors_addAmount (a : Amount) :
    Mirrors neg (.update (·.addAmount a)) (.update (·.addAmount a.neg)) :=
  mirrors_update fun b => neg_addAmount_neg b a

theorem mirrors_addBalance (c : Balance) : Mirrors neg (addBalance c) (addBalance c.neg) := by
  rw [addBalance, addBalance, amounts_neg]
  exact mirrors_forM mirrors_addAmount c.amounts

end Balance

/-! ## Pairs -/

namespace BalancePair

variable {x y : Attempt Balance BalanceError Unit}

theorem mirrors_onQuantity (h : Mirrors Balance.neg x y) :
    Mirrors neg (onQuantity x) (onQuantity y) := by
  intro p
  have hp : y.exec p.neg.quantity = _ := h p.quantity
  rw [onQuantity, onQuantity, exec_onPart, exec_onPart, hp]
  rfl

theorem mirrors_onCost (h : Mirrors Balance.neg x y) : Mirrors neg (onCost x) (onCost y) := by
  rintro ⟨quantity, _ | c⟩
  · rfl
  · show (onCost y).exec ⟨quantity.neg, some c.neg⟩ = _
    rw [exec_onCost_some, exec_onCost_some, h c]
    rfl

theorem mirrors_openCost : Mirrors neg openCost openCost := by
  refine mirrors_modify fun p => ?_
  obtain ⟨quantity, _ | c⟩ := p <;> rfl

/-- Amounts with their costs are added as their negatives are to negated pairs. -/
theorem mirrors_addAmount (a : Amount) (cost : Option Amount) :
    Mirrors neg (addAmount a cost) (addAmount a.neg (cost.map Amount.neg)) := by
  have hquantity := mirrors_onQuantity (Balance.mirrors_addAmount a)
  cases cost with
  | none => exact hquantity.bind fun _ => mirrors_onCost (Balance.mirrors_addAmount a)
  | some c =>
    exact mirrors_openCost.bind fun _ => hquantity.bind fun _ =>
      mirrors_onCost (Balance.mirrors_addAmount c)

/-- Lets the cost side be what a run on the quantity has left, unless it has failed. -/
def openWith (run : Except BalanceError Unit × Balance) :
    Attempt BalancePair BalanceError Unit := do
  Attempt.ofExcept run.1
  modify fun p => { p with cost := some run.2 }

theorem exec_addPair_openWith (quantity quantity' c' : Balance) :
    (addPair ⟨quantity', some c'⟩).exec ⟨quantity, none⟩ =
      (do openWith ((Balance.addBalance c').exec quantity)
          onQuantity (Balance.addBalance quantity') : Attempt BalancePair BalanceError Unit).exec
        ⟨quantity, none⟩ := by
  rw [openWith, bind_assoc]
  rfl

theorem mirrors_openWith (run : Except BalanceError Unit × Balance) :
    Mirrors neg (openWith run) (openWith (run.1, run.2.neg)) :=
  (mirrors_ofExcept run.1).bind fun _ => mirrors_modify fun _ => rfl

/-- Pairs are added as their negatives are to negated pairs. -/
theorem mirrors_addPair (q : BalancePair) : Mirrors neg (addPair q) (addPair q.neg) := by
  have hquantity := mirrors_onQuantity (Balance.mirrors_addBalance q.quantity)
  obtain ⟨quantity', cost'⟩ := q
  rintro ⟨quantity, _ | c⟩
  · cases cost' with
    | none => exact hquantity ⟨quantity, none⟩
    | some c' =>
      have hcost : (Balance.addBalance c'.neg).exec quantity.neg = _ :=
        Balance.mirrors_addBalance c' quantity
      have hopened : Mirrors neg (openWith ((Balance.addBalance c').exec quantity))
          (openWith ((Balance.addBalance c'.neg).exec quantity.neg)) := by
        rw [hcost]
        exact mirrors_openWith _
      show (addPair ⟨quantity'.neg, some c'.neg⟩).exec ⟨quantity.neg, none⟩ = _
      rw [exec_addPair_openWith, exec_addPair_openWith]
      exact (hopened.bind fun _ => hquantity) ⟨quantity, none⟩
  · have hcost : Mirrors neg (onCost (Balance.addBalance (cost'.getD quantity')))
        (onCost (Balance.addBalance ((cost'.map Balance.neg).getD quantity'.neg))) := by
      cases cost' with
      | none => exact mirrors_onCost (Balance.mirrors_addBalance quantity')
      | some c' => exact mirrors_onCost (Balance.mirrors_addBalance c')
    exact (hcost.bind fun _ => hquantity) ⟨quantity, some c⟩

end BalancePair

end Bookkeeping
