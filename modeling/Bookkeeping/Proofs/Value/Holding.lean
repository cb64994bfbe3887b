import Bookkeeping.Proofs.Balance.Representation
import Bookkeeping.Proofs.Value.Total

/-!
# What values hold

A value holds of a commodity what the balance holds as which it can be viewed (`Value.holding`), and
`Value.total` is what a list of values holds together.  A balance by symbols holds what its amounts
hold together (`Balance.total_amounts`).  Taking the negative turns what is held round
(`Value.IsSumOf.neg`), and equal values hold the same (`Value.IsSumOf.holding_eq_of_same`).
-/

namespace Bookkeeping

namespace Amount

theorem holding_neg (a : Amount) (k : String) : a.neg.holding k = -a.holding k := by
  rw [holding, holding, symbol_neg]
  by_cases hk : k = a.symbol
  · rw [if_pos hk, if_pos hk, neg]
    by_cases hz : a.isZero
    · rw [if_pos hz, isZero_iff_toRat.1 hz, neg_zero]
    · rw [if_neg hz, Decimal.toRat_neg]
  · rw [if_neg hk, if_neg hk, neg_zero]

theorem total_flatMap {α : Type} (f : α → List Amount) (xs : List α) (k : String) :
    total (xs.flatMap f) k = (xs.map fun x => total (f x) k).sum := by
  rw [total, List.map_flatMap, List.flatMap, List.sum_flatten, List.map_map]
  rfl

end Amount

namespace Balance

variable {b : Balance}

theorem Keyed.bySymbol {P : Amount → Prop} (hb : b.Keyed P) : b.BySymbol :=
  fun k a h => (hb k a h).1

theorem holding_neg (b : Balance) (k : String) : b.neg.holding k = -b.holding k := by
  rw [holding, holding, amount?, amount?, neg, Index.get?_mapValues]
  cases b.held.get? k with
  | none => exact neg_zero.symm
  | some a =>
    have h := Amount.holding_neg a a.symbol
    rwa [Amount.holding, Amount.holding, Amount.symbol_neg, if_pos rfl, if_pos rfl] at h

theorem total_entries {l : List (String × Amount)}
    (hinc : (l.map Prod.fst).Pairwise (compare · · = .lt))
    (hl : ∀ k a, Index.find? k l = some a → a.symbol = k) (k : String) :
    Amount.total (l.map Prod.snd) k = ((Index.find? k l).map (·.quantity.toRat)).getD 0 := by
  induction l with
  | nil => rfl
  | cons e l ih =>
    obtain ⟨key, a⟩ := e
    have hsym : a.symbol = key := hl key a (Index.find?_cons_self key a l)
    have hnone := Index.find?_head_tail hinc
    have hrest := ih (List.pairwise_cons.1 hinc).2 fun k x hx => by
      refine hl k x ((Index.find?_cons_of_ne a l ?_).trans hx)
      rintro rfl
      cases hnone.symm.trans hx
    rw [List.map_cons, Amount.total_cons, hrest, Amount.holding, hsym, Index.find?]
    by_cases hk : k = key
    · rw [if_pos hk, if_pos (by simp [hk]), hk, hnone]
      exact add_zero _
    · rw [if_neg hk, if_neg (by simpa using hk), zero_add]

/-- A balance holds what its amounts hold together. -/
theorem total_amounts (hb : b.BySymbol) (k : String) : Amount.total b.amounts k = b.holding k := by
  rw [amounts, Index.values, total_entries b.held.increasing hb, holding, amount?, Index.get?]
  cases Index.find? k b.held.entries <;> rfl

end Balance

namespace Value

/-- What the value holds of the commodity with this symbol. -/
def holding (v : Value) (symbol : String) : ℚ :=
  match v.toBalance? with
  | some b => b.holding symbol
  | none => 0

/-- What the values hold together of the commodity with this symbol. -/
def total (vs : List Value) (symbol : String) : ℚ := (vs.map (·.holding symbol)).sum

variable {u v : Value} {as bs : List Amount} {k : String}

theorem holding_amount (a : Amount) (k : String) : (amount a).holding k = a.holding k :=
  Balance.holding_ofAmount a k

theorem total_append (us vs : List Value) (k : String) :
    total (us ++ vs) k = total us k + total vs k := by
  rw [total, List.map_append, List.sum_append]
  rfl

theorem total_singleton (v : Value) (k : String) : total [v] k = v.holding k := List.sum_singleton

theorem total_flatMap {α : Type} (f : α → List Value) (xs : List α) (k : String) :
    total (xs.flatMap f) k = (xs.map fun x => total (f x) k).sum := by
  rw [total, List.map_flatMap, List.flatMap, List.sum_flatten, List.map_map]
  rfl

theorem total_map_amount (as : List Amount) (k : String) :
    total (as.map .amount) k = Amount.total as k := by
  rw [total, List.map_map, Amount.total]
  exact congrArg List.sum (List.map_congr_left fun a _ => holding_amount a k)

theorem IsSumOf.holding (h : u.IsSumOf as) (k : String) : u.holding k = Amount.total as k := by
  obtain ⟨b, hb, -, hhold⟩ := h.view
  rw [Value.holding, hb]
  exact hhold k

/-- Equal values hold the same. -/
theorem IsSumOf.holding_eq_of_same (hu : u.IsSumOf as) (hv : v.IsSumOf bs) (h : u.same v)
    (k : String) : u.holding k = v.holding k := by
  obtain ⟨b, hb, hkeyed, -⟩ := hu.view
  obtain ⟨c, hc, hkeyed', -⟩ := hv.view
  rw [same_iff, essence_eq_sum_iff hb, essence_eq_sum_iff hc, Essence.sum.injEq,
    ← Balance.same_iff] at h
  rw [Value.holding, Value.holding, hb, hc]
  exact (Balance.same_iff_holding hkeyed hkeyed').1 h k

end Value

end Bookkeeping
