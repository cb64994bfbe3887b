import Bookkeeping.Proofs.Decimal.Rational
import Bookkeeping.Value.Order

/-!
# Equality of values

What two equal values have in common: `Amount.essence`, `Balance.essence` and `Value.essence` leave
out everything that equality does not look at, so that equality of values is equality of essences
(`Value.same_iff`) and an equivalence (`Value.same_refl`, `Value.same_symm`, `Value.same_trans`),
also between values of different kinds.
-/

namespace Bookkeeping

/-! ## Amounts -/

namespace Amount

/-- What counts of an amount: its symbol and its number, and of a zero nothing. -/
def essence (a : Amount) : Option (String × ℚ) :=
  if a.isZero then none else some (a.symbol, a.quantity.toRat)

theorem same_iff {a b : Amount} : a.same b ↔ a.essence = b.essence := by
  have hzero {a : Amount} : a.isZero ↔ a.quantity.toRat = 0 := Decimal.isZero_iff_toRat
  rw [same, Bool.or_eq_true, Bool.and_eq_true, Bool.and_eq_true, beq_iff_eq, Decimal.same_iff,
    essence, essence]
  by_cases ha : a.isZero <;> by_cases hb : b.isZero
  · simp [ha, hb]
  · have hne : a.quantity.toRat ≠ b.quantity.toRat := by
      rw [hzero.1 ha]
      exact fun h => hb (hzero.2 h.symm)
    simp [ha, hb, hne]
  · have hne : a.quantity.toRat ≠ b.quantity.toRat := by
      rw [hzero.1 hb]
      exact fun h => ha (hzero.2 h)
    simp [ha, hb, hne]
  · simp [ha, hb]

end Amount

/-! ## Balances -/

namespace Balance

/-- What counts of a balance: the symbols, and what counts of the amounts under them. -/
def essence (b : Balance) : Index String (Option (String × ℚ)) := b.held.mapValues Amount.essence

theorem entries_same_iff {l m : List (String × Amount)} :
    (l.map Prod.fst == m.map Prod.fst) &&
        ((l.map Prod.snd).zip (m.map Prod.snd)).all (fun (x, y) => x.same y) ↔
      l.map (fun e => (e.1, e.2.essence)) = m.map (fun e => (e.1, e.2.essence)) := by
  induction l generalizing m with
  | nil => cases m <;> simp
  | cons e l ih =>
    cases m with
    | nil => simp
    | cons f m =>
      have ih := ih (m := m)
      simp only [List.map_cons, List.zip_cons_cons, List.all_cons, List.cons.injEq, Prod.mk.injEq,
        Bool.and_eq_true, beq_iff_eq, Amount.same_iff] at ih ⊢
      rw [← ih]
      constructor
      · rintro ⟨⟨h₁, h₂⟩, h₃, h₄⟩
        exact ⟨⟨h₁, h₃⟩, h₂, h₄⟩
      · rintro ⟨⟨h₁, h₃⟩, h₂, h₄⟩
        exact ⟨⟨h₁, h₂⟩, h₃, h₄⟩

theorem same_iff {a b : Balance} : a.same b ↔ a.essence = b.essence := by
  have h := entries_same_iff (l := a.held.entries) (m := b.held.entries)
  rw [essence, essence, Index.mapValues, Index.mapValues, Index.mk.injEq, ← h]
  rfl

theorem amount?_store (b : Balance) (symbol : String) (a : Amount) (k : String) :
    (b.store symbol a).amount? k =
      if k = symbol then (if a.isZero then none else some a) else b.amount? k := by
  rw [amount?, store]
  split
  · exact Index.get?_erase _ _ _
  · exact Index.get?_insert _ _ _ _

theorem amount?_ofAmount (a : Amount) (k : String) :
    (ofAmount a).amount? k =
      if k = a.symbol then (if a.isZero then none else some a) else none :=
  amount?_store .empty a.symbol a k

/-- Balances are equal if they hold equal amounts under every symbol. -/
theorem same_of_amount? {a b : Balance}
    (h : ∀ k, (a.amount? k).map Amount.essence = (b.amount? k).map Amount.essence) :
    a.same b := by
  rw [same_iff]
  refine Index.ext_get? fun k => ?_
  rw [essence, essence, Index.get?_mapValues, Index.get?_mapValues]
  exact h k

end Balance

/-! ## Values -/

namespace Whole

theorem coefficient_toDecimal (n : Whole) : n.toDecimal.coefficient = n.val := by
  simp only [toDecimal, Decimal.whole, Decimal.coefficient, decide_eq_true_eq]
  split <;> omega

theorem toRat_toDecimal (n : Whole) : n.toDecimal.toRat = n.val := by
  rw [Decimal.toRat, coefficient_toDecimal]
  simp [toDecimal, Decimal.whole, Decimal.tens]

end Whole

namespace Value

/-- What counts of a value. -/
inductive Essence where
  | truth (b : Bool)
  | time (t : DateTime)
  | sum (m : Index String (Option (String × ℚ)))

/-- What counts of the value. -/
def essence : Value → Essence
  | boolean b => .truth b
  | dateTime t => .time t
  | null => .sum Balance.empty.essence
  | integer n => .sum (Balance.ofAmount n.toAmount).essence
  | amount a => .sum (Balance.ofAmount a).essence
  | balance b => .sum b.essence
  | pair p => .sum p.quantity.essence

theorem essence_eq_sum_iff {v : Value} {b : Balance} (h : v.toBalance? = some b) :
    v.essence = .sum b.essence := by
  cases v <;> cases h <;> rfl

/-- Whole numbers are equal if they are as balances. -/
theorem essence_integer {m n : Whole} :
    (integer m).essence = (integer n).essence ↔ m = n := by
  refine ⟨fun h => ?_, fun h => by rw [h]⟩
  have hget := congrArg (Index.get? · "") (Essence.sum.inj h)
  simp only [Balance.essence, Index.get?_mapValues] at hget
  have hessence (n : Whole) : ((Balance.ofAmount n.toAmount).held.get? "").map Amount.essence =
      if n.val = 0 then none else some (some ("", (n.val : ℚ))) := by
    have hzero : n.toAmount.isZero ↔ n.val = 0 := by
      rw [Amount.isZero, Decimal.isZero_iff_toRat]
      show n.toDecimal.toRat = 0 ↔ _
      rw [Whole.toRat_toDecimal]
      exact_mod_cast Iff.rfl
    have hget := Balance.amount?_ofAmount n.toAmount ""
    rw [Balance.amount?, if_pos (show "" = n.toAmount.symbol from rfl)] at hget
    rw [hget]
    by_cases h : n.val = 0
    · rw [if_pos (hzero.2 h), if_pos h]
      rfl
    · have hne : ¬n.toAmount.isZero := fun hz => h (hzero.1 hz)
      rw [if_neg hne, if_neg h, Option.map_some, Amount.essence, if_neg hne]
      show some (some ("", n.toDecimal.toRat)) = _
      rw [Whole.toRat_toDecimal]
  rw [hessence m, hessence n] at hget
  have hval : m.val = n.val := by
    by_cases hm : m.val = 0 <;> by_cases hn : n.val = 0 <;> simp_all
  cases m
  cases n
  cases hval
  rfl

/-- Values are equal if what counts of them is. -/
theorem same_iff {u v : Value} : u.same v ↔ u.essence = v.essence := by
  have hsum {u v : Value} {b c : Balance} (hu : u.toBalance? = some b)
      (hv : v.toBalance? = some c) : b.same c ↔ u.essence = v.essence := by
    rw [essence_eq_sum_iff hu, essence_eq_sum_iff hv, Essence.sum.injEq, Balance.same_iff]
  cases u <;> cases v
  case boolean.boolean a b => simp [same, essence]
  case dateTime.dateTime s t => simp [same, essence]
  case integer.integer m n => rw [essence_integer, same, beq_iff_eq]
  all_goals first
    | exact hsum rfl rfl
    | simp [same, toBalance?, essence]

theorem same_refl (v : Value) : v.same v := same_iff.2 rfl

theorem same_symm {u v : Value} (h : u.same v) : v.same u := same_iff.2 (same_iff.1 h).symm

theorem same_trans {u v w : Value} (h₁ : u.same v) (h₂ : v.same w) : u.same w :=
  same_iff.2 ((same_iff.1 h₁).trans (same_iff.1 h₂))

end Value

end Bookkeeping
