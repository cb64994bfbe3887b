import Bookkeeping.Proofs.Balance.Sum
import Bookkeeping.Value.Arithmetic

/-!
# Sums of values

How the sum of two values agrees with the sum of the balances that they are viewed as.  While
nothing overflows or is rounded away (`Value.AddsExactly`), the sum is there, whichever of the ways
to add is taken, and it agrees (`Value.add_spec`) unless two amounts are added of which one, a zero,
gives its commodity to the other, a bare number (`Value.relabels`).  A zero has its commodity from
one of the operands (`Value.commodity_of_add`).
-/

namespace Bookkeeping

namespace Value

/-- Amounts and balances within the value are in order. -/
def WellFormed : Value → Prop
  | amount a => a.WellFormed
  | balance b => b.WellFormed
  | pair p => p.WellFormed
  | _ => True

/-- The cost side of the value, its view as a balance when it has none. -/
def costs? : Value → Option Balance
  | pair p => some p.costs
  | v => v.toBalance?

/-- No whole number overflows in the sum, and no decimal is rounded away, be it on the side of the
costs. -/
structure AddsExactly (u v : Value) : Prop where
  wholes : ∀ m n, u = integer m → v = integer n → (m.add? n).isSome
  views : ∀ b c, u.toBalance? = some b → v.toBalance? = some c → b.AddsExactly c
  costs : ∀ b c, u.costs? = some b → v.costs? = some c → b.AddsExactly c

/-- The sum is of two amounts, one of which takes the commodity of the other, a zero. -/
def relabels : Value → Value → Bool
  | amount a, amount b => a.relabels b
  | _, _ => false

/-- The value is in order and holds what two balances hold together. -/
def IsSum (w : Value) (b c : Balance) : Prop :=
  w.WellFormed ∧ ∃ d, w.toBalance? = some d ∧ ∀ k, d.holding k = b.holding k + c.holding k

variable {u v w : Value} {a : Amount} {b c d : Balance} {p : BalancePair} {P : Amount → Prop}

theorem WellFormed.view (hu : u.WellFormed) (hb : u.toBalance? = some b) : b.WellFormed := by
  cases u <;> cases hb
  case null => exact Balance.wellFormed_empty
  case integer n => exact Balance.wellFormed_ofAmount (Amount.wellFormed_of_commodity_none rfl)
  case amount a => exact Balance.wellFormed_ofAmount hu
  case balance => exact hu
  case pair => exact hu.1

theorem IsSum.symm (h : w.IsSum b c) : w.IsSum c b := by
  obtain ⟨hwf, d, hd, hhold⟩ := h
  exact ⟨hwf, d, hd, fun k => (hhold k).trans (add_comm _ _)⟩

/-! ## When a sum is exact -/

theorem addsExactly_amounts {a b : Amount} (h : a.quantity.AddsExactly b.quantity) :
    (amount a).AddsExactly (amount b) := by
  have hviews (c d : Balance) (hc : (amount a).toBalance? = some c)
      (hd : (amount b).toBalance? = some d) : c.AddsExactly d := by
    cases hc
    cases hd
    exact Balance.ofAmount_addsExactly h
  refine ⟨fun m n hm _ => ?_, hviews, hviews⟩
  cases hm

/-! ## The simplest value of a balance -/

/-- A balance comes to zero, to the only amount held, or to itself. -/
theorem ofBalance_cases (hb : b.Keyed P) :
    (ofBalance b = amount .zero ∧ ∀ k, b.holding k = 0) ∨
      (∃ a, ofBalance b = amount a ∧ P a ∧ a.isZero = false ∧ ∀ k, b.holding k = a.holding k) ∨
      ofBalance b = balance b := by
  obtain ⟨entries, increasing⟩ := b
  rcases entries with _ | ⟨⟨key, a⟩, _ | ⟨e, rest⟩⟩
  · exact .inl ⟨rfl, fun k => rfl⟩
  · have hget (k : String) : (⟨⟨[(key, a)], increasing⟩⟩ : Balance).amount? k =
        if k = key then some a else none := by
      simp [Balance.amount?, Index.get?, Index.find?]
    obtain ⟨hsym, hne, hkind⟩ := hb key a (by rw [hget, if_pos rfl])
    refine .inr (.inl ⟨a, rfl, hkind, hne, fun k => ?_⟩)
    rw [Amount.holding, Balance.holding, hget, hsym]
    by_cases hk : k = key
    · rw [if_pos hk, if_pos hk]
    · rw [if_neg hk, if_neg hk]
  · exact .inr (.inr rfl)

theorem ofBalance_spec (hb : b.WellFormed) :
    (ofBalance b).WellFormed ∧
      ∃ d, (ofBalance b).toBalance? = some d ∧ ∀ k, d.holding k = b.holding k := by
  rcases ofBalance_cases hb with ⟨h, hzero⟩ | ⟨a, h, hwf, -, hhold⟩ | h <;> rw [h]
  · refine ⟨Amount.wellFormed_of_commodity_none rfl, Balance.ofAmount .zero, rfl, fun k => ?_⟩
    have hz : Amount.zero.isZero := rfl
    rw [Balance.holding_ofAmount, Amount.holding_of_isZero hz, hzero]
  · exact ⟨hwf, .ofAmount a, rfl, fun k => (Balance.holding_ofAmount a k).trans (hhold k).symm⟩
  · exact ⟨hb, b, rfl, fun k => rfl⟩

/-- No commodity is left when nothing is. -/
theorem commodity_of_ofBalance (hd : d.WellFormed) (h : ofBalance d = amount a) (hz : a.isZero) :
    a.commodity = none := by
  rcases ofBalance_cases hd with ⟨h', -⟩ | ⟨x, h', -, hne, -⟩ | h'
  · cases h'.symm.trans h
    rfl
  · cases h'.symm.trans h
    rw [hz] at hne
    cases hne
  · cases h'.symm.trans h

theorem isSum_ofBalance (hd : d.WellFormed) (h : ∀ k, d.holding k = b.holding k + c.holding k) :
    (ofBalance d).IsSum b c := by
  obtain ⟨hwf, d', hd', hhold⟩ := ofBalance_spec hd
  exact ⟨hwf, d', hd', fun k => (hhold k).trans (h k)⟩

/-! ## The ways to add -/

theorem afterStep_ok {σ : Type} {x : Attempt σ BalanceError Unit} {s t : σ}
    (h : x.exec s = (.ok (), t)) : afterStep x s = .ok t := by
  rw [afterStep, Attempt.after, h]
  rfl

theorem holding_toAmount (n : Whole) (k : String) :
    n.toAmount.holding k = if k = "" then (n.val : ℚ) else 0 := by
  rw [← Whole.toRat_toDecimal]
  rfl

theorem add_integers {m n : Whole} (h : (m.add? n).isSome) :
    ∃ w, (integer m).add (integer n) = .ok w ∧
      w.IsSum (.ofAmount m.toAmount) (.ofAmount n.toAmount) := by
  obtain ⟨s, hs⟩ := Option.isSome_iff_exists.1 h
  have hval : s.val = m.val + n.val := Whole.ofInt?_eq_some_iff.1 hs
  refine ⟨integer s, ?_, trivial, .ofAmount s.toAmount, rfl, fun k => ?_⟩
  · rw [add, hs]
    rfl
  · simp only [Balance.holding_ofAmount, holding_toAmount, hval]
    by_cases hk : k = ""
    · rw [if_pos hk, if_pos hk, if_pos hk, Int.cast_add]
    · rw [if_neg hk, if_neg hk, if_neg hk, add_zero]

theorem addBalances_of_exec (hb : u.toBalance? = some b) (hc : v.toBalance? = some c)
    (hd : (Balance.addBalance c).exec b = (.ok (), d)) :
    addBalances u v = .ok (ofBalance d) := by
  rw [addBalances, hb, hc]
  show (afterStep (Balance.addBalance c) b).map ofBalance = _
  rw [afterStep_ok hd]
  rfl

theorem addBalances_spec (hu : u.WellFormed) (hv : v.WellFormed) (hb : u.toBalance? = some b)
    (hc : v.toBalance? = some c) (hexact : b.AddsExactly c) :
    ∃ d, addBalances u v = .ok (ofBalance d) ∧ d.WellFormed ∧
      ∀ k, d.holding k = b.holding k + c.holding k := by
  obtain ⟨d, hd, hwf, hhold⟩ :=
    Balance.addBalance_spec Amount.additive_wellFormed (hu.view hb) (hv.view hc) hexact
  exact ⟨d, addBalances_of_exec hb hc hd, hwf, hhold⟩

theorem addToPair_spec (hp : p.WellFormed) (hv : v.WellFormed) (hc : v.toBalance? = some c)
    (hd : v.costs? = some d) (hquantity : p.quantity.AddsExactly c)
    (hcosts : p.costs.AddsExactly d) :
    ∃ w, addToPair p v = .ok w ∧ w.IsSum p.quantity c := by
  have hstep {q : BalancePair} (hq : q.WellFormed) (hqc : q.quantity = c) (hqd : q.costs = d) :
      ∃ w, (afterStep (BalancePair.addPair q) p).map pair = .ok w ∧ w.IsSum p.quantity c := by
    subst hqc hqd
    obtain ⟨r, hr, hwf, hhold, -⟩ := BalancePair.addPair_spec hp hq hquantity hcosts
    refine ⟨pair r, ?_, hwf, r.quantity, rfl, hhold⟩
    rw [afterStep_ok hr]
    rfl
  have hplain : (⟨c, none⟩ : BalancePair).WellFormed :=
    ⟨hv.view hc, fun e he => by cases he⟩
  cases v <;> cases hc <;> cases hd
  case pair q => exact hstep hv rfl rfl
  all_goals exact hstep hplain rfl rfl

theorem addAmounts_of_compatible {a b : Amount} (hcompat : a.compatible b)
    (hexact : (Balance.ofAmount a).AddsExactly (.ofAmount b)) :
    ∃ s, addAmounts a b = .ok (amount s) ∧ s.commodity = a.sumCommodity b ∧
      s.quantity.toRat = a.quantity.toRat + b.quantity.toRat := by
  have hadds : a.quantity.AddsExactly b.quantity := by
    by_cases hzero : a.isZero ∨ b.isZero
    · exact Decimal.addsExactly_of_isZero hzero
    · obtain ⟨hza, hzb⟩ := not_or.1 hzero
      have hsym := (Amount.symbol_eq_of_compatible hcompat).resolve_right hzero
      refine hexact a.symbol a b ?_ ?_
      · rw [Balance.amount?_ofAmount, if_pos rfl, if_neg hza]
      · rw [Balance.amount?_ofAmount, if_pos hsym, if_neg hzb]
  obtain ⟨s, hs, hcom, hrat⟩ := Amount.add_of_compatible hcompat hadds
  refine ⟨s, ?_, hcom, hrat⟩
  rw [addAmounts, hs]

theorem addAmounts_of_not_compatible (hP : Amount.Additive P) {a b : Amount} (ha : P a) (hb : P b)
    (hcompat : ¬a.compatible b) :
    ∃ d, addAmounts a b = .ok (ofBalance d) ∧ d.Keyed P ∧
      ∀ k, d.holding k = (Balance.ofAmount a).holding k + (Balance.ofAmount b).holding k := by
  have hne : b.symbol ≠ a.symbol := by
    intro h
    exact hcompat (hP.compatible ha hb h.symm)
  -- The balance of the first holds nothing of the other commodity.
  obtain ⟨d, hd, hkeyed, hhold⟩ := Balance.addAmount_spec hP (Balance.keyed_ofAmount ha) hb
    fun x hx => by
      rw [Balance.amount?_ofAmount, if_neg hne] at hx
      cases hx
  refine ⟨d, ?_, hkeyed, fun k => ?_⟩
  · rw [addAmounts, Amount.add_of_not_compatible hcompat]
    show (((Balance.ofAmount a).addAmount b).mapError ValueError.balance).map ofBalance = _
    rw [hd]
    rfl
  · rw [hhold, Balance.holding_ofAmount b]

theorem addAmounts_spec {a b : Amount} (ha : a.WellFormed) (hb : b.WellFormed)
    (hexact : (Balance.ofAmount a).AddsExactly (.ofAmount b)) :
    ∃ w, addAmounts a b = .ok w ∧ w.WellFormed ∧ ∃ d, w.toBalance? = some d ∧
      ((∀ k, d.holding k = (Balance.ofAmount a).holding k + (Balance.ofAmount b).holding k) ↔
        a.relabels b = false) := by
  by_cases hcompat : a.compatible b
  · obtain ⟨s, hs, hcom, hrat⟩ := addAmounts_of_compatible hcompat hexact
    refine ⟨amount s, hs, ha.of_sumCommodity hb hcom, .ofAmount s, rfl, ?_⟩
    simp only [Balance.holding_ofAmount]
    exact Amount.holding_add_iff ha hb hcompat hcom hrat
  · obtain ⟨d, hd, hwf, hhold⟩ :=
      addAmounts_of_not_compatible Amount.additive_wellFormed ha hb hcompat
    obtain ⟨hw, e, he, hholde⟩ := isSum_ofBalance hwf hhold
    have hzero : ¬(a.isZero ∨ b.isZero) := fun h => hcompat (Amount.compatible_of_isZero h)
    have hrel : a.relabels b = false := by
      obtain ⟨hza, hzb⟩ := not_or.1 hzero
      simp [Amount.relabels, Amount.labels, hza, hzb]
    exact ⟨ofBalance d, hd, hw, e, he, iff_of_true hholde hrel⟩

/-! ## The sum of two values -/

theorem pair_add_eq (hv : v ≠ null) : (pair p).add v = addToPair p v := by
  cases v
  case null => exact absurd rfl hv
  all_goals rfl

theorem add_pair_eq (hn : u ≠ null) (hp : ∀ q, u ≠ pair q) : u.add (pair p) = addToPair p u := by
  cases u
  case null => exact absurd rfl hn
  case pair q => exact absurd rfl (hp q)
  all_goals rfl

theorem add_null_spec (hu : u.WellFormed) (hb : u.toBalance? = some b) :
    ∃ w, u.add null = .ok w ∧ w.IsSum b .empty := by
  refine ⟨u, ?_, hu, b, hb, fun _ => (add_zero _).symm⟩
  cases u <;> rfl

theorem null_add_spec (hv : v.WellFormed) (hc : v.toBalance? = some c) :
    ∃ w, null.add v = .ok w ∧ w.IsSum .empty c :=
  ⟨v, rfl, hv, c, hc, fun _ => (zero_add _).symm⟩

theorem pair_add_spec (hp : (pair p).WellFormed) (hv : v.WellFormed)
    (hexact : (pair p).AddsExactly v) (hc : v.toBalance? = some c) :
    ∃ w, (pair p).add v = .ok w ∧ w.IsSum p.quantity c := by
  have hadd {e : Balance} (he : v.costs? = some e) :
      ∃ w, addToPair p v = .ok w ∧ w.IsSum p.quantity c :=
    addToPair_spec hp hv hc he (hexact.views _ _ rfl hc) (hexact.costs _ _ rfl he)
  cases v
  case boolean => cases hc
  case dateTime => cases hc
  case null =>
    cases hc
    exact add_null_spec hp rfl
  all_goals exact hadd rfl

/-- A pair on the right is added to as if it stood on the left. -/
theorem add_pair_spec (hu : u.WellFormed) (hp : (pair p).WellFormed)
    (hexact : u.AddsExactly (pair p)) (hb : u.toBalance? = some b) :
    ∃ w, u.add (pair p) = .ok w ∧ w.IsSum b p.quantity := by
  have hadd {e : Balance} (he : u.costs? = some e) :
      ∃ w, addToPair p u = .ok w ∧ w.IsSum b p.quantity := by
    obtain ⟨w, hw, hsum⟩ := addToPair_spec hp hu hb he (hexact.views _ _ hb rfl).symm
      (hexact.costs _ _ he rfl).symm
    exact ⟨w, hw, hsum.symm⟩
  cases u
  case boolean => cases hb
  case dateTime => cases hb
  case null =>
    cases hb
    exact null_add_spec hp rfl
  case pair q =>
    cases hb
    exact pair_add_spec hu hp hexact rfl
  all_goals exact hadd rfl

/-- The sum is there, and it agrees with the sum of the balances unless it relabels an amount. -/
theorem add_spec (hu : u.WellFormed) (hv : v.WellFormed) (hexact : u.AddsExactly v)
    (hb : u.toBalance? = some b) (hc : v.toBalance? = some c) :
    ∃ w, u.add v = .ok w ∧ w.WellFormed ∧ ∃ d, w.toBalance? = some d ∧
      ((∀ k, d.holding k = b.holding k + c.holding k) ↔ u.relabels v = false) := by
  have hsum (hrel : u.relabels v = false) (h : ∃ w, u.add v = .ok w ∧ w.IsSum b c) :
      ∃ w, u.add v = .ok w ∧ w.WellFormed ∧ ∃ d, w.toBalance? = some d ∧
        ((∀ k, d.holding k = b.holding k + c.holding k) ↔ u.relabels v = false) := by
    obtain ⟨w, hw, hwf, d, hd, hhold⟩ := h
    exact ⟨w, hw, hwf, d, hd, iff_of_true hhold hrel⟩
  have hviews := hexact.views b c hb hc
  have hbalances : ∃ w, addBalances u v = .ok w ∧ w.IsSum b c := by
    obtain ⟨d, hd, hwf, hhold⟩ := addBalances_spec hu hv hb hc hviews
    exact ⟨ofBalance d, hd, isSum_ofBalance hwf hhold⟩
  -- Nothing and pairs go first on either side; of the rest, only two whole numbers and two amounts
  -- have ways of their own.
  cases u
  case null =>
    cases hb
    exact hsum rfl (null_add_spec hv hc)
  case pair p =>
    cases hb
    exact hsum rfl (pair_add_spec hu hv hexact hc)
  all_goals cases v
  case boolean.null | integer.null | dateTime.null | amount.null | balance.null =>
    cases hc
    exact hsum rfl (add_null_spec hu hb)
  case boolean.pair | integer.pair | dateTime.pair | amount.pair | balance.pair =>
    cases hc
    exact hsum rfl (add_pair_spec hu hv hexact hb)
  case integer.integer =>
    cases hb
    cases hc
    exact hsum rfl (add_integers (hexact.wholes _ _ rfl rfl))
  case amount.amount =>
    cases hb
    cases hc
    exact addAmounts_spec hu hv hviews
  all_goals exact hsum rfl hbalances

/-- Adding values agrees with adding balances, exactly if no amount is relabelled. -/
theorem add_same_iff (hu : u.WellFormed) (hv : v.WellFormed) (hexact : u.AddsExactly v)
    (hb : u.toBalance? = some b) (hc : v.toBalance? = some c) :
    ∃ w d s, u.add v = .ok w ∧ w.WellFormed ∧ w.toBalance? = some d ∧
      (Balance.addBalance c).exec b = (.ok (), s) ∧
      (∀ k, s.holding k = b.holding k + c.holding k) ∧ (d.same s ↔ u.relabels v = false) := by
  obtain ⟨w, hw, hwf, d, hd, hiff⟩ := add_spec hu hv hexact hb hc
  obtain ⟨s, hs, hwfs, hhold⟩ :=
    Balance.addBalance_spec Amount.additive_wellFormed (hu.view hb) (hv.view hc)
      (hexact.views b c hb hc)
  refine ⟨w, d, s, hw, hwf, hd, hs, hhold, ?_⟩
  rw [Balance.same_iff_holding (hwf.view hd) hwfs, ← hiff]
  simp only [hhold]

theorem addToPair_ne_amount (p : BalancePair) (v : Value) (a : Amount) :
    addToPair p v ≠ .ok (amount a) := by
  have hmap (r : Except ValueError BalancePair) : r.map pair ≠ .ok (amount a) := by
    intro h
    cases r <;> cases h
  intro h
  cases v
  case boolean => cases h
  case dateTime => cases h
  all_goals exact hmap _ h

theorem pair_add_ne_amount (p : BalancePair) (v : Value) (a : Amount) :
    (pair p).add v ≠ .ok (amount a) := by
  by_cases hv : v = null
  · subst hv
    intro h
    cases h
  · rw [pair_add_eq hv]
    exact addToPair_ne_amount p v a

theorem add_pair_ne_amount (u : Value) (p : BalancePair) (a : Amount) :
    u.add (pair p) ≠ .ok (amount a) := by
  by_cases hn : u = null
  · subst hn
    intro h
    cases h
  · by_cases hp : ∃ q, u = pair q
    · obtain ⟨q, rfl⟩ := hp
      exact pair_add_ne_amount q (pair p) a
    · rw [add_pair_eq hn fun q hq => hp ⟨q, hq⟩]
      exact addToPair_ne_amount p u a

theorem orOverflow_ne_amount (n : Option Whole) (a : Amount) : orOverflow n ≠ .ok (amount a) := by
  intro h
  cases n <;> cases h

/-- The commodity of a zero sum is that of one of the operands. -/
theorem commodity_of_add (hu : u.WellFormed) (hv : v.WellFormed) (hexact : u.AddsExactly v)
    (hb : u.toBalance? = some b) (hc : v.toBalance? = some c) (h : u.add v = .ok (amount a))
    (hz : a.isZero) (hcom : a.commodity ≠ none) :
    ∃ x, (u = amount x ∨ v = amount x) ∧ x.commodity = a.commodity := by
  have hviews := hexact.views b c hb hc
  have hofBalance {d : Balance} (hd : d.WellFormed) (he : ofBalance d = amount a) : False :=
    hcom (commodity_of_ofBalance hd he hz)
  have hbalances (hadd : addBalances u v = .ok (amount a)) : False := by
    obtain ⟨d, hd, hwf, -⟩ := addBalances_spec hu hv hb hc hviews
    exact hofBalance hwf (Except.ok.inj (hd.symm.trans hadd))
  cases u
  case null =>
    cases h
    exact ⟨a, .inr rfl, rfl⟩
  case pair p => exact absurd h (pair_add_ne_amount p v a)
  all_goals cases v
  case boolean.pair | integer.pair | dateTime.pair | amount.pair | balance.pair =>
    exact absurd h (add_pair_ne_amount _ _ a)
  case amount.null x =>
    cases h
    exact ⟨a, .inl rfl, rfl⟩
  case boolean.null | integer.null | dateTime.null | balance.null => cases h
  case integer.integer m n => exact absurd h (orOverflow_ne_amount (m.add? n) a)
  case amount.amount x y =>
    cases hb
    cases hc
    by_cases hcompat : x.compatible y
    · obtain ⟨s, hs, hsum, -⟩ := addAmounts_of_compatible hcompat hviews
      cases hs.symm.trans h
      rcases Amount.sumCommodity_eq x y with he | he
      · exact ⟨x, .inl rfl, (hsum.trans he).symm⟩
      · exact ⟨y, .inr rfl, (hsum.trans he).symm⟩
    · obtain ⟨d, hd, hwf, -⟩ :=
        addAmounts_of_not_compatible Amount.additive_wellFormed hu hv hcompat
      exact (hofBalance hwf (Except.ok.inj (hd.symm.trans h))).elim
  all_goals exact (hbalances h).elim

end Value

end Bookkeeping
