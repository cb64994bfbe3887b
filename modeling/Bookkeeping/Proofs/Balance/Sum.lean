import Bookkeeping.Balance.Pair
import Bookkeeping.Proofs.Amount.Sum
import Bookkeeping.Proofs.Value.Same

/-!
# Sums of balances

A balance in order holds nonzero amounts of one kind (`Balance.Keyed`), each under its own symbol,
and is known up to equality by what it holds of each commodity (`Balance.holding`,
`same_iff_holding`).  As long as the sums that are come across are exact (`Balance.SumsExactly`),
adding amounts and balances succeeds and adds what is held commodity by commodity
(`Balance.addAmount_exact`, `Balance.addBalance_exact`); for pairs this goes for both sides
(`BalancePair.addPair_exact`).  Amounts of one kind can be added whatever their commodities, so that
only the numbers have to fit (`Balance.AddsExactly`).
-/

namespace Bookkeeping

namespace Balance

/-- Every amount held is nonzero and stands under its own symbol. -/
def WellFormed (b : Balance) : Prop :=
  ∀ k a, b.amount? k = some a → a.symbol = k ∧ a.isZero = false ∧ a.WellFormed

/-- Every amount held is nonzero, stands under its own symbol and is of this kind. -/
def Keyed (P : Amount → Prop) (b : Balance) : Prop :=
  ∀ k a, b.amount? k = some a → a.symbol = k ∧ a.isZero = false ∧ P a

/-- What the balance holds of the commodity with this symbol. -/
def holding (b : Balance) (symbol : String) : ℚ :=
  match b.amount? symbol with
  | some a => a.quantity.toRat
  | none => 0

/-- The amounts that the balances hold of one commodity add exactly. -/
def AddsExactly (b c : Balance) : Prop :=
  ∀ k x y, b.amount? k = some x → c.amount? k = some y → x.quantity.AddsExactly y.quantity

theorem AddsExactly.symm {b c : Balance} (h : b.AddsExactly c) : c.AddsExactly b :=
  fun k x y hx hy => (h k y x hy hx).symm

/-- What the balance holds under the symbol of the amount does not mix with it. -/
def Takes (b : Balance) (a : Amount) : Prop := ∀ x, b.amount? a.symbol = some x → ¬x.Mixes a

/-- No bare number in one of the balances meets an amount of a commodity without a symbol in the
other. -/
def Unmixed (b c : Balance) : Prop :=
  ∀ k x y, b.amount? k = some x → c.amount? k = some y → ¬x.Mixes y

/-- The amounts that the balances hold of one commodity have exact sums. -/
def SumsExactly (b c : Balance) : Prop :=
  ∀ k x y, b.amount? k = some x → c.amount? k = some y → x.AddsExactly y

variable {a : Amount} {b c d : Balance} {P : Amount → Prop}

theorem wellFormed_iff_keyed : b.WellFormed ↔ b.Keyed Amount.WellFormed := Iff.rfl

theorem holding_of_amount?_none {k : String} (h : b.amount? k = none) : b.holding k = 0 := by
  rw [holding, h]

theorem holding_of_amount?_some {k : String} (h : b.amount? k = some a) :
    b.holding k = a.quantity.toRat := by
  rw [holding, h]

theorem holding_empty (k : String) : empty.holding k = 0 := rfl

theorem keyed_empty : empty.Keyed P := by
  intro k a h
  cases h

theorem wellFormed_empty : empty.WellFormed := wellFormed_iff_keyed.2 keyed_empty

/-! ## One amount -/

theorem holding_store (b : Balance) (symbol : String) (a : Amount) (k : String) :
    (b.store symbol a).holding k = if k = symbol then a.quantity.toRat else b.holding k := by
  rw [holding, amount?_store]
  by_cases hk : k = symbol
  · rw [if_pos hk, if_pos hk]
    by_cases hz : a.isZero
    · rw [if_pos hz, Amount.isZero_iff_toRat.1 hz]
    · rw [if_neg hz]
  · rw [if_neg hk, if_neg hk]
    rfl

theorem Keyed.store (hb : b.Keyed P) (ha : P a) : (b.store a.symbol a).Keyed P := by
  intro k x hx
  rw [amount?_store] at hx
  by_cases hk : k = a.symbol
  · rw [if_pos hk] at hx
    by_cases hz : a.isZero
    · rw [if_pos hz] at hx
      cases hx
    · rw [if_neg hz, Option.some.injEq] at hx
      subst hx
      exact ⟨hk.symm, by simpa using hz, ha⟩
  · rw [if_neg hk] at hx
    exact hb k x hx

theorem holding_ofAmount (a : Amount) (k : String) : (ofAmount a).holding k = a.holding k := by
  rw [ofAmount, holding_store, holding_empty]
  rfl

theorem keyed_ofAmount (h : P a) : (ofAmount a).Keyed P := keyed_empty.store h

theorem wellFormed_ofAmount (h : a.WellFormed) : (ofAmount a).WellFormed :=
  wellFormed_iff_keyed.2 (keyed_ofAmount h)

theorem eq_of_amount?_ofAmount {x : Amount} {k : String} (h : (ofAmount a).amount? k = some x) :
    x = a := by
  rw [amount?_ofAmount] at h
  split at h
  · split at h
    · cases h
    · exact (Option.some.inj h).symm
  · cases h

theorem ofAmount_addsExactly {a' : Amount} (h : a.quantity.AddsExactly a'.quantity) :
    (ofAmount a).AddsExactly (ofAmount a') := by
  intro k x y hx hy
  rw [eq_of_amount?_ofAmount hx, eq_of_amount?_ofAmount hy]
  exact h

theorem amount?_addAmount_of_ne (h : b.addAmount a = .ok d) {k : String} (hk : k ≠ a.symbol) :
    d.amount? k = b.amount? k := by
  rw [addAmount] at h
  split at h
  · cases h
    rw [amount?_store, if_neg hk]
  · split at h
    · cases h
      rw [amount?_store, if_neg hk]
    · cases h

theorem compatible_of_addAmount {x : Amount} (h : b.addAmount a = .ok d)
    (hx : b.amount? a.symbol = some x) : x.compatible a := by
  rw [addAmount, hx] at h
  cases hsum : x.add a with
  | ok _ => exact Amount.compatible_of_add hsum
  | error e =>
    simp only [hsum] at h
    cases h

/-- An amount is added to what is held of its commodity. -/
theorem addAmount_exact (hP : Amount.SumClosed P) (hb : b.Keyed P) (ha : P a)
    (hexact : ∀ x, b.amount? a.symbol = some x → x.AddsExactly a) :
    ∃ d, b.addAmount a = .ok d ∧ d.Keyed P ∧ ∀ k, d.holding k = b.holding k + a.holding k := by
  cases hx : b.amount? a.symbol with
  | none =>
    refine ⟨b.store a.symbol a, ?_, hb.store ha, fun k => ?_⟩
    · rw [addAmount, hx]
    · rw [holding_store, Amount.holding]
      by_cases hk : k = a.symbol
      · rw [if_pos hk, if_pos hk, hk, holding_of_amount?_none hx, zero_add]
      · rw [if_neg hk, if_neg hk, add_zero]
  | some x =>
    obtain ⟨hsym, -, hkind⟩ := hb _ x hx
    obtain ⟨hcompatible, hdecimal⟩ := hexact x hx
    obtain ⟨s, hs, hcom, hrat⟩ := Amount.add_of_compatible hcompatible hdecimal
    have hsymbol : s.symbol = a.symbol := (Amount.symbol_of_symbol_eq hcom hsym).trans hsym
    refine ⟨b.store a.symbol s, ?_, ?_, fun k => ?_⟩
    · rw [addAmount, hx]
      simp only
      rw [hs]
    · rw [← hsymbol]
      exact hb.store (hP x a s hkind ha hcom hrat)
    · rw [holding_store, Amount.holding]
      by_cases hk : k = a.symbol
      · rw [if_pos hk, if_pos hk, hk, holding_of_amount?_some hx, hrat]
      · rw [if_neg hk, if_neg hk, add_zero]

/-- An amount has only been added to a balance that takes it. -/
theorem takes_of_addAmount (hb : b.Keyed P) (h : b.addAmount a = .ok d) : b.Takes a := by
  intro x hx
  rw [← Amount.compatible_iff_not_mixes (hb _ x hx).1]
  exact compatible_of_addAmount h hx

theorem takes_of_wellFormed (hb : b.Keyed Amount.WellFormed) (ha : a.WellFormed) : b.Takes a :=
  fun x hx => Amount.not_mixes_of_wellFormed (hb _ x hx).2.2 ha

theorem Takes.addsExactly (htakes : b.Takes a) (hb : b.Keyed P)
    (hexact : ∀ x, b.amount? a.symbol = some x → x.quantity.AddsExactly a.quantity) :
    ∀ x, b.amount? a.symbol = some x → x.AddsExactly a := fun x hx =>
  ⟨(Amount.compatible_iff_not_mixes (hb _ x hx).1).2 (htakes x hx), hexact x hx⟩

/-- An amount of a kind that can be added is added to what is held of its commodity. -/
theorem addAmount_spec (hP : Amount.Additive P) (hb : b.Keyed P) (ha : P a)
    (hexact : ∀ x, b.amount? a.symbol = some x → x.quantity.AddsExactly a.quantity) :
    ∃ d, b.addAmount a = .ok d ∧ d.Keyed P ∧ ∀ k, d.holding k = b.holding k + a.holding k := by
  refine addAmount_exact hP.sumClosed hb ha fun x hx => ?_
  obtain ⟨hsym, -, hkind⟩ := hb _ x hx
  exact ⟨hP.compatible hkind ha hsym, hexact x hx⟩

/-! ## Many amounts -/

theorem addEntries_exact (hP : Amount.SumClosed P) {l : List (String × Amount)}
    (hinc : (l.map Prod.fst).Pairwise (compare · · = .lt))
    (hl : ∀ k a, Index.find? k l = some a → a.symbol = k ∧ P a) (hb : b.Keyed P)
    (hexact : ∀ k x y, b.amount? k = some x → Index.find? k l = some y → x.AddsExactly y) :
    ∃ d, ((l.map Prod.snd).forM fun a => Attempt.update (·.addAmount a)).exec b = (.ok (), d) ∧
      d.Keyed P ∧ ∀ k, d.holding k = b.holding k +
        ((Index.find? k l).map (·.quantity.toRat)).getD 0 := by
  induction l generalizing b with
  | nil => exact ⟨b, Attempt.exec_forM_nil _ _, hb, fun k => (add_zero _).symm⟩
  | cons e l ih =>
    obtain ⟨key, a⟩ := e
    have hhead := Index.find?_cons_self key a l
    have htail {k : String} (hk : k ≠ key) := Index.find?_cons_of_ne a l hk
    have hnone := Index.find?_head_tail hinc
    have hne {k : String} {x : Amount} (hx : Index.find? k l = some x) : k ≠ key := by
      rintro rfl
      rw [hnone] at hx
      cases hx
    obtain ⟨hsym, hkind⟩ := hl key a hhead
    obtain ⟨b', hadd, hb', hhold⟩ := addAmount_exact hP hb hkind fun x hx =>
      hexact key x a (hsym ▸ hx) hhead
    -- The first amount changes nothing that the others are added to.
    obtain ⟨d, hd, hwfd, hholdd⟩ := ih (List.pairwise_cons.1 hinc).2
      (fun k x hx => hl k x ((htail (hne hx)).trans hx)) hb' fun k x y hx hy => by
        rw [amount?_addAmount_of_ne hadd (hsym ▸ hne hy)] at hx
        exact hexact k x y hx ((htail (hne hy)).trans hy)
    refine ⟨d, ?_, hwfd, fun k => ?_⟩
    · show Attempt.exec ((a :: l.map Prod.snd).forM _) b = _
      rw [Attempt.exec_forM_cons, Attempt.exec_update, hadd]
      exact hd
    · rw [hholdd, hhold, Amount.holding, hsym, add_assoc]
      by_cases hk : k = key
      · subst hk
        rw [if_pos rfl, hnone, hhead]
        simp
      · rw [if_neg hk, htail hk, zero_add]

/-- Amounts have only been added to what is compatible with them. -/
theorem compatible_of_addEntries {l : List (String × Amount)}
    (hinc : (l.map Prod.fst).Pairwise (compare · · = .lt))
    (hl : ∀ k a, Index.find? k l = some a → a.symbol = k)
    (h : ((l.map Prod.snd).forM fun a => Attempt.update (·.addAmount a)).exec b = (.ok (), d)) :
    ∀ k x y, b.amount? k = some x → Index.find? k l = some y → x.compatible y := by
  induction l generalizing b with
  | nil => exact nofun
  | cons e l ih =>
    obtain ⟨key, a⟩ := e
    obtain rfl := hl key a (Index.find?_cons_self key a l)
    obtain ⟨b', hadd, hrest⟩ := Attempt.exec_forM_cons_ok (b := a) (l := l.map Prod.snd) h
    have hadd : b.addAmount a = .ok b' := Attempt.exec_update_eq_ok_iff.1 hadd
    intro k x y hx hy
    by_cases hk : k = a.symbol
    · subst hk
      cases (Index.find?_cons_self a.symbol a l).symm.trans hy
      exact compatible_of_addAmount hadd hx
    · -- The first amount changes nothing that the others are added to.
      rw [Index.find?_cons_of_ne a l hk] at hy
      refine ih (List.pairwise_cons.1 hinc).2 (fun k' x' hx' => ?_) hrest k x y ?_ hy
      · refine hl k' x' ((Index.find?_cons_of_ne a l ?_).trans hx')
        rintro rfl
        cases (Index.find?_head_tail hinc).symm.trans hx'
      · rwa [amount?_addAmount_of_ne hadd hk]

/-- A balance has only been added to another if they do not mix. -/
theorem unmixed_of_addBalance (hb : b.Keyed P) (hc : c.Keyed P)
    (h : (addBalance c).exec b = (.ok (), d)) : b.Unmixed c := by
  intro k x y hx hy
  rw [← Amount.compatible_iff_not_mixes ((hb k x hx).1.trans (hc k y hy).1.symm)]
  exact compatible_of_addEntries c.held.increasing (fun k a ha => (hc k a ha).1) h k x y hx hy

theorem unmixed_of_wellFormed (hb : b.Keyed Amount.WellFormed) (hc : c.Keyed Amount.WellFormed) :
    b.Unmixed c := fun k x y hx hy =>
  Amount.not_mixes_of_wellFormed (hb k x hx).2.2 (hc k y hy).2.2

theorem sumsExactly_of_unmixed (hb : b.Keyed P) (hc : c.Keyed P) (hunmixed : b.Unmixed c)
    (hexact : b.AddsExactly c) : b.SumsExactly c := fun k x y hx hy =>
  ⟨(Amount.compatible_iff_not_mixes ((hb k x hx).1.trans (hc k y hy).1.symm)).2
    (hunmixed k x y hx hy), hexact k x y hx hy⟩

/-- Balances are added commodity by commodity. -/
theorem addBalance_exact (hP : Amount.SumClosed P) (hb : b.Keyed P) (hc : c.Keyed P)
    (hexact : b.SumsExactly c) :
    ∃ d, (addBalance c).exec b = (.ok (), d) ∧ d.Keyed P ∧
      ∀ k, d.holding k = b.holding k + c.holding k := by
  obtain ⟨d, hd, hkeyed, hhold⟩ := addEntries_exact hP c.held.increasing
    (fun k a ha => ⟨(hc k a ha).1, (hc k a ha).2.2⟩) hb hexact
  refine ⟨d, hd, hkeyed, fun k => ?_⟩
  rw [hhold, add_right_inj, holding, amount?, Index.get?]
  cases Index.find? k c.held.entries <;> rfl

theorem sumsExactly_of_additive (hP : Amount.Additive P) (hb : b.Keyed P) (hc : c.Keyed P)
    (hexact : b.AddsExactly c) : b.SumsExactly c := fun k x y hx hy =>
  ⟨hP.compatible (hb k x hx).2.2 (hc k y hy).2.2 ((hb k x hx).1.trans (hc k y hy).1.symm),
    hexact k x y hx hy⟩

/-- Balances of a kind that can be added are added commodity by commodity. -/
theorem addBalance_spec (hP : Amount.Additive P) (hb : b.Keyed P) (hc : c.Keyed P)
    (hexact : b.AddsExactly c) :
    ∃ d, (addBalance c).exec b = (.ok (), d) ∧ d.Keyed P ∧
      ∀ k, d.holding k = b.holding k + c.holding k :=
  addBalance_exact hP.sumClosed hb hc (sumsExactly_of_additive hP hb hc hexact)

/-! ## Equality -/

theorem Keyed.essence_amount? (hb : b.Keyed P) (k : String) :
    (b.amount? k).map Amount.essence =
      if b.holding k = 0 then none else some (some (k, b.holding k)) := by
  cases h : b.amount? k with
  | none => rw [holding_of_amount?_none h, if_pos rfl, Option.map_none]
  | some a =>
    obtain ⟨hsym, hz, -⟩ := hb k a h
    have hne : b.holding k ≠ 0 := by
      rw [holding_of_amount?_some h, ne_eq, ← Amount.isZero_iff_toRat, hz]
      exact Bool.false_ne_true
    rw [if_neg hne, Option.map_some, Amount.essence, hz, hsym, holding_of_amount?_some h]
    rfl

theorem amount?_essence_of_same (h : b.same c) (k : String) :
    (b.amount? k).map Amount.essence = (c.amount? k).map Amount.essence := by
  have hget := congrArg (Index.get? · k) (same_iff.1 h)
  simp only [essence, Index.get?_mapValues] at hget
  exact hget

/-- Balances in order are equal if they hold as much of each commodity. -/
theorem same_iff_holding (hb : b.Keyed P) (hc : c.Keyed P) :
    b.same c ↔ ∀ k, b.holding k = c.holding k := by
  constructor
  · intro h k
    have hk := amount?_essence_of_same h k
    rw [hb.essence_amount?, hc.essence_amount?] at hk
    by_cases hzb : b.holding k = 0 <;> by_cases hzc : c.holding k = 0 <;> simp_all
  · intro h
    refine same_of_amount? fun k => ?_
    rw [hb.essence_amount?, hc.essence_amount?, h]

end Balance

/-! ## Pairs -/

namespace BalancePair

/-- Both sides are in order. -/
def WellFormed (p : BalancePair) : Prop :=
  p.quantity.WellFormed ∧ ∀ c, p.cost = some c → c.WellFormed

/-- The cost side, for which the quantity stands in while there is none. -/
def costs (p : BalancePair) : Balance := p.cost.getD p.quantity

/-- Both sides hold nonzero amounts of this kind, each under its own symbol. -/
def Keyed (P : Amount → Prop) (p : BalancePair) : Prop := p.quantity.Keyed P ∧ p.costs.Keyed P

/-- What both sides of the pairs hold of one commodity has exact sums. -/
def SumsExactly (p q : BalancePair) : Prop :=
  p.quantity.SumsExactly q.quantity ∧ p.costs.SumsExactly q.costs

variable {p q : BalancePair} {P : Amount → Prop}

theorem wellFormed_iff_keyed : p.WellFormed ↔ p.Keyed Amount.WellFormed := by
  rw [WellFormed, Keyed, costs]
  cases p.cost with
  | none => exact ⟨fun h => ⟨h.1, h.1⟩, fun h => ⟨h.1, nofun⟩⟩
  | some c => exact ⟨fun h => ⟨h.1, h.2 c rfl⟩, fun h => ⟨h.1, fun _ hc => by cases hc; exact h.2⟩⟩

theorem exec_onQuantity {x : Attempt Balance BalanceError Unit} {d : Balance}
    (h : x.exec p.quantity = (.ok (), d)) :
    (onQuantity x).exec p = (.ok (), { p with quantity := d }) := by
  rw [onQuantity, Attempt.exec_onPart, h]

theorem exec_onCost {x : Attempt Balance BalanceError Unit} {c d : Balance} (hc : p.cost = some c)
    (h : x.exec c = (.ok (), d)) : (onCost x).exec p = (.ok (), { p with cost := some d }) := by
  simp only [onCost, Attempt.exec_bind, Attempt.exec_get, hc]
  rw [Attempt.exec_onPart, h]

theorem exec_onQuantity_ok {x : Attempt Balance BalanceError Unit}
    (h : (onQuantity x).exec p = (.ok (), q)) :
    ∃ d, x.exec p.quantity = (.ok (), d) ∧ q = { p with quantity := d } := by
  rw [onQuantity, Attempt.exec_onPart] at h
  obtain ⟨hok, hq⟩ := Prod.mk.inj h
  exact ⟨_, Prod.ext hok rfl, hq.symm⟩

theorem exec_onCost_some (x : Attempt Balance BalanceError Unit) (quantity c : Balance) :
    (onCost x).exec ⟨quantity, some c⟩ =
      ((x.exec c).1, ⟨quantity, some (x.exec c).2⟩) := rfl

/-- Pairs have only been added if both sides could be. -/
theorem exec_addPair_ok {r : BalancePair} (h : (addPair q).exec p = (.ok (), r)) :
    (∃ d, (Balance.addBalance q.quantity).exec p.quantity = (.ok (), d)) ∧
      ∃ e, (Balance.addBalance q.costs).exec p.costs = (.ok (), e) := by
  obtain ⟨quantity, cost⟩ := p
  obtain ⟨quantity', cost'⟩ := q
  rcases cost with _ | c
  · rcases cost' with _ | c'
    · simp only [addPair, Attempt.exec_bind, Attempt.exec_get] at h
      obtain ⟨d, hd, -⟩ := exec_onQuantity_ok h
      exact ⟨⟨d, hd⟩, d, hd⟩
    · rcases hrun : (Balance.addBalance c').exec quantity with ⟨_ | _, e⟩
      · simp only [addPair, Attempt.exec_bind, Attempt.exec_get, Attempt.exec_ofExcept, hrun] at h
        cases h
      · simp only [addPair, Attempt.exec_bind, Attempt.exec_get, Attempt.exec_ofExcept,
          Attempt.exec_modify, hrun] at h
        obtain ⟨d, hd, -⟩ := exec_onQuantity_ok h
        exact ⟨⟨d, hd⟩, e, hrun⟩
  · simp only [addPair, Attempt.exec_bind, Attempt.exec_get, exec_onCost_some] at h
    rcases hrun : (Balance.addBalance (cost'.getD quantity')).exec c with ⟨_ | _, e⟩
    · rw [hrun] at h
      cases h
    · rw [hrun] at h
      obtain ⟨d, hd, -⟩ := exec_onQuantity_ok h
      exact ⟨⟨d, hd⟩, e, hrun⟩

/-- Pairs are added commodity by commodity on both sides, and there is a cost side if one of them
had one. -/
theorem addPair_exact (hP : Amount.SumClosed P) (hp : p.Keyed P) (hq : q.Keyed P)
    (hexact : p.SumsExactly q) :
    ∃ r, (addPair q).exec p = (.ok (), r) ∧ r.Keyed P ∧
      (∀ k, r.quantity.holding k = p.quantity.holding k + q.quantity.holding k) ∧
      (∀ k, r.costs.holding k = p.costs.holding k + q.costs.holding k) ∧
      r.cost.isSome = (p.cost.isSome || q.cost.isSome) := by
  obtain ⟨d, hd, hkeyed, hhold⟩ := Balance.addBalance_exact hP hp.1 hq.1 hexact.1
  obtain ⟨e, he, hkeyede, hholde⟩ := Balance.addBalance_exact hP hp.2 hq.2 hexact.2
  obtain ⟨quantity, cost⟩ := p
  obtain ⟨quantity', cost'⟩ := q
  rcases cost with _ | c
  · rcases cost' with _ | c'
    · -- Neither side knows a cost, so the quantity goes on standing in for it.
      refine ⟨⟨d, none⟩, ?_, ⟨hkeyed, hkeyed⟩, hhold, hhold, rfl⟩
      simp only [addPair, Attempt.exec_bind, Attempt.exec_get]
      exact exec_onQuantity hd
    · refine ⟨⟨d, some e⟩, ?_, ⟨hkeyed, hkeyede⟩, hhold, hholde, rfl⟩
      have he : (Balance.addBalance c').exec quantity = (.ok (), e) := he
      simp only [addPair, Attempt.exec_bind, Attempt.exec_get, he, Attempt.exec_ofExcept,
        Attempt.exec_modify]
      exact exec_onQuantity hd
  · refine ⟨⟨d, some e⟩, ?_, ⟨hkeyed, hkeyede⟩, hhold, hholde, rfl⟩
    have he : (Balance.addBalance (cost'.getD quantity')).exec c = (.ok (), e) := he
    simp only [addPair, Attempt.exec_bind, Attempt.exec_get]
    rw [exec_onCost rfl he]
    exact exec_onQuantity hd

/-- Pairs in order are added commodity by commodity, on both sides. -/
theorem addPair_spec (hp : p.WellFormed) (hq : q.WellFormed)
    (hquantity : p.quantity.AddsExactly q.quantity) (hcosts : p.costs.AddsExactly q.costs) :
    ∃ r, (addPair q).exec p = (.ok (), r) ∧ r.WellFormed ∧
      (∀ k, r.quantity.holding k = p.quantity.holding k + q.quantity.holding k) ∧
      ∀ k, r.costs.holding k = p.costs.holding k + q.costs.holding k := by
  rw [wellFormed_iff_keyed] at hp hq
  have hadditive := Amount.additive_wellFormed
  obtain ⟨r, hr, hkeyed, hhold, hholde, -⟩ := addPair_exact hadditive.sumClosed hp hq
    ⟨Balance.sumsExactly_of_additive hadditive hp.1 hq.1 hquantity,
      Balance.sumsExactly_of_additive hadditive hp.2 hq.2 hcosts⟩
  exact ⟨r, hr, wellFormed_iff_keyed.2 hkeyed, hhold, hholde⟩

end BalancePair

end Bookkeeping
