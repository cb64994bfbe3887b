import Bookkeeping.Proofs.Balance.Negation
import Bookkeeping.Proofs.Value.Holding

/-!
# Lots

A `Lot` is an amount with what was paid for it, if that is known.  However lots are added to a pair,
and wherever the first cost comes among them, the pair holds the sum of their amounts, and on the
cost side the sum of what was paid, where an amount without a cost counts for itself; there is a
cost side just if there is a cost (`BalancePair.IsSumOf`).  A pair is known by this up to equality,
so that adding two pairs comes to the same as adding all their lots to one
(`BalancePair.cost_comes_at_any_time`).  Besides numbers that do not fit, nothing is in the way of
this but bare numbers that meet amounts of a commodity without a symbol (`BalancePair.Unmixed`);
what a lot requires of the pair that it is added to is followed along the run (`Attempt.Along`).
-/

namespace Bookkeeping

open Attempt

namespace Amount

theorem total_map_neg (as : List Amount) (k : String) : total (as.map neg) k = -total as k := by
  induction as with
  | nil => exact neg_zero.symm
  | cons a as ih => rw [List.map_cons, total_cons, total_cons, holding_neg, ih, neg_add]

end Amount

namespace BalancePair

/-- An amount, and what was paid for it if that is known. -/
structure Lot where
  amount : Amount
  cost : Option Amount := none

namespace Lot

/-- What the lot counts for on the cost side. -/
def paid (x : Lot) : Amount := x.cost.getD x.amount

/-- The commodities of the lot have symbols. -/
def WellFormed (x : Lot) : Prop := x.amount.WellFormed ∧ x.paid.WellFormed

/-- The lot with both sides negated. -/
def neg (x : Lot) : Lot := ⟨x.amount.neg, x.cost.map Amount.neg⟩

theorem paid_neg (x : Lot) : x.neg.paid = x.paid.neg := by
  obtain ⟨amount, _ | cost⟩ := x <;> rfl

end Lot

/-- The pair that holds nothing. -/
def empty : BalancePair := { quantity := .empty }

/-- Adds a lot. -/
def addLot (x : Lot) : Attempt BalancePair BalanceError Unit := addAmount x.amount x.cost

/-- Adds lots one after the other. -/
def addLots (xs : List Lot) : Attempt BalancePair BalanceError Unit := xs.forM addLot

/-- No sum of the lot and what the pair holds under its symbols is rounded or too large. -/
def TakesExactly (p : BalancePair) (x : Lot) : Prop :=
  (∀ y, p.quantity.amount? x.amount.symbol = some y →
    y.quantity.AddsExactly x.amount.quantity) ∧
  ∀ y, p.costs.amount? x.paid.symbol = some y → y.quantity.AddsExactly x.paid.quantity

/-- What the pair holds under the symbols of the lot does not mix with it. -/
def Takes (p : BalancePair) (x : Lot) : Prop :=
  p.quantity.Takes x.amount ∧ p.costs.Takes x.paid

/-- No sum is rounded or too large when all lots are added to one pair, when those of the second
list are added to a pair of their own, and when that pair is added to the pair of the first
list. -/
structure Exact (xs ys : List Lot) : Prop where
  all : Along addLot TakesExactly empty (xs ++ ys)
  rest : Along addLot TakesExactly empty ys
  quantities : ∀ p q, (addLots xs).exec empty = (.ok (), p) →
    (addLots ys).exec empty = (.ok (), q) → p.quantity.AddsExactly q.quantity
  costs : ∀ p q, (addLots xs).exec empty = (.ok (), p) →
    (addLots ys).exec empty = (.ok (), q) → p.costs.AddsExactly q.costs

/-- No bare number and amount of a commodity without a symbol are added to each other when all lots
are added to one pair, when those of the second list are added to a pair of their own, and when that
pair is added to the pair of the first list. -/
structure Unmixed (xs ys : List Lot) : Prop where
  all : Along addLot Takes empty (xs ++ ys)
  rest : Along addLot Takes empty ys
  quantities : ∀ p q, (addLots xs).exec empty = (.ok (), p) →
    (addLots ys).exec empty = (.ok (), q) → p.quantity.Unmixed q.quantity
  costs : ∀ p q, (addLots xs).exec empty = (.ok (), p) →
    (addLots ys).exec empty = (.ok (), q) → p.costs.Unmixed q.costs

variable {p q p' : BalancePair} {x : Lot} {xs ys : List Lot} {P : Amount → Prop}

/-! ## One lot -/

theorem exec_addBoth {a b : Amount} {c d e : Balance} (hcost : p.cost = some c)
    (hd : p.quantity.addAmount a = .ok d) (he : c.addAmount b = .ok e) :
    (do onQuantity (.update (·.addAmount a)); onCost (.update (·.addAmount b))).exec p =
      (.ok (), ⟨d, some e⟩) := by
  rw [exec_bind, exec_onQuantity (exec_update_eq_ok_iff.2 hd)]
  exact exec_onCost hcost (exec_update_eq_ok_iff.2 he)

/-- A lot is added on both sides, and from the first cost on there is a cost side. -/
theorem addLot_exact (hP : Amount.SumClosed P) (hp : p.Keyed P) (hamount : P x.amount)
    (hpaid : P x.paid) (hexact : p.TakesExactly x) (htakes : p.Takes x) :
    ∃ p', (addLot x).exec p = (.ok (), p') ∧ p'.Keyed P ∧
      (∀ k, p'.quantity.holding k = p.quantity.holding k + x.amount.holding k) ∧
      (∀ k, p'.costs.holding k = p.costs.holding k + x.paid.holding k) ∧
      p'.cost.isSome = (p.cost.isSome || x.cost.isSome) := by
  obtain ⟨d, hd, hkeyed, hhold⟩ :=
    Balance.addAmount_exact hP hp.1 hamount (htakes.1.addsExactly hp.1 hexact.1)
  obtain ⟨e, he, hkeyede, hholde⟩ :=
    Balance.addAmount_exact hP hp.2 hpaid (htakes.2.addsExactly hp.2 hexact.2)
  obtain ⟨quantity, cost⟩ := p
  obtain ⟨amount, paid⟩ := x
  rcases cost with _ | c
  · rcases paid with _ | paid
    · -- Without any cost the quantity goes on standing in for it.
      refine ⟨⟨d, none⟩, ?_, ⟨hkeyed, hkeyed⟩, hhold, hhold, rfl⟩
      show (do onQuantity _; onCost _ : Attempt BalancePair BalanceError Unit).exec _ = _
      rw [exec_bind, exec_onQuantity (exec_update_eq_ok_iff.2 hd)]
      rfl
    · refine ⟨⟨d, some e⟩, ?_, ⟨hkeyed, hkeyede⟩, hhold, hholde, rfl⟩
      exact exec_addBoth (p := ⟨quantity, some quantity⟩) rfl hd he
  · refine ⟨⟨d, some e⟩, ?_, ⟨hkeyed, hkeyede⟩, hhold, hholde, rfl⟩
    cases paid <;> exact exec_addBoth (p := ⟨quantity, some c⟩) rfl hd he

theorem keyed_of_addLot (hP : Amount.OnCommodity P) (hp : p.Keyed P) (hamount : P x.amount)
    (hpaid : P x.paid) (hexact : p.TakesExactly x) (htakes : p.Takes x)
    (h : (addLot x).exec p = (.ok (), p')) : p'.Keyed P := by
  obtain ⟨q, hq, hkeyed, -⟩ := addLot_exact hP.sumClosed hp hamount hpaid hexact htakes
  obtain rfl : q = p' := congrArg Prod.snd (hq.symm.trans h)
  exact hkeyed

theorem exec_addBoth_ok {a b : Amount} {c : Balance} (hcost : p.cost = some c)
    (h : (do onQuantity (.update (·.addAmount a)); onCost (.update (·.addAmount b))).exec p =
      (.ok (), p')) :
    (∃ d, p.quantity.addAmount a = .ok d) ∧ ∃ e, c.addAmount b = .ok e := by
  obtain ⟨quantity, cost⟩ := p
  obtain rfl : cost = some c := hcost
  obtain ⟨_, q, hquantity, hcost⟩ := exec_bind_ok h
  obtain ⟨d, hd, rfl⟩ := exec_onQuantity_ok hquantity
  rw [exec_onCost_some] at hcost
  have he : Attempt.exec (.update (·.addAmount b)) c = (.ok (), _) :=
    Prod.ext (Prod.mk.inj hcost).1 rfl
  exact ⟨⟨d, exec_update_eq_ok_iff.1 hd⟩, _, exec_update_eq_ok_iff.1 he⟩

/-- A lot has only been added to a pair that takes it. -/
theorem takes_of_addLot (hp : p.Keyed P)
    (h : (addLot x).exec p = (.ok (), p')) : p.Takes x := by
  have hboth : (∃ d, p.quantity.addAmount x.amount = .ok d) ∧
      ∃ e, p.costs.addAmount x.paid = .ok e := by
    obtain ⟨quantity, cost⟩ := p
    obtain ⟨amount, paid⟩ := x
    rcases cost with _ | c
    · rcases paid with _ | paid
      · obtain ⟨_, _, hquantity, -⟩ := exec_bind_ok h
        obtain ⟨d, hd, -⟩ := exec_onQuantity_ok hquantity
        have hd := exec_update_eq_ok_iff.1 hd
        exact ⟨⟨d, hd⟩, d, hd⟩
      · exact exec_addBoth_ok (p := ⟨quantity, some quantity⟩) rfl h
    · cases paid <;> exact exec_addBoth_ok (p := ⟨quantity, some c⟩) rfl h
  obtain ⟨⟨d, hd⟩, e, he⟩ := hboth
  exact ⟨Balance.takes_of_addAmount hp.1 hd, Balance.takes_of_addAmount hp.2 he⟩

/-- A pair takes the lots of which the commodities have symbols, as those do that it holds. -/
theorem takes_of_wellFormed (hp : p.Keyed Amount.WellFormed) (hx : x.WellFormed) : p.Takes x :=
  ⟨Balance.takes_of_wellFormed hp.1 hx.1, Balance.takes_of_wellFormed hp.2 hx.2⟩

/-! ## Many lots -/

/-- Lots have only been added to pairs that take them. -/
theorem along_takes_of_addLots (hp : p.Keyed fun _ => True)
    (hexact : Along addLot TakesExactly p xs) (h : (addLots xs).exec p = (.ok (), p')) :
    Along addLot Takes p xs := by
  refine ((hexact.and (along_of_exec h)).keeps hp fun q x _ hq ⟨hexact, r, hadded⟩ => ?_).1
  have htakes := takes_of_addLot hq hadded
  exact ⟨htakes, fun _ => keyed_of_addLot Amount.onCommodity_true hq trivial trivial hexact htakes⟩

/-- Lots of which the commodities have symbols come to a pair of which they do. -/
theorem addLots_of_wellFormed (hp : p.Keyed Amount.WellFormed) (hxs : ∀ x ∈ xs, x.WellFormed)
    (hexact : Along addLot TakesExactly p xs) : Along addLot Takes p xs ∧
      ∀ p', (addLots xs).exec p = (.ok (), p') → p'.Keyed Amount.WellFormed := by
  refine hexact.keeps hp fun q x hx hq hexact => ?_
  obtain ⟨hamount, hpaid⟩ := hxs x hx
  have htakes := takes_of_wellFormed hq ⟨hamount, hpaid⟩
  exact ⟨htakes, fun _ =>
    keyed_of_addLot Amount.onCommodity_wellFormed hq hamount hpaid hexact htakes⟩

/-- The pair holds the sum of the lots. -/
structure IsSumOf (p : BalancePair) (xs : List Lot) : Prop where
  /-- No zeros are held, and every amount stands under its symbol. -/
  keyed : p.Keyed fun _ => True
  quantity : ∀ k, p.quantity.holding k = Amount.total (xs.map (·.amount)) k
  costs : ∀ k, p.costs.holding k = Amount.total (xs.map (·.paid)) k
  cost : p.cost.isSome ↔ ∃ x ∈ xs, x.cost.isSome

theorem isSumOf_empty : empty.IsSumOf [] :=
  ⟨⟨Balance.keyed_empty, Balance.keyed_empty⟩, fun _ => rfl, fun _ => rfl, by simp [empty]⟩

/-- What has the sum of some lots comes to have the sum of more. -/
theorem IsSumOf.addLots (hp : p.IsSumOf xs) (hexact : Along addLot TakesExactly p ys)
    (htakes : Along addLot Takes p ys) :
    ∃ p', (addLots ys).exec p = (.ok (), p') ∧ p'.IsSumOf (xs ++ ys) := by
  induction ys generalizing p xs with
  | nil => exact ⟨p, rfl, by rwa [List.append_nil]⟩
  | cons y ys ih =>
    obtain ⟨p₁, hrun, hkeyed, hquantity, hcosts, hcost⟩ := addLot_exact
      Amount.onCommodity_true.sumClosed hp.keyed trivial trivial hexact.1 htakes.1
    have hp₁ : p₁.IsSumOf (xs ++ [y]) := by
      refine ⟨hkeyed, fun k => ?_, fun k => ?_, ?_⟩
      · rw [hquantity, hp.quantity, List.map_append, Amount.total_append, List.map_singleton,
          Amount.total_cons]
        exact congrArg _ (add_zero _).symm
      · rw [hcosts, hp.costs, List.map_append, Amount.total_append, List.map_singleton,
          Amount.total_cons]
        exact congrArg _ (add_zero _).symm
      · rw [hcost, Bool.or_eq_true, hp.cost]
        simp only [List.mem_append, List.mem_singleton, or_and_right, exists_or, exists_eq_left]
    obtain ⟨p', hrun', hp'⟩ := ih hp₁ (hexact.2 p₁ hrun) (htakes.2 p₁ hrun)
    refine ⟨p', ?_, by rwa [List.append_assoc, List.singleton_append] at hp'⟩
    rw [BalancePair.addLots, exec_forM_cons, hrun]
    exact hrun'

/-- The sum of two pairs has the sum of the lots of both. -/
theorem IsSumOf.addPair (hp : p.IsSumOf xs) (hq : q.IsSumOf ys) (hexact : p.SumsExactly q) :
    ∃ r, (addPair q).exec p = (.ok (), r) ∧ r.IsSumOf (xs ++ ys) := by
  obtain ⟨r, hrun, hkeyed, hquantity, hcosts, hcost⟩ :=
    addPair_exact Amount.onCommodity_true.sumClosed hp.keyed hq.keyed hexact
  refine ⟨r, hrun, hkeyed, fun k => ?_, fun k => ?_, ?_⟩
  · rw [hquantity, hp.quantity, hq.quantity, List.map_append, Amount.total_append]
  · rw [hcosts, hp.costs, hq.costs, List.map_append, Amount.total_append]
  · rw [hcost, Bool.or_eq_true, hp.cost, hq.cost]
    simp only [List.mem_append, or_and_right, exists_or]

/-- Pairs that have the sum of the same lots are equal. -/
theorem IsSumOf.same (hp : p.IsSumOf xs) (hq : q.IsSumOf xs) : p.same q := by
  have hquantity : p.quantity.same q.quantity :=
    (Balance.same_iff_holding hp.keyed.1 hq.keyed.1).2 fun k => by rw [hp.quantity, hq.quantity]
  have hcosts : p.costs.same q.costs :=
    (Balance.same_iff_holding hp.keyed.2 hq.keyed.2).2 fun k => by rw [hp.costs, hq.costs]
  have hcost : p.cost.isSome ↔ q.cost.isSome := hp.cost.trans hq.cost.symm
  rw [BalancePair.same, Bool.and_eq_true]
  refine ⟨hquantity, ?_⟩
  rcases p with ⟨_, _ | c⟩ <;> rcases q with ⟨_, _ | d⟩
  · rfl
  · exact absurd (hcost.2 rfl) Bool.false_ne_true
  · exact absurd (hcost.1 rfl) Bool.false_ne_true
  · exact hcosts

/-! ## Negated lots -/

theorem mirrors_addLots (xs : List Lot) :
    Mirrors neg (addLots xs) (addLots (xs.map Lot.neg)) :=
  mirrors_forM (fun x => mirrors_addAmount x.amount x.cost) xs

/-- The negatives of lots come to the negative of their pair. -/
theorem exec_addLots_neg (h : (addLots xs).exec empty = (.ok (), p)) :
    (addLots (xs.map Lot.neg)).exec empty = (.ok (), p.neg) := by
  have hmirror : (addLots (xs.map Lot.neg)).exec empty.neg = _ := mirrors_addLots xs empty
  rw [h] at hmirror
  exact hmirror

theorem total_paid_neg (xs : List Lot) (k : String) :
    Amount.total ((xs.map Lot.neg).map (·.paid)) k = -Amount.total (xs.map (·.paid)) k := by
  rw [← Amount.total_map_neg, List.map_map, List.map_map]
  exact congrArg (Amount.total · k) (List.map_congr_left fun x _ => x.paid_neg)

/-- The negative of the sum is the sum of the negatives. -/
theorem IsSumOf.neg (hp : p.IsSumOf xs) : p.neg.IsSumOf (xs.map Lot.neg) := by
  have hcosts : p.neg.costs = p.costs.neg := by
    obtain ⟨quantity, _ | c⟩ := p <;> rfl
  refine ⟨⟨hp.keyed.1.neg Amount.onCommodity_true,
    hcosts ▸ hp.keyed.2.neg Amount.onCommodity_true⟩, fun k => ?_, fun k => ?_, ?_⟩
  · rw [show p.neg.quantity = p.quantity.neg from rfl, Balance.holding_neg, hp.quantity,
      ← Amount.total_map_neg, List.map_map, List.map_map]
    rfl
  · rw [hcosts, Balance.holding_neg, hp.costs, total_paid_neg]
  · rw [show p.neg.cost = p.cost.map Balance.neg from rfl, Option.isSome_map, hp.cost]
    simp only [List.mem_map, exists_exists_and_eq_and, Lot.neg, Option.isSome_map]

/-! ## Parts -/

/-- Lots of which the commodities have symbols do not mix. -/
theorem Exact.unmixed (h : Exact xs ys) (hwf : ∀ x ∈ xs ++ ys, x.WellFormed) :
    Unmixed xs ys := by
  have hempty : empty.Keyed Amount.WellFormed := ⟨Balance.keyed_empty, Balance.keyed_empty⟩
  have hxs : ∀ x ∈ xs, x.WellFormed := fun x hx => hwf x (List.mem_append_left _ hx)
  have hys : ∀ y ∈ ys, y.WellFormed := fun y hy => hwf y (List.mem_append_right _ hy)
  obtain ⟨hall, -⟩ := addLots_of_wellFormed hempty hwf h.all
  obtain ⟨-, hp⟩ := addLots_of_wellFormed hempty hxs h.all.of_append
  obtain ⟨hrest, hq⟩ := addLots_of_wellFormed hempty hys h.rest
  exact ⟨hall, hrest,
    fun p q hrun hrun' => Balance.unmixed_of_wellFormed (hp p hrun).1 (hq q hrun').1,
    fun p q hrun hrun' => Balance.unmixed_of_wellFormed (hp p hrun).2 (hq q hrun').2⟩

/-- The pairs of the lots of each list and of both, and the sum of the first two. -/
structure Pairs (xs ys : List Lot) (p q r w : BalancePair) : Prop where
  first : (addLots xs).exec empty = (.ok (), p)
  second : (addLots ys).exec empty = (.ok (), q)
  sum : (addPair q).exec p = (.ok (), r)
  both : (addLots (xs ++ ys)).exec empty = (.ok (), w)

variable {r w : BalancePair}

theorem Exact.exists_pairs (h : Exact xs ys) (hu : Unmixed xs ys) :
    ∃ p q r w, Pairs xs ys p q r w ∧ r.IsSumOf (xs ++ ys) ∧ w.IsSumOf (xs ++ ys) := by
  obtain ⟨p, hp, hsump⟩ := isSumOf_empty.addLots h.all.of_append hu.all.of_append
  obtain ⟨q, hq, hsumq⟩ := isSumOf_empty.addLots h.rest hu.rest
  obtain ⟨w, hw, hsumw⟩ := isSumOf_empty.addLots h.all hu.all
  have hquantity : p.quantity.SumsExactly q.quantity := Balance.sumsExactly_of_unmixed
    hsump.keyed.1 hsumq.keyed.1 (hu.quantities p q hp hq) (h.quantities p q hp hq)
  have hcosts : p.costs.SumsExactly q.costs := Balance.sumsExactly_of_unmixed
    hsump.keyed.2 hsumq.keyed.2 (hu.costs p q hp hq) (h.costs p q hp hq)
  obtain ⟨r, hr, hsumr⟩ := hsump.addPair hsumq ⟨hquantity, hcosts⟩
  exact ⟨p, q, r, w, ⟨hp, hq, hr, hw⟩, hsumr, hsumw⟩

/-- The pairs are only there if nothing has been mixed. -/
theorem Pairs.unmixed (h : Exact xs ys) (hpairs : Pairs xs ys p q r w) : Unmixed xs ys := by
  have hempty := isSumOf_empty.keyed
  have hfirst := along_takes_of_addLots hempty h.all.of_append hpairs.first
  have hrest := along_takes_of_addLots hempty h.rest hpairs.second
  obtain ⟨p', hp', hsump⟩ := isSumOf_empty.addLots h.all.of_append hfirst
  obtain ⟨q', hq', hsumq⟩ := isSumOf_empty.addLots h.rest hrest
  obtain rfl : p' = p := congrArg Prod.snd (hp'.symm.trans hpairs.first)
  obtain rfl : q' = q := congrArg Prod.snd (hq'.symm.trans hpairs.second)
  obtain ⟨⟨_, hquantity⟩, _, hcosts⟩ := exec_addPair_ok hpairs.sum
  have hunmixed := Balance.unmixed_of_addBalance hsump.keyed.1 hsumq.keyed.1 hquantity
  have hunmixed' := Balance.unmixed_of_addBalance hsump.keyed.2 hsumq.keyed.2 hcosts
  refine ⟨along_takes_of_addLots hempty h.all hpairs.both, hrest, fun p q hp hq => ?_,
    fun p q hp hq => ?_⟩
  all_goals
    obtain rfl : p' = p := congrArg Prod.snd (hpairs.first.symm.trans hp)
    obtain rfl : q' = q := congrArg Prod.snd (hpairs.second.symm.trans hq)
    assumption

/-- The negatives of lots come to the negatives of their pairs. -/
theorem Pairs.neg (h : Pairs xs ys p q r w) :
    Pairs (xs.map Lot.neg) (ys.map Lot.neg) p.neg q.neg r.neg w.neg where
  first := exec_addLots_neg h.first
  second := exec_addLots_neg h.second
  sum := by rw [mirrors_addPair q p, h.sum]
  both := by
    rw [← List.map_append]
    exact exec_addLots_neg h.both

/-- While sums are exact, lots can be added, and the pairs of them, just if no bare number meets an
amount of a commodity without a symbol, and so they can if all their commodities have symbols.  Then
the pair of lots that come one after the other is the sum of the pairs of the first and of the rest,
wherever the first cost comes, and it holds their sum; the same goes for the negatives. -/
theorem cost_comes_at_any_time (h : Exact xs ys) :
    ((∃ p q r w, Pairs xs ys p q r w) ↔ Unmixed xs ys) ∧
    ((∀ x ∈ xs ++ ys, x.WellFormed) → Unmixed xs ys) ∧
    (Unmixed xs ys → ∃ p q r w, Pairs xs ys p q r w ∧
      r.same w ∧ r.IsSumOf (xs ++ ys) ∧ w.IsSumOf (xs ++ ys) ∧
      Pairs (xs.map Lot.neg) (ys.map Lot.neg) p.neg q.neg r.neg w.neg ∧
      r.neg.same w.neg ∧ w.neg.IsSumOf ((xs ++ ys).map Lot.neg)) := by
  refine ⟨⟨fun ⟨_, _, _, _, hpairs⟩ => hpairs.unmixed h, fun hu => ?_⟩, h.unmixed, fun hu => ?_⟩
  · obtain ⟨p, q, r, w, hpairs, -⟩ := h.exists_pairs hu
    exact ⟨p, q, r, w, hpairs⟩
  · obtain ⟨p, q, r, w, hpairs, hsumr, hsumw⟩ := h.exists_pairs hu
    exact ⟨p, q, r, w, hpairs, hsumr.same hsumw, hsumr, hsumw, hpairs.neg,
      hsumr.neg.same hsumw.neg, hsumw.neg⟩

/-! ## Single lots -/

/-- The pair of one lot. -/
def ofLot (x : Lot) : BalancePair := ⟨.ofAmount x.amount, x.cost.map .ofAmount⟩

theorem costs_ofLot (x : Lot) : (ofLot x).costs = .ofAmount x.paid := by
  obtain ⟨amount, _ | cost⟩ := x <;> rfl

theorem exec_addLot_empty (x : Lot) : (addLot x).exec empty = (.ok (), ofLot x) := by
  obtain ⟨amount, _ | cost⟩ := x <;> rfl

theorem exec_addLots_singleton (x : Lot) : (addLots [x]).exec empty = (.ok (), ofLot x) := by
  rw [addLots, exec_forM_cons, exec_addLot_empty]
  rfl

/-- Two lots of which the numbers under one symbol fit together. -/
theorem exact_of_singletons {x y : Lot}
    (hamount : x.amount.symbol = y.amount.symbol →
      x.amount.quantity.AddsExactly y.amount.quantity)
    (hpaid : x.paid.symbol = y.paid.symbol → x.paid.quantity.AddsExactly y.paid.quantity) :
    Exact [x] [y] := by
  have hempty (z : Lot) : empty.TakesExactly z := ⟨nofun, nofun⟩
  have hheld {a b : Amount} {k : String} (h : (Balance.ofAmount a).amount? k = some b) :
      b = a ∧ a.symbol = k := by
    obtain rfl := Balance.eq_of_amount?_ofAmount h
    exact ⟨rfl, (Balance.keyed_ofAmount (P := fun _ => True) trivial k _ h).1⟩
  refine ⟨⟨hempty x, fun p hp => ⟨⟨fun a ha => ?_, fun a ha => ?_⟩, fun _ _ => trivial⟩⟩,
    ⟨hempty y, fun _ _ => trivial⟩, fun p q hp hq k a b ha hb => ?_,
    fun p q hp hq k a b ha hb => ?_⟩
  · cases (exec_addLot_empty x).symm.trans hp
    obtain ⟨rfl, hk⟩ := hheld ha
    exact hamount hk
  · cases (exec_addLot_empty x).symm.trans hp
    rw [costs_ofLot] at ha
    obtain ⟨rfl, hk⟩ := hheld ha
    exact hpaid hk
  · cases (exec_addLots_singleton x).symm.trans hp
    cases (exec_addLots_singleton y).symm.trans hq
    obtain ⟨⟨rfl, hk⟩, rfl, hk'⟩ := And.intro (hheld ha) (hheld hb)
    exact hamount (hk.trans hk'.symm)
  · cases (exec_addLots_singleton x).symm.trans hp
    cases (exec_addLots_singleton y).symm.trans hq
    rw [costs_ofLot] at ha hb
    obtain ⟨⟨rfl, hk⟩, rfl, hk'⟩ := And.intro (hheld ha) (hheld hb)
    exact hpaid (hk.trans hk'.symm)

/-- One dollar without a cost. -/
def found : Lot := { amount := Balance.dollar }

/-- Two dollars that three euros were paid for. -/
def bought : Lot where
  amount := ⟨.whole false 2 (by decide), some { symbol := "$", precision := 2 }, false⟩
  cost := some ⟨.whole false 3 (by decide), some { symbol := "€", precision := 2 }, false⟩

/-- The dollar that was there before the first cost counts for itself on the cost side. -/
theorem cost_comes_at_any_time_dollars :
    Exact [found] [bought] ∧ Unmixed [found] [bought] ∧
      ∃ p q r w, Pairs [found] [bought] p q r w ∧ r.same w ∧ r.cost.isSome ∧
        r.costs.holding "$" = 1 := by
  have hexact : Exact [found] [bought] := exact_of_singletons
    (fun _ => Decimal.addsExactly_of_lt (by decide)) fun h => absurd h (by decide)
  obtain ⟨-, hwellFormed, hsums⟩ := cost_comes_at_any_time hexact
  have hu : Unmixed [found] [bought] := hwellFormed fun x hx => by
    simp only [List.cons_append, List.nil_append, List.mem_cons, List.not_mem_nil, or_false] at hx
    rcases hx with rfl | rfl <;> refine ⟨fun c hc => ?_, fun c hc => ?_⟩ <;> cases hc <;> decide
  obtain ⟨p, q, r, w, hpairs, hsame, hsum, -⟩ := hsums hu
  have hcost : r.cost.isSome := hsum.cost.2 ⟨bought, by simp, rfl⟩
  refine ⟨hexact, hu, p, q, r, w, hpairs, hsame, hcost, ?_⟩
  rw [hsum.costs]
  show Amount.total [found.amount, bought.paid] "$" = 1
  rw [Amount.total_cons, Amount.total_cons, Amount.holding, Amount.holding, if_pos (by decide),
    if_neg (by decide), show found.amount.quantity.toRat = 1 from Balance.toRat_dollar,
    zero_add]
  exact add_zero (1 : ℚ)

/-- Three of a commodity without a symbol and the number five do not go into one pair, nor do their
pairs add up, although nothing would be rounded. -/
theorem number_and_unnamed_lots :
    let unnamed : Lot :=
      { amount := { quantity := .whole false 3 (by decide), commodity := some { symbol := "" } } }
    let five : Lot := { amount := { quantity := .whole false 5 (by decide) } }
    Exact [unnamed] [five] ∧
      ((addLots [unnamed, five]).exec empty).1 = .error (.amount (.mismatch "" "")) ∧
      ((addPair ((addLots [five]).exec empty).2).exec ((addLots [unnamed]).exec empty).2).1 =
        .error (.amount (.mismatch "" "")) := by
  intro unnamed five
  have hfits : unnamed.amount.quantity.AddsExactly five.amount.quantity :=
    Decimal.addsExactly_of_lt (by decide)
  exact ⟨exact_of_singletons (fun _ => hfits) fun _ => hfits, rfl, rfl⟩

end BalancePair

end Bookkeeping
