import Bookkeeping.Proofs.Balance.Negation
import Bookkeeping.Proofs.Balance.Representation

/-!
# Failing operations on balances

An operation on a whole balance goes from symbol to symbol and stops at the first that fails: the
symbols below hold what they come to, and the others what they held (`Stopped`).  So a failure
leaves the balance as it was just if nothing comes of the symbols below (`Balance.LeftAs`).  An
amount with a cost fails on a pair before it is on either side, or when it is on the quantity side
alone (`BalancePair.addAmount_stops`); a pair fails on the cost side, or when that side is complete
(`BalancePair.addPair_stops`).
-/

namespace Bookkeeping

open Attempt

/-! ## Changes from symbol to symbol -/

section

variable {α ε : Type}

/-- What is held under each symbol, if anything. -/
abbrev View (α : Type) := String → Option α

/-- A change from symbol to symbol has stopped at one, with its error: what is held below is what
it comes to, and the rest is what it was. -/
structure Stopped (change : String → Except ε (Option α)) (held : View α) (z : String) (e : ε)
    (left : View α) : Prop where
  fails : change z = .error e
  below : ∀ k, k < z → change k = .ok (left k)
  rest : ∀ k, ¬k < z → left k = held k

variable {f g : String → Except ε (Option α)} {held mid left left' : View α} {z key : String}
  {e : ε}

theorem stopped_here (hfails : f z = .error e) (hbelow : ∀ k, k < z → f k = .ok (held k)) :
    Stopped f held z e held :=
  ⟨hfails, hbelow, fun _ _ => rfl⟩

/-- A change that stops later has also made the first symbol what it comes to. -/
theorem Stopped.cons (h : Stopped g mid z e left') (hz : key < z) (hkey : f key = .ok (left key))
    (hrest : ∀ k, k ≠ key → f k = g k ∧ held k = mid k ∧ left k = left' k) :
    Stopped f held z e left := by
  have hne : z ≠ key := by
    rintro rfl
    exact String.lt_irrefl _ hz
  refine ⟨?_, fun k hk => ?_, fun k hk => ?_⟩
  · rw [(hrest z hne).1]
    exact h.fails
  · by_cases hne : k = key
    · rw [hne]
      exact hkey
    · obtain ⟨hf, -, hleft⟩ := hrest k hne
      rw [hf, hleft]
      exact h.below k hk
  · have hne : k ≠ key := by
      rintro rfl
      exact hk hz
    obtain ⟨-, hheld, hleft⟩ := hrest k hne
    rw [hleft, hheld]
    exact h.rest k hk

theorem Stopped.mapError {δ : Type} (h : Stopped f held z e left) (r : ε → δ) :
    Stopped (fun k => (f k).mapError r) held z (r e) left := by
  refine ⟨?_, fun k hk => ?_, h.rest⟩
  · show (f z).mapError r = _
    rw [h.fails]
    rfl
  · show (f k).mapError r = _
    rw [h.below k hk]
    rfl

end

namespace Index

variable {α ε : Type} {key k : String} {v w : α} {l : List (String × α)} {e : ε}

theorem head_lt_of_find? (hl : (((key, v) :: l).map Prod.fst).Pairwise (compare · · = .lt))
    (h : find? k l = some w) : key < k := by
  have hmem : k ∈ l.map Prod.fst := List.mem_map_of_mem (mem_of_find? h)
  exact compareOfLessAndEq_eq_lt.1 ((List.pairwise_cons.1 hl).1 k hmem)

theorem find?_of_lt_head (hl : (((key, v) :: l).map Prod.fst).Pairwise (compare · · = .lt))
    (h : k < key) : find? k ((key, v) :: l) = none :=
  find?_eq_none_of_not_mem (not_mem_of_lt_head (compareOfLessAndEq_eq_lt.2 h) hl)

/-- What comes of what stands under a key when the values are changed. -/
def changeEach (f : α → Except ε α) (l : List (String × α)) (k : String) : Except ε (Option α) :=
  match find? k l with
  | none => .ok none
  | some v => (f v).map some

/-- Values are changed in order, up to the first that cannot be. -/
theorem stopped_mapEntries {f : α → Except ε α}
    (hl : (l.map Prod.fst).Pairwise (compare · · = .lt)) (h : (mapEntries f l).1 = .error e) :
    ∃ z, Stopped (changeEach f l) (find? · l) z e (find? · (mapEntries f l).2) := by
  induction l with
  | nil => cases h
  | cons entry l ih =>
    obtain ⟨key, v⟩ := entry
    have hhead : changeEach f ((key, v) :: l) key = (f v).map some := by
      rw [changeEach, find?_cons_self]
    rw [mapEntries] at h ⊢
    cases hv : f v with
    | error e' =>
      rw [hv] at h hhead
      cases h
      refine ⟨key, stopped_here hhead fun k hk => ?_⟩
      rw [changeEach, find?_of_lt_head hl hk]
    | ok v' =>
      rw [hv] at h hhead
      obtain ⟨z, hz⟩ := ih (List.pairwise_cons.1 hl).2 h
      refine ⟨z, Stopped.cons hz (?_ : key < z) ?_ fun k hk => ⟨?_, ?_, ?_⟩⟩
      · have hfails := hz.fails
        unfold changeEach at hfails
        split at hfails
        · cases hfails
        · rename_i w hw
          exact head_lt_of_find? hl hw
      · rw [hhead]
        exact congrArg Except.ok (find?_cons_self key v' _).symm
      · rw [changeEach, changeEach, find?_cons_of_ne v l hk]
      · exact find?_cons_of_ne v l hk
      · exact find?_cons_of_ne v' _ hk

/-- If the first value cannot be changed, none is. -/
theorem mapEntries_of_errors {f : α → Except ε α} (hf : ∀ v, ∃ e, f v = .error e)
    (l : List (String × α)) : (mapEntries f l).2 = l := by
  cases l with
  | nil => rfl
  | cons entry l =>
    obtain ⟨e, he⟩ := hf entry.2
    rw [mapEntries, he]

end Index

namespace Balance

variable {b c t : Balance} {e : BalanceError}

/-- The balance has been changed from symbol to symbol, up to one that could not be; what is left is
the balance as it was just if the change makes nothing else of the symbols below. -/
def LeftAs (b : Balance) (change : String → Except BalanceError (Option Amount)) (e : BalanceError)
    (t : Balance) : Prop :=
  ∃ z, Stopped change b.amount? z e t.amount? ∧ (t = b ↔ ∀ k, k < z → change k = .ok (b.amount? k))

theorem leftAs_of_stopped {change : String → Except BalanceError (Option Amount)} {z : String}
    (h : Stopped change b.amount? z e t.amount?) : b.LeftAs change e t := by
  refine ⟨z, h, ?_, fun hsame => ext_amount? fun k => ?_⟩
  · rintro rfl
    exact h.below
  · by_cases hk : k < z
    · exact Except.ok.inj ((h.below k hk).symm.trans (hsame k hk))
    · exact h.rest k hk

/-! ## Adding a balance -/

/-- What comes of what is held under a symbol when an amount is added. -/
def plus (held : Option Amount) (a : Amount) : Except BalanceError (Option Amount) :=
  match held with
  | none => .ok (if a.isZero then none else some a)
  | some x =>
    match x.add a with
    | .ok s => .ok (if s.isZero then none else some s)
    | .error e => .error (.amount e)

/-- What comes of what is held under a symbol when the amounts under their symbols are added. -/
def plusEach (b : Balance) (added : View Amount) (k : String) :
    Except BalanceError (Option Amount) :=
  match added k with
  | none => .ok (b.amount? k)
  | some a => plus (b.amount? k) a

/-- Adding an amount is adding it to what is held under its symbol. -/
theorem plus_eq (b : Balance) (a : Amount) :
    plus (b.amount? a.symbol) a = (b.addAmount a).map (·.amount? a.symbol) := by
  unfold plus addAmount
  cases b.amount? a.symbol with
  | none =>
    show _ = Except.ok ((b.store a.symbol a).amount? a.symbol)
    rw [amount?_store, if_pos rfl]
  | some x =>
    cases hs : x.add a with
    | error e => simp only [hs, Except.map]
    | ok s =>
      simp only [hs, Except.map]
      rw [amount?_store, if_pos rfl]

/-- Amounts are added one after the other, up to the first that cannot be. -/
theorem stopped_addEntries {l : List (String × Amount)}
    (hinc : (l.map Prod.fst).Pairwise (compare · · = .lt))
    (hl : ∀ k x, Index.find? k l = some x → x.symbol = k)
    (h : ((l.map Prod.snd).forM fun a => update (·.addAmount a)).exec b = (.error e, t)) :
    ∃ z, Stopped (b.plusEach (Index.find? · l)) b.amount? z e t.amount? := by
  induction l generalizing b with
  | nil => cases h
  | cons entry l ih =>
    obtain ⟨key, a⟩ := entry
    obtain rfl := hl key a (Index.find?_cons_self key a l)
    have hhead : b.plusEach (Index.find? · ((a.symbol, a) :: l)) a.symbol =
        (b.addAmount a).map (·.amount? a.symbol) := by
      rw [plusEach, Index.find?_cons_self]
      exact plus_eq b a
    have hbefore {k : String} {x : Amount} (hx : Index.find? k l = some x) : a.symbol < k :=
      Index.head_lt_of_find? hinc hx
    rw [List.map_cons, exec_forM_cons, exec_update] at h
    cases hadd : b.addAmount a with
    | error e' =>
      rw [hadd] at h hhead
      cases h
      refine ⟨a.symbol, stopped_here hhead fun k hk => ?_⟩
      rw [plusEach, Index.find?_of_lt_head hinc hk]
    | ok b' =>
      rw [hadd] at h hhead
      have htail (k : String) (x : Amount) (hx : Index.find? k l = some x) : x.symbol = k := by
        have hne : k ≠ a.symbol := by
          rintro rfl
          exact String.lt_irrefl _ (hbefore hx)
        exact hl k x ((Index.find?_cons_of_ne a l hne).trans hx)
      obtain ⟨z, hz⟩ := ih (List.pairwise_cons.1 hinc).2 htail h
      have hlt : a.symbol < z := by
        have hfails := hz.fails
        unfold plusEach at hfails
        split at hfails
        · cases hfails
        · rename_i x hx
          exact hbefore hx
      refine ⟨z, hz.cons hlt ?_ fun k hk => ⟨?_, ?_, rfl⟩⟩
      · -- The others are added under other symbols, so that the first sum stays as it is.
        rw [hhead, ← hz.below _ hlt, plusEach, Index.find?_head_tail hinc]
        rfl
      · rw [plusEach, plusEach, Index.find?_cons_of_ne a l hk, amount?_addAmount_of_ne hadd hk]
      · exact (amount?_addAmount_of_ne hadd hk).symm

theorem addBalance_leaves (hc : c.BySymbol) (h : (addBalance c).exec b = (.error e, t)) :
    b.LeftAs (b.plusEach c.amount?) e t := by
  obtain ⟨z, hz⟩ := stopped_addEntries c.held.increasing hc h
  exact leftAs_of_stopped hz

/-! ## Multiplying and dividing -/

/-- What comes of what is held under a symbol when every amount is changed. -/
def changeEach (f : Amount → Except AmountError Amount) (b : Balance) (k : String) :
    Except BalanceError (Option Amount) :=
  (Index.changeEach f b.held.entries k).mapError .amount

theorem mapAmounts_leaves {f : Amount → Except AmountError Amount}
    (h : (mapAmounts f).exec b = (.error e, t)) : b.LeftAs (b.changeEach f) e t := by
  obtain ⟨hr, rfl⟩ := Prod.mk.inj h
  have hr : (Index.mapEntries f b.held.entries).1.mapError .amount = .error e := hr
  cases hmap : (Index.mapEntries f b.held.entries).1 with
  | ok _ =>
    rw [hmap] at hr
    cases hr
  | error e' =>
    rw [hmap] at hr
    cases hr
    obtain ⟨z, hz⟩ := Index.stopped_mapEntries b.held.increasing hmap
    exact leftAs_of_stopped (hz.mapError BalanceError.amount)

/-- A product fails before anything is dropped. -/
theorem mulBy_leaves {factor : Amount} (h : (mulBy factor).exec b = (.error e, t)) :
    b.LeftAs (b.changeEach (·.mul factor.number)) e t := by
  unfold mulBy at h
  rw [exec_bind] at h
  split at h
  · cases h
  · rename_i hmap
    cases h
    exact mapAmounts_leaves hmap

/-- Division by zero fails at the first amount, if there is one. -/
theorem divBy_of_isZero {divisor : Amount} (hzero : divisor.isZero) (b : Balance) :
    ((divBy divisor).exec b).2 = b := by
  have herror (a : Amount) : a.div divisor.number = .error .divisionByZero := by
    unfold Amount.div
    exact if_pos hzero
  refine ext_amount? fun k => ?_
  show Index.find? k (Index.mapEntries (·.div divisor.number) b.held.entries).2 = _
  rw [Index.mapEntries_of_errors fun a => ⟨_, herror a⟩]
  rfl

end Balance

/-! ## Pairs -/

namespace BalancePair

variable {p q t : BalancePair} {a : Amount} {cost : Option Amount} {e : BalanceError}

/-- The cost side once a cost comes in, if one does. -/
def costFor (p : BalancePair) (cost : Option Amount) : Option Balance :=
  if cost.isSome then some p.costs else p.cost

theorem costFor_eq_cost_iff (p : BalancePair) (cost : Option Amount) :
    p.costFor cost = p.cost ↔ (cost.isSome → p.cost.isSome) := by
  unfold costFor costs
  cases cost <;> cases p.cost <;> simp

theorem exec_addAmount (p : BalancePair) (a : Amount) (cost : Option Amount) :
    (addAmount a cost).exec p =
      (do onQuantity (.update (·.addAmount a))
          onCost (.update (·.addAmount (cost.getD a))) :
        Attempt BalancePair BalanceError Unit).exec { p with cost := p.costFor cost } := by
  cases cost <;> rfl

/-- An amount fails on the quantity side, or when it is on that side alone. -/
theorem addAmount_stops (h : (addAmount a cost).exec p = (.error e, t)) :
    t.cost = p.costFor cost ∧
      (p.quantity.addAmount a = .error e ∧ t.quantity = p.quantity ∨
        p.quantity.addAmount a = .ok t.quantity ∧
          ∃ c, t.cost = some c ∧ c.addAmount (cost.getD a) = .error e) := by
  rw [exec_addAmount, exec_bind, onQuantity, exec_onPart, exec_update] at h
  cases hq : p.quantity.addAmount a with
  | error e' =>
    simp only [hq] at h
    cases h
    exact ⟨rfl, .inl ⟨rfl, rfl⟩⟩
  | ok d =>
    simp only [hq] at h
    cases hcost : p.costFor cost with
    | none =>
      rw [hcost] at h
      cases h
    | some c =>
      rw [hcost, exec_onCost_some, exec_update] at h
      split at h
      · cases h
      · rename_i hc
        cases h
        exact ⟨rfl, .inr ⟨rfl, c, rfl, hc⟩⟩

theorem exists_of_onQuantity_error {x : Attempt Balance BalanceError Unit}
    (h : (onQuantity x).exec p = (.error e, t)) :
    ∃ d, x.exec p.quantity = (.error e, d) ∧ t = { p with quantity := d } := by
  rw [onQuantity, exec_onPart] at h
  obtain ⟨hx, rfl⟩ := Prod.mk.inj h
  exact ⟨(x.exec p.quantity).2, Prod.ext hx rfl, rfl⟩

/-- A pair fails on the cost side, or on the quantity side when the cost side is complete. -/
theorem addPair_stops (h : (addPair q).exec p = (.error e, t)) :
    (∃ c, (Balance.addBalance q.costs).exec p.costs = (.error e, c) ∧
        t = { p with cost := p.cost.map fun _ => c }) ∨
      (Balance.addBalance q.quantity).exec p.quantity = (.error e, t.quantity) ∧
        if p.cost.isSome || q.cost.isSome then
          ∃ c, t.cost = some c ∧ (Balance.addBalance q.costs).exec p.costs = (.ok (), c)
        else t.cost = none := by
  obtain ⟨quantity, cost⟩ := p
  obtain ⟨quantity', cost'⟩ := q
  rcases cost with _ | c
  · rcases cost' with _ | c'
    · obtain ⟨d, hd, rfl⟩ := exists_of_onQuantity_error (p := ⟨quantity, none⟩) h
      exact .inr ⟨hd, rfl⟩
    · rw [exec_addPair_openWith, exec_bind, openWith, exec_bind, exec_ofExcept] at h
      rcases hrun : (Balance.addBalance c').exec quantity with ⟨e' | _, d'⟩
      · rw [hrun] at h
        cases h
        exact .inl ⟨d', hrun, rfl⟩
      · rw [hrun] at h
        obtain ⟨d, hd, rfl⟩ := exists_of_onQuantity_error (p := ⟨quantity, some d'⟩) h
        exact .inr ⟨hd, d', rfl, hrun⟩
  · replace h : (do onCost (Balance.addBalance (cost'.getD quantity'))
                    onQuantity (Balance.addBalance quantity') :
        Attempt BalancePair BalanceError Unit).exec ⟨quantity, some c⟩ = (.error e, t) := h
    rw [exec_bind, exec_onCost_some] at h
    rcases hrun : (Balance.addBalance (cost'.getD quantity')).exec c with ⟨e' | _, d'⟩
    · rw [hrun] at h
      cases h
      exact .inl ⟨d', hrun, rfl⟩
    · rw [hrun] at h
      obtain ⟨d, hd, rfl⟩ := exists_of_onQuantity_error (p := ⟨quantity, some d'⟩) h
      exact .inr ⟨hd, d', rfl, hrun⟩

end BalancePair

/-! ## What is left -/

/-- A balance is left changed below the symbol at which an operation fails, so a division by zero
changes nothing.  A pair keeps an amount on the quantity side when it fails on the cost side, and
the cost of a pair when its quantity fails. -/
theorem left_by_failures (b c : Balance) (p q : BalancePair) (a : Amount) (cost : Option Amount)
    (e : BalanceError) :
    (Balance.Arises (fun _ _ => True) c → ∀ t, (Balance.addBalance c).exec b = (.error e, t) →
        b.LeftAs (b.plusEach c.amount?) e t) ∧
      (∀ t, (Balance.mulBy a).exec b = (.error e, t) →
        b.LeftAs (b.changeEach (·.mul a.number)) e t) ∧
      (∀ t, (Balance.divBy a).exec b = (.error e, t) →
        b.LeftAs (b.changeEach (·.div a.number)) e t ∧ (a.isZero → t = b)) ∧
      (∀ t, (BalancePair.addAmount a cost).exec p = (.error e, t) →
        t.cost = p.costFor cost ∧
          (p.quantity.addAmount a = .error e ∧ t.quantity = p.quantity ∨
            p.quantity.addAmount a = .ok t.quantity ∧
              ∃ d, t.cost = some d ∧ d.addAmount (cost.getD a) = .error e) ∧
          (t = p ↔ t.quantity = p.quantity ∧ (cost.isSome → p.cost.isSome))) ∧
      ∀ t, (BalancePair.addPair q).exec p = (.error e, t) →
        (∃ d, (Balance.addBalance q.costs).exec p.costs = (.error e, d) ∧
          t = { p with cost := p.cost.map fun _ => d }) ∨
        (Balance.addBalance q.quantity).exec p.quantity = (.error e, t.quantity) ∧
          if p.cost.isSome || q.cost.isSome then
            ∃ d, t.cost = some d ∧ (Balance.addBalance q.costs).exec p.costs = (.ok (), d)
          else t.cost = none := by
  refine ⟨fun hc t h => Balance.addBalance_leaves hc.bySymbol h,
    fun t h => Balance.mulBy_leaves h, fun t h => ⟨Balance.mapAmounts_leaves h, fun hzero => ?_⟩,
    fun t h => ?_, fun t h => BalancePair.addPair_stops h⟩
  · rw [← Balance.divBy_of_isZero hzero b, h]
  · obtain ⟨hcost, hsides⟩ := BalancePair.addAmount_stops h
    refine ⟨hcost, hsides, ?_⟩
    rw [← BalancePair.costFor_eq_cost_iff, ← hcost]
    constructor
    · rintro rfl
      exact ⟨rfl, rfl⟩
    · rintro ⟨hquantity, hcost⟩
      cases t
      cases p
      cases hquantity
      cases hcost
      rfl

namespace Failures

open Balance

/-- More than half of the euros that there can be. -/
def manyEuros : Amount :=
  ⟨.whole false 50000000000000000000000000000 (by decide), some { symbol := "EUR" }, false⟩

/-- A dollar and many euros. -/
def purse : Balance := ((update (·.addAmount manyEuros)).exec (ofAmount dollar)).2

/-- A dollar that has cost many euros. -/
def dearDollar : BalancePair := ⟨ofAmount dollar, some (ofAmount manyEuros)⟩

/-- The euros of two purses do not fit in one, nor do those of ten, nor the cost of two dollars. -/
theorem left_by_failures_purse :
    Arises (fun _ _ => True) purse ∧
      purse.LeftAs (purse.plusEach purse.amount?) (.amount .overflow)
        ((addBalance purse).exec purse).2 ∧
      purse.LeftAs (purse.changeEach (·.mul ten.number)) (.amount .overflow)
        ((mulBy ten).exec purse).2 ∧
      (((BalancePair.addAmount dollar (some manyEuros)).exec dearDollar).2 = dearDollar ↔
        ((BalancePair.addAmount dollar (some manyEuros)).exec dearDollar).2.quantity =
          dearDollar.quantity ∧ dearDollar.cost.isSome) := by
  have hpurse : Arises (fun _ _ => True) purse := .addAmount manyEuros (.ofAmount dollar)
  obtain ⟨hadd, hmul, -⟩ := left_by_failures purse purse dearDollar dearDollar ten none
    (.amount .overflow)
  obtain ⟨-, -, -, hcost, -⟩ := left_by_failures purse purse dearDollar dearDollar dollar
    (some manyEuros) (.amount .overflow)
  obtain ⟨-, -, hleft⟩ := hcost _ (Prod.ext rfl rfl)
  exact ⟨hpurse, hadd hpurse _ (Prod.ext rfl rfl), hmul _ (Prod.ext rfl rfl),
    hleft.trans (and_congr_right fun _ => ⟨fun h => h rfl, fun h _ => h⟩)⟩

/-- The second dollar stays in the purse that the euros with it do not fit in, and the second dear
dollar is there without its cost. -/
theorem dollar_stays_added :
    ((addBalance purse).exec purse).1 = .error (.amount .overflow) ∧
      ((addBalance purse).exec purse).2 ≠ purse ∧
      ((BalancePair.addAmount dollar (some manyEuros)).exec dearDollar).1 =
        .error (.amount .overflow) ∧
      ((BalancePair.addAmount dollar (some manyEuros)).exec dearDollar).2.quantity ≠
        dearDollar.quantity ∧
      ((BalancePair.addAmount dollar (some manyEuros)).exec dearDollar).2.cost =
        dearDollar.cost := by
  have hdollars {x y : Balance} (hx : (x.amount? "$").map (·.quantity.mantissa) = some 2)
      (hy : (y.amount? "$").map (·.quantity.mantissa) = some 1) : x ≠ y := by
    rintro rfl
    rw [hx] at hy
    cases hy
  exact ⟨rfl, hdollars rfl rfl, rfl, hdollars rfl rfl, rfl⟩

end Failures

end Bookkeeping
