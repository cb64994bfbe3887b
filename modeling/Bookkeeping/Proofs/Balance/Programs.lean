import Bookkeeping.Proofs.Balance.Negation
import Bookkeeping.Proofs.Value.Holding
import Mathlib.Algebra.Group.Pi.Basic
import Mathlib.Algebra.Module.Pi
import Mathlib.Data.List.Perm.Basic
import Mathlib.Data.String.Basic

/-!
# Balances as maps

A program is a list of steps on balances that are kept in slots (`Balance.Step`).  The same steps
can be taken with maps from symbols to rational numbers, commodity by commodity (`Step.onMaps`).
While no sum and no product rounds or overflows (`Program.Exact`), a program fails only where a bare
number meets an amount of a commodity without a symbol, which stand under one symbol but cannot be
added (`Amount.Mixes`).  Where they do not meet (`Program.Unmixed`), every balance is its map
(`Balance.Represents`): what one step does is shown by `Step.run_spec`, and what all of them do by
`run_spec`.  So balances obey the laws of maps (`Balance.programs_compute_maps`).
-/

namespace Bookkeeping

/-! ## Products -/

/-- The product is there, and nothing of it is rounded away. -/
def Decimal.MultipliesExactly (a b : Decimal) : Prop :=
  ∃ p, a.mul? b = some p ∧ p.toRat = a.toRat * b.toRat

theorem Amount.exists_mul_of_exact {a f : Amount} (h : a.quantity.MultipliesExactly f.quantity) :
    ∃ p, a.mul f.number = .ok p ∧ p.symbol = a.symbol ∧ p.commodity = a.commodity ∧
      p.quantity.toRat = a.quantity.toRat * f.quantity.toRat := by
  obtain ⟨q, hq, hrat⟩ := h
  have hcommodity := orElse_number a f
  refine ⟨⟨q, a.commodity, false⟩, ?_, rfl, rfl, hrat⟩
  have hq : a.quantity.mul? f.number.quantity = some q := hq
  simp only [mul, hcommodity, hq]

namespace Balance

variable {b : Balance} {f : Amount} {P : Amount → Prop}

/-- What stands in the balance after exact multiplications has been multiplied. -/
theorem amount?_mapAmounts_mul {k : String} {x : Amount} (hP : Amount.OnCommodity P)
    (hb : b.Keyed P)
    (hexact : ∀ x ∈ b.amounts, x.quantity.MultipliesExactly f.quantity)
    (hx : ((mapAmounts (·.mul f.number)).exec b).2.amount? k = some x) :
    x.symbol = k ∧ P x ∧ x.quantity.toRat = f.quantity.toRat * b.holding k := by
  obtain ⟨a, ha, -⟩ := amount?_of_mapAmounts hx
  obtain ⟨hsym, -, hkind⟩ := hb k a ha
  have hmul (y : Amount) (hy : y ∈ b.amounts) := Amount.exists_mul_of_exact (hexact y hy)
  obtain ⟨p, hp, hsymp, hcommodity, hrat⟩ := hmul a (mem_amounts_iff.2 ⟨k, ha⟩)
  have hpx := (amount?_mapAmounts fun y hy => (hmul y hy).imp fun _ h => h.1).2 k a p ha hp
  obtain rfl : p = x := Option.some.inj (hpx.symm.trans hx)
  refine ⟨hsymp.trans hsym, hP hkind hcommodity, ?_⟩
  rw [hrat, holding_of_amount?_some ha, mul_comm]

/-- Every amount held is multiplied; what becomes zero is dropped. -/
theorem mulBy_spec (hP : Amount.OnCommodity P) (hb : b.Keyed P)
    (hexact : ∀ x ∈ b.amounts, x.quantity.MultipliesExactly f.quantity) :
    ∃ d, (mulBy f).exec b = (.ok (), d) ∧ d.Keyed P ∧
      ∀ k, d.holding k = f.quantity.toRat * b.holding k := by
  have hmul (y : Amount) (hy : y ∈ b.amounts) : ∃ p, y.mul f.number = .ok p :=
    (Amount.exists_mul_of_exact (hexact y hy)).imp fun _ h => h.1
  obtain ⟨hok, hsome⟩ := amount?_mapAmounts hmul
  have hall {k : String} {x : Amount} := amount?_mapAmounts_mul (k := k) (x := x) hP hb hexact
  rcases hrun : (mapAmounts (·.mul f.number)).exec b with ⟨res, c⟩
  rw [hrun] at hok hsome hall
  refine ⟨⟨c.held.filter fun _ a => !a.isZero⟩, ?_, fun k x hx => ?_, fun k => ?_⟩
  · obtain rfl : res = .ok () := hok
    rw [mulBy, Attempt.exec_bind, hrun]
    rfl
  · obtain ⟨hx, hne⟩ := amount?_filter_nonzero hx
    exact ⟨(hall hx).1, hne, (hall hx).2.1⟩
  · cases hx : c.amount? k with
    | none =>
      have hnone : b.amount? k = none := by
        by_contra h
        obtain ⟨a, ha⟩ := Option.ne_none_iff_exists'.1 h
        obtain ⟨p, hp⟩ := hmul a (mem_amounts_iff.2 ⟨k, ha⟩)
        have hsome : c.amount? k = some p := hsome k a p ha hp
        rw [hx] at hsome
        cases hsome
      rw [holding_of_amount?_none hnone, mul_zero]
      refine holding_of_amount?_none ?_
      rw [amount?, Index.get?_filter, show c.held.get? k = none from hx]
      rfl
    | some x =>
      rw [← (hall hx).2.2, holding, amount?, Index.get?_filter,
        show c.held.get? k = some x from hx, Option.filter_some]
      cases hz : x.isZero
      · rfl
      · exact (Amount.isZero_iff_toRat.1 hz).symm

/-! ## Balances that are maps -/

/-- The balance holds just what the map says, in the order of the symbols. -/
structure Represents (b : Balance) (r : String → ℚ) : Prop where
  absent : ∀ k, b.amount? k = none ↔ r k = 0
  present : ∀ k a, b.amount? k = some a → a.symbol = k ∧ a.quantity.toRat = r k
  increasing : (b.amounts.map Amount.symbol).Pairwise (· < ·)
  symbols : ∀ k, k ∈ b.amounts.map Amount.symbol ↔ r k ≠ 0

theorem Keyed.symbols_eq (hb : b.Keyed P) :
    b.amounts.map Amount.symbol = b.held.keys := by
  rw [amounts, Index.values, Index.keys, List.map_map]
  refine List.map_congr_left fun e he => ?_
  exact (hb e.1 e.2 (Index.find?_of_mem b.held.increasing he)).1

/-- A balance in order holds just what it holds. -/
theorem Keyed.represents (hb : b.Keyed P) : b.Represents b.holding := by
  have habsent (k : String) : b.amount? k = none ↔ b.holding k = 0 := by
    refine ⟨holding_of_amount?_none, fun h => ?_⟩
    cases ha : b.amount? k with
    | none => rfl
    | some a =>
      rw [holding_of_amount?_some ha, ← Amount.isZero_iff_toRat, (hb k a ha).2.1] at h
      cases h
  refine ⟨habsent, fun k a ha => ⟨(hb k a ha).1, (holding_of_amount?_some ha).symm⟩, ?_,
    fun k => ?_⟩
  · rw [hb.symbols_eq]
    exact b.held.increasing.imp compareOfLessAndEq_eq_lt.1
  · rw [ne_eq, ← habsent, List.mem_map, Option.eq_none_iff_forall_ne_some, not_forall]
    constructor
    · rintro ⟨a, ha, rfl⟩
      obtain ⟨k, hk⟩ := mem_amounts_iff.1 ha
      exact ⟨a, not_not.2 ((hb k a hk).1 ▸ hk)⟩
    · rintro ⟨a, ha⟩
      have hk := not_not.1 ha
      exact ⟨a, mem_amounts_iff.2 ⟨k, hk⟩, (hb k a hk).1⟩

/-! ## Programs -/

section

variable {σ : Type} [DecidableEq σ]

/-- A step of a program on balances. -/
inductive Step (σ : Type) where
  | new (i : σ)
  | add (i : σ) (a : Amount)
  | sub (i : σ) (a : Amount)
  | addBalance (i j : σ)
  /-- The first balance becomes the negative of the second, which may be the same one. -/
  | neg (i j : σ)
  | mulBy (i : σ) (f : Amount)

namespace Step

/-- A step on the balance of one slot. -/
def onSlot (i : σ) (x : Attempt Balance BalanceError Unit) :
    Attempt (σ → Balance) BalanceError Unit :=
  x.onPart (fun s => s i) fun b s => Function.update s i b

/-- The step on the balances. -/
def run : Step σ → Attempt (σ → Balance) BalanceError Unit
  | new i => modify fun s => Function.update s i .empty
  | add i a => onSlot i (.update (·.addAmount a))
  | sub i a => onSlot i (.update (·.subAmount a))
  | addBalance i j => do onSlot i (Balance.addBalance ((← get) j))
  | neg i j => modify fun s => Function.update s i (s j).neg
  | mulBy i f => onSlot i (Balance.mulBy f)

/-- The step on maps. -/
def onMaps (r : σ → String → ℚ) : Step σ → σ → String → ℚ
  | new i => Function.update r i 0
  | add i a => Function.update r i (r i + a.holding)
  | sub i a => Function.update r i (r i - a.holding)
  | addBalance i j => Function.update r i (r i + r j)
  | neg i j => Function.update r i (-r j)
  | mulBy i f => Function.update r i (f.quantity.toRat • r i)

/-- The amount that the step brings, if it does, is of this kind. -/
def Brings (P : Amount → Prop) : Step σ → Prop
  | add _ a | sub _ a => P a
  | _ => True

/-- No sum and no product that the step comes across is rounded or too large. -/
def Exact (s : σ → Balance) : Step σ → Prop
  | add i a => ∀ x, (s i).amount? a.symbol = some x → x.quantity.AddsExactly a.quantity
  | sub i a => ∀ x, (s i).amount? a.symbol = some x → x.quantity.AddsExactly a.neg.quantity
  | addBalance i j => (s i).AddsExactly (s j)
  | mulBy i f => ∀ x ∈ (s i).amounts, x.quantity.MultipliesExactly f.quantity
  | new _ | neg _ _ => True

/-- The step adds no bare number and amount of a commodity without a symbol to each other. -/
def Unmixed (s : σ → Balance) : Step σ → Prop
  | add i a | sub i a => (s i).Takes a
  | addBalance i j => (s i).Unmixed (s j)
  | new _ | neg _ _ | mulBy _ _ => True

/-- The step adds something to this slot that does not depend on it. -/
def AddsTo (i : σ) : Step σ → Prop
  | add j _ | sub j _ => j = i
  | addBalance j m => j = i ∧ m ≠ i
  | _ => False

/-- What the balances hold. -/
def holdings (s : σ → Balance) (i : σ) : String → ℚ := (s i).holding

variable {x y : Step σ} {s t : σ → Balance} {r : σ → String → ℚ} {i : σ} {P : Amount → Prop}

theorem holdings_update (s : σ → Balance) (i : σ) (b : Balance) :
    holdings (Function.update s i b) = Function.update (holdings s) i b.holding := by
  funext j
  by_cases h : j = i
  · subst h
    rw [holdings, Function.update_self, Function.update_self]
  · rw [holdings, Function.update_of_ne h, Function.update_of_ne h, holdings]

theorem update_spec {b : Balance} {h : String → ℚ} (hs : ∀ j, (s j).Keyed P) (hb : b.Keyed P)
    (hhold : ∀ k, b.holding k = h k) :
    (∀ j, (Function.update s i b j).Keyed P) ∧
      holdings (Function.update s i b) = Function.update (holdings s) i h := by
  refine ⟨fun j => ?_, ?_⟩
  · by_cases hj : j = i
    · subst hj
      rwa [Function.update_self]
    · rw [Function.update_of_ne hj]
      exact hs j
  · rw [holdings_update, funext hhold]

theorem onSlot_spec {z : Attempt Balance BalanceError Unit} {h : String → ℚ}
    (hs : ∀ j, (s j).Keyed P)
    (hz : ∃ d, z.exec (s i) = (.ok (), d) ∧ d.Keyed P ∧ ∀ k, d.holding k = h k) :
    ∃ t, (onSlot i z).exec s = (.ok (), t) ∧ (∀ j, (t j).Keyed P) ∧
      holdings t = Function.update (holdings s) i h := by
  obtain ⟨d, hd, hkeyed, hhold⟩ := hz
  refine ⟨Function.update s i d, ?_, update_spec hs hkeyed hhold⟩
  rw [onSlot, Attempt.exec_onPart, hd]

/-- An exact step that mixes nothing does on the balances what it does on maps. -/
theorem run_spec (hP : Amount.OnCommodity P) (hs : ∀ j, (s j).Keyed P) (hx : x.Brings P)
    (hexact : x.Exact s) (hunmixed : x.Unmixed s) :
    ∃ t, x.run.exec s = (.ok (), t) ∧ (∀ j, (t j).Keyed P) ∧
      holdings t = x.onMaps (holdings s) := by
  cases x with
  | new i => exact ⟨_, rfl, update_spec hs keyed_empty holding_empty⟩
  | add i a =>
    refine onSlot_spec hs ?_
    obtain ⟨d, hd, hkeyed, hhold⟩ :=
      addAmount_exact hP.sumClosed (hs i) hx (hunmixed.addsExactly (hs i) hexact)
    exact ⟨d, Attempt.exec_update_eq_ok_iff.2 hd, hkeyed, hhold⟩
  | sub i a =>
    refine onSlot_spec hs ?_
    have htakes : (s i).Takes a.neg := takes_neg.2 hunmixed
    obtain ⟨d, hd, hkeyed, hhold⟩ := addAmount_exact hP.sumClosed (hs i)
      (hP hx (Amount.commodity_neg a))
      (htakes.addsExactly (hs i) fun y hy => hexact y (Amount.symbol_neg a ▸ hy))
    refine ⟨d, Attempt.exec_update_eq_ok_iff.2 hd, hkeyed, fun k => ?_⟩
    rw [hhold, Amount.holding_neg, ← sub_eq_add_neg]
    rfl
  | addBalance i j =>
    exact onSlot_spec hs (addBalance_exact hP.sumClosed (hs i) (hs j)
      (sumsExactly_of_unmixed (hs i) (hs j) hunmixed hexact))
  | neg i j => exact ⟨_, rfl, update_spec hs ((hs j).neg hP) (holding_neg (s j))⟩
  | mulBy i f => exact onSlot_spec hs (mulBy_spec hP (hs i) hexact)

theorem keyed_of_run (hP : Amount.OnCommodity P) (hs : ∀ j, (s j).Keyed P) (hx : x.Brings P)
    (hexact : x.Exact s) (hunmixed : x.Unmixed s) (h : x.run.exec s = (.ok (), t)) :
    ∀ j, (t j).Keyed P := by
  obtain ⟨u, hu, hkeyed, -⟩ := run_spec hP hs hx hexact hunmixed
  obtain rfl : u = t := congrArg Prod.snd (hu.symm.trans h)
  exact hkeyed

theorem onSlot_eq_ok {z : Attempt Balance BalanceError Unit}
    (h : (onSlot i z).exec s = (.ok (), t)) : z.exec (s i) = (.ok (), (z.exec (s i)).2) := by
  rw [onSlot, Attempt.exec_onPart] at h
  exact Prod.ext (Prod.mk.inj h).1 rfl

/-- A step that succeeds mixes nothing. -/
theorem unmixed_of_run (hs : ∀ j, (s j).Keyed P) (h : x.run.exec s = (.ok (), t)) :
    x.Unmixed s := by
  cases x with
  | add i a => exact takes_of_addAmount (hs i) (Attempt.exec_update_eq_ok_iff.1 (onSlot_eq_ok h))
  | sub i a =>
    exact takes_neg.1 (takes_of_addAmount (hs i) (Attempt.exec_update_eq_ok_iff.1 (onSlot_eq_ok h)))
  | addBalance i j => exact unmixed_of_addBalance (hs i) (hs j) (onSlot_eq_ok h)
  | new _ | neg _ _ | mulBy _ _ => trivial

omit [DecidableEq σ] in
/-- Where all commodities have symbols, a step mixes nothing. -/
theorem unmixed_of_wellFormed (hs : ∀ j, (s j).Keyed Amount.WellFormed)
    (hx : x.Brings Amount.WellFormed) : x.Unmixed s := by
  cases x with
  | add i a | sub i a => exact takes_of_wellFormed (hs i) hx
  | addBalance i j => exact Balance.unmixed_of_wellFormed (hs i) (hs j)
  | new _ | neg _ _ | mulBy _ _ => trivial

/-- What is added does not change as the slot does. -/
theorem AddsTo.exists_gain (hx : x.AddsTo i) :
    ∃ gain : (σ → String → ℚ) → String → ℚ,
      (∀ r, x.onMaps r = Function.update r i (r i + gain r)) ∧
        ∀ r h, gain (Function.update r i h) = gain r := by
  cases x with
  | add _ a =>
    obtain rfl := hx
    exact ⟨fun _ => a.holding, fun _ => rfl, fun _ _ => rfl⟩
  | sub _ a =>
    obtain rfl := hx
    refine ⟨fun _ => -a.holding, fun r => ?_, fun _ _ => rfl⟩
    rw [onMaps, sub_eq_add_neg]
  | addBalance _ m =>
    obtain ⟨rfl, hm⟩ := hx
    exact ⟨fun r => r m, fun _ => rfl, fun r h => Function.update_of_ne hm h r⟩
  | new _ | neg _ _ | mulBy _ _ => exact hx.elim

/-- Steps that add to one slot can be taken in either order. -/
theorem AddsTo.comm (hx : x.AddsTo i) (hy : y.AddsTo i) (r : σ → String → ℚ) :
    y.onMaps (x.onMaps r) = x.onMaps (y.onMaps r) := by
  obtain ⟨g, hg, hsame⟩ := hx.exists_gain
  obtain ⟨g', hg', hsame'⟩ := hy.exists_gain
  rw [hg r, hg', hg' r, hg, hsame, hsame', Function.update_self, Function.update_self,
    Function.update_idem, Function.update_idem, add_right_comm]

end Step

/-- A program on balances that start out empty. -/
abbrev Program (σ : Type) := List (Step σ)

namespace Program

/-- The empty balances. -/
def start : σ → Balance := fun _ => .empty

/-- The balances that the program leaves. -/
def final (p : Program σ) : σ → Balance := ((p.forM Step.run).exec start).2

/-- The maps that the program leaves. -/
def reference (p : Program σ) : σ → String → ℚ := p.foldl Step.onMaps 0

/-- No sum and no product is rounded or too large. -/
def Exact (p : Program σ) : Prop := Attempt.Along Step.run Step.Exact start p

/-- No bare number meets an amount of a commodity without a symbol. -/
def Unmixed (p : Program σ) : Prop := Attempt.Along Step.run Step.Unmixed start p

variable {p q r xs ys : Program σ} {i j : σ} {a f : Amount} {s t : σ → Balance} {P : Amount → Prop}

/-- An exact program that mixes nothing does on the balances what it does on maps. -/
theorem run_spec (hs : ∀ i, (s i).Keyed fun _ => True)
    (hexact : Attempt.Along Step.run Step.Exact s p)
    (hunmixed : Attempt.Along Step.run Step.Unmixed s p) :
    ∃ t, (p.forM Step.run).exec s = (.ok (), t) ∧ (∀ i, (t i).Keyed fun _ => True) ∧
      Step.holdings t = p.foldl Step.onMaps (Step.holdings s) := by
  induction p generalizing s with
  | nil => exact ⟨s, Attempt.exec_forM_nil _ _, hs, rfl⟩
  | cons x p ih =>
    have hx : x.Brings fun _ => True := by cases x <;> trivial
    obtain ⟨t, ht, hkeyed, hhold⟩ :=
      Step.run_spec Amount.onCommodity_true hs hx hexact.1 hunmixed.1
    obtain ⟨u, hu, hkeyedu, hholdu⟩ := ih hkeyed (hexact.2 t ht) (hunmixed.2 t ht)
    refine ⟨u, ?_, hkeyedu, ?_⟩
    · rw [Attempt.exec_forM_cons, ht]
      exact hu
    · rw [hholdu, hhold, List.foldl_cons]

/-- An exact program that runs through mixes nothing. -/
theorem Exact.unmixed_of_run (hp : p.Exact) (h : (p.forM Step.run).exec start = (.ok (), t)) :
    p.Unmixed := by
  refine ((hp.and (Attempt.along_of_exec h)).keeps (I := fun s => ∀ i, (s i).Keyed fun _ => True)
    (fun _ => keyed_empty) fun s x _ hs ⟨hexact, u, hrun⟩ => ?_).1
  have hunmixed := Step.unmixed_of_run hs hrun
  have hx : x.Brings fun _ => True := by cases x <;> trivial
  exact ⟨hunmixed, fun _ =>
    Step.keyed_of_run Amount.onCommodity_true hs hx hexact hunmixed⟩

/-- Where all commodities have symbols, an exact program mixes nothing. -/
theorem Exact.unmixed_of_wellFormed (hp : p.Exact) (hwf : ∀ x ∈ p, x.Brings Amount.WellFormed) :
    p.Unmixed := by
  refine (hp.keeps (I := fun s => ∀ i, (s i).Keyed Amount.WellFormed) (fun _ => keyed_empty)
    fun s x hx hs hexact => ?_).1
  have hunmixed := Step.unmixed_of_wellFormed hs (hwf x hx)
  exact ⟨hunmixed, fun _ =>
    Step.keyed_of_run Amount.onCommodity_wellFormed hs (hwf x hx) hexact hunmixed⟩

theorem Exact.spec (hp : p.Exact) (hu : p.Unmixed) :
    (p.forM Step.run).exec start = (.ok (), p.final) ∧
      (∀ i, (p.final i).Keyed fun _ => True) ∧ ∀ i, (p.final i).holding = p.reference i := by
  obtain ⟨t, ht, hkeyed, hhold⟩ := run_spec (fun _ => keyed_empty) hp hu
  obtain rfl : p.final = t := congrArg Prod.snd ht
  exact ⟨ht, hkeyed, congrFun hhold⟩

theorem Exact.run_iff (hp : p.Exact) :
    (p.forM Step.run).exec start = (.ok (), p.final) ↔ p.Unmixed :=
  ⟨hp.unmixed_of_run, fun hu => (hp.spec hu).1⟩

theorem Exact.represents (hp : p.Exact) (hu : p.Unmixed) (i : σ) :
    (p.final i).Represents (p.reference i) := by
  obtain ⟨-, hkeyed, hhold⟩ := hp.spec hu
  exact hhold i ▸ (hkeyed i).represents

/-- Balances are equal if their maps are. -/
theorem Exact.same_iff (hp : p.Exact) (hup : p.Unmixed) (hq : q.Exact) (huq : q.Unmixed)
    (i j : σ) : (p.final i).same (q.final j) ↔ p.reference i = q.reference j := by
  obtain ⟨-, hkeyedp, hholdp⟩ := hp.spec hup
  obtain ⟨-, hkeyedq, hholdq⟩ := hq.spec huq
  rw [same_iff_holding (hkeyedp i) (hkeyedq j), ← hholdp, ← hholdq, funext_iff]

/-! ### Laws of maps -/

theorem reference_append (p xs : Program σ) :
    (p ++ xs : Program σ).reference = xs.foldl Step.onMaps p.reference := List.foldl_append

theorem reference_perm (hperm : xs.Perm ys) (hxs : ∀ x ∈ xs, x.AddsTo i) (r : Program σ) :
    (r ++ xs : Program σ).reference = (r ++ ys : Program σ).reference := by
  rw [reference_append, reference_append]
  exact hperm.foldl_eq' (fun x hx y hy m => (hxs x hx).comm (hxs y hy) m) r.reference

theorem reference_add_sub (r : Program σ) (i : σ) (a : Amount) :
    (r ++ [.add i a, .sub i a] : Program σ).reference = r.reference := by
  rw [reference_append, List.foldl_cons, List.foldl_cons, List.foldl_nil, Step.onMaps, Step.onMaps,
    Function.update_self, Function.update_idem, add_sub_cancel_right, Function.update_eq_self]

theorem reference_scale (r : Program σ) (f : Amount) (hij : i ≠ j) :
    (r ++ [.addBalance i j, .mulBy i f] : Program σ).reference i =
      (r ++ [.mulBy i f, .mulBy j f, .addBalance i j] : Program σ).reference i := by
  rw [reference_append, reference_append]
  simp only [List.foldl_cons, List.foldl_nil, Step.onMaps, Function.update_self,
    Function.update_of_ne hij, Function.update_of_ne hij.symm, smul_add]

end Program

/-- While sums and products are exact, just those programs run through that nowhere add a bare
number and an amount of a commodity without a symbol to each other, and so do all whose commodities
have symbols.  They leave balances that are the maps which the same steps lead to; balances are
equal if their maps are.  So additions to a balance can be made in any order, what is added can be
taken away, and scaling distributes over sums. -/
theorem programs_compute_maps {p q : Program σ} (hp : p.Exact) (hq : q.Exact) :
    ((p.forM Step.run).exec Program.start = (.ok (), p.final) ↔ p.Unmixed) ∧
    ((∀ x ∈ p, x.Brings Amount.WellFormed) → p.Unmixed) ∧
    (p.Unmixed → ∀ i, (p.final i).Represents (p.reference i)) ∧
    (p.Unmixed → q.Unmixed →
      (∀ i j, (p.final i).same (q.final j) ↔ p.reference i = q.reference j) ∧
      (∀ r xs ys i, p = r ++ xs → q = r ++ ys → xs.Perm ys → (∀ x ∈ xs, x.AddsTo i) →
        ∀ j, (p.final j).same (q.final j)) ∧
      (∀ i a, p = q ++ [.add i a, .sub i a] → ∀ j, (p.final j).same (q.final j)) ∧
      ∀ r i j f, i ≠ j → p = r ++ [.addBalance i j, .mulBy i f] →
        q = r ++ [.mulBy i f, .mulBy j f, .addBalance i j] → (p.final i).same (q.final i)) := by
  refine ⟨hp.run_iff, hp.unmixed_of_wellFormed, hp.represents, fun hup huq =>
    ⟨hp.same_iff hup hq huq, ?_, ?_, ?_⟩⟩
  · rintro r xs ys i rfl rfl hperm hxs j
    exact (hp.same_iff hup hq huq j j).2 (congrFun (Program.reference_perm hperm hxs r) j)
  · rintro i a rfl j
    exact (hp.same_iff hup hq huq j j).2 (congrFun (Program.reference_add_sub q i a) j)
  · rintro r i j f hij rfl rfl
    exact (hp.same_iff hup hq huq i i).2 (Program.reference_scale r f hij)

end

/-- One dollar times ten, to which a dollar is added that is then taken away. -/
theorem programs_compute_maps_refund :
    let q : Program Unit := [.add () dollar, .mulBy () ten]
    let p : Program Unit := q ++ [.add () dollar, .sub () dollar]
    p.Exact ∧ q.Exact ∧ p.Unmixed ∧ (p.final ()).same (q.final ()) ∧
      (p.final ()).Represents (p.reference ()) := by
  intro q p
  have hdollar : dollar.WellFormed := fun c hc => by
    cases hc
    decide
  have htimes {x : Amount} (hx : x ∈ [dollar]) : x.quantity.MultipliesExactly ten.quantity := by
    obtain rfl := List.mem_singleton.1 hx
    exact ⟨ten.quantity, rfl, by rw [toRat_dollar, one_mul]⟩
  have hq : q.Exact := by
    refine ⟨fun x hx => ?_, fun s hs => ⟨fun x hx => ?_, fun _ _ => trivial⟩⟩
    · cases hx
    · cases hs
      exact htimes hx
  have hp : p.Exact := by
    refine ⟨fun x hx => ?_, fun s hs => ⟨fun x hx => ?_, fun s' hs' => ⟨fun x hx => ?_,
      fun s'' hs'' => ⟨fun x hx => ?_, fun _ _ => trivial⟩⟩⟩⟩
    · cases hx
    · cases hs
      exact htimes hx
    · cases hs
      cases hs'
      cases (show some ⟨ten.quantity, dollar.commodity, false⟩ = some x from hx)
      exact Decimal.addsExactly_of_lt (by decide)
    · cases hs
      cases hs'
      cases hs''
      cases (show some ⟨.whole false 11 (by decide), dollar.commodity, false⟩ = some x from hx)
      exact Decimal.addsExactly_of_lt (by decide)
  obtain ⟨-, hunmixed, hrepresents, hlaws⟩ := programs_compute_maps hp hq
  obtain ⟨-, hunmixed', -, -⟩ := programs_compute_maps hq hp
  have hup := hunmixed (by simp [p, q, Step.Brings, hdollar])
  have huq := hunmixed' (by simp [q, Step.Brings, hdollar])
  obtain ⟨-, -, hundo, -⟩ := hlaws hup huq
  exact ⟨hp, hq, hup, hundo () dollar rfl (), hrepresents hup ()⟩

/-- Three of a commodity without a symbol stand where the number five belongs, so that it cannot be
added although nothing would be rounded. -/
theorem number_meets_unnamed :
    let unnamed : Amount :=
      { quantity := .whole false 3 (by decide), commodity := some { symbol := "" } }
    let five : Amount := { quantity := .whole false 5 (by decide) }
    let p : Program Unit := [.add () unnamed, .add () five]
    p.Exact ∧ ((p.forM Step.run).exec Program.start).1 = .error (.amount (.mismatch "" "")) ∧
      ¬(p.final ()).Represents (p.reference ()) := by
  intro unnamed five p
  refine ⟨⟨fun x hx => ?_, fun s hs => ⟨fun x hx => ?_, fun _ _ => trivial⟩⟩, rfl, fun h => ?_⟩
  · cases hx
  · cases hs
    cases (show some unnamed = some x from hx)
    exact Decimal.addsExactly_of_lt (by decide)
  · have hheld : (p.final ()).amount? "" = some unnamed := rfl
    have hrat := (h.present "" unnamed hheld).2
    have hthree : unnamed.quantity.toRat = 3 := Decimal.toRat_whole false 3 _
    have hfive : five.quantity.toRat = 5 := Decimal.toRat_whole false 5 _
    have hsum : p.reference () "" = unnamed.quantity.toRat + five.quantity.toRat := by
      simp only [Program.reference, p, List.foldl_cons, List.foldl_nil, Step.onMaps,
        Function.update_self, Pi.add_apply, Pi.zero_apply, zero_add]
      rfl
    rw [hsum, hthree, hfive] at hrat
    norm_num at hrat

end Balance

end Bookkeeping
