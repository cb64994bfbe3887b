import Bookkeeping.Proofs.Amount.Reading
import Bookkeeping.Proofs.Balance.Negation
import Bookkeeping.Proofs.Balance.Representation
import Bookkeeping.Proofs.Expr.Folding
import Bookkeeping.Proofs.Expr.Parsing

/-!
# Labels of values

In a labelled value every amount stands under its own symbol and every commodity has one, so that
bare numbers are told from amounts of a commodity (`Value.Labelled`).  All operators keep values
labelled, and the literals that can be written are.  So what an expression that is read comes to is
labelled in every scope that knows of labelled values only (`Expr.labelled_of_eval`).
-/

namespace Bookkeeping

/-! ## Amounts -/

namespace Amount

variable {a b s : Amount}

theorem WellFormed.add (ha : a.WellFormed) (hb : b.WellFormed) (h : a.add b = .ok s) :
    s.WellFormed := by
  rw [Amount.add] at h
  split at h
  · split at h
    · cases h
      exact ha.of_sumCommodity hb rfl
    · cases h
  · cases h

theorem WellFormed.of_orElse (ha : a.WellFormed) (hb : b.WellFormed)
    (hs : s.commodity = (a.commodity <|> b.commodity)) : s.WellFormed := by
  intro c hc
  rw [hs] at hc
  cases hcommodity : a.commodity with
  | none =>
    rw [hcommodity] at hc
    exact hb c hc
  | some d =>
    rw [hcommodity] at hc
    exact ha c (hcommodity.trans hc)

theorem WellFormed.mul (ha : a.WellFormed) (hb : b.WellFormed) (h : a.mul b = .ok s) :
    s.WellFormed := by
  rw [Amount.mul] at h
  split at h
  · cases h
    exact ha.of_orElse hb rfl
  · cases h

theorem WellFormed.div (ha : a.WellFormed) (hb : b.WellFormed) (h : a.div b = .ok s) :
    s.WellFormed := by
  rw [Amount.div] at h
  split at h
  · cases h
  · split at h
    · cases h
      exact ha.of_orElse hb rfl
    · cases h

theorem WellFormed.neg (ha : a.WellFormed) : a.neg.WellFormed := by
  rw [Amount.neg]
  split <;> exact ha

theorem wellFormed_number (a : Amount) : a.number.WellFormed := wellFormed_of_commodity_none rfl

theorem wellFormed_of_read {text : String} (h : read text = .ok a) : a.WellFormed := by
  intro c hc hempty
  apply ((spec_of_read h).2 c hc).1.ne_nil
  rw [hempty]
  rfl

end Amount

/-! ## Balances -/

namespace Balance

variable {a : Amount} {b c : Balance}

/-- Every amount held stands under its own symbol, and its commodity has one. -/
def Labelled (b : Balance) : Prop := b.BySymbol ∧ ∀ a ∈ b.amounts, a.WellFormed

theorem labelled_empty : empty.Labelled := ⟨bySymbol_empty, fun a ha => by cases ha⟩

theorem Labelled.store {k : String} (hb : b.Labelled) (ha : a.WellFormed) (hsym : a.symbol = k) :
    (b.store k a).Labelled := by
  refine ⟨hb.1.store hsym, fun x hx => ?_⟩
  obtain ⟨key, hkey⟩ := mem_amounts_iff.1 hx
  rw [amount?_store] at hkey
  split at hkey
  · split at hkey
    · cases hkey
    · cases hkey
      exact ha
  · exact hb.2 x (mem_amounts_iff.2 ⟨key, hkey⟩)

theorem labelled_ofAmount (ha : a.WellFormed) : (ofAmount a).Labelled := labelled_empty.store ha rfl

theorem Labelled.addAmount (hb : b.Labelled) (ha : a.WellFormed) (h : b.addAmount a = .ok c) :
    c.Labelled := by
  rw [Balance.addAmount] at h
  split at h
  · cases h
    exact hb.store ha rfl
  · rename_i held hheld
    split at h
    · rename_i sum hsum
      cases h
      have hsym := hb.1 _ held hheld
      have hwf := hb.2 held (mem_amounts_iff.2 ⟨_, hheld⟩)
      exact hb.store (hwf.add ha hsum) ((Amount.symbol_of_add hsum hsym).trans hsym)
    · cases h

theorem Labelled.addBalance (hb : b.Labelled) (hc : c.Labelled) :
    ((addBalance c).exec b).2.Labelled :=
  Attempt.exec_forM_keeps (fun a ha _ hs =>
    Attempt.exec_update_keeps (fun _ => hs.addAmount (hc.2 a ha)) hs) hb

theorem wellFormed_mapAmounts {f : Amount → Except AmountError Amount} (hb : b.Labelled)
    (hf : ∀ a a', a.WellFormed → f a = .ok a' → a'.WellFormed) :
    ∀ a ∈ ((mapAmounts f).exec b).2.amounts, a.WellFormed := by
  intro a' ha'
  obtain ⟨k, hk⟩ := mem_amounts_iff.1 ha'
  obtain ⟨a, ha, hcase⟩ := amount?_of_mapAmounts hk
  have hwf := hb.2 a (mem_amounts_iff.2 ⟨k, ha⟩)
  rcases hcase with rfl | hfa
  · exact hwf
  · exact hf a a' hwf hfa

theorem Labelled.mulBy (hb : b.Labelled) (f : Amount) : ((mulBy f).exec b).2.Labelled := by
  refine ⟨hb.1.mulBy f, ?_⟩
  have hmap := wellFormed_mapAmounts hb fun a a' ha h => ha.mul f.wellFormed_number h
  rw [exec_mulBy]
  rcases hrun : (mapAmounts (·.mul f.number)).exec b with ⟨r, c⟩
  rw [hrun] at hmap
  cases r with
  | ok _ =>
    intro a ha
    obtain ⟨k, hk⟩ := mem_amounts_iff.1 ha
    exact hmap a (mem_amounts_iff.2 ⟨k, (amount?_filter_nonzero hk).1⟩)
  | error _ => exact hmap

theorem Labelled.divBy (hb : b.Labelled) (d : Amount) : ((divBy d).exec b).2.Labelled :=
  ⟨hb.1.divBy d, wellFormed_mapAmounts hb fun _ _ ha h => ha.div d.wellFormed_number h⟩

theorem Labelled.neg (hb : b.Labelled) : b.neg.Labelled := by
  refine ⟨hb.1.neg, fun x hx => ?_⟩
  obtain ⟨k, hk⟩ := mem_amounts_iff.1 hx
  rw [amount?, Balance.neg, Index.get?_mapValues, Option.map_eq_some_iff] at hk
  obtain ⟨a, ha, rfl⟩ := hk
  exact (hb.2 a (mem_amounts_iff.2 ⟨k, ha⟩)).neg

end Balance

/-! ## Pairs -/

namespace BalancePair

variable {p : BalancePair}

theorem quantity_onCost (x : Attempt Balance BalanceError Unit) (p : BalancePair) :
    ((onCost x).exec p).2.quantity = p.quantity := by
  obtain ⟨quantity, _ | c⟩ := p <;> rfl

/-- Whatever becomes of the cost side, the quantity is added to. -/
theorem labelled_addPair {q : BalancePair} (hp : p.quantity.Labelled) (hq : q.quantity.Labelled) :
    ((addPair q).exec p).2.quantity.Labelled := by
  have hquantity (r : BalancePair) (hr : r.quantity.Labelled) :
      ((onQuantity (Balance.addBalance q.quantity)).exec r).2.quantity.Labelled :=
    Balance.Labelled.addBalance hr hq
  have hcost (y : Attempt BalancePair BalanceError Unit)
      (hy : (y.exec p).2.quantity = p.quantity) :
      ((y >>= fun _ => onQuantity (Balance.addBalance q.quantity)).exec p).2.quantity.Labelled := by
    rw [Attempt.exec_bind]
    rcases hrun : y.exec p with ⟨r, t⟩
    rw [hrun] at hy
    have ht : t.quantity.Labelled := by
      rw [show t.quantity = p.quantity from hy]
      exact hp
    cases r with
    | ok _ => exact hquantity t ht
    | error _ => exact ht
  obtain ⟨quantity, _ | c⟩ := p <;> obtain ⟨quantity', _ | c'⟩ := q
  · exact hquantity _ hp
  · rw [exec_addPair_openWith]
    refine hcost _ ?_
    cases hrun : ((Balance.addBalance c').exec quantity).1 <;>
      simp [openWith, Attempt.exec_bind, Attempt.exec_ofExcept, Attempt.exec_modify, hrun]
  · exact hcost _ (quantity_onCost _ _)
  · exact hcost _ (quantity_onCost _ _)

end BalancePair

/-! ## Values -/

namespace Value

variable {u v w : Value} {a b : Amount} {c d : Balance}

/-- Every amount stands under its own symbol, and every commodity has one. -/
def Labelled : Value → Prop
  | null | boolean _ | integer _ | dateTime _ => True
  | amount a => a.WellFormed
  | balance b => b.Labelled
  | pair p => p.quantity.Labelled

theorem wellFormed_toAmount (n : Whole) : n.toAmount.WellFormed :=
  Amount.wellFormed_of_commodity_none rfl

theorem Labelled.view (hv : v.Labelled) (h : v.toBalance? = some c) : c.Labelled := by
  cases v <;> cases h
  case null => exact Balance.labelled_empty
  case integer n => exact Balance.labelled_ofAmount (wellFormed_toAmount n)
  case amount a => exact Balance.labelled_ofAmount hv
  case balance => exact hv
  case pair => exact hv

theorem wellFormed_of_single? (hc : c.Labelled) (h : c.single? = some a) : a.WellFormed := by
  rw [Balance.single?] at h
  split at h
  · rename_i x hx
    cases h
    exact hc.2 a (hx ▸ .head _)
  · cases h

theorem Labelled.toAmount? (hv : v.Labelled) (h : v.toAmount? = some a) : a.WellFormed := by
  cases v
  case null | integer =>
    cases h
    exact Amount.wellFormed_of_commodity_none rfl
  case amount =>
    cases h
    exact hv
  case boolean | dateTime => cases h
  case balance c => exact wellFormed_of_single? hv h
  case pair p => exact wellFormed_of_single? hv h

theorem labelled_ofBalance (hc : c.Labelled) : (ofBalance c).Labelled := by
  rw [ofBalance]
  split
  · exact Amount.wellFormed_of_commodity_none rfl
  · rename_i a ha
    exact hc.2 a (ha ▸ .head _)
  · exact hc

/-! ### Operators -/

theorem labelled_of_orOverflow {n : Option Whole} (h : orOverflow n = .ok w) : w.Labelled := by
  cases n <;> cases h
  trivial

theorem exec_of_afterStep {σ : Type} {x : Attempt σ BalanceError Unit} {s t : σ}
    (h : afterStep x s = .ok t) : (x.exec s).2 = t := by
  rw [afterStep, Attempt.after] at h
  split at h <;> cases h
  rename_i hx
  rw [hx]

theorem labelled_of_addToPair {p : BalancePair} (hp : p.quantity.Labelled) (hv : v.Labelled)
    (h : addToPair p v = .ok w) : w.Labelled := by
  have hstep {q : BalancePair} (hq : q.quantity.Labelled)
      (h : (afterStep (BalancePair.addPair q) p).map pair = .ok w) : w.Labelled := by
    obtain ⟨r, hr, rfl⟩ := exists_of_map_eq_ok h
    cases exec_of_afterStep hr
    exact BalancePair.labelled_addPair hp hq
  rw [addToPair.eq_def] at h
  split at h
  · exact hstep hv h
  · split at h
    · rename_i hc
      exact hstep (hv.view hc) h
    · cases h

theorem labelled_of_addAmounts (ha : a.WellFormed) (hb : b.WellFormed)
    (h : addAmounts a b = .ok w) : w.Labelled := by
  rw [addAmounts] at h
  split at h
  · rename_i sum hsum
    cases h
    exact ha.add hb hsum
  · obtain ⟨d, hd, rfl⟩ := exists_of_map_eq_ok h
    cases hadd : (Balance.ofAmount a).addAmount b with
    | error e =>
      rw [hadd] at hd
      cases hd
    | ok d' =>
      rw [hadd] at hd
      cases hd
      exact labelled_ofBalance ((Balance.labelled_ofAmount ha).addAmount hb hadd)
  · cases h

theorem labelled_of_addBalances (hu : u.Labelled) (hv : v.Labelled)
    (h : addBalances u v = .ok w) : w.Labelled := by
  rw [addBalances] at h
  split at h
  · rename_i b c hb hc
    obtain ⟨d, hd, rfl⟩ := exists_of_map_eq_ok h
    cases exec_of_afterStep hd
    exact labelled_ofBalance ((hu.view hb).addBalance (hv.view hc))
  · cases h

theorem Labelled.add (hu : u.Labelled) (hv : v.Labelled) (h : u.add v = .ok w) : w.Labelled := by
  rw [Value.add.eq_def] at h
  split at h
  · cases h
    exact hv
  · cases h
    exact hu
  · exact labelled_of_orOverflow h
  · exact labelled_of_addToPair hu hv h
  · exact labelled_of_addToPair hv hu h
  · exact labelled_of_addAmounts hu hv h
  · exact labelled_of_addBalances hu hv h

theorem Labelled.neg (hv : v.Labelled) (h : v.neg = .ok w) : w.Labelled := by
  cases v
  case boolean | dateTime => cases h
  case integer => exact labelled_of_orOverflow h
  case null =>
    cases h
    trivial
  case amount a =>
    cases h
    exact Amount.WellFormed.neg hv
  case balance b =>
    cases h
    exact Balance.Labelled.neg hv
  case pair p =>
    cases h
    exact Balance.Labelled.neg hv

theorem Labelled.sub (hu : u.Labelled) (hv : v.Labelled) (h : u.sub v = .ok w) : w.Labelled := by
  rw [Value.sub] at h
  cases hneg : v.neg with
  | error e =>
    rw [hneg] at h
    cases h
  | ok v' =>
    rw [hneg] at h
    exact hu.add (hv.neg hneg) h

/-- What a computation with two single amounts gives is labelled if it is for labelled amounts. -/
theorem labelled_of_amounts {f : Amount → Amount → Except AmountError Amount}
    (hf : ∀ a b s, a.WellFormed → b.WellFormed → f a b = .ok s → s.WellFormed)
    (ha : a.WellFormed) (hb : b.WellFormed)
    (h : ((f a b).mapError ValueError.amount).map amount = .ok w) : w.Labelled := by
  obtain ⟨s, hs, rfl⟩ := exists_of_map_eq_ok h
  cases hrun : f a b with
  | error e =>
    rw [hrun] at hs
    cases hs
  | ok s' =>
    rw [hrun] at hs
    cases hs
    exact hf a b s ha hb hrun

theorem labelled_of_mulAmounts (hu : u.Labelled) (hv : v.Labelled) (h : mulAmounts u v = .ok w) :
    w.Labelled := by
  rw [mulAmounts] at h
  split at h
  · rename_i a b ha hb
    exact labelled_of_amounts (fun _ _ _ ha hb => ha.mul hb) (hu.toAmount? ha) (hv.toAmount? hb) h
  · cases h

theorem labelled_of_scaled {c : Balance} {n : Option Amount} {e : ValueError} (hc : c.Labelled)
    (h : (match n with
      | some factor => (afterStep (Balance.mulBy factor) c).map ofBalance
      | none => .error e) = .ok w) : w.Labelled := by
  split at h
  · obtain ⟨d, hd, rfl⟩ := exists_of_map_eq_ok h
    cases exec_of_afterStep hd
    exact labelled_ofBalance (hc.mulBy _)
  · cases h

theorem Labelled.mul (hu : u.Labelled) (hv : v.Labelled) (h : u.mul v = .ok w) : w.Labelled := by
  rw [Value.mul.eq_def] at h
  split at h
  · exact labelled_of_orOverflow h
  · exact labelled_of_scaled hu h
  · exact labelled_of_scaled hv h
  · exact labelled_of_mulAmounts hu hv h

theorem Labelled.div (hu : u.Labelled) (hv : v.Labelled) (h : u.div v = .ok w) : w.Labelled := by
  have hamounts {a b : Amount} (ha : a.WellFormed) (hb : b.WellFormed)
      (h : ((a.div b).mapError ValueError.amount).map amount = .ok w) : w.Labelled :=
    labelled_of_amounts (fun _ _ _ ha hb => ha.div hb) ha hb h
  rw [Value.div.eq_def] at h
  split at h
  · cases h
  · split at h
    · exact hamounts (wellFormed_toAmount _) (wellFormed_toAmount _) h
    · split at h
      · obtain ⟨d, hd, rfl⟩ := exists_of_map_eq_ok h
        cases exec_of_afterStep hd
        exact Balance.Labelled.divBy hu _
      · cases h
    · split at h
      · rename_i ha hb
        exact hamounts (hu.toAmount? ha) (hv.toAmount? hb) h
      · cases h

end Value

/-! ## Expressions -/

theorem BinaryOp.labelled_apply {op : BinaryOp} {u v w : Value} (hu : u.Labelled) (hv : v.Labelled)
    (h : op.apply u v = .ok w) : w.Labelled := by
  have hcompare {f : Ordering → Bool} (h : (u.compare v).map (fun o => .boolean (f o)) = .ok w) :
      w.Labelled := by
    obtain ⟨o, -, rfl⟩ := exists_of_map_eq_ok h
    trivial
  cases op
  case add => exact hu.add hv h
  case sub => exact hu.sub hv h
  case mul => exact hu.mul hv h
  case div => exact hu.div hv h
  case lt | gt | le | ge => exact hcompare h
  case eq | ne | and | or =>
    cases h
    trivial

theorem BinaryOp.labelled_run {op : BinaryOp} {x y : Except ValueError Value} {w : Value}
    (hx : ∀ u, x = .ok u → u.Labelled) (hy : ∀ v, y = .ok v → v.Labelled)
    (h : op.run x y = .ok w) : w.Labelled := by
  have hboth (h : (x.bind fun u => y.bind (op.apply u)) = .ok w) : w.Labelled := by
    obtain ⟨u, hu, h⟩ := exists_of_bind_eq_ok h
    obtain ⟨v, hv, h⟩ := exists_of_bind_eq_ok h
    exact labelled_apply (hx u hu) (hy v hv) h
  have htruth {f : Value → Bool} (h : y.map (fun v => .boolean (f v)) = .ok w) : w.Labelled := by
    obtain ⟨v, -, rfl⟩ := exists_of_map_eq_ok h
    trivial
  cases op
  case and | or =>
    obtain ⟨u, -, h⟩ := exists_of_bind_eq_ok h
    split at h <;> first
      | exact htruth h
      | cases h
        trivial
  all_goals exact hboth h

theorem UnaryOp.labelled_apply {op : UnaryOp} {v w : Value} (hv : v.Labelled)
    (h : op.apply v = .ok w) : w.Labelled := by
  cases op
  case neg => exact hv.neg h
  case not =>
    cases h
    trivial

namespace Scope

/-- What the scope knows of amounts is labelled. -/
structure Labelled (s : Scope) : Prop where
  amount : s.amount.Labelled
  total : s.total.Labelled
  cost : s.cost.Labelled

end Scope

namespace Expr

/-- Every literal of the expression is labelled. -/
def Labelled : Expr → Prop
  | literal v => v.Labelled
  | known _ | mask _ => True
  | binary _ l r => l.Labelled ∧ r.Labelled
  | unary _ e => e.Labelled

theorem labelled_of_reads {k : Nat} {s r : List Char} {e : Expr} (h : Grammar.Reads k s e r) :
    e.Labelled := by
  induction h with
  | leaf _ hleaf =>
    cases hleaf with
    | integer | yes | no | known => trivial
    | decimal => exact Amount.wellFormed_of_commodity_none rfl
    | amount _ h => exact Amount.wellFormed_of_read h
  | mask _ _ _ => trivial
  | group _ _ _ ih => exact ih
  | unary op _ _ ih => exact ih
  | tighter _ _ ih => exact ih
  | binary op _ _ _ ih₁ ih₂ => exact ⟨ih₁, ih₂⟩

theorem labelled_of_read {text : String} {e : Expr} (h : read text = .ok e) : e.Labelled := by
  obtain ⟨r, hreads, -⟩ := Grammar.derives_of_read h
  exact labelled_of_reads hreads

theorem labelled_of_known {s : Scope} (hs : s.Labelled) (x : Variable) : (x.eval s).Labelled := by
  cases x
  case amount => exact hs.amount
  case total => exact hs.total
  case cost => exact hs.cost
  case date =>
    rw [Variable.eval]
    split <;> trivial
  all_goals trivial

/-- In a scope that knows of labelled values only, expressions come to labelled values. -/
theorem labelled_of_eval {s : Scope} (hs : s.Labelled) {e : Expr} (he : e.Labelled) {v : Value}
    (h : e.eval s = .ok v) : v.Labelled := by
  induction e generalizing v with
  | literal _ =>
    cases h
    exact he
  | known x =>
    cases h
    exact labelled_of_known hs x
  | mask m =>
    cases h
    trivial
  | unary op e ih =>
    rw [eval_unary] at h
    obtain ⟨u, hu, hop⟩ := exists_of_bind_eq_ok h
    exact UnaryOp.labelled_apply (ih he hu) hop
  | binary op l r ihl ihr =>
    rw [eval_binary] at h
    exact BinaryOp.labelled_run (fun _ => ihl he.1) (fun _ => ihr he.2) h

end Expr

end Bookkeeping
