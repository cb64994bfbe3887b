import Bookkeeping.Expr.Predicate
import Bookkeeping.Proofs.Expr.Writing

/-!
# Folding

Folding an expression does not change what it means.  `BinaryOp.run` is an operator on the outcomes
of its two sides, with the sides it does not look at; evaluation is built from it (`eval_binary`),
and on two values it is `BinaryOp.apply` (`run_ok`), which is what folding computes.  A predicate
asks the folded formula, and settles it without a scope where it is a literal; since no expression
that is read holds nothing (`noNull_of_read`), that literal counts as what it is.
-/

namespace Bookkeeping

/-! ## Operators on outcomes -/

/-- The operator on what its sides come to; `&&` and `||` do not look at the right side when the
left one settles the answer. -/
def BinaryOp.run (op : BinaryOp) (x y : Except ValueError Value) : Except ValueError Value :=
  match op with
  | .and => x.bind fun u => if u.isTruthy then y.map (.boolean ·.isTruthy) else .ok (.boolean false)
  | .or => x.bind fun u => if u.isTruthy then .ok (.boolean true) else y.map (.boolean ·.isTruthy)
  | op => x.bind fun u => y.bind (op.apply u)

theorem BinaryOp.run_ok (op : BinaryOp) (u v : Value) : op.run (.ok u) (.ok v) = op.apply u v := by
  cases op with
  | and => cases hu : u.isTruthy <;> simp [run, apply, Except.bind, Except.map, hu]
  | or => cases hu : u.isTruthy <;> simp [run, apply, Except.bind, Except.map, hu]
  | _ => rfl

namespace Expr

theorem eval_binary (s : Scope) (op : BinaryOp) (l r : Expr) :
    (binary op l r).eval s = op.run (l.eval s) (r.eval s) := by
  cases op with
  | and | or =>
    rw [eval, BinaryOp.run]
    cases l.eval s with
    | error _ => rfl
    | ok u =>
      cases r.eval s <;> cases hu : u.isTruthy <;>
        simp [bind, Except.bind, Except.map, pure, Except.pure, hu]
  | _ => rfl

theorem eval_unary (s : Scope) (op : UnaryOp) (e : Expr) :
    (unary op e).eval s = (e.eval s).bind op.apply := rfl

/-! ## The meaning of a folded expression -/

theorem eval_foldBinary (s : Scope) (op : BinaryOp) (l r : Expr) :
    (foldBinary op l r).eval s = op.run (l.eval s) (r.eval s) := by
  unfold foldBinary
  split
  · rename_i u v
    rw [eval, eval, BinaryOp.run_ok]
    cases h : op.apply u v with
    | ok w => rfl
    | error e => rw [eval_binary, eval, eval, BinaryOp.run_ok, h]
  · rw [eval_binary]

theorem eval_foldUnary (s : Scope) (op : UnaryOp) (e : Expr) :
    (foldUnary op e).eval s = (e.eval s).bind op.apply := by
  unfold foldUnary
  split
  · rename_i v
    cases h : op.apply v with
    | ok w => rw [eval, eval, Except.bind, h]
    | error x => rw [eval_unary, eval]
  · rw [eval_unary]

/-- The folded expression comes to the same value, or to the same error. -/
theorem eval_fold (s : Scope) (e : Expr) : e.fold.eval s = e.eval s := by
  induction e with
  | literal _ | known _ | mask _ => rfl
  | binary op l r ihl ihr => rw [fold, eval_foldBinary, ihl, ihr, eval_binary]
  | unary op e ih => rw [fold, eval_foldUnary, ih, eval_unary]

end Expr

/-! ## Operators that leave something -/

namespace Value

theorem isNull_of_map {ε α : Type} {x : Except ε α} {f : α → Value} {w : Value}
    (hf : ∀ a, (f a).isNull = false) (h : x.map f = .ok w) : w.isNull = false := by
  cases x with
  | error _ => cases h
  | ok a =>
    cases h
    exact hf a

theorem isNull_of_orOverflow {n : Option Whole} {w : Value} (h : orOverflow n = .ok w) :
    w.isNull = false := by
  cases n with
  | none => cases h
  | some n =>
    cases h
    rfl

theorem isNull_ofBalance (b : Balance) : (ofBalance b).isNull = false := by
  unfold ofBalance
  split <;> rfl

theorem isNull_addToPair {p : BalancePair} {v w : Value} (h : addToPair p v = .ok w) :
    w.isNull = false := by
  unfold addToPair at h
  split at h
  · exact isNull_of_map (fun _ => rfl) h
  · split at h
    · exact isNull_of_map (fun _ => rfl) h
    · cases h

theorem isNull_addAmounts {a b : Amount} {w : Value} (h : addAmounts a b = .ok w) :
    w.isNull = false := by
  unfold addAmounts at h
  split at h
  · cases h
    rfl
  · exact isNull_of_map isNull_ofBalance h
  · cases h

theorem isNull_addBalances {u v w : Value} (h : addBalances u v = .ok w) : w.isNull = false := by
  unfold addBalances at h
  split at h
  · exact isNull_of_map isNull_ofBalance h
  · cases h

theorem isNull_add {u v w : Value} (h : u.add v = .ok w) (hu : u.isNull = false) :
    w.isNull = false := by
  unfold add at h
  split at h
  · cases hu
  · cases h
    exact hu
  · exact isNull_of_orOverflow h
  · exact isNull_addToPair h
  · exact isNull_addToPair h
  · exact isNull_addAmounts h
  · exact isNull_addBalances h

theorem isNull_neg {v w : Value} (h : v.neg = .ok w) (hv : v.isNull = false) :
    w.isNull = false := by
  unfold neg at h
  split at h
  · cases hv
  · exact isNull_of_orOverflow h
  all_goals cases h
  all_goals rfl

theorem isNull_mulAmounts {u v w : Value} (h : mulAmounts u v = .ok w) : w.isNull = false := by
  unfold mulAmounts at h
  split at h
  · exact isNull_of_map (fun _ => rfl) h
  · cases h

theorem isNull_scale {b : Balance} {n w : Value} {x : ValueError}
    (h : (match n.toAmount? with
      | some factor => (afterStep (Balance.mulBy factor) b).map ofBalance
      | none => .error x) = .ok w) : w.isNull = false := by
  split at h
  · exact isNull_of_map isNull_ofBalance h
  · cases h

theorem isNull_mul {u v w : Value} (h : u.mul v = .ok w) : w.isNull = false := by
  unfold mul at h
  split at h
  · exact isNull_of_orOverflow h
  · exact isNull_scale h
  · exact isNull_scale h
  · exact isNull_mulAmounts h

theorem isNull_div {u v w : Value} (h : u.div v = .ok w) : w.isNull = false := by
  unfold div at h
  split at h
  · cases h
  · split at h
    · exact isNull_of_map (fun _ => rfl) h
    · split at h
      · exact isNull_of_map (fun _ => rfl) h
      · cases h
    · split at h
      · exact isNull_of_map (fun _ => rfl) h
      · cases h

end Value

/-- An operator between something and something else does not come to nothing. -/
theorem BinaryOp.isNull_apply {op : BinaryOp} {u v w : Value} (h : op.apply u v = .ok w)
    (hu : u.isNull = false) : w.isNull = false := by
  cases op with
  | add => exact Value.isNull_add h hu
  | sub =>
    simp only [apply, Value.sub] at h
    cases hv : v.neg with
    | error _ =>
      rw [hv] at h
      cases h
    | ok v' =>
      rw [hv] at h
      exact Value.isNull_add h hu
  | mul => exact Value.isNull_mul h
  | div => exact Value.isNull_div h
  | lt | gt | le | ge => exact Value.isNull_of_map (fun _ => rfl) h
  | eq | ne | and | or =>
    cases h
    rfl

theorem UnaryOp.isNull_apply {op : UnaryOp} {v w : Value} (h : op.apply v = .ok w)
    (hv : v.isNull = false) : w.isNull = false := by
  cases op with
  | neg => exact Value.isNull_neg h hv
  | not =>
    cases h
    rfl

/-! ## Expressions without nothing -/

namespace Expr

/-- No literal of the expression is nothing. -/
def NoNull : Expr → Prop
  | literal v => v.isNull = false
  | known _ | mask _ => True
  | binary _ l r => l.NoNull ∧ r.NoNull
  | unary _ e => e.NoNull

theorem noNull_foldBinary {op : BinaryOp} {l r : Expr} (hl : l.NoNull) (hr : r.NoNull) :
    (foldBinary op l r).NoNull := by
  unfold foldBinary
  split
  · rename_i u v
    cases h : op.apply u v with
    | ok w => exact BinaryOp.isNull_apply h hl
    | error _ => exact ⟨hl, hr⟩
  · exact ⟨hl, hr⟩

theorem noNull_foldUnary {op : UnaryOp} {e : Expr} (he : e.NoNull) : (foldUnary op e).NoNull := by
  unfold foldUnary
  split
  · rename_i v
    cases h : op.apply v with
    | ok w => exact UnaryOp.isNull_apply h he
    | error _ => exact he
  · exact he

theorem noNull_fold {e : Expr} (h : e.NoNull) : e.fold.NoNull := by
  induction e with
  | literal _ | known _ | mask _ => exact h
  | binary op l r ihl ihr => exact noNull_foldBinary (ihl h.1) (ihr h.2)
  | unary op e ih => exact noNull_foldUnary (ih h)

/-- The grammar has no way to write nothing. -/
theorem noNull_of_reads {k : Nat} {s r : List Char} {e : Expr} (h : Grammar.Reads k s e r) :
    e.NoNull := by
  induction h with
  | leaf _ hleaf => cases hleaf <;> simp [NoNull, Value.isNull]
  | mask _ _ _ => trivial
  | group _ _ _ ih => exact ih
  | unary op _ _ ih => exact ih
  | tighter _ _ ih => exact ih
  | binary op _ _ _ ih₁ ih₂ => exact ⟨ih₁, ih₂⟩

theorem noNull_of_read {text : String} {e : Expr} (h : Expr.read text = .ok e) : e.NoNull := by
  obtain ⟨r, hreads, -⟩ := Grammar.derives_of_read h
  exact noNull_of_reads hreads

end Expr

/-! ## Predicates -/

namespace Predicate

/-- A predicate whose formula holds no literal of nothing is the truth of the formula. -/
theorem holds_eq (s : Scope) {p : Predicate} (h : p.formula.expr.NoNull) :
    p.holds s = (p.formula.eval s).map Value.isTruthy := by
  unfold holds
  cases hc : p.constant? with
  | none => rfl
  | some b =>
    unfold constant? at hc
    split at hc
    · rename_i v hv
      cases hc
      rw [hv] at h
      rw [Formula.eval, hv, show v.isNull = false from h, Bool.false_or]
      rfl
    · cases hc

theorem holds_of_read {text : String} {f : Formula} (hblank : Text.isBlankText text = false)
    (h : Formula.read text = .ok f) :
    ∃ p, read text = .ok p ∧ ∀ s, p.holds s = (f.eval s).map Value.isTruthy := by
  refine ⟨{ formula := f.fold }, by rw [read, h]; rfl, fun s => ?_⟩
  have hnull : f.expr.NoNull := by
    rw [Formula.read, hblank] at h
    cases he : Expr.read text with
    | error _ =>
      rw [he] at h
      cases h
    | ok e =>
      rw [he] at h
      cases h
      exact Expr.noNull_of_read he
  rw [holds_eq s (Expr.noNull_fold hnull)]
  exact congrArg (Except.map Value.isTruthy) (Expr.eval_fold s f.expr)

/-- A blank text is a predicate that holds of everything. -/
theorem holds_of_blank {text : String} (h : Text.isBlankText text) :
    ∃ p, read text = .ok p ∧ ∀ s, p.holds s = .ok true := by
  refine ⟨{ formula := { expr := .literal .null, source := text } }, ?_, fun _ => rfl⟩
  rw [read, Formula.read, if_pos h]
  rfl

end Predicate

/-- Folding changes neither the value nor the error of an expression in any scope; so a predicate
that is read agrees with the truth of its formula, unfolded, and one without text always holds. -/
theorem folding_preserves_meaning :
    (∀ (e : Expr) s, e.fold.eval s = e.eval s) ∧
    (∀ text f, Text.isBlankText text = false → Formula.read text = .ok f →
      ∃ p, Predicate.read text = .ok p ∧ ∀ s, p.holds s = (f.eval s).map Value.isTruthy) ∧
    ∀ text, Text.isBlankText text →
      ∃ p, Predicate.read text = .ok p ∧ ∀ s, p.holds s = .ok true :=
  ⟨fun e s => Expr.eval_fold s e, fun _ _ => Predicate.holds_of_read,
    fun _ => Predicate.holds_of_blank⟩

/-- The quotient on the right has no result and stays as it is, to be asked only if needed. -/
theorem folding_preserves_meaning_quotient :
    let e : Expr := .binary .or
      (.binary .gt (.known .count)
        (.binary .div (.literal (.integer (.ofCount 10))) (.literal (.integer (.ofCount 2)))))
      (.binary .div (.literal (.integer (.ofCount 1))) (.literal (.integer (.ofCount 0))))
    let text := "count > 10 / 2 || 1 / 0"
    Formula.read text = .ok { expr := e, source := text } ∧
      ∃ p, Predicate.read text = .ok p ∧ ∀ s, p.holds s = (e.eval s).map Value.isTruthy := by
  intro e text
  have hspelled : Grammar.Spelled Grammar.plainAtom e := by
    refine ⟨⟨.leaf (.known rfl), ?_, ?_⟩, ?_, ?_⟩
    all_goals exact .leaf (.integer (by decide) (List.all_eq_true.1 (by decide)) rfl)
  have hwrite : Grammar.write Grammar.plainAtom 0 e = text.toList := by decide
  have hread := Grammar.read_write hspelled
  rw [hwrite, String.ofList_toList] at hread
  have hformula : Formula.read text = .ok { expr := e, source := text } := by
    rw [Formula.read, if_neg (by decide), hread]
    rfl
  exact ⟨hformula, folding_preserves_meaning.2.1 text _ (by decide) hformula⟩

end Bookkeeping
