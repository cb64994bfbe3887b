import Bookkeeping.Report.Selector

/-!
# Marks and sums

`ReportState.SumsAs` relates states that differ at most in the marks on accounts.  Marking an account
does no more (`sumsAs_markAccount`), and an expression about an account has the same outcome in both
states (`eval_congr`), so the selection of accounts may be asked in any of them.
-/

namespace Bookkeeping

namespace ReportState

/-- The records of accounts in the two states differ at most in their marks. -/
def SumsAs (s t : ReportState) : Prop :=
  ∀ id, { s.accountOf id with marks := {} } = { t.accountOf id with marks := {} }

theorem SumsAs.refl (s : ReportState) : s.SumsAs s := fun _ => rfl

theorem SumsAs.trans {s t u : ReportState} (h₁ : s.SumsAs t) (h₂ : t.SumsAs u) : s.SumsAs u :=
  fun id => (h₁ id).trans (h₂ id)

theorem SumsAs.fields {s t : ReportState} (h : s.SumsAs t) (id : AccountId) :
    (s.accountOf id).value = (t.accountOf id).value ∧
      (s.accountOf id).total = (t.accountOf id).total ∧
      (s.accountOf id).totalCount = (t.accountOf id).totalCount := by
  have := h id
  simp only [AccountRecord.mk.injEq] at this
  obtain ⟨-, hvalue, htotal, -, hcount⟩ := this
  exact ⟨hvalue, htotal, hcount⟩

theorem sumsAs_markAccount (s : ReportState) (id : AccountId) (m : Marks) :
    (s.markAccount id m).SumsAs s := by
  intro id'
  rw [accountOf, markAccount, account?_changeAccount]
  split
  · rename_i h
    subst h
    rfl
  · rfl

/-- A mark is put on one account and leaves the marks of the others alone. -/
theorem accountHas_markAccount (s : ReportState) (id id' : AccountId) (m n : Marks) :
    (s.markAccount id m).accountHas id' n =
      if id' = id then ((s.accountOf id).marks.union m).includes n else s.accountHas id' n := by
  rw [accountHas, markAccount, account?_changeAccount]
  split <;> rfl

theorem accountHas_markAccount_done (s : ReportState) (id id' : AccountId) :
    (s.markAccount id .done).accountHas id' .done = (decide (id' = id) || s.accountHas id' .done) := by
  rw [accountHas_markAccount]
  split
  · rename_i h
    simp [h, Marks.includes, Marks.union, Marks.done]
  · rename_i h
    simp [h]

theorem accountHas_markAccount_waiting (s : ReportState) (id id' : AccountId) :
    (s.markAccount id .waiting).accountHas id' .done = s.accountHas id' .done := by
  rw [accountHas_markAccount]
  split
  · rename_i h
    subst h
    rw [accountHas, accountOf]
    cases s.account? id' <;> simp [Marks.includes, Marks.union, Marks.done, Marks.waiting]
  · rfl

/-! ### Marks on transactions -/

/-- Only a transaction of which there is a record bears marks. -/
theorem isSome_of_transactionHas {s : ReportState} {i : Nat} {m : Marks}
    (h : s.transactionHas i m) : (s.transaction? i).isSome := by
  rw [transactionHas] at h
  cases hr : s.transaction? i with
  | none =>
    rw [hr] at h
    cases h
  | some _ => rfl

theorem transactionHas_markTransaction (s : ReportState) (i i' : Nat) (m n : Marks) :
    (s.markTransaction i m).transactionHas i' n =
      if i' = i then ((s.transactionOf i).marks.union m).includes n
      else s.transactionHas i' n := by
  rw [transactionHas, markTransaction, transaction?_changeTransaction]
  split <;> rfl

theorem transactionHas_markTransaction_done (s : ReportState) (i i' : Nat) :
    (s.markTransaction i .done).transactionHas i' .done =
      (decide (i' = i) || s.transactionHas i' .done) := by
  rw [transactionHas_markTransaction]
  split
  · rename_i h
    simp [h, Marks.includes, Marks.union, Marks.done]
  · rename_i h
    simp [h]

theorem transactionHas_markTransaction_waiting (s : ReportState) (i i' : Nat) :
    (s.markTransaction i .waiting).transactionHas i' .done = s.transactionHas i' .done := by
  rw [transactionHas_markTransaction]
  split
  · rename_i h
    subst h
    rw [transactionHas, transactionOf]
    cases s.transaction? i' <;> simp [Marks.includes, Marks.union, Marks.done, Marks.waiting]
  · rfl

theorem transactionHas_unmarkTransaction_waiting (s : ReportState) (i i' : Nat) :
    (s.unmarkTransaction i .waiting).transactionHas i' .done = s.transactionHas i' .done := by
  rw [transactionHas, transaction?_unmarkTransaction, transactionHas]
  split
  · rename_i h
    subst h
    cases s.transaction? i' <;> simp [Marks.includes, Marks.minus, Marks.done, Marks.waiting]
  · rfl

/-- Of the marks of waiting, that of the transaction is put on, and the others stay. -/
theorem waiting_markTransaction_waiting (s : ReportState) (i i' : Nat) :
    (s.markTransaction i .waiting).transactionHas i' .waiting =
      (decide (i' = i) || s.transactionHas i' .waiting) := by
  rw [transactionHas_markTransaction]
  split
  · rename_i h
    simp [h, Marks.includes, Marks.union, Marks.waiting]
  · rename_i h
    simp [h]

theorem waiting_markTransaction_done (s : ReportState) (i i' : Nat) :
    (s.markTransaction i .done).transactionHas i' .waiting = s.transactionHas i' .waiting := by
  rw [transactionHas_markTransaction]
  split
  · rename_i h
    subst h
    rw [transactionHas, transactionOf]
    cases s.transaction? i' <;> simp [Marks.includes, Marks.union, Marks.done, Marks.waiting]
  · rfl

/-- Of the marks of waiting, that of the transaction is taken off, and the others stay. -/
theorem waiting_unmarkTransaction_waiting (s : ReportState) (i i' : Nat) :
    (s.unmarkTransaction i .waiting).transactionHas i' .waiting =
      (!decide (i' = i) && s.transactionHas i' .waiting) := by
  rw [transactionHas, transaction?_unmarkTransaction, transactionHas]
  split
  · rename_i h
    subst h
    cases s.transaction? i' <;> simp [Marks.includes, Marks.minus, Marks.waiting]
  · rename_i h
    simp [h]

theorem transactionHas_markAccount (s : ReportState) (id : AccountId) (i : Nat) (m n : Marks) :
    (s.markAccount id m).transactionHas i n = s.transactionHas i n := by
  rw [transactionHas, markAccount, changeAccount, transaction?_putAccount]
  rfl

theorem accountHas_markTransaction (s : ReportState) (id : AccountId) (i : Nat) (m n : Marks) :
    (s.markTransaction i m).accountHas id n = s.accountHas id n := by
  rw [accountHas, markTransaction, account?_changeTransaction]
  rfl

theorem accountHas_unmarkTransaction (s : ReportState) (id : AccountId) (i : Nat) (m n : Marks) :
    (s.unmarkTransaction i m).accountHas id n = s.accountHas id n := by
  rw [unmarkTransaction]
  split
  · rw [accountHas, account?_changeTransaction]
    rfl
  · rfl

end ReportState

/-! ## What an account is asked -/

namespace Selector

variable {sel : Selector} {s t : ReportState} {a : Account}

theorem variable_congr (h : s.SumsAs t) (x : Variable) :
    x.eval (sel.scopeOf s a) = x.eval (sel.scopeOf t a) := by
  obtain ⟨hvalue, htotal, hcount⟩ := h.fields a.id
  cases x with
  | amount | cost => exact hvalue
  | total => exact htotal
  | count => exact congrArg (fun n => Value.integer (.ofCount n)) hcount
  | date | now | depth | cleared | pending | real | virtual => rfl

/-- Expressions about an account do not look at marks. -/
theorem eval_congr (h : s.SumsAs t) (e : Expr) :
    e.eval (sel.scopeOf s a) = e.eval (sel.scopeOf t a) := by
  induction e with
  | literal v => rfl
  | known x => rw [Expr.eval, Expr.eval, variable_congr h]
  | mask m => rfl
  | unary op e ih => rw [Expr.eval, Expr.eval, ih]
  | binary op l r ihl ihr => cases op <;> rw [Expr.eval, Expr.eval, ihl, ihr] <;> simp

theorem passes_congr (h : s.SumsAs t) : sel.passes s a = sel.passes t a := by
  unfold passes
  split
  · rename_i p _
    rw [Predicate.holds, Predicate.holds, Formula.eval, Formula.eval, eval_congr h]
  · rfl

theorem totalOf_congr (h : s.SumsAs t) : sel.totalOf s a = sel.totalOf t a :=
  eval_congr h sel.total.expr

end Selector

end Bookkeeping
