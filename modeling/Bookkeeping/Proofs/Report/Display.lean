import Bookkeeping.Proofs.Report.Marks

/-!
# Marks and expressions

`ReportState.MarksApart` relates states that differ at most in marks and in records that marks alone
have brought about.  However accounts and transactions are marked and unmarked, the states stay so
related (`marksApart_foldl`), and an expression sees the same in both (`eval_congr`).  There is one
exception: the count of a transaction of which only one state has a record (`eval_count_eq_iff`).
That record makes the transaction the first, where no record gives it no place
(`count_of_recorded_apart`).
-/

namespace Bookkeeping

namespace ReportState

/-- The states differ at most in marks, and in records that hold nothing else. -/
structure MarksApart (s t : ReportState) : Prop where
  accounts : s.SumsAs t
  transactions : ∀ i,
    { s.transactionOf i with marks := {} } = { t.transactionOf i with marks := {} }

variable {s t u : ReportState}

theorem MarksApart.refl (s : ReportState) : s.MarksApart s := ⟨.refl s, fun _ => rfl⟩

theorem MarksApart.symm (h : s.MarksApart t) : t.MarksApart s :=
  ⟨fun id => (h.accounts id).symm, fun i => (h.transactions i).symm⟩

theorem MarksApart.trans (h : s.MarksApart t) (h' : t.MarksApart u) : s.MarksApart u :=
  ⟨h.accounts.trans h'.accounts, fun i => (h.transactions i).trans (h'.transactions i)⟩

theorem MarksApart.total_eq (h : s.MarksApart t) (i : Nat) :
    (s.transactionOf i).total = (t.transactionOf i).total := by
  have := h.transactions i
  rw [TransactionRecord.mk.injEq] at this
  exact this.2.1

theorem MarksApart.index_eq (h : s.MarksApart t) (i : Nat) :
    (s.transactionOf i).index = (t.transactionOf i).index := by
  have := h.transactions i
  rw [TransactionRecord.mk.injEq] at this
  exact this.2.2

/-! ## Marking -/

/-- A change of marks. -/
inductive Marking where
  | account (id : AccountId) (change : Marks → Marks)
  | transaction (i : Nat) (change : Marks → Marks)
  /-- Marks are taken off a transaction that has a record. -/
  | unmark (i : Nat) (m : Marks)
  | clear

/-- The state with its marks changed. -/
def remark (s : ReportState) : Marking → ReportState
  | .account id change => s.changeAccount id fun r => { r with marks := change r.marks }
  | .transaction i change => s.changeTransaction i fun r => { r with marks := change r.marks }
  | .unmark i m => s.unmarkTransaction i m
  | .clear => s.clearMarks

theorem marksApart_changeAccount (s : ReportState) (id : AccountId) (change : Marks → Marks) :
    (s.changeAccount id fun r => { r with marks := change r.marks }).MarksApart s := by
  refine ⟨fun id' => ?_, fun i => ?_⟩
  · rw [accountOf, account?_changeAccount]
    split
    · rename_i h
      subst h
      rfl
    · rfl
  · rw [transactionOf, changeAccount, transaction?_putAccount]
    rfl

theorem marksApart_changeTransaction (s : ReportState) (i : Nat) (change : Marks → Marks) :
    (s.changeTransaction i fun r => { r with marks := change r.marks }).MarksApart s := by
  refine ⟨fun id => ?_, fun i' => ?_⟩
  · rw [accountOf, account?_changeTransaction]
    rfl
  · rw [transactionOf, transaction?_changeTransaction]
    split
    · rename_i h
      subst h
      rfl
    · rfl

theorem marksApart_unmarkTransaction (s : ReportState) (i : Nat) (m : Marks) :
    (s.unmarkTransaction i m).MarksApart s := by
  rw [unmarkTransaction]
  split
  · rename_i r hr
    have hof : s.transactionOf i = r := by rw [transactionOf, hr, Option.getD_some]
    rw [← hof]
    exact marksApart_changeTransaction s i (·.minus m)
  · exact .refl s

theorem marksApart_clearMarks (s : ReportState) : s.clearMarks.MarksApart s := by
  refine ⟨fun id => ?_, fun i => ?_⟩
  · rw [accountOf, accountOf, account?_clearMarks]
    cases s.account? id <;> rfl
  · rw [transactionOf, transactionOf, transaction?_clearMarks]
    cases s.transaction? i <;> rfl

theorem marksApart_remark (s : ReportState) (m : Marking) : (s.remark m).MarksApart s := by
  cases m with
  | account id change => exact marksApart_changeAccount s id change
  | transaction i change => exact marksApart_changeTransaction s i change
  | unmark i m => exact marksApart_unmarkTransaction s i m
  | clear => exact marksApart_clearMarks s

/-- However a state is marked, it differs from what it was in marks alone. -/
theorem marksApart_foldl (s : ReportState) (ms : List Marking) :
    (ms.foldl remark s).MarksApart s := by
  induction ms generalizing s with
  | nil => exact .refl s
  | cons m ms ih => exact (ih (s.remark m)).trans (marksApart_remark s m)

end ReportState

namespace Expr

/-- The expression asks for the variable. -/
def Mentions (x : Variable) : Expr → Prop
  | literal _ => False
  | known y => y = x
  | mask _ => False
  | binary _ l r => l.Mentions x ∨ r.Mentions x
  | unary _ e => e.Mentions x

end Expr

namespace Scope

open ReportState

/-- The scope in another state of the report and at another time. -/
def seenIn (sc : Scope) (t : ReportState) (now : DateTime) : Scope := { sc with state := t, now }

/-- Both states have a record of the scope's transaction, or neither has. -/
def RecordedAlike (sc : Scope) (t : ReportState) : Prop :=
  ∀ x, sc.transaction = some x →
    (sc.state.transaction? x.id).isSome = (t.transaction? x.id).isSome

variable {sc : Scope} {t : ReportState}

/-! ## What a scope sees -/

theorem sumOf_congr (now : DateTime) {own own' : Transaction → Value}
    {kept : AccountRecord → Value} (hown : ∀ x, own x = own' x)
    (hkept : ∀ id, kept (sc.state.accountOf id) = kept (t.accountOf id)) :
    sc.sumOf own kept = (sc.seenIn t now).sumOf own' kept := by
  simp only [sumOf, seenIn]
  split
  · exact hown _
  · rfl
  · exact hkept _
  · rfl

theorem amount_congr (h : sc.state.MarksApart t) (now : DateTime) :
    sc.amount = (sc.seenIn t now).amount :=
  sumOf_congr now (fun _ => rfl) fun id => (h.accounts.fields id).1

theorem total_congr (h : sc.state.MarksApart t) (now : DateTime) :
    sc.total = (sc.seenIn t now).total :=
  sumOf_congr now (fun x => h.total_eq x.id) fun id => (h.accounts.fields id).2.1

theorem cost_congr (h : sc.state.MarksApart t) (now : DateTime) :
    sc.cost = (sc.seenIn t now).cost := by
  rw [cost, cost, amount_congr h now]
  rfl

/-! ## The count -/

theorem count_of_record (sc : Scope) {x : Transaction} {r : TransactionRecord}
    (hx : sc.transaction = some x) (hr : sc.state.transaction? x.id = some r) :
    sc.count = r.index + 1 := by
  simp only [count, hx, hr, Option.map_some, Option.getD_some]

theorem count_of_no_record (sc : Scope) {x : Transaction} (hx : sc.transaction = some x)
    (hr : sc.state.transaction? x.id = none) : sc.count = 0 := by
  simp only [count, hx, hr, Option.map_none, Option.getD_none]

theorem count_congr (h : sc.state.MarksApart t) (now : DateTime) (halike : sc.RecordedAlike t) :
    sc.count = (sc.seenIn t now).count := by
  cases hx : sc.transaction with
  | none =>
    simp only [count, seenIn, hx]
    cases sc.account with
    | none => rfl
    | some a => exact (h.accounts.fields a.id).2.2
  | some x =>
    have halike := halike x hx
    have hindex := h.index_eq x.id
    cases hs : sc.state.transaction? x.id <;> cases ht : t.transaction? x.id
    case none.none =>
      rw [count_of_no_record sc hx hs, count_of_no_record (sc.seenIn t now) hx ht]
    case some.some r r' =>
      rw [count_of_record sc hx hs, count_of_record (sc.seenIn t now) hx ht]
      rw [transactionOf, transactionOf, hs, ht] at hindex
      exact congrArg (· + 1) hindex
    all_goals
      rw [hs, ht] at halike
      cases halike

/-- A record that only one of the states has is there for its marks, and makes the transaction the
first. -/
theorem count_of_recorded_apart (h : sc.state.MarksApart t) (now : DateTime)
    (hapart : ¬sc.RecordedAlike t) :
    sc.count = 0 ∧ (sc.seenIn t now).count = 1 ∨ sc.count = 1 ∧ (sc.seenIn t now).count = 0 := by
  obtain ⟨x, hx⟩ := Classical.not_forall.1 hapart
  obtain ⟨hx, hne⟩ := Classical.not_imp.1 hx
  have hindex := h.index_eq x.id
  cases hs : sc.state.transaction? x.id <;> cases ht : t.transaction? x.id
  case none.some r =>
    rw [count_of_no_record sc hx hs, count_of_record (sc.seenIn t now) hx ht]
    rw [transactionOf, transactionOf, hs, ht] at hindex
    exact .inl ⟨rfl, congrArg (· + 1) hindex.symm⟩
  case some.none r =>
    rw [count_of_record sc hx hs, count_of_no_record (sc.seenIn t now) hx ht]
    rw [transactionOf, transactionOf, hs, ht] at hindex
    exact .inr ⟨congrArg (· + 1) hindex, rfl⟩
  all_goals
    rw [hs, ht] at hne
    exact absurd rfl hne

/-- What is known under `count` is the same exactly if the transaction is recorded alike. -/
theorem eval_count_eq_iff (h : sc.state.MarksApart t) (now : DateTime) :
    Variable.count.eval sc = Variable.count.eval (sc.seenIn t now) ↔ sc.RecordedAlike t := by
  refine ⟨fun heq => Classical.byContradiction fun hapart => ?_, fun halike => ?_⟩
  · have heq : Whole.ofCount sc.count = Whole.ofCount (sc.seenIn t now).count :=
      Value.integer.inj heq
    rcases count_of_recorded_apart h now hapart with ⟨h₀, h₁⟩ | ⟨h₁, h₀⟩ <;> rw [h₀, h₁] at heq
    · exact absurd heq (by decide)
    · exact absurd heq (by decide)
  · exact congrArg (fun n => Value.integer (.ofCount n)) (count_congr h now halike)

/-! ## Expressions -/

theorem variable_congr (h : sc.state.MarksApart t) (now : DateTime) {x : Variable}
    (hnow : x ≠ .now ∨ now = sc.now) (hcount : x ≠ .count ∨ sc.RecordedAlike t) :
    x.eval sc = x.eval (sc.seenIn t now) := by
  cases x with
  | amount => exact amount_congr h now
  | total => exact total_congr h now
  | cost => exact cost_congr h now
  | count => exact (eval_count_eq_iff h now).2 (hcount.resolve_left (· rfl))
  | now => exact congrArg Value.dateTime (hnow.resolve_left (· rfl)).symm
  | date | depth | cleared | pending | real | virtual => rfl

/-- An expression has the same outcome at another time if it does not ask for it. -/
theorem eval_congr_at (h : sc.state.MarksApart t) (now : DateTime) {e : Expr}
    (hnow : ¬e.Mentions .now ∨ now = sc.now) (hcount : ¬e.Mentions .count ∨ sc.RecordedAlike t) :
    e.eval sc = e.eval (sc.seenIn t now) := by
  induction e with
  | literal v => rfl
  | known x => rw [Expr.eval, Expr.eval, variable_congr h now hnow hcount]
  | mask m => rfl
  | unary op e ih => rw [Expr.eval, Expr.eval, ih hnow hcount]
  | binary op l r ihl ihr =>
    have hl := ihl (hnow.imp_left fun hn hm => hn (.inl hm))
      (hcount.imp_left fun hc hm => hc (.inl hm))
    have hr := ihr (hnow.imp_left fun hn hm => hn (.inr hm))
      (hcount.imp_left fun hc hm => hc (.inr hm))
    cases op <;> rw [Expr.eval, Expr.eval, hl, hr] <;> simp

theorem eval_congr (h : sc.state.MarksApart t) (now : DateTime) {e : Expr}
    (hnow : ¬e.Mentions .now) (hcount : ¬e.Mentions .count ∨ sc.RecordedAlike t) :
    e.eval sc = e.eval (sc.seenIn t now) :=
  eval_congr_at h now (.inl hnow) hcount

/-- However a report is marked, the outcome of an expression stays the same, unless it asks for the
time, or for a count where only one of the states has a record of the transaction.  In that case
`count` alone tells them apart. -/
theorem marks_keep_meaning (h : sc.state.MarksApart t) (ms : List Marking) (now : DateTime) :
    sc.state.MarksApart (ms.foldl remark t) ∧
    (∀ e : Expr, ¬e.Mentions .now → ¬e.Mentions .count ∨ sc.RecordedAlike (ms.foldl remark t) →
      e.eval sc = e.eval (sc.seenIn (ms.foldl remark t) now)) ∧
    ((Expr.known .count).eval sc = (Expr.known .count).eval (sc.seenIn (ms.foldl remark t) now) ↔
      sc.RecordedAlike (ms.foldl remark t)) := by
  have happart := h.trans (marksApart_foldl t ms).symm
  refine ⟨happart, fun e hnow hcount => eval_congr happart now hnow hcount, ?_⟩
  rw [Expr.eval, Expr.eval, Except.ok.injEq]
  exact eval_count_eq_iff happart now

/-- A journal of one posting. -/
def onePosting : Journal :=
  ((({} : Journal).openAccount "Expenses:Food").2.addEntry (.period "")).addTransaction 0
    { account := .listed 2, amount := { quantity := .zero } }

/-- The scope of the posting, in a state of the report. -/
def ofPosting (s : ReportState) : Scope where
  journal := onePosting
  state := s
  now := .midnight .earliest
  entry := onePosting.entries[0]?
  transaction := onePosting.transactions[0]?
  account := onePosting.accounts[2]?

/-- A posting that has been displayed may be marked again without effect on `total + count`. -/
theorem marks_keep_meaning_displayed :
    let s := ({} : ReportState).markTransaction 0 .done
    let ms := [Marking.transaction 0 (·.union .waiting), .account (.listed 2) (·.union .done),
      .clear]
    let e := Expr.binary .add (.known .total) (.known .count)
    e.eval (ofPosting s) =
      e.eval ((ofPosting s).seenIn (ms.foldl remark s) (.midnight .earliest)) := by
  intro s ms e
  have happart : (ofPosting s).state.MarksApart s := .refl s
  refine (marks_keep_meaning happart ms (.midnight .earliest)).2.1 e ?_ (.inr fun x hx => ?_)
  · rintro (h | h) <;> cases h
  · cases hx
    rfl

/-- A posting of which nothing is recorded has no place, and is the first once it is marked. -/
theorem marking_gives_first_place :
    let s : ReportState := {}
    let t := s.markTransaction 0 .waiting
    s.MarksApart t ∧ ¬(Expr.known .count).Mentions .now ∧
      (Expr.known .count).eval (ofPosting s) = .ok (.integer (.ofCount 0)) ∧
      (Expr.known .count).eval ((ofPosting s).seenIn t (.midnight .earliest)) =
        .ok (.integer (.ofCount 1)) ∧
      Value.integer (.ofCount 0) ≠ .integer (.ofCount 1) := by
  intro s t
  refine ⟨(marksApart_remark s (.transaction 0 (·.union .waiting))).symm, ?_, rfl, rfl, ?_⟩
  · rintro ⟨⟩
  · intro h
    exact absurd (Value.integer.inj h) (by decide)

end Scope

end Bookkeeping
