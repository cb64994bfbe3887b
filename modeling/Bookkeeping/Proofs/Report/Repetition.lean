import Bookkeeping.Proofs.Report.Balances
import Bookkeeping.Proofs.Report.Refusal
import Bookkeeping.Proofs.Report.Rendering
import Bookkeeping.Proofs.Template.Writing

/-!
# Repeated passes

A pass that is repeated writes nothing, because all that it would write is marked; once the marks
are cleared, it writes the same again (`Repeatable`).  That holds of reports that do not ask for the
time (`passes_repeatable`): of balances, because an account that has been fed is either marked, or
not selected, or the root, which has no line (`Balances.Settled`); of registers, because all records
are there before the first pass, so that clearing the marks undoes what a pass does to the state
(`Register.displayed_of_feedAll`).
-/

namespace Bookkeeping

open Attempt

/-! ## Clearing marks -/

namespace ReportState

variable {s t : ReportState}

/-- No account bears a mark. -/
def AccountsUnmarked (s : ReportState) : Prop := ∀ id, (s.accountOf id).marks = {}

/-- Neither an account nor a transaction bears a mark. -/
structure Unmarked (s : ReportState) : Prop where
  accounts : s.AccountsUnmarked
  transactions : ∀ i, (s.transactionOf i).marks = {}

/-- Every transaction of which the first state has a record has one in the second. -/
def RecordsKeptIn (s t : ReportState) : Prop :=
  ∀ i, (s.transaction? i).isSome → (t.transaction? i).isSome

theorem AccountsUnmarked.marks_eq (h : s.AccountsUnmarked) {id : AccountId} {r : AccountRecord}
    (hr : s.account? id = some r) : r.marks = {} := by
  have hmarks := h id
  rwa [accountOf, hr, Option.getD_some] at hmarks

theorem AccountsUnmarked.not_displayed (h : s.AccountsUnmarked) (id : AccountId) :
    s.accountHas id .done = false := by
  rw [accountHas]
  cases hr : s.account? id with
  | none => rfl
  | some r =>
    rw [Option.any_some, h.marks_eq hr]
    rfl

theorem Unmarked.marks_eq (h : s.Unmarked) {i : Nat} {r : TransactionRecord}
    (hr : s.transaction? i = some r) : r.marks = {} := by
  have hmarks := h.transactions i
  rwa [transactionOf, hr, Option.getD_some] at hmarks

theorem accountHas_clearMarks_done (s : ReportState) (id : AccountId) :
    s.clearMarks.accountHas id .done = false := by
  rw [accountHas, account?_clearMarks]
  cases s.account? id <;> rfl

/-- States with the same records are the same. -/
theorem eq_of_records (haccount : ∀ id, s.account? id = t.account? id)
    (htransaction : ∀ i, s.transaction? i = t.transaction? i) : s = t := by
  have haccounts : s.accounts = t.accounts := Index.ext_get? fun i => haccount (.listed i)
  have houtside : s.outside = t.outside := haccount .detached
  have htransactions : s.transactions = t.transactions := Index.ext_get? htransaction
  cases s
  cases t
  cases haccounts
  cases houtside
  cases htransactions
  rfl

/-- A mark on a record that is there is cleared without a trace. -/
theorem clearMarks_markTransaction {i : Nat} (h : (s.transaction? i).isSome) (m : Marks) :
    (s.markTransaction i m).clearMarks = s.clearMarks := by
  refine eq_of_records (fun id => ?_) fun i' => ?_
  · rw [account?_clearMarks, account?_clearMarks, markTransaction, account?_changeTransaction]
  · rw [transaction?_clearMarks, transaction?_clearMarks, markTransaction,
      transaction?_changeTransaction]
    split
    · rename_i heq
      obtain ⟨r, hr⟩ := Option.isSome_iff_exists.1 h
      rw [heq, transactionOf, hr]
      rfl
    · rfl

theorem Unmarked.clearMarks_eq (h : s.Unmarked) : s.clearMarks = s := by
  refine eq_of_records (fun id => ?_) fun i => ?_
  · rw [account?_clearMarks]
    cases hr : s.account? id with
    | none => rfl
    | some r => rw [Option.map_some, ← h.accounts.marks_eq hr]
  · rw [transaction?_clearMarks]
    cases hr : s.transaction? i with
    | none => rfl
    | some r => rw [Option.map_some, ← h.marks_eq hr]

theorem recordsKeptIn_of_clearMarks_eq (h : t.clearMarks = s.clearMarks) : t.RecordsKeptIn s :=
  fun i hi => by
    have hrecord := congrArg (·.transaction? i) h
    simp only [transaction?_clearMarks] at hrecord
    rw [← Option.isSome_map, ← hrecord, Option.isSome_map]
    exact hi

theorem marksApart_of_clearMarks_eq (h : t.clearMarks = s.clearMarks) : t.MarksApart s :=
  (marksApart_clearMarks t).symm.trans (h ▸ marksApart_clearMarks s)

/-! ### Marking accounts -/

/-- Accounts may have been marked since the second state, and no mark of a displayed one has been
taken off. -/
structure MarkedSince (t s : ReportState) : Prop where
  apart : t.MarksApart s
  displayed : ∀ id, s.accountHas id .done → t.accountHas id .done

theorem MarkedSince.refl (s : ReportState) : s.MarkedSince s := ⟨.refl s, fun _ h => h⟩

theorem MarkedSince.trans {u : ReportState} (h : u.MarkedSince t) (h' : t.MarkedSince s) :
    u.MarkedSince s :=
  ⟨h.apart.trans h'.apart, fun id hid => h.displayed id (h'.displayed id hid)⟩

theorem LooksAlike.markedSince (h : t.LooksAlike s) : t.MarkedSince s :=
  ⟨h.apart, fun id hid => (h.displayed id).trans hid⟩

theorem markedSince_done (s : ReportState) (id : AccountId) :
    (s.markAccount id .done).MarkedSince s where
  apart := marksApart_markAccount s id .done
  displayed id' hid := by
    rw [accountHas_markAccount_done, hid, Bool.or_true]

theorem looksAlike_waiting (s : ReportState) (id : AccountId) :
    (s.markAccount id .waiting).LooksAlike s :=
  ⟨marksApart_markAccount s id .waiting, accountHas_markAccount_waiting s id⟩

/-! ### Sums and running totals -/

/-- Running totals are recorded beside the marks, and each transaction has a record then. -/
structure Totalled (xs : List Transaction) (s s' : ReportState) : Prop where
  marks : ∀ i, (s'.transactionOf i).marks = (s.transactionOf i).marks
  accounts : ∀ id, s'.account? id = s.account? id
  kept : s.RecordsKeptIn s'
  recorded : ∀ x ∈ xs, (s'.transaction? x.id).isSome

theorem totalled_of_accumulateFrom {xs : List Transaction} {u : Value} {index : Nat}
    {s' : ReportState} (h : (accumulateFrom u index xs).exec s = (.ok (), s')) :
    Totalled xs s s' := by
  induction xs generalizing s u index with
  | nil =>
    cases h
    exact ⟨fun _ => rfl, fun _ => rfl, fun _ hi => hi, fun _ hx => by cases hx⟩
  | cons x xs ih =>
    cases hadd : u.add (.amount x.amount) with
    | error e =>
      rw [accumulateFrom, exec_bind, exec_ofExcept, hadd] at h
      cases h
    | ok v =>
      rw [exec_accumulateFrom_cons hadd] at h
      have ih := ih h
      have hkept : s.RecordsKeptIn
          (s.changeTransaction x.id fun r => { r with total := v, index }) := fun i hi => by
        rw [transaction?_changeTransaction]
        split
        · rfl
        · exact hi
      refine ⟨fun i => ?_, fun id => ?_, fun i hi => ih.kept i (hkept i hi), fun y hy => ?_⟩
      · rw [ih.marks, marks_changeTransaction]
      · rw [ih.accounts, account?_changeTransaction]
      · rcases List.mem_cons.1 hy with rfl | hy
        · refine ih.kept y.id ?_
          rw [transaction?_changeTransaction, if_pos rfl]
          rfl
        · exact ih.recorded y hy

theorem Totalled.unmarked {xs : List Transaction} {s' : ReportState} (h : Totalled xs s s')
    (hs : s.Unmarked) : s'.Unmarked where
  accounts id := by
    rw [accountOf, h.accounts]
    exact hs.accounts id
  transactions i := (h.marks i).trans (hs.transactions i)

theorem Summed.accountsUnmarked {j : Journal} {value total : Nat → Value} {s' : ReportState}
    (h : Summed j value total s s') (hs : s.AccountsUnmarked) : s'.AccountsUnmarked := fun id => by
  rw [accountOf]
  by_cases hid : id ∈ j.accounts.map (·.id)
  · obtain ⟨a, ha, rfl⟩ := List.mem_map.1 hid
    obtain ⟨i, hi⟩ := List.mem_iff_getElem?.1 ha
    rw [h.account i a hi]
    exact hs a.id
  · rw [h.outside id hid]
    exact hs id

theorem unmarked_empty : ({} : ReportState).Unmarked :=
  ⟨fun id => by cases id <;> rfl, fun _ => rfl⟩

end ReportState

/-! ## Passes and their output -/

section

variable {μ β : Type}

/-- What a pass that succeeds writes is not written by a second pass; and once the marks are
cleared, it is written again by a third one.  That is so at whatever times and to whatever sinks
that take it, and the passes change nothing that is recorded but marks. -/
def Repeatable (pass : DateTime → PassStep μ Unit) (s : ReportState) (m : μ) : Prop :=
  ∀ now₁ sink₁ p₁,
    (pass now₁).exec { state := s, sink := sink₁, memory := m } = (.ok (), p₁) →
    ∃ output, p₁.sink = sink₁.after output ∧ p₁.state.MarksApart s ∧
      ∀ now₂ sink₂, ∃ p₂,
        (pass now₂).exec { state := p₁.state, sink := sink₂, memory := m } = (.ok (), p₂) ∧
        p₂.sink = sink₂ ∧ p₂.state.MarksApart s ∧
        ∀ now₃ sink₃, sink₃.TakesAll output → ∃ p₃,
          (pass now₃).exec { state := p₂.state.clearMarks, sink := sink₃, memory := m } =
            (.ok (), p₃) ∧
          p₃.sink = sink₃.after output ∧ p₃.state.MarksApart s

/-- The passes have written the same, and their states look alike. -/
structure Pass.LooksAlike (p q : Pass μ) : Prop where
  state : p.state.LooksAlike q.state
  sink : p.sink = q.sink

/-- The runs end with the same result, and in passes that look alike. -/
def Pass.EndLookingAlike (x y : Except ReportError Unit × Pass μ) : Prop :=
  x.1 = y.1 ∧ x.2.LooksAlike y.2

theorem Pass.EndLookingAlike.refl (x : Except ReportError Unit × Pass μ) : EndLookingAlike x x :=
  ⟨rfl, .refl _, rfl⟩

theorem Pass.forM_congr {f : β → PassStep μ Unit}
    (hf : ∀ b p q, p.LooksAlike q → EndLookingAlike ((f b).exec p) ((f b).exec q)) (l : List β)
    {p q : Pass μ} (hpq : p.LooksAlike q) :
    EndLookingAlike ((l.forM f).exec p) ((l.forM f).exec q) := by
  induction l generalizing p q with
  | nil => exact ⟨rfl, hpq⟩
  | cons b l ih =>
    have hb := hf b p q hpq
    rw [exec_forM_cons, exec_forM_cons]
    rcases hx : (f b).exec p with ⟨r, p'⟩
    rcases hy : (f b).exec q with ⟨r', q'⟩
    rw [hx, hy] at hb
    obtain ⟨hresult, hlook⟩ := hb
    cases hresult
    cases r with
    | error _ => exact ⟨rfl, hlook⟩
    | ok _ => exact ih hlook

/-- A pass is repeatable if the time is nothing to it, and if, after it has succeeded, a second run
succeeds without writing and leaves a state that looks like the first one once marks are cleared. -/
theorem repeatable_of_second {pass : DateTime → PassStep μ Unit} {x : PassStep μ Unit}
    {s : ReportState} {m : μ} (hpass : ∀ now, pass now = x)
    (hx : ∃ as r s' m', Outlined x s m as r s' m')
    (hsecond : ∀ k p, x.exec { state := s, sink := k, memory := m } = (.ok (), p) →
      p.state.MarksApart s ∧ ∀ k', ∃ t,
        x.exec { state := p.state, sink := k', memory := m } =
          (.ok (), { state := t, sink := k', memory := m }) ∧
        t.MarksApart s ∧ ∀ k'', Pass.EndLookingAlike
          (x.exec { state := t.clearMarks, sink := k'', memory := m })
          (x.exec { state := s, sink := k'', memory := m })) :
    Repeatable pass s m := by
  intro now₁ sink₁ p₁ hrun
  rw [hpass] at hrun
  obtain ⟨as, r, s', m', hx⟩ := hx
  obtain ⟨hfirst, hsecond⟩ := hsecond sink₁ p₁ hrun
  obtain ⟨rfl, -, rfl⟩ := hx.exec_eq_ok_iff.1 hrun
  refine ⟨Act.pieces as, rfl, hfirst, fun now₂ sink₂ => ?_⟩
  obtain ⟨t, ht, hst, hthird⟩ := hsecond sink₂
  refine ⟨_, (hpass now₂).symm ▸ ht, rfl, hst, fun now₃ sink₃ hsink => ?_⟩
  have halike := hthird sink₃
  rw [hx.full sink₃ hsink] at halike
  obtain ⟨hresult, hlook⟩ := halike
  exact ⟨_, (hpass now₃).symm ▸ Prod.ext hresult rfl, hlook.sink, hlook.state.apart.trans hfirst⟩

end

/-! ## Balances -/

namespace Balances

variable {b : Balances} {s t : ReportState} {a : Account} {p p' q : Pass Unit}

/-- No expression of the report asks for the time. -/
structure Timeless (b : Balances) : Prop where
  renderer : b.renderer.Timeless
  line : b.line.Timeless
  predicate : ∀ p, b.predicate = some p → p.formula.Timeless

/-- A report made from texts whose expressions do not ask for the time does not ask for it. -/
theorem timeless_of_make {journal : Journal} {now : DateTime} {template predicate : String}
    {settings : Settings} (h : make journal now template predicate settings = .ok b)
    (htemplate : ∀ t, Template.read template = .ok t → t.Timeless)
    (hpredicate : ∀ f, Formula.read predicate = .ok f → f.Timeless)
    (hamount : ∀ f, Formula.read settings.amountExpr = .ok f → f.Timeless)
    (htotal : ∀ f, Formula.read settings.totalExpr = .ok f → f.Timeless) : b.Timeless := by
  rw [make] at h
  cases hr : Renderer.ofSettings settings with
  | error _ =>
    rw [hr] at h
    cases h
  | ok renderer =>
    cases ht : Template.read template with
    | error _ =>
      rw [hr, ht] at h
      cases h
    | ok line =>
      cases hp : Predicate.ofText predicate with
      | error _ =>
        rw [hr, ht, hp] at h
        cases h
      | ok predicate? =>
        rw [hr, ht, hp] at h
        cases h
        refine ⟨Renderer.timeless_of_settings hamount htotal hr, htemplate line ht, fun p h => ?_⟩
        obtain rfl : predicate? = some p := h
        exact Predicate.timeless_of_text hpredicate hp

theorem Timeless.selector (h : b.Timeless) : b.selector.Timeless := ⟨h.renderer.total, h.predicate⟩

theorem exec_writeAccount (a : Account) (p : Pass Unit) :
    (b.writeAccount b.line a none).exec p =
      (((b.renderer.render b.line (b.lineScope p.state a)).exec p.sink).1,
        { p with sink := ((b.renderer.render b.line (b.lineScope p.state a)).exec p.sink).2 }) :=
  rfl

/-- The time is nothing to the report. -/
theorem feed_at (h : b.Timeless) (now : DateTime) :
    ({ b with now } : Balances).feed = b.feed := by
  funext a
  have hselects (s : ReportState) :
      ({ b with now } : Balances).selector.selects s a = b.selector.selects s a :=
    (Selector.selects_congr (.refl s) now h.selector rfl).symm
  have hwrite : (({ b with now } : Balances).writeAccount b.line a none : PassStep Unit Unit) =
      b.writeAccount b.line a none := by
    refine congrArg (get >>= ·) (funext fun p => congrArg Pass.onSink ?_)
    exact Renderer.render_at (b.lineScope p.state a) now h.renderer h.line
  simp only [feed, hselects, hwrite]

/-! ### Alike states -/

theorem selects_congr (h : b.Timeless) (hst : s.MarksApart t)
    (hdone : s.accountHas a.id .done = t.accountHas a.id .done) :
    b.selector.selects s a = b.selector.selects t a :=
  Selector.selects_congr hst b.now h.selector hdone

theorem exec_feed_of_error {e : ValueError} (h : b.selector.selects p.state a = .error e) :
    (b.feed a).exec p = (.error (.value e), p) := by
  rw [feed, exec_bind, exec_get]
  simp only
  rw [exec_bind, exec_ofExcept, h]
  rfl

theorem exec_writeLine_congr (h : b.Timeless) (hpq : p.LooksAlike q) :
    Pass.EndLookingAlike ((b.writeLine a).exec p) ((b.writeLine a).exec q) := by
  have hrender : b.renderer.render b.line (b.lineScope p.state a) =
      b.renderer.render b.line (b.lineScope q.state a) :=
    Renderer.render_congr (Scope.looksAlike_of_no_transaction hpq.state rfl) b.now h.renderer h.line
  rw [exec_writeLine, exec_writeLine, exec_writeAccount, exec_writeAccount, ← hrender, ← hpq.sink]
  rcases (b.renderer.render b.line (b.lineScope p.state a)).exec p.sink with ⟨r, k⟩
  cases r with
  | error _ => exact ⟨rfl, hpq.state, rfl⟩
  | ok _ => exact ⟨rfl, hpq.state.markAccount_done a.id, rfl⟩

/-- In states that look alike the same is written. -/
theorem exec_feed_congr (h : b.Timeless) (a : Account) (p q : Pass Unit) (hpq : p.LooksAlike q) :
    Pass.EndLookingAlike ((b.feed a).exec p) ((b.feed a).exec q) := by
  have hselects := selects_congr h hpq.state.apart (hpq.state.displayed a.id)
  cases hp : b.selector.selects p.state a with
  | error e =>
    rw [exec_feed_of_error hp, exec_feed_of_error (hselects ▸ hp)]
    exact ⟨rfl, hpq⟩
  | ok chosen =>
    rw [exec_feed hp, exec_feed (hselects ▸ hp)]
    cases chosen with
    | false => exact ⟨rfl, hpq⟩
    | true =>
      cases a.isRoot with
      | true => exact ⟨rfl, hpq.state.markAccount_waiting a.id, hpq.sink⟩
      | false => exact exec_writeLine_congr h hpq

/-! ### Settled accounts -/

/-- The report has no line to write for the account: it is not selected, or it is the root. -/
def Settled (b : Balances) (s : ReportState) (a : Account) : Prop :=
  b.selector.selects s a = .ok false ∨ b.selector.selects s a = .ok true ∧ a.isRoot

/-- An account stays settled while more accounts are marked. -/
theorem Settled.later (h : b.Timeless) (hs : b.Settled s a) (hst : t.MarkedSince s) :
    b.Settled t a := by
  -- where the account has not been marked itself, the marks of others do not count
  by_cases ht : t.accountHas a.id .done
  · exact .inl (Selector.selects_of_done ht)
  · have hdone : t.accountHas a.id .done = s.accountHas a.id .done := by
      cases hs : s.accountHas a.id .done with
      | true => exact absurd (hst.displayed a.id hs) ht
      | false => exact Bool.eq_false_iff.2 ht
    rw [Settled, selects_congr h hst.apart hdone]
    exact hs

/-- An account that has been fed is settled. -/
theorem settled_of_feed (h : b.Timeless) (hrun : (b.feed a).exec p = (.ok (), p')) :
    p'.state.MarkedSince p.state ∧ b.Settled p'.state a := by
  cases hselects : b.selector.selects p.state a with
  | error e =>
    rw [exec_feed_of_error hselects] at hrun
    cases hrun
  | ok chosen =>
    rw [exec_feed hselects] at hrun
    cases chosen with
    | false =>
      cases hrun
      exact ⟨.refl _, .inl hselects⟩
    | true =>
      cases hroot : a.isRoot with
      | true =>
        rw [hroot] at hrun
        cases hrun
        have hst := (p.state.looksAlike_waiting a.id).markedSince
        exact ⟨hst, Settled.later h (.inr ⟨hselects, hroot⟩) hst⟩
      | false =>
        rw [hroot] at hrun
        have hstate := state_of_writeLine hrun
        rw [hstate]
        refine ⟨p.state.markedSince_done a.id, .inl (Selector.selects_of_done ?_)⟩
        rw [ReportState.accountHas_markAccount_done, decide_eq_true rfl, Bool.true_or]

theorem settled_of_forM_feed (h : b.Timeless) {accounts : List Account}
    (hrun : (accounts.forM b.feed).exec p = (.ok (), p')) :
    p'.state.MarkedSince p.state ∧ ∀ a ∈ accounts, b.Settled p'.state a := by
  induction accounts generalizing p with
  | nil =>
    cases hrun
    exact ⟨.refl _, fun _ ha => by cases ha⟩
  | cons a accounts ih =>
    obtain ⟨q, hx, hrun⟩ := exec_forM_cons_ok hrun
    obtain ⟨hmarked, hsettled⟩ := settled_of_feed h hx
    obtain ⟨hlater, hrest⟩ := ih hrun
    refine ⟨hlater.trans hmarked, fun c hc => ?_⟩
    rcases List.mem_cons.1 hc with rfl | hc
    · exact hsettled.later h hlater
    · exact hrest c hc

/-- Nothing is written for settled accounts. -/
theorem exec_feed_of_settled (hs : b.Settled p.state a) : ∃ t,
    (b.feed a).exec p = (.ok (), { p with state := t }) ∧ t.LooksAlike p.state := by
  rcases hs with hnot | ⟨hchosen, hroot⟩
  · rw [exec_feed hnot]
    exact ⟨p.state, rfl, .refl _⟩
  · rw [exec_feed hchosen, hroot]
    exact ⟨p.state.markAccount a.id .waiting, rfl, p.state.looksAlike_waiting a.id⟩

theorem exec_forM_feed_of_settled (h : b.Timeless) {accounts : List Account}
    (hs : ∀ a ∈ accounts, b.Settled p.state a) : ∃ t,
    (accounts.forM b.feed).exec p = (.ok (), { p with state := t }) ∧ t.LooksAlike p.state := by
  induction accounts generalizing p with
  | nil => exact ⟨p.state, rfl, .refl _⟩
  | cons a accounts ih =>
    obtain ⟨t, ht, hlook⟩ := exec_feed_of_settled (hs a (.head _))
    obtain ⟨u, hu, hlook'⟩ := ih (p := { p with state := t }) fun c hc =>
      (hs c (.tail _ hc)).later h hlook.markedSince
    rw [exec_forM_cons, ht]
    exact ⟨u, hu, hlook'.trans hlook⟩

theorem Timeless.repeatable (h : b.Timeless) (hs : s.AccountsUnmarked) :
    Repeatable (fun now => ({ b with now } : Balances).feedJournal) s () := by
  refine repeatable_of_second (x := b.feedJournal) (fun now => ?_)
    (b.tells_feedAll b.journal.preorder s).outlined fun k p hrun => ?_
  · rw [feedJournal, feedJournal, feed_at h now]
  · -- the second pass finds all accounts settled, and the third begins in a state like the first
    obtain ⟨hmarked, hsettled⟩ := settled_of_forM_feed h hrun
    refine ⟨hmarked.apart, fun k' => ?_⟩
    obtain ⟨t, ht, hlook⟩ := exec_forM_feed_of_settled (p := { p with sink := k' }) h hsettled
    have hst : t.MarksApart s := hlook.apart.trans hmarked.apart
    refine ⟨t, ht, hst, fun k'' => Pass.forM_congr (exec_feed_congr h) _ ⟨⟨?_, fun id => ?_⟩, rfl⟩⟩
    · exact (ReportState.marksApart_clearMarks t).trans hst
    · rw [ReportState.accountHas_clearMarks_done]
      exact (hs.not_displayed id).symm

end Balances

/-! ## Registers -/

namespace Register

variable {r : Register} {s t : ReportState} {x : Transaction} {p p' : Pass Memory}

/-- No expression of the report asks for the time. -/
structure Timeless (r : Register) : Prop where
  renderer : r.renderer.Timeless
  first : r.first.Timeless
  next : r.next.Timeless

/-- A report made from texts whose expressions do not ask for the time does not ask for it. -/
theorem timeless_of_make {journal : Journal} {now : DateTime} {template : String}
    {settings : Settings} (h : make journal now template settings = .ok r)
    (htemplate : ∀ first next, Template.linesOf template = .ok (first, next) →
      first.Timeless ∧ next.Timeless)
    (hamount : ∀ f, Formula.read settings.amountExpr = .ok f → f.Timeless)
    (htotal : ∀ f, Formula.read settings.totalExpr = .ok f → f.Timeless) : r.Timeless := by
  rw [make] at h
  cases ht : Template.linesOf template with
  | error _ =>
    rw [ht] at h
    cases h
  | ok lines =>
    obtain ⟨first, next⟩ := lines
    cases hr : Renderer.ofSettings settings with
    | error _ =>
      rw [ht, hr] at h
      cases h
    | ok renderer =>
      rw [ht, hr] at h
      cases h
      obtain ⟨hfirst, hnext⟩ := htemplate first next ht
      exact ⟨Renderer.timeless_of_settings hamount htotal hr, hfirst, hnext⟩

theorem Timeless.templateOf (h : r.Timeless) (m : Memory) (x : Transaction) :
    (r.templateOf m x).Timeless := by
  rw [Register.templateOf]
  split
  · exact h.next
  · exact h.first

/-- The time is nothing to the report. -/
theorem feed_at (h : r.Timeless) (now : DateTime) : ({ r with now } : Register).feed = r.feed := by
  funext x
  have hwrite (t : Template) (ht : t.Timeless) :
      (({ r with now } : Register).writeTransaction t x : PassStep Memory Unit) =
        r.writeTransaction t x := by
    refine congrArg (get >>= ·) (funext fun p => congrArg Pass.onSink ?_)
    exact Renderer.render_at (.forTransaction r.journal p.state r.now x) now h.renderer ht
  refine congrArg (get >>= ·) (funext fun p => ?_)
  exact congrArg (fun w => if p.state.transactionHas x.id .done then pure () else do
    w
    Pass.change (·.markTransaction x.id .done)
    Pass.remember (some (r.groupOf x))) (hwrite _ (h.templateOf p.memory x))

theorem exec_feed_of_displayed (h : p.state.transactionHas x.id .done) :
    (r.feed x).exec p = (.ok (), p) := by
  rw [feed, exec_bind, exec_get]
  simp only
  rw [if_pos h]
  rfl

theorem exec_feed_of_not_displayed (h : ¬p.state.transactionHas x.id .done) :
    (r.feed x).exec p =
      match (r.writeTransaction (r.templateOf p.memory x) x).exec p with
      | (.ok _, q) => (.ok (), { q with state := q.state.markTransaction x.id .done,
                                        memory := some (r.groupOf x) })
      | (.error e, q) => (.error e, q) := by
  rw [feed, exec_bind, exec_get]
  simp only
  rw [if_neg h, exec_bind, ← templateOf]
  rcases (r.writeTransaction (r.templateOf p.memory x) x).exec p with ⟨result, q⟩
  cases result <;> rfl

/-- Writing for a transaction leaves the state of the report alone. -/
theorem state_writeTransaction (r : Report) (t : Template) (x : Transaction) (p : Pass Memory) :
    ((r.writeTransaction t x).exec p).2.state = p.state := rfl

/-- A transaction that has been written leaves its mark and nothing else. -/
theorem state_of_feed (h : ¬p.state.transactionHas x.id .done)
    (hrun : (r.feed x).exec p = (.ok (), p')) : p'.state = p.state.markTransaction x.id .done := by
  have hwrite := state_writeTransaction r.toReport (r.templateOf p.memory x) x p
  rw [exec_feed_of_not_displayed h] at hrun
  rcases hw : (r.writeTransaction (r.templateOf p.memory x) x).exec p with ⟨result, q⟩
  rw [hw] at hrun hwrite
  cases result with
  | error _ => cases hrun
  | ok _ =>
    cases hrun
    exact congrArg (·.markTransaction x.id .done) hwrite

/-- A transaction that has been fed is marked, and nothing else has changed but the marks. -/
theorem displayed_of_feed (hx : (p.state.transaction? x.id).isSome)
    (hrun : (r.feed x).exec p = (.ok (), p')) :
    p'.state.clearMarks = p.state.clearMarks ∧
      ∀ i, p'.state.transactionHas i .done ↔ i = x.id ∨ p.state.transactionHas i .done := by
  by_cases hdone : p.state.transactionHas x.id .done
  · rw [exec_feed_of_displayed hdone] at hrun
    cases hrun
    refine ⟨rfl, fun i => (or_iff_right_of_imp ?_).symm⟩
    rintro rfl
    exact hdone
  · rw [state_of_feed hdone hrun]
    refine ⟨ReportState.clearMarks_markTransaction hx .done, fun i => ?_⟩
    rw [ReportState.transactionHas_markTransaction_done, Bool.or_eq_true, decide_eq_true_eq]

/-- Transactions that have been fed are marked, and nothing else has changed but the marks. -/
theorem displayed_of_feedAll {xs : List Transaction}
    (hxs : ∀ x ∈ xs, (p.state.transaction? x.id).isSome)
    (hrun : (r.feedAll xs).exec p = (.ok (), p')) :
    p'.state.clearMarks = p.state.clearMarks ∧
      ∀ i, p'.state.transactionHas i .done ↔
        i ∈ xs.map (·.id) ∨ p.state.transactionHas i .done := by
  induction xs generalizing p with
  | nil =>
    cases hrun
    exact ⟨rfl, fun i => (or_iff_right List.not_mem_nil).symm⟩
  | cons x xs ih =>
    obtain ⟨q, hx, hrun⟩ := exec_forM_cons_ok hrun
    obtain ⟨hclear, hmarks⟩ := displayed_of_feed (hxs x (.head _)) hx
    have hkept : ∀ y ∈ xs, (q.state.transaction? y.id).isSome := fun y hy =>
      ReportState.recordsKeptIn_of_clearMarks_eq hclear.symm y.id (hxs y (.tail _ hy))
    obtain ⟨hclear', hmarks'⟩ := ih hkept hrun
    refine ⟨hclear'.trans hclear, fun i => ?_⟩
    rw [hmarks', hmarks, List.map_cons, List.mem_cons, or_left_comm, or_assoc]

/-- Nothing happens when transactions are fed that are displayed already. -/
theorem exec_feedAll_of_displayed {xs : List Transaction}
    (h : ∀ x ∈ xs, p.state.transactionHas x.id .done) :
    (r.feedAll xs).exec p = (.ok (), p) := by
  induction xs with
  | nil => rfl
  | cons x xs ih =>
    rw [feedAll, exec_forM_cons, exec_feed_of_displayed (h x (.head _))]
    exact ih fun y hy => h y (.tail _ hy)

theorem Timeless.repeatable (h : r.Timeless) {xs : List Transaction}
    (hxs : ∀ x ∈ xs, (s.transaction? x.id).isSome) (hs : s.Unmarked) :
    Repeatable (fun now => ({ r with now } : Register).feedAll xs) s none := by
  refine repeatable_of_second (x := r.feedAll xs) (fun now => ?_)
    (r.tells_feedAll s none xs).outlined fun k p hrun => ?_
  · rw [feedAll, feedAll, feed_at h now]
  · -- the second pass finds all transactions displayed, and the third begins where the first did
    obtain ⟨hclear, hmarks⟩ := displayed_of_feedAll hxs hrun
    have hapart : p.state.MarksApart s := ReportState.marksApart_of_clearMarks_eq hclear
    refine ⟨hapart, fun k' => ⟨p.state, ?_, hapart, fun k'' => ?_⟩⟩
    · refine exec_feedAll_of_displayed fun x hx => (hmarks x.id).2 (.inl ?_)
      exact List.mem_map_of_mem hx
    · rw [hclear]
      rw [hs.clearMarks_eq]
      exact .refl _

end Register

/-! ## The passes -/

/-- Passes of reports that do not ask for the time are repeatable: those of balances from every
state in which no account bears a mark; those of registers, over any transactions, from every
unmarked state in which the records are kept that running totals of these transactions have been put
on. -/
theorem passes_repeatable :
    (∀ (b : Balances) (s : ReportState), b.Timeless → s.AccountsUnmarked →
      Repeatable (fun now => ({ b with now } : Balances).feedJournal) s ()) ∧
    ∀ (r : Register) (xs : List Transaction) (s₀ s₁ s : ReportState), r.Timeless →
      (ReportState.accumulate xs).exec s₀ = (.ok (), s₁) → s₁.RecordsKeptIn s → s.Unmarked →
      Repeatable (fun now => ({ r with now } : Register).feedAll xs) s none :=
  ⟨fun _ _ hb hs => hb.repeatable hs, fun _ _ _ _ _ hr hrun hkept hs => hr.repeatable
    (fun x hx => hkept x.id ((ReportState.totalled_of_accumulateFrom hrun).recorded x hx)) hs⟩

/-- The balances of the errands, indented below the displayed accounts. -/
def errandBalances : Balances where
  journal := ReportState.errands
  now := .midnight .earliest
  renderer := Opening.ofErrands.renderer
  line := ⟨[{ field := .indent, min := 2 }, { field := .accountName },
    { field := .literal "\n" }], "%2_%a\n"⟩
  predicate := none

theorem Template.readFrom_newline : readFrom [] ['\n'] = .ok [plain ['\n']] := by
  have hplain := readFrom_append (s := ['\n']) (by decide) (by decide) [] []
  rw [List.append_nil] at hplain
  rw [hplain, readFrom]
  rfl

/-- A line of a sign and the path of an account is read. -/
theorem Template.read_signedPath {c : Char} (hpercent : c ≠ '%') (hescape : c ≠ '\\') :
    read (String.ofList [c, ' ', '%', 'A', '\n']) =
      .ok ⟨[plain [c, ' '], { field := .accountPath }, plain ['\n']],
        String.ofList [c, ' ', '%', 'A', '\n']⟩ := by
  have hsign : readFrom [] ([c, ' '] ++ ['%', 'A', '\n']) = _ :=
    readFrom_append (by simp [hpercent.symm]) (by simp [hescape.symm]) [] _
  have hpath : readDirective ['A', '\n'] = .ok (some ({ field := .accountPath }, ['\n'])) := rfl
  rw [read, String.toList_ofList,
    show [c, ' ', '%', 'A', '\n'] = [c, ' '] ++ ['%', 'A', '\n'] from rfl, hsign,
    readFrom_of_readDirective hpath, readFrom_newline]
  rfl

/-- The balances of the errands are made of these texts, and none of them asks for the time. -/
theorem timeless_errandBalances : errandBalances.Timeless := by
  have hindent : Template.readDirective ['2', '_', '%', 'a', '\n'] =
    .ok (some ({ field := .indent, min := 2 }, ['%', 'a', '\n'])) := rfl
  have hname : Template.readDirective ['a', '\n'] =
    .ok (some ({ field := .accountName }, ['\n'])) := rfl
  have hline : Template.read "%2_%a\n" = .ok errandBalances.line := by
    rw [Template.read, show "%2_%a\n".toList = '%' :: ['2', '_', '%', 'a', '\n'] from rfl,
      Template.readFrom_of_readDirective hindent, Template.readFrom_of_readDirective hname,
      Template.readFrom_newline]
    rfl
  have hmake : Balances.make ReportState.errands (.midnight .earliest) "%2_%a\n" "" {} =
      .ok errandBalances := by
    rw [Balances.make, Opening.ofSettings_default, hline]
    rfl
  refine Balances.timeless_of_make hmake (fun t ht => ?_) (fun f hf => ?_)
    (fun _ => Formula.timeless_of_name .amount (by decide))
    fun _ => Formula.timeless_of_name .total (by decide)
  · cases hline.symm.trans ht
    exact Template.timeless_of_fields (by simp [errandBalances])
  · cases hf
    exact id

/-- The register of the errands is made of this text, and does not ask for the time. -/
theorem timeless_errandRegister : errandRegister.Timeless := by
  have hlines :
      Template.split "# %A\n%/- %A\n" = .ok (errandRegister.first, errandRegister.next) := by
    have hsplit : Template.splitLine "# %A\n%/- %A\n".toList =
      some (['#', ' ', '%', 'A', '\n'], ['-', ' ', '%', 'A', '\n']) := rfl
    rw [Template.split, hsplit]
    simp only [Template.read_signedPath (c := '#') (by decide) (by decide),
      Template.read_signedPath (c := '-') (by decide) (by decide)]
    rfl
  have hmake : Register.make ReportState.errands (.midnight .earliest) "# %A\n%/- %A\n" {} =
      .ok errandRegister := by
    rw [Register.make, Template.linesOf, hlines, Opening.ofSettings_default]
    rfl
  refine Register.timeless_of_make hmake (fun first next ht => ?_)
    (fun _ => Formula.timeless_of_name .amount (by decide))
    fun _ => Formula.timeless_of_name .total (by decide)
  rw [Template.linesOf, hlines] at ht
  cases ht
  exact ⟨Template.timeless_of_fields (by simp [errandRegister]),
    Template.timeless_of_fields (by simp [errandRegister])⟩

/-- What is recorded of the errands once they have been added up one by one. -/
def errandTotals : ReportState :=
  ((ReportState.accumulate ReportState.errands.transactions).exec {}).2

theorem eq_ok_of_toOption {σ ε : Type} {x : Except ε Unit × σ} (h : x.1.toOption = some ()) :
    x = (.ok (), x.2) := by
  obtain ⟨r, s⟩ := x
  cases r with
  | error _ => cases h
  | ok _ => rfl

/-- The food and the fuel are written below the expenses, as these have been displayed just before;
and so they are again after the marks have been cleared. -/
theorem passes_repeatable_errands :
    (∃ p, errandBalances.feedJournal.exec
        { state := Opening.errandSums, sink := .unlimited, memory := () } = (.ok (), p) ∧
      p.sink.pieces = ["", "Assets:Cash", "\n", "", "Expenses", "\n",
        "  ", "Food", "\n", "  ", "Fuel", "\n"]) ∧
    Repeatable (fun now => ({ errandBalances with now } : Balances).feedJournal)
      Opening.errandSums () ∧
    (∃ p, (errandRegister.feedAll ReportState.errands.transactions).exec
        { state := errandTotals, sink := .unlimited, memory := none } = (.ok (), p) ∧
      p.sink.pieces = ["# ", "Expenses:Food", "\n", "- ", "Expenses:Fuel", "\n",
        "- ", "Assets:Cash", "\n"]) ∧
    Repeatable (fun now => ({ errandRegister with now } : Register).feedAll
      ReportState.errands.transactions) errandTotals none := by
  obtain ⟨value, total, hsummed⟩ := Opening.sumAccounts_errands.2
  have htotals : (ReportState.accumulate ReportState.errands.transactions).exec {} =
      (.ok (), errandTotals) := eq_ok_of_toOption (by decide +kernel)
  have hbalances := passes_repeatable.1 errandBalances Opening.errandSums
    timeless_errandBalances (hsummed.accountsUnmarked ReportState.unmarked_empty.accounts)
  have hregister := passes_repeatable.2 errandRegister ReportState.errands.transactions {}
    errandTotals errandTotals timeless_errandRegister htotals (fun _ hi => hi)
    ((ReportState.totalled_of_accumulateFrom htotals).unmarked ReportState.unmarked_empty)
  refine ⟨⟨_, eq_ok_of_toOption ?_, ?_⟩, hbalances, ⟨_, eq_ok_of_toOption ?_, ?_⟩, hregister⟩ <;>
    decide +kernel

end Bookkeeping
