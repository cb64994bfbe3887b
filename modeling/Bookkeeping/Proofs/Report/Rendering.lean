import Bookkeeping.Proofs.Expr.Parsing
import Bookkeeping.Proofs.Report.Display
import Bookkeeping.Report.Balances
import Bookkeeping.Report.Register

/-!
# What lines are written from

A line is written from the records, from the marks of displayed accounts and, if it is about a
transaction, from the marks of waiting that the transactions of its entry have.  Where a scope looks
alike in these (`Scope.LooksAlike`), the same is written at any time, unless an expression asks for
the time (`Renderer.render_congr`).  Where states do, the same accounts are selected
(`Selector.selects_congr`).
-/

namespace Bookkeeping

/-! ## Formulas that do not ask for the time -/

namespace Expr

variable {x : Variable} {e : Expr}

theorem mentions_of_mentions_foldBinary {op : BinaryOp} {l r : Expr}
    (h : (foldBinary op l r).Mentions x) : (binary op l r).Mentions x := by
  unfold foldBinary at h
  split at h
  · split at h
    · cases h
    · exact h
  · exact h

theorem mentions_of_mentions_foldUnary {op : UnaryOp} (h : (foldUnary op e).Mentions x) :
    (unary op e).Mentions x := by
  unfold foldUnary at h
  split at h
  · split at h
    · cases h
    · exact h
  · exact h

/-- Folding brings in no variables. -/
theorem mentions_of_mentions_fold (h : e.fold.Mentions x) : e.Mentions x := by
  induction e with
  | literal _ | known _ | mask _ => exact h
  | binary op l r ihl ihr => exact (mentions_of_mentions_foldBinary h).imp ihl ihr
  | unary op e ih => exact ih (mentions_of_mentions_foldUnary h)

end Expr

/-- The formula does not ask for the time. -/
def Formula.Timeless (f : Formula) : Prop := ¬f.expr.Mentions .now

/-- The name of another variable does not ask for the time. -/
theorem Formula.timeless_of_name {f : Formula} (x : Variable) (hx : x ≠ .now)
    (h : Formula.read x.name = .ok f) : f.Timeless := by
  cases (Grammar.read_name x).symm.trans h
  exact hx

/-- No expression of the element asks for the time. -/
def Element.Timeless (e : Element) : Prop :=
  ∀ text f, e.field = .expression text → Formula.read text = .ok f → f.Timeless

/-- No expression of the template asks for the time. -/
def Template.Timeless (t : Template) : Prop := ∀ e ∈ t.elements, e.Timeless

/-- Neither of the formulas of the renderer asks for the time. -/
structure Renderer.Timeless (r : Renderer) : Prop where
  amount : r.amount.Timeless
  total : r.total.Timeless

/-- Neither of the formulas of the selector asks for the time. -/
structure Selector.Timeless (sel : Selector) : Prop where
  total : sel.total.Timeless
  predicate : ∀ p, sel.predicate = some p → p.formula.Timeless

theorem Formula.Timeless.fold {f : Formula} (h : f.Timeless) : f.fold.Timeless := fun hm =>
  h (Expr.mentions_of_mentions_fold hm)

/-- A template without expressions asks for nothing. -/
theorem Template.timeless_of_fields {t : Template}
    (h : ∀ e ∈ t.elements, ∀ text, e.field ≠ .expression text) : t.Timeless :=
  fun e he text _ hfield _ => absurd hfield (h e he text)

/-- Settings whose expressions do not ask for the time make a renderer that does not. -/
theorem Renderer.timeless_of_settings {settings : Settings} {r : Renderer}
    (hamount : ∀ f, Formula.read settings.amountExpr = .ok f → f.Timeless)
    (htotal : ∀ f, Formula.read settings.totalExpr = .ok f → f.Timeless)
    (h : ofSettings settings = .ok r) : r.Timeless := by
  rw [ofSettings] at h
  cases ha : Formula.read settings.amountExpr with
  | error e =>
    rw [ha] at h
    cases h
  | ok amount =>
    cases ht : Formula.read settings.totalExpr with
    | error e =>
      rw [ha, ht] at h
      cases h
    | ok total =>
      rw [ha, ht] at h
      cases h
      exact ⟨(hamount _ ha).fold, (htotal _ ht).fold⟩

theorem Predicate.timeless_of_text {text : String} {p : Predicate}
    (htext : ∀ f, Formula.read text = .ok f → f.Timeless) (h : ofText text = .ok (some p)) :
    p.formula.Timeless := by
  rw [ofText] at h
  split at h
  · cases h
  · rw [read] at h
    cases hf : Formula.read text with
    | error e =>
      rw [hf] at h
      cases h
    | ok f =>
      rw [hf] at h
      cases h
      exact (htext f hf).fold

/-! ## States that look alike -/

namespace ReportState

variable {s t : ReportState}

/-- The states differ at most in marks, and the same accounts are displayed. -/
structure LooksAlike (s t : ReportState) : Prop where
  apart : s.MarksApart t
  displayed : ∀ id, s.accountHas id .done = t.accountHas id .done

theorem LooksAlike.refl (s : ReportState) : s.LooksAlike s := ⟨.refl s, fun _ => rfl⟩

theorem LooksAlike.symm (h : s.LooksAlike t) : t.LooksAlike s :=
  ⟨h.apart.symm, fun id => (h.displayed id).symm⟩

theorem LooksAlike.trans {u : ReportState} (h : s.LooksAlike t) (h' : t.LooksAlike u) :
    s.LooksAlike u :=
  ⟨h.apart.trans h'.apart, fun id => (h.displayed id).trans (h'.displayed id)⟩

theorem marksApart_markAccount (s : ReportState) (id : AccountId) (m : Marks) :
    (s.markAccount id m).MarksApart s :=
  marksApart_changeAccount s id (·.union m)

theorem MarksApart.markAccount (h : s.MarksApart t) (id : AccountId) (m : Marks) :
    (s.markAccount id m).MarksApart (t.markAccount id m) :=
  (marksApart_markAccount s id m).trans (h.trans (marksApart_markAccount t id m).symm)

theorem LooksAlike.markAccount_done (h : s.LooksAlike t) (id : AccountId) :
    (s.markAccount id .done).LooksAlike (t.markAccount id .done) where
  apart := h.apart.markAccount id .done
  displayed id' := by
    rw [accountHas_markAccount_done, accountHas_markAccount_done, h.displayed]

theorem LooksAlike.markAccount_waiting (h : s.LooksAlike t) (id : AccountId) :
    (s.markAccount id .waiting).LooksAlike (t.markAccount id .waiting) where
  apart := h.apart.markAccount id .waiting
  displayed id' := by
    rw [accountHas_markAccount_waiting, accountHas_markAccount_waiting, h.displayed]

theorem looksAlike_markTransaction (s : ReportState) (i : Nat) (m : Marks) :
    (s.markTransaction i m).LooksAlike s :=
  ⟨marksApart_changeTransaction s i (·.union m), fun id => accountHas_markTransaction s id i m _⟩

theorem looksAlike_unmarkTransaction (s : ReportState) (i : Nat) (m : Marks) :
    (s.unmarkTransaction i m).LooksAlike s :=
  ⟨marksApart_unmarkTransaction s i m, fun id => accountHas_unmarkTransaction s id i m _⟩

end ReportState

/-! ## What a line is written from -/

section

variable {sc : Scope} {t : ReportState} {r : Renderer}

namespace Scope

/-- In the other state the scope looks alike: the states do, and for the scope's transaction they
agree on its record and on which transactions of its entry wait. -/
structure LooksAlike (sc : Scope) (t : ReportState) : Prop where
  state : sc.state.LooksAlike t
  recorded : sc.RecordedAlike t
  waiting : sc.transaction ≠ none → ∀ e, sc.entry = some e → ∀ y ∈ sc.journal.entryTransactions e,
    sc.state.transactionHas y.id .waiting = t.transactionHas y.id .waiting

theorem LooksAlike.refl (sc : Scope) : sc.LooksAlike sc.state :=
  ⟨.refl sc.state, fun _ _ => rfl, fun _ _ _ _ _ => rfl⟩

/-- A scope that is about no transaction looks alike where the states do. -/
theorem looksAlike_of_no_transaction (h : sc.state.LooksAlike t) (hnone : sc.transaction = none) :
    sc.LooksAlike t where
  state := h
  recorded x hx := by cases hnone.symm.trans hx
  waiting hsome := absurd hnone hsome

theorem partialName_congr (h : sc.LooksAlike t) (now : DateTime) :
    sc.partialName = (sc.seenIn t now).partialName := by
  funext a
  simp only [partialName, isDisplayed, seenIn, h.state.displayed]

theorem displayedAbove_congr (h : sc.LooksAlike t) (now : DateTime) :
    sc.displayedAbove = (sc.seenIn t now).displayedAbove := by
  funext a
  have hdisplayed : sc.isDisplayed = (sc.seenIn t now).isDisplayed :=
    funext fun b => h.state.displayed b.id
  rw [displayedAbove, displayedAbove, hdisplayed]
  rfl

end Scope

namespace Renderer

theorem offsetsFirst_congr (h : sc.LooksAlike t) (now : DateTime) {x : Transaction}
    (hx : sc.transaction = some x) : offsetsFirst sc x = offsetsFirst (sc.seenIn t now) x := by
  have hsome : sc.transaction ≠ none := hx ▸ Option.some_ne_none x
  simp only [offsetsFirst, Scope.seenIn]
  cases he : sc.entry with
  | none => rfl
  | some e => simp only [List.filter_congr (h.waiting hsome e he)]

theorem amountWithPriceText_congr (h : sc.LooksAlike t) (now : DateTime) :
    amountWithPriceText sc = amountWithPriceText (sc.seenIn t now) := by
  cases hx : sc.transaction with
  | none => simp only [amountWithPriceText, Scope.seenIn, hx]
  | some x =>
    have hoffsets := offsetsFirst_congr h now hx
    rw [Scope.seenIn] at hoffsets ⊢
    simp only [amountWithPriceText, hx, hoffsets]

theorem formulaCell_congr (h : sc.LooksAlike t) (now : DateTime) (e : Element) {f : Formula}
    (hf : f.Timeless ∨ now = sc.now) :
    r.formulaCell e sc f = r.formulaCell e (sc.seenIn t now) f := by
  rw [formulaCell, formulaCell, Formula.eval, Formula.eval,
    Scope.eval_congr_at h.state.apart now hf (.inr h.recorded)]

theorem cellOf_congr (h : sc.LooksAlike t) (now : DateTime) {e : Element}
    (he : r.Timeless ∧ e.Timeless ∨ now = sc.now) :
    r.cellOf sc e = r.cellOf (sc.seenIn t now) e := by
  rw [cellOf, cellOf]
  cases hfield : e.field with
  | expression text =>
    simp only
    cases hf : Formula.read text with
    | error _ => rfl
    | ok f => exact formulaCell_congr h now e (he.imp_left fun he => (he.2 text f hfield hf).fold)
  | amount => exact formulaCell_congr h now e (he.imp_left (·.1.amount))
  | total => exact formulaCell_congr h now e (he.imp_left (·.1.total))
  | accountWithState =>
    simp only
    rw [Scope.partialName_congr h now]
    rfl
  | accountName =>
    simp only
    rw [Scope.partialName_congr h now]
    rfl
  | amountWithPrice =>
    simp only
    rw [amountWithPriceText_congr h now]
  | indent =>
    simp only
    rw [Scope.displayedAbove_congr h now]
    rfl
  | _ => rfl

theorem elementText_congr (h : sc.LooksAlike t) (now : DateTime) {e : Element}
    (he : r.Timeless ∧ e.Timeless ∨ now = sc.now) :
    r.elementText sc e = r.elementText (sc.seenIn t now) e := by
  rw [elementText, elementText, cellOf_congr h now he]

/-- Where the scope looks alike, the same is written at any time. -/
theorem render_congr (h : sc.LooksAlike t) (now : DateTime) (hr : r.Timeless) {template : Template}
    (ht : template.Timeless) : r.render template sc = r.render template (sc.seenIn t now) := by
  have htext : ∀ e ∈ template.elements, r.elementText sc e = r.elementText (sc.seenIn t now) e :=
    fun e he => elementText_congr h now (.inl ⟨hr, ht e he⟩)
  rw [render, render]
  generalize template.elements = es at htext
  induction es with
  | nil => rfl
  | cons e es ih =>
    have ih := ih fun e' he' => htext e' (.tail _ he')
    show (Attempt.ofExcept (r.elementText sc e) >>= Sink.write) >>= _ = _
    rw [htext e (.head _)]
    exact congrArg _ (funext fun _ => ih)

/-- The time is nothing to a template whose expressions do not ask for it. -/
theorem render_at (sc : Scope) (now : DateTime) (hr : r.Timeless) {template : Template}
    (ht : template.Timeless) : r.render template { sc with now } = r.render template sc :=
  (render_congr (.refl sc) now hr ht).symm

end Renderer

end

/-! ## Which accounts are selected -/

namespace Selector

variable {sel : Selector} {s t : ReportState}

theorem eval_seen (h : s.MarksApart t) (now : DateTime) {f : Formula} (hf : f.Timeless)
    (a : Account) :
    f.eval (sel.scopeOf s a) = f.eval (({ sel with now } : Selector).scopeOf t a) := by
  have halike : (sel.scopeOf s a).RecordedAlike t := fun x hx => by cases hx
  exact Scope.eval_congr h now hf (.inr halike)

theorem passes_seen (h : s.MarksApart t) (now : DateTime) (hsel : sel.Timeless) (a : Account) :
    sel.passes s a = ({ sel with now } : Selector).passes t a := by
  have hholds (p : Predicate) (hp : sel.predicate = some p) :
      p.holds (sel.scopeOf s a) = p.holds (({ sel with now } : Selector).scopeOf t a) := by
    rw [Predicate.holds, Predicate.holds, eval_seen h now (hsel.predicate p hp)]
  simp only [passes]
  split
  · rename_i p hp
    exact hholds p hp
  · rfl

theorem totalOf_seen (h : s.MarksApart t) (now : DateTime) (hsel : sel.Timeless) (a : Account) :
    sel.totalOf s a = ({ sel with now } : Selector).totalOf t a :=
  eval_seen h now hsel.total a

theorem standingFrom_seen (h : s.MarksApart t) (now : DateTime) (hsel : sel.Timeless) (a : Account)
    (found : Standing) (kids : List Account) :
    sel.standingFrom s a found kids =
      ({ sel with now } : Selector).standingFrom t a found kids := by
  induction kids generalizing found with
  | nil => rfl
  | cons c kids ih =>
    rw [standingFrom, standingFrom, passes_seen h now hsel, totalOf_seen h now hsel,
      totalOf_seen h now hsel, ih, ih]

/-- Whether an account is selected depends on the records and on its own mark, but not on the other
marks. -/
theorem selects_congr (h : s.MarksApart t) (now : DateTime) (hsel : sel.Timeless) {a : Account}
    (hdone : s.accountHas a.id .done = t.accountHas a.id .done) :
    sel.selects s a = ({ sel with now } : Selector).selects t a := by
  rw [selects, selects, hdone, standing, standing, standingFrom_seen h now hsel,
    passes_seen h now hsel]

theorem selects_of_done {a : Account} (hdone : s.accountHas a.id .done) :
    sel.selects s a = .ok false := by
  rw [selects, if_pos hdone]
  rfl

end Selector

end Bookkeeping
