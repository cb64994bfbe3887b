import Bookkeeping.Proofs.Journal.Tree
import Bookkeeping.Proofs.Report.Marks
import Bookkeeping.Proofs.Value.Same

/-!
# Which accounts are shown

`Journal.shown` says which accounts are to be displayed, given which ones pass and what their totals
are; a `Survey` says that the selector finds just that.  Then the selector selects the shown
accounts that are not displayed yet (`selects_eq`).  Every account that passes has an account with
the same total in its subtree that is shown (`exists_shown`): where it is not shown itself, the only
passing account below it stands for it.
-/

namespace Bookkeeping

namespace Journal

/-- The account is to be displayed: several accounts below it pass, or one with another total, or
none but the account itself. -/
def shown (j : Journal) (pass : Account → Bool) (total : Account → Value) (a : Account) : Bool :=
  match (j.childrenOf a).filter pass with
  | [] => pass a
  | [c] => !(total a).same (total c)
  | _ => true

/-- The account and all below it, each before those below it. -/
def subtreeOf (j : Journal) (a : Account) : List Account :=
  match a.id with
  | .listed i => j.subtree i
  | .detached => []

section

variable {j : Journal}

theorem mem_childrenOf_iff {a c : Account} :
    c ∈ j.childrenOf a ↔ ∃ k ∈ a.children.values, j.accounts[k]? = some c := by
  rw [childrenOf, List.mem_filterMap]

theorem mem_accounts_of_mem_childrenOf {a c : Account} (h : c ∈ j.childrenOf a) :
    c ∈ j.accounts := by
  obtain ⟨k, -, hk⟩ := mem_childrenOf_iff.1 h
  exact List.mem_of_getElem? hk

theorem subtreeOf_eq (h : j.IsTree) {i : Nat} {a : Account} (ha : j.accounts[i]? = some a) :
    j.subtreeOf a = j.subtree i := by
  rw [subtreeOf, h.id_eq ha]

theorem mem_subtreeOf_self (h : j.IsTree) {a : Account} (ha : a ∈ j.accounts) :
    a ∈ j.subtreeOf a := by
  obtain ⟨i, hi⟩ := List.mem_iff_getElem?.1 ha
  rw [subtreeOf_eq h hi, subtree_eq h hi]
  exact .head _

theorem mem_subtreeOf_of_child (h : j.IsTree) {a b c : Account} (ha : a ∈ j.accounts)
    (hc : c ∈ j.childrenOf a) (hb : b ∈ j.subtreeOf c) : b ∈ j.subtreeOf a := by
  obtain ⟨i, hi⟩ := List.mem_iff_getElem?.1 ha
  obtain ⟨k, hk, hck⟩ := mem_childrenOf_iff.1 hc
  rw [subtreeOf_eq h hck] at hb
  rw [subtreeOf_eq h hi, subtree_eq h hi]
  exact .tail _ (List.mem_flatMap.2 ⟨k, hk, hb⟩)

/-- Whatever is below an account is not the root. -/
theorem isRoot_of_mem_childrenOf (h : j.IsTree) {a c : Account} (ha : a ∈ j.accounts)
    (hc : c ∈ j.childrenOf a) : c.isRoot = false := by
  obtain ⟨i, hi⟩ := List.mem_iff_getElem?.1 ha
  obtain ⟨k, hk, hck⟩ := mem_childrenOf_iff.1 hc
  obtain ⟨-, b, hb, hp⟩ := h.child hi hk
  cases hck.symm.trans hb
  rw [Account.isRoot, hp]
  rfl

/-- What holds of an account if it holds of those directly below it holds of all. -/
theorem IsTree.account_induction (h : j.IsTree) {P : Account → Prop}
    (step : ∀ a ∈ j.accounts, (∀ c ∈ j.childrenOf a, P c) → P a) {a : Account}
    (ha : a ∈ j.accounts) : P a := by
  obtain ⟨i, hi⟩ := List.mem_iff_getElem?.1 ha
  have hall := h.induction (P := fun i => ∀ a, j.accounts[i]? = some a → P a) (fun i a hi ih => ?_)
    (List.getElem?_eq_some_iff.1 hi).1
  · exact hall a hi
  · intro b hb
    cases hi.symm.trans hb
    refine step a (List.mem_of_getElem? hi) fun c hc => ?_
    obtain ⟨k, hk, hck⟩ := mem_childrenOf_iff.1 hc
    exact ih k hk c hck

/-! ## No total is lost -/

/-- Below every account that passes, an account with the same total is shown. -/
theorem exists_shown (h : j.IsTree) (pass : Account → Bool) (total : Account → Value)
    {a : Account} (ha : a ∈ j.accounts) (hroot : a.isRoot = false) (hpass : pass a) :
    ∃ r ∈ j.subtreeOf a, r ∈ j.accounts ∧ r.isRoot = false ∧ j.shown pass total r ∧
      (total a).same (total r) := by
  refine h.account_induction (P := fun a => a.isRoot = false → pass a → ∃ r ∈ j.subtreeOf a,
    r ∈ j.accounts ∧ r.isRoot = false ∧ j.shown pass total r ∧ (total a).same (total r))
    (fun a ha ih hroot hpass => ?_) ha hroot hpass
  by_cases hshown : j.shown pass total a
  · exact ⟨a, mem_subtreeOf_self h ha, ha, hroot, hshown, Value.same_refl _⟩
  · -- then exactly one account below passes, and with the same total
    have hone : ∃ c ∈ j.childrenOf a, pass c ∧ (total a).same (total c) := by
      unfold shown at hshown
      split at hshown
      · exact absurd hpass hshown
      · rename_i c hc
        have hmem : c ∈ (j.childrenOf a).filter pass := by
          rw [hc]
          exact .head _
        exact ⟨c, (List.mem_filter.1 hmem).1, (List.mem_filter.1 hmem).2, by simpa using hshown⟩
      · exact absurd rfl hshown
    obtain ⟨c, hc, hpassc, hsame⟩ := hone
    obtain ⟨r, hr, hmem, hrootr, hshownr, hsamer⟩ :=
      ih c hc (isRoot_of_mem_childrenOf h ha hc) hpassc
    exact ⟨r, mem_subtreeOf_of_child h ha hc hr, hmem, hrootr, hshownr,
      Value.same_trans hsame hsamer⟩

end

end Journal

/-! ## What the selector finds -/

namespace Selector

/-- In the state, exactly these accounts pass, and these are their totals. -/
structure Survey (sel : Selector) (s : ReportState) (pass : Account → Bool)
    (total : Account → Value) : Prop where
  passes : ∀ a ∈ sel.journal.accounts, sel.passes s a = .ok (pass a)
  totals : ∀ a ∈ sel.journal.accounts, sel.totalOf s a = .ok (total a)

variable {sel : Selector} {s t : ReportState} {pass : Account → Bool} {total : Account → Value}

theorem Survey.congr (h : sel.Survey s pass total) (hst : t.SumsAs s) :
    sel.Survey t pass total where
  passes a ha := (passes_congr hst).trans (h.passes a ha)
  totals a ha := (totalOf_congr hst).trans (h.totals a ha)

/-- The standing that the passing accounts below leave an account with. -/
def standingOf (total : Account → Value) (a : Account) : List Account → Standing
  | [] => .alone
  | [c] => if (total a).same (total c) then .replaced else .subtotal
  | _ => .subtotal

theorem standingFrom_replaced (h : sel.Survey s pass total) {a : Account} {kids : List Account}
    (hkids : ∀ c ∈ kids, c ∈ sel.journal.accounts) :
    sel.standingFrom s a .replaced kids =
      .ok (if kids.filter pass = [] then .replaced else .subtotal) := by
  induction kids with
  | nil => rfl
  | cons c kids ih =>
    have hc := hkids c (.head _)
    rw [standingFrom, h.passes c hc]
    cases hp : pass c with
    | false =>
      rw [List.filter_cons_of_neg (by simp [hp])]
      exact ih fun d hd => hkids d (.tail _ hd)
    | true =>
      rw [List.filter_cons_of_pos hp, h.totals c hc]
      rfl

theorem standingFrom_alone (h : sel.Survey s pass total) {a : Account} {kids : List Account}
    (ha : a ∈ sel.journal.accounts) (hkids : ∀ c ∈ kids, c ∈ sel.journal.accounts) :
    sel.standingFrom s a .alone kids = .ok (standingOf total a (kids.filter pass)) := by
  induction kids with
  | nil => rfl
  | cons c kids ih =>
    have hc := hkids c (.head _)
    have hrest : ∀ d ∈ kids, d ∈ sel.journal.accounts := fun d hd => hkids d (.tail _ hd)
    rw [standingFrom, h.passes c hc]
    cases hp : pass c with
    | false =>
      rw [List.filter_cons_of_neg (by simp [hp])]
      exact ih hrest
    | true =>
      rw [List.filter_cons_of_pos hp, h.totals c hc, h.totals a ha]
      show (if (total a).same (total c) then sel.standingFrom s a .replaced kids
        else .ok .subtotal) = _
      rw [standingFrom_replaced h hrest]
      cases hfilter : kids.filter pass with
      | nil => cases hsame : (total a).same (total c) <;> simp [standingOf, hsame]
      | cons d rest => cases hsame : (total a).same (total c) <;> simp [standingOf]

/-- The selector selects the shown accounts that are not displayed yet. -/
theorem selects_eq (h : sel.Survey s pass total) {a : Account} (ha : a ∈ sel.journal.accounts)
    (hdone : s.accountHas a.id .done = false) :
    sel.selects s a = .ok (sel.journal.shown pass total a) := by
  have hkids : ∀ c ∈ sel.journal.childrenOf a, c ∈ sel.journal.accounts := fun c hc =>
    Journal.mem_accounts_of_mem_childrenOf hc
  rw [selects, hdone, standing, standingFrom_alone h ha hkids, Journal.shown]
  cases (sel.journal.childrenOf a).filter pass with
  | nil => exact h.passes a ha
  | cons c rest =>
    cases rest with
    | nil =>
      show _ = Except.ok (!(total a).same (total c))
      rw [standingOf]
      cases (total a).same (total c) <;> rfl
    | cons d rest => rfl

end Selector

end Bookkeeping
