import Bookkeeping.Proofs.Report.Opening
import Bookkeeping.Report.Balances

/-!
# Balance reports lose no total

A balance report writes a line for every shown account but the root, and for no other: its run is
that of writing these lines one after the other (`feedJournal_eq`).  `Balances.shownLines` lists the
accounts in the order of the walk; none comes twice, and each account that passes has one of them
with its total in its subtree (`feedJournal_loses_no_total`).
-/

namespace Bookkeeping

namespace Balances

open Attempt

variable {b : Balances}

/-- Writes the line of an account, whether or not it is selected. -/
def writeLine (b : Balances) (a : Account) : PassStep Unit Unit := do
  b.writeAccount b.line a none
  Pass.change (·.markAccount a.id .done)

/-- The accounts but the root that are shown, in the order of the walk. -/
def shownLines (b : Balances) (pass : Account → Bool) (total : Account → Value) : List Account :=
  (b.journal.subtree 0).filter fun a => !a.isRoot && b.journal.shown pass total a

/-- The pass with the root marked as one that waits, if it is shown. -/
def markRoot (b : Balances) (pass : Account → Bool) (total : Account → Value) (p : Pass Unit) :
    Pass Unit :=
  if b.journal.accounts.head?.any (b.journal.shown pass total) then
    { p with state := p.state.markAccount (.listed 0) .waiting }
  else p

/-! ## Steps -/

/-- Writing for an account leaves the state of the report alone. -/
theorem state_writeAccount (r : Report) (t : Template) (a : Account) (v : Option Value)
    (p : Pass Unit) : ((r.writeAccount t a v).exec p).2.state = p.state := rfl

theorem exec_writeLine (a : Account) (p : Pass Unit) :
    (b.writeLine a).exec p =
      match (b.writeAccount b.line a none).exec p with
      | (.ok _, p') => (.ok (), { p' with state := p'.state.markAccount a.id .done })
      | (.error e, p') => (.error e, p') := by
  rw [writeLine, exec_bind]
  rcases (b.writeAccount b.line a none).exec p with ⟨r, p'⟩
  cases r <;> rfl

/-- A line that has been written leaves its mark and nothing else. -/
theorem state_of_writeLine {a : Account} {p p' : Pass Unit}
    (h : (b.writeLine a).exec p = (.ok (), p')) :
    p'.state = p.state.markAccount a.id .done := by
  have hstate := state_writeAccount b.toReport b.line a none p
  rw [exec_writeLine] at h
  rcases hx : (b.writeAccount b.line a none).exec p with ⟨r, q⟩
  rw [hx] at h hstate
  cases r with
  | error _ => cases h
  | ok _ =>
    cases h
    show q.state.markAccount a.id .done = _
    rw [show q.state = p.state from hstate]

theorem exec_feed {a : Account} {p : Pass Unit} {chosen : Bool}
    (h : b.selector.selects p.state a = .ok chosen) :
    (b.feed a).exec p =
      if chosen then
        if a.isRoot then (.ok (), { p with state := p.state.markAccount a.id .waiting })
        else (b.writeLine a).exec p
      else (.ok (), p) := by
  rw [feed, exec_bind, exec_get]
  simp only
  rw [exec_bind, exec_ofExcept, h]
  show ((if chosen then _ else _ : PassStep Unit Unit)).exec p = _
  cases chosen with
  | false => rfl
  | true => cases hroot : a.isRoot <;> rfl

/-! ## The walk -/

section

variable {pass : Account → Bool} {total : Account → Value} {s : ReportState}

/-- Feeding accounts below the root that are not displayed yet is writing the lines of the shown
ones. -/
theorem forM_feed (hsurvey : b.selector.Survey s pass total) {accounts : List Account}
    (hmem : ∀ a ∈ accounts, a ∈ b.journal.accounts)
    (hroot : ∀ a ∈ accounts, a.isRoot = false) (hnodup : (accounts.map (·.id)).Nodup)
    {p : Pass Unit} (hs : p.state.SumsAs s)
    (hdone : ∀ a ∈ accounts, p.state.accountHas a.id .done = false) :
    (accounts.forM b.feed).exec p =
      ((accounts.filter (b.journal.shown pass total)).forM b.writeLine).exec p := by
  induction accounts generalizing p with
  | nil => rfl
  | cons a accounts ih =>
    have ih {q : Pass Unit} := ih (fun c hc => hmem c (.tail _ hc))
      (fun c hc => hroot c (.tail _ hc)) (List.nodup_cons.1 hnodup).2 (p := q)
    have hselects : b.selector.selects p.state a = .ok (b.journal.shown pass total a) :=
      Selector.selects_eq (hsurvey.congr hs) (hmem a (.head _)) (hdone a (.head _))
    rw [exec_forM_cons, exec_feed hselects, hroot a (.head _)]
    cases hshown : b.journal.shown pass total a with
    | false =>
      rw [List.filter_cons_of_neg (by simpa using hshown)]
      exact ih hs fun c hc => hdone c (.tail _ hc)
    | true =>
      rw [List.filter_cons_of_pos hshown, exec_forM_cons]
      rw [if_pos rfl, if_neg Bool.false_ne_true]
      rcases hx : (b.writeLine a).exec p with ⟨r, q⟩
      cases r with
      | error _ => rfl
      | ok _ =>
        have hstate := state_of_writeLine hx
        refine ih ?_ fun c hc => ?_
        · rw [hstate]
          exact (ReportState.sumsAs_markAccount _ _ _).trans hs
        · rw [hstate, ReportState.accountHas_markAccount_done, hdone c (.tail _ hc), Bool.or_false]
          have hne : c.id ≠ a.id := by
            intro h
            exact (List.nodup_cons.1 hnodup).1 (List.mem_map.2 ⟨c, hc, h⟩)
          simpa using hne

/-- What is written leaves the mark of displayed accounts on the written ones, and on no other. -/
theorem accountHas_of_forM_writeLine {lines : List Account} {p p' : Pass Unit}
    (h : (lines.forM b.writeLine).exec p = (.ok (), p')) (id : AccountId) :
    p'.state.accountHas id .done ↔
      id ∈ lines.map (·.id) ∨ p.state.accountHas id .done := by
  induction lines generalizing p with
  | nil =>
    cases h
    simp
  | cons a lines ih =>
    rw [exec_forM_cons] at h
    rcases hx : (b.writeLine a).exec p with ⟨r, q⟩
    rw [hx] at h
    cases r with
    | error _ => cases h
    | ok _ =>
      rw [ih h, state_of_writeLine hx, ReportState.accountHas_markAccount_done]
      simp only [List.map_cons, List.mem_cons, Bool.or_eq_true, decide_eq_true_eq]
      constructor
      · rintro (h | h | h)
        · exact .inl (.inr h)
        · exact .inl (.inl h)
        · exact .inr h
      · rintro ((h | h) | h)
        · exact .inr (.inl h)
        · exact .inl h
        · exact .inr (.inr h)

/-- The walk writes the lines of the shown accounts in its order. -/
theorem feedJournal_eq (hj : b.journal.IsTree) {p : Pass Unit}
    (hsurvey : b.selector.Survey p.state pass total)
    (hdone : ∀ a ∈ b.journal.accounts, p.state.accountHas a.id .done = false) :
    b.feedJournal.exec p =
      ((b.shownLines pass total).forM b.writeLine).exec (b.markRoot pass total p) := by
  obtain ⟨root, below, hroot, hisRoot, hsubtree, hbelow, hnodup⟩ := Journal.exists_root hj
  have hlines : b.shownLines pass total = below.filter (b.journal.shown pass total) := by
    rw [shownLines, hsubtree, List.filter_cons_of_neg (by simp [hisRoot])]
    refine List.filter_congr fun a ha => ?_
    rw [(hbelow a ha).2, Bool.not_false, Bool.true_and]
  have hrootmem : root ∈ b.journal.accounts := List.mem_of_getElem? hroot
  have hselects : b.selector.selects p.state root = .ok (b.journal.shown pass total root) :=
    Selector.selects_eq hsurvey hrootmem (hdone root hrootmem)
  have hmark : b.markRoot pass total p = if b.journal.shown pass total root then
      { p with state := p.state.markAccount root.id .waiting } else p := by
    rw [markRoot, List.head?_eq_getElem?, hroot, hj.id_eq hroot]
    rfl
  have hfeed {q : Pass Unit} (hs : q.state.SumsAs p.state)
      (hq : ∀ a ∈ below, q.state.accountHas a.id .done = false) :
      (below.forM b.feed).exec q =
        ((below.filter (b.journal.shown pass total)).forM b.writeLine).exec q :=
    forM_feed hsurvey (fun a ha => (hbelow a ha).1) (fun a ha => (hbelow a ha).2) hnodup hs hq
  rw [feedJournal, Journal.preorder_eq hj, hsubtree, exec_forM_cons, exec_feed hselects, hisRoot,
    hlines, hmark]
  cases b.journal.shown pass total root with
  | false => exact hfeed (.refl _) fun a ha => hdone a (hbelow a ha).1
  | true =>
    refine hfeed (ReportState.sumsAs_markAccount _ _ _) fun a ha => ?_
    rw [ReportState.accountHas_markAccount_waiting]
    exact hdone a (hbelow a ha).1

theorem mem_shownLines_iff (hj : b.journal.IsTree) {a : Account} :
    a ∈ b.shownLines pass total ↔
      a ∈ b.journal.accounts ∧ a.isRoot = false ∧ b.journal.shown pass total a := by
  rw [shownLines, List.mem_filter, Journal.mem_subtree_root_iff hj, Bool.and_eq_true,
    Bool.not_eq_true']

/-- After the walk exactly the accounts with lines are marked as displayed. -/
theorem accountHas_of_feedJournal (hj : b.journal.IsTree) {p p' : Pass Unit}
    (hsurvey : b.selector.Survey p.state pass total)
    (hdone : ∀ a ∈ b.journal.accounts, p.state.accountHas a.id .done = false)
    (h : b.feedJournal.exec p = (.ok (), p')) {a : Account} (ha : a ∈ b.journal.accounts) :
    p'.state.accountHas a.id .done ↔ a ∈ b.shownLines pass total := by
  rw [feedJournal_eq hj hsurvey hdone] at h
  rw [accountHas_of_forM_writeLine h]
  have hstart : (b.markRoot pass total p).state.accountHas a.id .done = false := by
    unfold markRoot
    split
    · rw [ReportState.accountHas_markAccount_waiting]
      exact hdone a ha
    · exact hdone a ha
  rw [hstart, List.mem_map]
  constructor
  · rintro (⟨c, hc, hid⟩ | h)
    · rwa [← Journal.eq_of_id_eq hj ((mem_shownLines_iff hj).1 hc).1 ha hid]
    · cases h
  · exact fun h => .inl ⟨a, h, rfl⟩

end

/-! ## The report -/

/-- On a journal of which no account is marked as displayed, and of whose accounts the report knows
which ones pass and what their totals are: the walk writes exactly the lines of the shown accounts
but the root, each once and in preorder, and leaves the mark of displayed accounts on these; and
every account but the root that passes has an account with the same total, in its subtree, among
them. -/
theorem feedJournal_loses_no_total (b : Balances) (hj : b.journal.Built) (p : Pass Unit)
    (pass : Account → Bool) (total : Account → Value)
    (hsurvey : b.selector.Survey p.state pass total)
    (hdone : ∀ a ∈ b.journal.accounts, p.state.accountHas a.id .done = false) :
    b.feedJournal.exec p =
      ((b.shownLines pass total).forM b.writeLine).exec (b.markRoot pass total p) ∧
    (∀ p', b.feedJournal.exec p = (.ok (), p') → ∀ a ∈ b.journal.accounts,
      (p'.state.accountHas a.id .done ↔ a ∈ b.shownLines pass total)) ∧
    (b.shownLines pass total).Nodup ∧
    (∀ a, a ∈ b.shownLines pass total ↔
      a ∈ b.journal.accounts ∧ a.isRoot = false ∧ b.journal.shown pass total a) ∧
    ∀ a ∈ b.journal.accounts, a.isRoot = false → pass a →
      ∃ r ∈ b.shownLines pass total, r ∈ b.journal.subtreeOf a ∧ (total a).same (total r) := by
  have hj := hj.isTree
  refine ⟨feedJournal_eq hj hsurvey hdone,
    fun p' h a ha => accountHas_of_feedJournal hj hsurvey hdone h ha,
    (Journal.nodup_subtree hj hj.root).filter _, fun a => mem_shownLines_iff hj, ?_⟩
  intro a ha hroot hpass
  obtain ⟨r, hr, hmem, hrootr, hshown, hsame⟩ :=
    Journal.exists_shown hj pass total ha hroot hpass
  exact ⟨r, (mem_shownLines_iff hj).2 ⟨hmem, hrootr, hshown⟩, hr, hsame⟩

/-- The accounts of the errands with less than ten dollars. -/
def modestBalances : Balances where
  journal := ReportState.errands
  now := .midnight .earliest
  renderer := Opening.ofErrands.renderer
  line := ⟨[{ field := .accountName }, { field := .literal "\n" }], ""⟩
  predicate := some { formula :=
    { expr := .binary .lt (.known .total) (.literal (.integer (.ofCount 10)))
      source := "total < 10" } }

/-- The cash has the line of the assets, of which it is all there is; the expenses have one besides
the food, because there is more to them. -/
theorem feedJournal_loses_no_total_chain :
    let pass (a : Account) : Bool := a.name != "Expenses" && a.name != "Fuel"
    let total (a : Account) : Value := (Opening.errandSums.accountOf a.id).total
    let p : Pass Unit := { state := Opening.errandSums, sink := .unlimited, memory := () }
    let lines := modestBalances.shownLines pass total
    lines.map (·.name) = ["Cash", "Expenses", "Food"] ∧
      modestBalances.feedJournal.exec p =
        (lines.forM modestBalances.writeLine).exec (modestBalances.markRoot pass total p) ∧
      (modestBalances.feedJournal.exec p).2.sink.pieces =
        ["Assets:Cash", "\n", "Expenses", "\n", "Food", "\n"] := by
  intro pass total p lines
  have hpasses : ∀ a ∈ ReportState.errands.accounts,
      modestBalances.selector.passes Opening.errandSums a = .ok (pass a) := by
    decide +kernel
  have htotals (s : ReportState) (a : Account) :
      modestBalances.selector.totalOf s a = .ok (s.accountOf a.id).total := rfl
  have hsurvey : modestBalances.selector.Survey p.state pass total := by
    dsimp only [p]
    exact ⟨hpasses, fun a _ => htotals Opening.errandSums a⟩
  have hdone : ∀ a ∈ modestBalances.journal.accounts, p.state.accountHas a.id .done = false := by
    intro a ha
    dsimp only [p]
    exact Opening.not_displayed_errandSums ha
  have hnames : lines.map (·.name) = ["Cash", "Expenses", "Food"] := by
    dsimp only [lines]
    rw [shownLines, show modestBalances.journal = ReportState.errands from rfl,
      ← Journal.preorder_eq Opening.built_errands.isTree]
    decide +kernel
  have hpieces : (modestBalances.feedJournal.exec p).2.sink.pieces =
      ["Assets:Cash", "\n", "Expenses", "\n", "Food", "\n"] := by decide +kernel
  obtain ⟨hrun, -⟩ := feedJournal_loses_no_total modestBalances Opening.built_errands p pass total
    hsurvey hdone
  exact ⟨hnames, hrun, hpieces⟩

end Balances

end Bookkeeping
