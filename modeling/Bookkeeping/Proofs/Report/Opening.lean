import Bookkeeping.Proofs.Expr.Parsing
import Bookkeeping.Proofs.Report.Selection
import Bookkeeping.Proofs.Report.Totals
import Bookkeeping.Proofs.Value.Holding
import Bookkeeping.Report.Opening

/-!
# Opening balances balance

A report of opening balances writes the lines of the shown accounts and then those that balance
them: its run ends like that of writing just these lines (`Opening.exec_report`).  What the lines
hold adds up to nothing in each commodity (`Opening.lines_balance`).  An account that is not shown
because one below it stands for it holds nothing itself, so that without a predicate the lines of
the accounts hold what the whole journal does (`Opening.total_shown_ownLines`).
-/

namespace Bookkeeping

open Attempt

theorem Journal.exists_of_childrenOf_eq_singleton {j : Journal} (hj : j.IsTree) {a c : Account}
    (ha : a ∈ j.accounts) (h : j.childrenOf a = [c]) :
    ∃ n, a.children.values = [n] ∧ j.accounts[n]? = some c := by
  obtain ⟨i, hi⟩ := List.mem_iff_getElem?.1 ha
  have hlisted : ∀ n ∈ a.children.values, ∃ b, j.accounts[n]? = some b := fun n hn => by
    obtain ⟨-, b, hb, -⟩ := hj.child hi hn
    exact ⟨b, hb⟩
  rw [childrenOf] at h
  cases hvalues : a.children.values with
  | nil =>
    rw [hvalues] at h
    cases h
  | cons n rest =>
    rw [hvalues] at h hlisted
    obtain ⟨b, hb⟩ := hlisted n (.head _)
    rw [List.filterMap_cons_some hb] at h
    obtain ⟨rfl, hrest⟩ := List.cons.inj h
    cases rest with
    | nil => exact ⟨n, rfl, hb⟩
    | cons n' rest =>
      obtain ⟨b', hb'⟩ := hlisted n' (.tail _ (.head _))
      rw [List.filterMap_cons_some hb'] at hrest
      cases hrest

namespace Pass

variable {μ : Type}

/-- The passes have come to the same state and have written the same. -/
def SameOutput (p q : Pass μ) : Prop := p.state = q.state ∧ p.sink = q.sink

/-- The runs end with the same result, state and sink, whatever they remember. -/
def EndAlike (x y : Except ReportError Unit × Pass μ) : Prop := x.1 = y.1 ∧ x.2.SameOutput y.2

end Pass

namespace Opening

variable {o : Opening} {s : ReportState} {a : Account} {p q : Pass Memory}

/-- The values of the lines of an account. -/
def ownLines (s : ReportState) (a : Account) : List Value :=
  if (s.accountOf a.id).value.isNull then [] else linesOf (s.accountOf a.id).value

/-- Writes lines with these values for an account, whether or not it is selected. -/
def writeOwn (o : Opening) (vs : List Value) (a : Account) : PassStep Memory Unit := do
  vs.forM fun v => o.writeAccount o.line a (some v)
  Pass.change (·.markAccount a.id .done)

/-- Writes the lines of accounts and those of a value that balances them. -/
def writeEntry (o : Opening) (lines : Account → List Value) (accounts : List Account)
    (balancing : Value) : PassStep Memory Unit := do
  accounts.forM fun a => o.writeOwn (lines a) a
  o.writeLines equity balancing

/-- The accounts that are shown, in the order of the walk. -/
def shownAccounts (o : Opening) (pass : Account → Bool) (total : Account → Value) : List Account :=
  (o.journal.subtree 0).filter (o.journal.shown pass total)

/-! ## Steps -/

/-- What a line of an account is about. -/
def lineScope (o : Opening) (s : ReportState) (a : Account) (v : Value) : Scope :=
  { journal := o.journal, state := s, now := o.now, account := some a, value := some v }

/-- Writes the lines of values for an account to a sink. -/
def renderLines (o : Opening) (s : ReportState) (a : Account) (vs : List Value) :
    Attempt Sink ReportError Unit :=
  vs.forM fun v => o.renderer.render o.line (o.lineScope s a v)

theorem exec_writeAccount (v : Value) (p : Pass Memory) :
    (o.writeAccount o.line a (some v)).exec p =
      (((o.renderer.render o.line (o.lineScope p.state a v)).exec p.sink).1,
        { p with sink := ((o.renderer.render o.line (o.lineScope p.state a v)).exec p.sink).2 }) :=
  rfl

theorem exec_forM_writeAccount (vs : List Value) (p : Pass Memory) :
    (vs.forM fun v => o.writeAccount o.line a (some v)).exec p =
      (((o.renderLines p.state a vs).exec p.sink).1,
        { p with sink := ((o.renderLines p.state a vs).exec p.sink).2 }) := by
  induction vs generalizing p with
  | nil => rfl
  | cons v vs ih =>
    rw [exec_forM_cons, exec_writeAccount, renderLines, exec_forM_cons]
    rcases (o.renderer.render o.line (o.lineScope p.state a v)).exec p.sink with ⟨r, k⟩
    cases r with
    | ok _ => exact ih { p with sink := k }
    | error _ => rfl

theorem exec_writeOwn (vs : List Value) (a : Account) (p : Pass Memory) :
    (o.writeOwn vs a).exec p =
      match (o.renderLines p.state a vs).exec p.sink with
      | (.ok _, k) => (.ok (), { p with sink := k, state := p.state.markAccount a.id .done })
      | (.error e, k) => (.error e, { p with sink := k }) := by
  rw [writeOwn, exec_bind, exec_forM_writeAccount]
  rcases (o.renderLines p.state a vs).exec p.sink with ⟨r, k⟩
  cases r <;> rfl

theorem add_null (v : Value) : v.add .null = .ok v := by
  cases v <;> rfl

theorem exec_addUp {v m : Value} (h : p.memory.add v = .ok m) :
    (addUp v).exec p = (.ok (), { p with memory := m }) := by
  rw [addUp, exec_update, h]
  rfl

theorem exec_feed_of_not_selected (h : o.selector.selects p.state a = .ok false) :
    (o.feed a).exec p = (.ok (), p) := by
  rw [feed, exec_bind, exec_get]
  simp only
  rw [exec_bind, exec_ofExcept, h]
  rfl

/-- A selected account has its lines written and its value added to the sum. -/
theorem exec_feed {m : Value} (h : o.selector.selects p.state a = .ok true)
    (hadd : p.memory.add (p.state.accountOf a.id).value = .ok m) :
    (o.feed a).exec p =
      match (o.writeOwn (ownLines p.state a) a).exec p with
      | (.ok _, q) => (.ok (), { q with memory := m })
      | (.error e, q) => (.error e, q) := by
  rw [feed, exec_bind, exec_get]
  simp only
  rw [exec_bind, exec_ofExcept, h]
  simp only [Except.mapError, if_true]
  rw [exec_bind, exec_get, exec_writeOwn, ownLines]
  simp only
  cases hnull : (p.state.accountOf a.id).value.isNull with
  | true =>
    have hm : m = p.memory := by
      cases hv : (p.state.accountOf a.id).value <;> rw [hv] at hnull <;> cases hnull
      rw [hv, add_null] at hadd
      exact (Except.ok.inj hadd).symm
    rw [hm]
    rfl
  | false =>
    rw [if_neg Bool.false_ne_true, if_neg Bool.false_ne_true, exec_bind, writeLines,
      exec_forM_writeAccount]
    rcases (o.renderLines p.state a _).exec p.sink with ⟨r, k⟩
    cases r with
    | error _ => rfl
    | ok _ =>
      simp only
      rw [exec_bind, exec_addUp (p := { p with sink := k }) hadd]
      rfl

/-! ## The run -/

section

variable {pass : Account → Bool} {total : Account → Value}

theorem ownLines_congr {t : ReportState} (h : s.SumsAs t) (a : Account) :
    ownLines s a = ownLines t a := by
  rw [ownLines, ownLines, (h.fields a.id).1]

theorem state_of_writeOwn {vs : List Value} {q' : Pass Memory}
    (h : (o.writeOwn vs a).exec q = (.ok (), q')) :
    q'.state = q.state.markAccount a.id .done := by
  rw [exec_writeOwn] at h
  split at h <;> cases h
  rfl

theorem exec_writeOwn_congr (vs : List Value) (hpq : p.SameOutput q) :
    Pass.EndAlike ((o.writeOwn vs a).exec p) ((o.writeOwn vs a).exec q) := by
  rw [exec_writeOwn, exec_writeOwn, hpq.1, hpq.2]
  split <;> exact ⟨rfl, ⟨rfl, rfl⟩⟩

/-- Feeding accounts that are not displayed yet is writing the lines of the shown ones, while their
values are added up. -/
theorem forM_feed (hsurvey : o.selector.Survey s pass total) {accounts : List Account}
    (hmem : ∀ a ∈ accounts, a ∈ o.journal.accounts) (hnodup : (accounts.map (·.id)).Nodup)
    (hs : p.state.SumsAs s) (hpq : p.SameOutput q)
    (hdone : ∀ a ∈ accounts, p.state.accountHas a.id .done = false) {m : Value}
    (hm : p.memory.addUp ((accounts.filter (o.journal.shown pass total)).map fun a =>
      (s.accountOf a.id).value) = .ok m) :
    Pass.EndAlike ((accounts.forM o.feed).exec p)
        (((accounts.filter (o.journal.shown pass total)).forM fun a =>
          o.writeOwn (ownLines s a) a).exec q) ∧
      (((accounts.forM o.feed).exec p).1 = .ok () →
        ((accounts.forM o.feed).exec p).2.memory = m) := by
  induction accounts generalizing p q with
  | nil => exact ⟨⟨rfl, hpq⟩, fun _ => Except.ok.inj hm⟩
  | cons a accounts ih =>
    have ih {u v : Pass Memory} := ih (fun c hc => hmem c (.tail _ hc))
      (List.nodup_cons.1 hnodup).2 (p := u) (q := v)
    have hselects : o.selector.selects p.state a = .ok (o.journal.shown pass total a) :=
      Selector.selects_eq (hsurvey.congr hs) (hmem a (.head _)) (hdone a (.head _))
    rw [exec_forM_cons]
    cases hshown : o.journal.shown pass total a with
    | false =>
      rw [List.filter_cons_of_neg (by simp [hshown])] at hm ⊢
      rw [exec_feed_of_not_selected (hshown ▸ hselects)]
      exact ih hs hpq (fun c hc => hdone c (.tail _ hc)) hm
    | true =>
      rw [List.filter_cons_of_pos hshown] at hm ⊢
      obtain ⟨m', hadd, hm⟩ := Value.addUp_cons_ok_iff.1 hm
      have hadd : p.memory.add (p.state.accountOf a.id).value = .ok m' :=
        (hs.fields a.id).1 ▸ hadd
      rw [exec_feed (hshown ▸ hselects) hadd, exec_forM_cons, ownLines_congr hs]
      obtain ⟨hresult, houtput⟩ := exec_writeOwn_congr (o := o) (a := a) (ownLines s a) hpq
      rcases hx : (o.writeOwn (ownLines s a) a).exec p with ⟨r, p'⟩
      rcases hy : (o.writeOwn (ownLines s a) a).exec q with ⟨r', q'⟩
      rw [hx, hy] at hresult houtput
      cases hresult
      cases r with
      | error _ => exact ⟨⟨rfl, houtput⟩, nofun⟩
      | ok _ =>
        have hstate := state_of_writeOwn hx
        refine ih (u := { p' with memory := m' }) ?_ houtput (fun c hc => ?_) hm
        · show p'.state.SumsAs s
          rw [hstate]
          exact (ReportState.sumsAs_markAccount _ _ _).trans hs
        · show p'.state.accountHas c.id .done = false
          have hne : c.id ≠ a.id := fun h =>
            (List.nodup_cons.1 hnodup).1 (List.mem_map.2 ⟨c, hc, h⟩)
          rw [hstate, ReportState.accountHas_markAccount_done, hdone c (.tail _ hc), Bool.or_false]
          exact decide_eq_false hne

theorem exec_writeLines_congr (v : Value) (hpq : p.SameOutput q) :
    Pass.EndAlike ((o.writeLines a v).exec p) ((o.writeLines a v).exec q) := by
  rw [writeLines, exec_forM_writeAccount, exec_forM_writeAccount, hpq.1, hpq.2]
  exact ⟨rfl, rfl, rfl⟩

theorem exec_finish {balancing : Value} (h : p.memory.neg = .ok balancing) :
    o.finish.exec p = (o.writeLines equity balancing).exec p := by
  rw [finish, exec_bind, exec_get]
  simp only
  rw [exec_bind, exec_ofExcept, h]
  rfl

/-- The report writes the lines of the shown accounts and those that balance them. -/
theorem exec_report (hj : o.journal.IsTree) (hsurvey : o.selector.Survey p.state pass total)
    (hdone : ∀ a ∈ o.journal.accounts, p.state.accountHas a.id .done = false) {m balancing : Value}
    (hm : p.memory.addUp ((o.shownAccounts pass total).map fun a =>
      (p.state.accountOf a.id).value) = .ok m) (hneg : m.neg = .ok balancing) :
    Pass.EndAlike ((do o.feedJournal; o.finish).exec p)
      ((o.writeEntry (ownLines p.state) (o.shownAccounts pass total) balancing).exec p) := by
  have hmem : ∀ a ∈ o.journal.subtree 0, a ∈ o.journal.accounts := fun a ha =>
    (Journal.mem_subtree_root_iff hj).1 ha
  obtain ⟨hwalk, hmemory⟩ := forM_feed hsurvey hmem (Journal.nodup_subtree_ids hj hj.root)
    (.refl _) ⟨rfl, rfl⟩ (fun a ha => hdone a (hmem a ha)) hm
  have hwalk : Pass.EndAlike (((o.journal.subtree 0).forM o.feed).exec p)
    (((o.shownAccounts pass total).forM fun a => o.writeOwn (ownLines p.state a) a).exec p) := hwalk
  rw [writeEntry, exec_bind, exec_bind, feedJournal, Journal.preorder_eq hj]
  rcases hx : ((o.journal.subtree 0).forM o.feed).exec p with ⟨r, p'⟩
  rcases hy : ((o.shownAccounts pass total).forM fun a =>
    o.writeOwn (ownLines p.state a) a).exec p with ⟨r', q'⟩
  rw [hx] at hmemory
  rw [hx, hy] at hwalk
  obtain ⟨hresult, houtput⟩ := hwalk
  cases hresult
  cases r with
  | error _ => exact ⟨rfl, houtput⟩
  | ok _ =>
    simp only
    rw [exec_finish ((hmemory rfl).symm ▸ hneg)]
    exact exec_writeLines_congr _ houtput

/-! ## What the lines hold -/

open ReportState (amounts)

theorem total_linesOf {v : Value} {as : List Amount} (h : v.IsSumOf as) (k : String) :
    Value.total (linesOf v) k = Amount.total as k := by
  rw [← h.holding]
  cases h with
  | null => exact Value.total_singleton _ k
  | amount => exact Value.total_singleton _ k
  | @balance b _ hb =>
    show Value.total (b.amounts.map .amount) k = b.holding k
    rw [Value.total_map_amount, Balance.total_amounts hb.bySymbol]

/-- What amounts come to has a negative, and its lines take away what they hold. -/
theorem exists_neg {v : Value} {as : List Amount} (h : v.IsSumOf as) :
    ∃ w, v.neg = .ok w ∧ ∀ k, Value.total (linesOf w) k = -Amount.total as k := by
  cases h with
  | null he =>
    subst he
    exact ⟨.null, rfl, fun k => (Value.total_singleton .null k).trans neg_zero.symm⟩
  | @amount a _ _ hhold =>
    refine ⟨.amount a.neg, rfl, fun k => ?_⟩
    rw [← hhold, ← Amount.holding_neg, ← Value.holding_amount]
    exact Value.total_singleton _ k
  | @balance b _ hb hhold =>
    refine ⟨.balance b.neg, rfl, fun k => ?_⟩
    show Value.total (b.neg.amounts.map .amount) k = _
    rw [Value.total_map_amount, Balance.total_amounts hb.bySymbol.neg, Balance.holding_neg, hhold]

theorem total_ownLines {as : List Amount} (h : (s.accountOf a.id).value.IsSumOf as) (k : String) :
    Value.total (ownLines s a) k = Amount.total as k := by
  rw [ownLines]
  split
  · rename_i hnull
    cases hv : (s.accountOf a.id).value <;> rw [hv] at hnull h <;> cases hnull
    cases h with | null he => rw [he]; rfl
  · exact total_linesOf h k

/-- In the state the accounts of the journal have the sums of their transactions. -/
structure Recorded (j : Journal) (s : ReportState) : Prop where
  value : ∀ a ∈ j.accounts, (s.accountOf a.id).value.IsSumOf (amounts (j.postedTo [a]))
  total : ∀ (i : Nat) (a : Account), j.accounts[i]? = some a →
    (s.accountOf a.id).total.IsSumOf (amounts (j.postedTo (j.subtree i)))

/-- If the transactions can be counted, each account has their sum on top of its own value. -/
theorem account?_of_forM_addOwn {xs : List Transaction} {s' : ReportState} {id : AccountId}
    {r : AccountRecord} (hr : s.account? id = some r)
    (h : (xs.forM ReportState.addOwn).exec s = (.ok (), s')) :
    ∃ v, r.value.addUp ((xs.filter (·.account = id)).map (.amount ·.amount)) = .ok v ∧
      s'.account? id = some
        { r with value := v, count := r.count + (xs.filter (·.account = id)).length } := by
  induction xs generalizing s r with
  | nil =>
    cases h
    exact ⟨r.value, rfl, hr⟩
  | cons x xs ih =>
    obtain ⟨s₁, hx, hrest⟩ := exec_forM_cons_ok h
    rw [ReportState.addOwn, exec_update] at hx
    cases hadd : (s.accountOf x.account).value.add (.amount x.amount) with
    | error e =>
      rw [hadd] at hx
      cases hx
    | ok v₀ =>
      rw [hadd] at hx
      cases hx
      by_cases hid : id = x.account
      · subst hid
        rw [ReportState.accountOf_of_account? hr] at hadd
        obtain ⟨v, hv, hs'⟩ := ih
          (r := { r with value := v₀, count := r.count + 1 })
          (by rw [ReportState.account?_changeAccount, if_pos rfl,
            ReportState.accountOf_of_account? hr]) hrest
        rw [List.filter_cons_of_pos (by simp), List.map_cons, List.length_cons]
        refine ⟨v, Value.addUp_cons_ok_iff.2 ⟨v₀, hadd, hv⟩, ?_⟩
        rw [hs', Nat.add_assoc, Nat.add_comm 1]
      · rw [List.filter_cons_of_neg (by simpa using Ne.symm hid)]
        exact ih (by rwa [ReportState.account?_changeAccount, if_neg hid]) hrest

theorem recorded_of_sumAccounts {j : Journal} (hj : j.Built) (hsum : ReportState.Summable j)
    {s₀ : ReportState} (h : (ReportState.sumAccounts j).exec s₀ = (.ok (), s)) :
    Recorded j s := by
  obtain ⟨own, total, hown, hsums, htotals⟩ := ReportState.exists_sums hj hsum
  obtain ⟨_, s₁, hreset, h⟩ := exec_bind_ok h
  cases hreset
  obtain ⟨_, s₁, hcounted, h⟩ := exec_bind_ok h
  have hrecord (i : Nat) (a : Account) (ha : j.accounts[i]? = some a) : ∃ r,
      s₁.account? a.id = some r ∧ r.value = own a.id ∧
        r.count = ((j.entries.flatMap j.entryTransactions).filter (·.account = a.id)).length := by
    have hmem : a.id ∈ j.accounts.map (·.id) := List.mem_map_of_mem (List.mem_of_getElem? ha)
    obtain ⟨v, hv, hs₁⟩ := account?_of_forM_addOwn
      (by rw [ReportState.account?_resetOwn, if_pos hmem]) hcounted
    cases (hown a.id).symm.trans hv
    exact ⟨_, hs₁, rfl, Nat.zero_add _⟩
  obtain ⟨s₂, hs₂, -, hsummed, -⟩ := htotals s₁ hrecord
  cases h.symm.trans hs₂
  have hsum (i : Nat) (a : Account) (ha : j.accounts[i]? = some a) :
      (s.accountOf a.id).value = own a.id ∧ (s.accountOf a.id).total = total i := by
    obtain ⟨r, hr, hvalue, -⟩ := hrecord i a ha
    rw [ReportState.accountOf_of_account? (hsummed i a r ha hr)]
    exact ⟨hvalue, rfl⟩
  refine ⟨fun a ha => ?_, fun i a ha => (hsum i a ha).2 ▸ (hsums i a ha).2⟩
  obtain ⟨i, hi⟩ := List.mem_iff_getElem?.1 ha
  exact (hsum i a hi).1 ▸ (hsums i a hi).1

/-- The values of accounts add up, and the lines of the sum's negative balance theirs. -/
theorem lines_balance {j : Journal} (hs : Recorded j s) (hsum : ReportState.Summable j)
    {accounts : List Account} (hmem : ∀ a ∈ accounts, a ∈ j.accounts)
    (hnodup : (accounts.map (·.id)).Nodup) :
    ∃ m balancing, Value.null.addUp (accounts.map fun a => (s.accountOf a.id).value) = .ok m ∧
      m.neg = .ok balancing ∧
      ∀ k, Value.total (accounts.flatMap (ownLines s) ++ linesOf balancing) k = 0 := by
  have hperm := (Journal.postedTo_perm (j := j) hnodup).map (·.amount)
  rw [List.map_flatMap] at hperm
  have hfit : Amount.FitTogether (accounts.flatMap fun a => amounts (j.postedTo [a])) :=
    (hsum.mono (Journal.postedTo_sublist accounts).subperm).mono hperm.symm.subperm
  obtain ⟨m, hm, hmsum⟩ := Value.IsSumOf.addUp (fun a : Account => (s.accountOf a.id).value)
    (fun a => amounts (j.postedTo [a])) (.null rfl) (fun a ha => hs.value a (hmem a ha)) hfit
  obtain ⟨balancing, hneg, hlines⟩ := exists_neg hmsum
  refine ⟨m, balancing, hm, hneg, fun k => ?_⟩
  rw [Value.total_append, hlines, List.nil_append, Value.total_flatMap, Amount.total_flatMap,
    List.map_congr_left fun a ha => total_ownLines (hs.value a (hmem a ha)) k, add_neg_cancel]

/-! ## Collapsed accounts -/

/-- An account that leaves its line to the only one below it holds nothing itself. -/
theorem total_of_not_shown {j : Journal} (hj : j.IsTree) (hs : Recorded j s)
    (hpass : ∀ a ∈ j.accounts, pass a)
    (htotal : ∀ a ∈ j.accounts, total a = (s.accountOf a.id).total) (ha : a ∈ j.accounts)
    (hshown : j.shown pass total a = false) (k : String) :
    Amount.total (amounts (j.postedTo [a])) k = 0 := by
  obtain ⟨i, hi⟩ := List.mem_iff_getElem?.1 ha
  have hchildren : (j.childrenOf a).filter pass = j.childrenOf a :=
    List.filter_eq_self.2 fun c hc => hpass c (Journal.mem_accounts_of_mem_childrenOf hc)
  rw [Journal.shown, hchildren] at hshown
  obtain ⟨c, hc, hsame⟩ : ∃ c, j.childrenOf a = [c] ∧ (total a).same (total c) := by
    split at hshown
    · rw [hpass a ha] at hshown
      cases hshown
    · rename_i c hc
      exact ⟨c, hc, by simpa using hshown⟩
    · cases hshown
  obtain ⟨n, hn, hcn⟩ := Journal.exists_of_childrenOf_eq_singleton hj ha hc
  rw [htotal a ha, htotal c (List.mem_of_getElem? hcn)] at hsame
  have hboth := (hs.total i a hi).holding_eq_of_same (hs.total n c hcn) hsame k
  rw [(hs.total i a hi).holding, (hs.total n c hcn).holding] at hboth
  have hparts := Amount.total_perm ((Journal.postedTo_subtree_perm hj hi).map (·.amount)) k
  rw [hn, List.flatMap_singleton, List.map_append, Amount.total_append] at hparts
  exact add_eq_right.1 (hparts.symm.trans hboth)

theorem sum_map_filter {α : Type} {f : α → ℚ} {p : α → Bool} {l : List α}
    (h : ∀ x ∈ l, p x = false → f x = 0) : ((l.filter p).map f).sum = (l.map f).sum := by
  induction l with
  | nil => rfl
  | cons x l ih =>
    have ih := ih fun y hy => h y (.tail _ hy)
    cases hp : p x with
    | true => rw [List.filter_cons_of_pos hp, List.map_cons, List.map_cons, List.sum_cons,
        List.sum_cons, ih]
    | false => rw [List.filter_cons_of_neg (by simp [hp]), List.map_cons, List.sum_cons,
        h x (.head _) hp, zero_add, ih]

/-- Where all accounts pass, the lines of the shown ones hold what the whole journal does. -/
theorem total_shown_ownLines (hj : o.journal.IsTree) (hs : Recorded o.journal s)
    (hpass : ∀ a ∈ o.journal.accounts, pass a)
    (htotal : ∀ a ∈ o.journal.accounts, total a = (s.accountOf a.id).total) (k : String) :
    Value.total ((o.shownAccounts pass total).flatMap (ownLines s)) k =
      (s.accountOf (.listed 0)).total.holding k := by
  obtain ⟨root, -, hroot, -⟩ := Journal.exists_root hj
  have hmem {a : Account} (ha : a ∈ o.journal.subtree 0) : a ∈ o.journal.accounts :=
    (Journal.mem_subtree_root_iff hj).1 ha
  have hperm := (Journal.postedTo_perm (j := o.journal)
    (Journal.nodup_subtree_ids hj hj.root)).map (·.amount)
  rw [List.map_flatMap] at hperm
  calc Value.total ((o.shownAccounts pass total).flatMap (ownLines s)) k
      = ((o.shownAccounts pass total).map fun a =>
          Amount.total (amounts (o.journal.postedTo [a])) k).sum := by
        rw [Value.total_flatMap]
        exact congrArg List.sum (List.map_congr_left fun a ha =>
          total_ownLines (hs.value a (hmem (List.mem_filter.1 ha).1)) k)
    _ = ((o.journal.subtree 0).map fun a =>
          Amount.total (amounts (o.journal.postedTo [a])) k).sum :=
        sum_map_filter fun a ha hshown =>
          total_of_not_shown hj hs hpass htotal (hmem ha) hshown k
    _ = Amount.total (amounts (o.journal.postedTo (o.journal.subtree 0))) k := by
        rw [← Amount.total_flatMap]
        exact (Amount.total_perm hperm k).symm
    _ = (s.accountOf (.listed 0)).total.holding k := by
        rw [← hj.id_eq hroot, (hs.total 0 root hroot).holding]

/-! ## The report -/

/-- Settings that leave the expression of totals alone ask for the recorded totals. -/
theorem total_of_default {settings : Settings} {r : Renderer}
    (hdefault : settings.totalExpr = ({} : Settings).totalExpr)
    (h : Renderer.ofSettings settings = .ok r) : r.total.expr = .known .total := by
  rw [Renderer.ofSettings, hdefault] at h
  cases hamount : (Formula.read settings.amountExpr).mapError ReportError.expression with
  | error e =>
    rw [hamount] at h
    cases h
  | ok f =>
    rw [hamount, show ({} : Settings).totalExpr = Variable.name .total from rfl,
      Grammar.read_name] at h
    cases h
    rfl

end

/-- On a state with the sums of accounts and without marks of displayed ones: the walk and the
finish together write the lines of the shown accounts and of a value that balances them, and these
lines hold nothing together of any commodity.  Without a predicate, and with the recorded totals,
the lines of the accounts hold what is recorded as the total of the root. -/
theorem report_balances (o : Opening) (hj : o.journal.Built)
    (hsum : ReportState.Summable o.journal) {s₀ s : ReportState}
    (hs : (ReportState.sumAccounts o.journal).exec s₀ = (.ok (), s))
    (hdone : ∀ a ∈ o.journal.accounts, s.accountHas a.id .done = false)
    {pass : Account → Bool} {total : Account → Value} (hsurvey : o.selector.Survey s pass total) :
    ∃ balancing,
      (∀ sink, Pass.EndAlike
        ((do o.feedJournal; o.finish).exec { state := s, sink, memory := .null })
        ((o.writeEntry (ownLines s) (o.shownAccounts pass total) balancing).exec
          { state := s, sink, memory := .null })) ∧
      (∀ k, Value.total ((o.shownAccounts pass total).flatMap (ownLines s) ++ linesOf balancing) k =
        0) ∧
      (o.predicate = none →
        (∃ settings, settings.totalExpr = ({} : Settings).totalExpr ∧
          Renderer.ofSettings settings = .ok o.renderer) →
        ∀ k, Value.total ((o.shownAccounts pass total).flatMap (ownLines s)) k =
          (s.accountOf (.listed 0)).total.holding k) := by
  have htree := hj.isTree
  have hrecorded := recorded_of_sumAccounts hj hsum hs
  have hmem : ∀ a ∈ o.journal.subtree 0, a ∈ o.journal.accounts := fun a ha =>
    (Journal.mem_subtree_root_iff htree).1 ha
  obtain ⟨m, balancing, hm, hneg, hlines⟩ := lines_balance hrecorded hsum
    (fun a ha => hmem a (List.mem_filter.1 ha).1)
    ((Journal.nodup_subtree_ids htree htree.root).sublist (List.filter_sublist.map _))
  refine ⟨balancing, fun sink => ?_, hlines, fun hnone ⟨settings, hdefault, hrenderer⟩ => ?_⟩
  · exact exec_report (p := { state := s, sink, memory := .null }) htree hsurvey hdone hm hneg
  · refine total_shown_ownLines htree hrecorded (fun a ha => ?_) fun a ha => ?_
    · have hpasses := hsurvey.passes a ha
      rw [Selector.passes, show o.selector.predicate = none from hnone] at hpasses
      exact (Except.ok.inj hpasses).symm
    · have htotals := hsurvey.totals a ha
      rw [Selector.totalOf, Formula.eval,
        show o.selector.total.expr = .known .total from total_of_default hdefault hrenderer]
        at htotals
      exact (Except.ok.inj htotals).symm

/-- The opening balances of the errands, by the default settings. -/
def ofErrands : Opening where
  journal := ReportState.errands
  now := .midnight .earliest
  renderer :=
    { settings := {}
      amount := { expr := .known .amount, source := "amount" }
      total := { expr := .known .total, source := "total" } }
  line := ⟨[{ field := .accountPath }, { field := .literal " " }, { field := .amount },
    { field := .literal "\n" }], ""⟩
  predicate := none

theorem ofSettings_default : Renderer.ofSettings {} = .ok ofErrands.renderer := by
  have hamount : Formula.read ({} : Settings).amountExpr = _ := Grammar.read_name .amount
  have htotal : Formula.read ({} : Settings).totalExpr = _ := Grammar.read_name .total
  rw [Renderer.ofSettings, hamount, htotal]
  rfl

theorem built_errands : ReportState.errands.Built :=
  ((((((Journal.Built.empty.openAccount "Expenses:Food").openAccount
    "Expenses:Fuel").openAccount "Assets:Cash").addEntry _).addTransaction _
    (by decide +kernel)).addTransaction _ (by decide +kernel)).addTransaction _
    (by decide +kernel)

theorem survey_ofErrands (s : ReportState) :
    ofErrands.selector.Survey s (fun _ => true) fun a => (s.accountOf a.id).total :=
  ⟨fun _ _ => rfl, fun _ _ => rfl⟩

/-- What is recorded of the errands. -/
def errandSums : ReportState := ((ReportState.sumAccounts ReportState.errands).exec {}).2

/-- The accounts of the errands that are shown. -/
def errandAccounts : List Account :=
  ofErrands.shownAccounts (fun _ => true) fun a => (errandSums.accountOf a.id).total

theorem sumAccounts_errands :
    (ReportState.sumAccounts ReportState.errands).exec {} = (.ok (), errandSums) ∧
      ∃ value total, ReportState.Summed ReportState.errands value total {} errandSums := by
  have hposts : ReportState.errands.Posts := by
    unfold Journal.Posts
    decide +kernel
  obtain ⟨value, total, -, hall⟩ :=
    ReportState.sumAccounts_spec built_errands hposts ReportState.summable_errands
  obtain ⟨s, hs, hsummed⟩ := hall {}
  have heq : errandSums = s := congrArg Prod.snd hs
  rw [heq]
  exact ⟨hs, value, total, hsummed⟩

theorem not_displayed_errandSums {a : Account} (ha : a ∈ ReportState.errands.accounts) :
    errandSums.accountHas a.id .done = false := by
  obtain ⟨value, total, hsummed⟩ := sumAccounts_errands.2
  obtain ⟨i, hi⟩ := List.mem_iff_getElem?.1 ha
  rw [ReportState.accountHas, hsummed.account i a hi]
  cases a.id <;> rfl

/-- The assets are collapsed onto the cash, and the lines of the others balance. -/
theorem report_balances_errands :
    errandAccounts.map (·.name) = ["", "Cash", "Expenses", "Food", "Fuel"] ∧
      ∃ balancing, (∀ sink, Pass.EndAlike
          ((do ofErrands.feedJournal; ofErrands.finish).exec
            { state := errandSums, sink, memory := .null })
          ((ofErrands.writeEntry (ownLines errandSums) errandAccounts balancing).exec
            { state := errandSums, sink, memory := .null })) ∧
        (∀ k, Value.total (errandAccounts.flatMap (ownLines errandSums) ++ linesOf balancing) k =
          0) ∧
        ∀ k, Value.total (errandAccounts.flatMap (ownLines errandSums)) k =
          (errandSums.accountOf (.listed 0)).total.holding k := by
  have hnames : errandAccounts.map (·.name) = ["", "Cash", "Expenses", "Food", "Fuel"] := by
    rw [errandAccounts, shownAccounts, show ofErrands.journal = ReportState.errands from rfl,
      ← Journal.preorder_eq built_errands.isTree]
    decide +kernel
  obtain ⟨balancing, hrun, hlines, hroot⟩ := report_balances ofErrands built_errands
    ReportState.summable_errands sumAccounts_errands.1 (fun _ => not_displayed_errandSums)
    (survey_ofErrands errandSums)
  exact ⟨hnames, balancing, hrun, hlines, hroot rfl ⟨{}, rfl, ofSettings_default⟩⟩

end Opening

end Bookkeeping
