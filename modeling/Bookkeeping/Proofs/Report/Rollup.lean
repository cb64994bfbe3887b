import Bookkeeping.Proofs.Journal.Filing
import Bookkeeping.Proofs.Journal.Postings
import Bookkeeping.Proofs.Value.Total
import Bookkeeping.Report.Sums
import Mathlib.Logic.Function.Basic
import Mathlib.Tactic.Choose

/-!
# Sums of accounts

`sumAccounts` gives every account of a journal the sum and the number of its own transactions, and
of those in its subtree (`sumAccounts_spec`).  The sums are the same whatever was recorded before.
Each of the three passes has its lemma: what they write is described by functions from accounts to
sums, which are chosen before any state is looked at (`exists_ownSums`, `exists_subtreeSums`).
-/

namespace Bookkeeping

namespace Journal

/-- What can be found for an account from what has been found for those right below it can be found
for all accounts of a tree together. -/
theorem IsTree.exists_rollUp {α : Type} [Nonempty α] {j : Journal} (h : j.IsTree)
    {R : Nat → List α → α → Prop}
    (step : ∀ (i : Nat) (a : Account) (f : Nat → α), j.accounts[i]? = some a →
      (∀ c ∈ a.children.values, ∃ vs, R c vs (f c)) → ∃ v, R i (a.children.values.map f) v) :
    ∃ f : Nat → α, ∀ (i : Nat) (a : Account), j.accounts[i]? = some a →
      R i (a.children.values.map f) (f i) := by
  -- what is found for the last `n` accounts does not depend on those before them
  have hlast (n : Nat) (hn : n ≤ j.accounts.length) : ∃ f : Nat → α,
      ∀ (i : Nat) (a : Account), j.accounts[i]? = some a → j.accounts.length - n ≤ i →
        R i (a.children.values.map f) (f i) := by
    induction n with
    | zero =>
      refine ⟨fun _ => Classical.arbitrary α, fun i a ha hi => ?_⟩
      have := (List.getElem?_eq_some_iff.1 ha).1
      omega
    | succ n ih =>
      obtain ⟨f, hf⟩ := ih (by omega)
      obtain ⟨k, hk⟩ : ∃ k, k = j.accounts.length - (n + 1) := ⟨_, rfl⟩
      obtain ⟨a, ha⟩ : ∃ a, j.accounts[k]? = some a := ⟨_, List.getElem?_eq_getElem (by omega)⟩
      obtain ⟨v, hv⟩ := step k a f ha fun c hc => by
        obtain ⟨hlt, b, hb, -⟩ := h.child ha hc
        exact ⟨_, hf c b hb (by omega)⟩
      have hbelow {i : Nat} {b : Account} (hb : j.accounts[i]? = some b) (hi : k ≤ i) :
          b.children.values.map (Function.update f k v) = b.children.values.map f := by
        refine List.map_congr_left fun c hc => Function.update_of_ne ?_ _ _
        have := (h.child hb hc).1
        omega
      refine ⟨Function.update f k v, fun i b hb hi => ?_⟩
      rw [hbelow hb (by omega)]
      by_cases hik : i = k
      · subst hik
        cases ha.symm.trans hb
        rw [Function.update_self]
        exact hv
      · rw [Function.update_of_ne hik]
        exact hf i b hb (by omega)
  obtain ⟨f, hf⟩ := hlast j.accounts.length (Nat.le_refl _)
  exact ⟨f, fun i a ha => hf i a ha (by omega)⟩

end Journal

namespace ReportState

variable {j : Journal} {s : ReportState}

theorem transactions_putAccount (s : ReportState) (id : AccountId) (r : AccountRecord) :
    (s.putAccount id r).transactions = s.transactions := by
  cases id <;> rfl

theorem accountOf_of_account? {id : AccountId} {r : AccountRecord} (h : s.account? id = some r) :
    s.accountOf id = r := by
  rw [accountOf, h, Option.getD_some]

/-! ## No transactions -/

theorem account?_resetOwn (j : Journal) (s : ReportState) (id : AccountId) :
    (resetOwn j s).account? id =
      if id ∈ j.accounts.map (·.id) then some { s.accountOf id with value := .null, count := 0 }
      else s.account? id := by
  rw [resetOwn]
  induction j.accounts generalizing s with
  | nil => simp
  | cons a as ih =>
    rw [List.foldl_cons, ih, accountOf, account?_changeAccount]
    by_cases hid : id = a.id
    · subst hid
      simp
    · simp [hid, accountOf]

theorem transactions_resetOwn (j : Journal) (s : ReportState) :
    (resetOwn j s).transactions = s.transactions := by
  rw [resetOwn]
  induction j.accounts generalizing s with
  | nil => rfl
  | cons a as ih => rw [List.foldl_cons, ih, changeAccount, transactions_putAccount]

/-! ## Own transactions -/

theorem exec_addOwn {x : Transaction} {r : AccountRecord} {v : Value}
    (hr : s.account? x.account = some r) (hadd : r.value.add (.amount x.amount) = .ok v) :
    (addOwn x).exec s = (.ok (), s.changeAccount x.account fun r =>
      { r with value := v, count := r.count + 1 }) := by
  rw [addOwn, Attempt.exec_update, accountOf_of_account? hr, hadd]
  rfl

/-- The transactions are counted one after the other, each on its account. -/
theorem exec_forM_addOwn (ids : List AccountId) {value : AccountId → Value} {xs : List Transaction}
    (hids : ∀ x ∈ xs, x.account ∈ ids)
    (hvalue : ∀ id ∈ ids, ∃ r, s.account? id = some r ∧
      r.value.addUp ((xs.filter (·.account = id)).map (.amount ·.amount)) = .ok (value id)) :
    ∃ s', (xs.forM addOwn).exec s = (.ok (), s') ∧ s'.transactions = s.transactions ∧
      (∀ id ∈ ids, ∀ r, s.account? id = some r → s'.account? id = some
        { r with value := value id, count := r.count + (xs.filter (·.account = id)).length }) ∧
      ∀ id, id ∉ ids → s'.account? id = s.account? id := by
  -- `value` is what each record still has to reach; only that of `x.account` comes nearer to it
  induction xs generalizing s with
  | nil =>
    refine ⟨s, Attempt.exec_forM_nil _ _, rfl, fun id hid r hr => ?_, fun _ _ => rfl⟩
    obtain ⟨r', hr', hv⟩ := hvalue id hid
    cases hr.symm.trans hr'
    rw [hr, ← Except.ok.inj hv]
    rfl
  | cons x xs ih =>
    obtain ⟨r₀, hr₀, hfirst⟩ := hvalue x.account (hids x (.head _))
    rw [List.filter_cons_of_pos (by simp), List.map_cons] at hfirst
    obtain ⟨v, hadd, hrest⟩ := Value.addUp_cons_ok_iff.1 hfirst
    obtain ⟨s₁, hs₁⟩ : ∃ s₁, s₁ = s.changeAccount x.account fun r =>
      { r with value := v, count := r.count + 1 } := ⟨_, rfl⟩
    have haccount (id : AccountId) : s₁.account? id =
        if id = x.account then some { r₀ with value := v, count := r₀.count + 1 }
        else s.account? id := by
      rw [hs₁, account?_changeAccount, accountOf_of_account? hr₀]
    have hother {id : AccountId} (hid : id ≠ x.account) :
        (x :: xs).filter (·.account = id) = xs.filter (·.account = id) :=
      List.filter_cons_of_neg (by simpa using Ne.symm hid)
    obtain ⟨s', hs', htransactions, hcounted, houtside⟩ := ih (s := s₁)
      (fun y hy => hids y (.tail _ hy)) fun id hid => by
        rw [haccount]
        by_cases hx : id = x.account
        · subst hx
          exact ⟨_, if_pos rfl, hrest⟩
        · rw [if_neg hx, ← hother hx]
          exact hvalue id hid
    refine ⟨s', ?_, ?_, fun id hid r hr => ?_, fun id hid => ?_⟩
    · rw [Attempt.exec_forM_cons, exec_addOwn hr₀ hadd, ← hs₁]
      exact hs'
    · rw [htransactions, hs₁, changeAccount, transactions_putAccount]
    · by_cases hx : id = x.account
      · subst hx
        cases hr₀.symm.trans hr
        rw [hcounted x.account hid _ (by rw [haccount, if_pos rfl]),
          List.filter_cons_of_pos (by simp), List.length_cons, Nat.add_assoc, Nat.add_comm 1]
      · rw [hcounted id hid r (by rw [haccount, if_neg hx, hr]), hother hx]
    · rw [houtside id hid, haccount, if_neg]
      rintro rfl
      exact hid (hids x (.head _))

/-! ## Subtrees -/

theorem map_filterMap_of_some {α β γ : Type} {f : α → Option β} {g : β → γ} {h : α → γ} {l : List α}
    (hl : ∀ x ∈ l, ∃ y, f x = some y ∧ g y = h x) : (l.filterMap f).map g = l.map h := by
  rw [List.map_filterMap, ← List.filterMap_eq_map]
  refine List.filterMap_congr fun x hx => ?_
  obtain ⟨y, hy, hg⟩ := hl x hx
  rw [hy, Option.map_some, hg, Function.comp_apply]

/-- The totals of the accounts below are added to the account's own. -/
theorem exec_addTotal {a : Account} {r : AccountRecord} {v : Value} {total : Nat → Value}
    {totalCount : Nat → Nat} (hr : s.account? a.id = some r)
    (hbelow : ∀ c ∈ a.children.values, ∃ r, s.account? (.listed c) = some r ∧
      r.total = total c ∧ r.totalCount = totalCount c)
    (hv : r.value.addUp (a.children.values.map total) = .ok v) :
    (addTotal a).exec s = (.ok (), s.putAccount a.id
      { r with total := v, totalCount := r.count + (a.children.values.map totalCount).sum }) := by
  have htotals : (s.below a).map (·.total) = a.children.values.map total :=
    map_filterMap_of_some fun c hc => by
      obtain ⟨r, hr, ht, -⟩ := hbelow c hc
      exact ⟨r, hr, ht⟩
  have hcounts : (s.below a).map (·.totalCount) = a.children.values.map totalCount :=
    map_filterMap_of_some fun c hc => by
      obtain ⟨r, hr, -, hcount⟩ := hbelow c hc
      exact ⟨r, hr, hcount⟩
  have hsum : (s.below a).foldlM (fun (v : Value) r => v.add r.total) r.value = .ok v := by
    rw [← hv, ← htotals, Value.addUp, List.foldlM_map]
  have hcount : ((s.below a).map (·.totalCount)).foldr (· + ·) r.count =
      r.count + (a.children.values.map totalCount).sum := by
    rw [hcounts, ← Nat.zero_add r.count, List.foldr_assoc, ← List.sum_eq_foldr, Nat.zero_add,
      Nat.add_comm]
  rw [addTotal, Attempt.exec_update, accountOf_of_account? hr]
  simp only [hsum, hcount]
  rfl

/-- The accounts are gone through from the last to the first, so that those below an account are
done before it. -/
theorem exec_forM_addTotal (h : j.IsTree) (value total : Nat → Value) (count totalCount : Nat → Nat)
    (htotal : ∀ (i : Nat) (a : Account), j.accounts[i]? = some a →
      (value i).addUp (a.children.values.map total) = .ok (total i))
    (htotalCount : ∀ (i : Nat) (a : Account), j.accounts[i]? = some a →
      totalCount i = count i + (a.children.values.map totalCount).sum)
    {n : Nat} (hn : n ≤ j.accounts.length)
    (hrecorded : ∀ (i : Nat) (a : Account), j.accounts[i]? = some a → ∃ r,
      s.account? a.id = some r ∧ r.value = value i ∧ r.count = count i ∧
      (n ≤ i → r.total = total i ∧ r.totalCount = totalCount i)) :
    ∃ s', ((j.accounts.take n).reverse.forM addTotal).exec s = (.ok (), s') ∧
      s'.transactions = s.transactions ∧
      (∀ (i : Nat) (a : Account) r, j.accounts[i]? = some a → s.account? a.id = some r →
        s'.account? a.id = some { r with total := total i, totalCount := totalCount i }) ∧
      ∀ id, id ∉ j.accounts.map (·.id) → s'.account? id = s.account? id := by
  -- the first `n` accounts are still to be done, and those behind them have their sums
  induction n generalizing s with
  | zero =>
    refine ⟨s, Attempt.exec_forM_nil _ _, rfl, fun i a r ha hr => ?_, fun _ _ => rfl⟩
    obtain ⟨r', hr', -, -, hdone⟩ := hrecorded i a ha
    cases hr.symm.trans hr'
    obtain ⟨ht, hc⟩ := hdone (Nat.zero_le i)
    rw [hr, ← ht, ← hc]
  | succ n ih =>
    obtain ⟨a, ha⟩ : ∃ a, j.accounts[n]? = some a := ⟨_, List.getElem?_eq_getElem hn⟩
    obtain ⟨r₀, hr₀, hvalue, hcount, -⟩ := hrecorded n a ha
    have hbelow : ∀ c ∈ a.children.values, ∃ r, s.account? (.listed c) = some r ∧
        r.total = total c ∧ r.totalCount = totalCount c := fun c hc => by
      obtain ⟨hlt, b, hb, -⟩ := h.child ha hc
      obtain ⟨r, hr, -, -, hdone⟩ := hrecorded c b hb
      exact ⟨r, h.id_eq hb ▸ hr, hdone hlt⟩
    obtain ⟨s₁, hs₁⟩ : ∃ s₁, s₁ = s.putAccount a.id
      { r₀ with total := total n, totalCount := totalCount n } := ⟨_, rfl⟩
    have hstep : (addTotal a).exec s = (.ok (), s₁) := by
      rw [hs₁, htotalCount n a ha, ← hcount]
      exact exec_addTotal hr₀ hbelow (hvalue ▸ htotal n a ha)
    have haccount (id : AccountId) : s₁.account? id =
        if id = a.id then some { r₀ with total := total n, totalCount := totalCount n }
        else s.account? id := by
      rw [hs₁, account?_putAccount]
    have hne {i : Nat} {b : Account} (hb : j.accounts[i]? = some b) : b.id = a.id ↔ i = n := by
      rw [h.id_eq hb, h.id_eq ha, AccountId.listed.injEq]
    obtain ⟨s', hs', htransactions, hdone, hothers⟩ := ih (s := s₁) (Nat.le_of_lt hn)
      fun i b hb => by
        rw [haccount]
        by_cases hi : i = n
        · subst hi
          cases ha.symm.trans hb
          exact ⟨_, if_pos rfl, hvalue, hcount, fun _ => ⟨rfl, rfl⟩⟩
        · obtain ⟨r, hr, hv, hc, hlater⟩ := hrecorded i b hb
          rw [if_neg fun hid => hi ((hne hb).1 hid)]
          exact ⟨r, hr, hv, hc, fun hle => hlater (by omega)⟩
    refine ⟨s', ?_, ?_, fun i b r hb hr => ?_, fun id hid => ?_⟩
    · rw [List.take_add_one, ha, Option.toList_some, List.reverse_append, List.reverse_singleton,
        List.singleton_append, Attempt.exec_forM_cons, hstep]
      exact hs'
    · rw [htransactions, hs₁, transactions_putAccount]
    · by_cases hi : i = n
      · subst hi
        cases ha.symm.trans hb
        cases hr₀.symm.trans hr
        rw [hdone i a _ hb (by rw [haccount, if_pos rfl])]
      · exact hdone i b r hb (by rw [haccount, if_neg fun hid => hi ((hne hb).1 hid), hr])
    · rw [hothers id hid, haccount, if_neg]
      rintro rfl
      exact hid (List.mem_map_of_mem (List.mem_of_getElem? ha))

/-! ## The sums -/

/-- The amounts of transactions. -/
def amounts (xs : List Transaction) : List Amount := xs.map (·.amount)

/-- All amounts of the journal have commodities and fit together. -/
structure Summable (j : Journal) : Prop where
  denominated : ∀ x ∈ j.transactions, x.amount.Denominated
  fitTogether : Amount.FitTogether (amounts j.transactions)

theorem Summable.mono (h : Summable j) {xs : List Transaction} (hxs : xs.Subperm j.transactions) :
    Amount.FitTogether (amounts xs) := by
  obtain ⟨ys, hperm, hsub⟩ := hxs
  exact h.fitTogether.mono ⟨_, hperm.map _, hsub.map _⟩

theorem exists_addUp {u : Value} {as : List Amount} {xs : List Transaction} (hu : u.IsSumOf as)
    (hden : ∀ x ∈ xs, x.amount.Denominated) (hfit : Amount.FitTogether (as ++ amounts xs)) :
    ∃ w, u.addUp (xs.map (.amount ·.amount)) = .ok w ∧ w.IsSumOf (as ++ amounts xs) := by
  have hamounts : amounts xs = xs.flatMap fun x => [x.amount] := List.map_eq_flatMap
  rw [hamounts] at hfit ⊢
  exact hu.addUp _ _ (fun x hx => Value.isSumOf_amount (hden x hx)) hfit

/-- Every account has a sum of its own transactions. -/
theorem exists_ownSums (h : j.IsFiled) (hj : Summable j) :
    ∃ value : AccountId → Value, ∀ id,
      Value.null.addUp (((j.entries.flatMap j.entryTransactions).filter
        (·.account = id)).map (.amount ·.amount)) = .ok (value id) ∧
      (value id).IsSumOf (amounts (j.transactions.filter (·.account = id))) := by
  have hsums (id : AccountId) : ∃ v,
      Value.null.addUp (((j.entries.flatMap j.entryTransactions).filter
        (·.account = id)).map (.amount ·.amount)) = .ok v ∧
      v.IsSumOf (amounts (j.transactions.filter (·.account = id))) := by
    have hperm := h.transactions_perm.filter (·.account = id)
    obtain ⟨v, hv, hsum⟩ := exists_addUp (.null rfl)
      (fun x hx => hj.denominated x (List.mem_of_mem_filter (hperm.mem_iff.1 hx)))
      (hj.mono (hperm.subperm.trans List.filter_sublist.subperm))
    exact ⟨v, hv, hsum.perm (hperm.map _)⟩
  choose value hvalue using hsums
  exact ⟨value, hvalue⟩

/-- Every account has a sum that its own value and the sums of the accounts below it add up to. -/
theorem exists_subtreeSums (h : j.IsTree) (hj : Summable j) (value : Nat → Value)
    (hvalue : ∀ (i : Nat) (a : Account), j.accounts[i]? = some a →
      (value i).IsSumOf (amounts (j.postedTo [a]))) :
    ∃ total : Nat → Value, ∀ (i : Nat) (a : Account), j.accounts[i]? = some a →
      (value i).addUp (a.children.values.map total) = .ok (total i) ∧
      (total i).IsSumOf (amounts (j.postedTo (j.subtree i))) := by
  refine h.exists_rollUp (R := fun i vs v => (value i).addUp vs = .ok v ∧
    v.IsSumOf (amounts (j.postedTo (j.subtree i)))) fun i a total ha hbelow => ?_
  have hperm := (Journal.postedTo_subtree_perm h ha).map (·.amount)
  rw [List.map_append, List.map_flatMap] at hperm
  have hfit : Amount.FitTogether (amounts (j.postedTo (j.subtree i))) :=
    hj.mono (Journal.postedTo_sublist _).subperm
  have hchildren : ∀ c ∈ a.children.values,
      (total c).IsSumOf (amounts (j.postedTo (j.subtree c))) := by
    intro c hc
    obtain ⟨vs, -, hsum⟩ := hbelow c hc
    exact hsum
  obtain ⟨v, hv, hsum⟩ := (hvalue i a ha).addUp total _ hchildren (hfit.mono hperm.symm.subperm)
  exact ⟨v, hv, hsum.perm hperm.symm⟩

/-- Every account has the sums of its own transactions and of those in its subtree; and wherever its
own have been counted, the latter are recorded. -/
theorem exists_sums (h : j.Built) (hj : Summable j) :
    ∃ (own : AccountId → Value) (total : Nat → Value),
      (∀ id, Value.null.addUp (((j.entries.flatMap j.entryTransactions).filter
        (·.account = id)).map (.amount ·.amount)) = .ok (own id)) ∧
      (∀ (i : Nat) (a : Account), j.accounts[i]? = some a →
        (own a.id).IsSumOf (amounts (j.postedTo [a])) ∧
        (total i).IsSumOf (amounts (j.postedTo (j.subtree i)))) ∧
      ∀ s : ReportState, (∀ (i : Nat) (a : Account), j.accounts[i]? = some a → ∃ r,
        s.account? a.id = some r ∧ r.value = own a.id ∧
        r.count = ((j.entries.flatMap j.entryTransactions).filter (·.account = a.id)).length) →
        ∃ s', (j.accounts.reverse.forM addTotal).exec s = (.ok (), s') ∧
          s'.transactions = s.transactions ∧
          (∀ (i : Nat) (a : Account) r, j.accounts[i]? = some a → s.account? a.id = some r →
            s'.account? a.id = some { r with
              total := total i, totalCount := (j.postedTo (j.subtree i)).length }) ∧
          ∀ id, id ∉ j.accounts.map (·.id) → s'.account? id = s.account? id := by
  have htree := h.isTree
  obtain ⟨own, hown⟩ := exists_ownSums h.isFiled hj
  have hsums (i : Nat) (a : Account) (ha : j.accounts[i]? = some a) :
      (own (.listed i)).IsSumOf (amounts (j.postedTo [a])) := by
    rw [← htree.id_eq ha, Journal.postedTo_singleton]
    exact (hown a.id).2
  obtain ⟨total, htotal⟩ := exists_subtreeSums htree hj (fun i => own (.listed i)) hsums
  refine ⟨own, total, fun id => (hown id).1,
    fun i a ha => ⟨htree.id_eq ha ▸ hsums i a ha, (htotal i a ha).2⟩, fun s hs => ?_⟩
  obtain ⟨s', hs', hrest⟩ := exec_forM_addTotal htree (s := s) (fun i => own (.listed i)) total
    (fun i => (j.transactions.filter (·.account = .listed i)).length)
    (fun i => (j.postedTo (j.subtree i)).length) (fun i a ha => (htotal i a ha).1)
    (fun i a ha => by
      rw [(Journal.postedTo_subtree_perm htree ha).length_eq, List.length_append,
        List.length_flatMap, ← htree.id_eq ha, Journal.postedTo_singleton])
    (Nat.le_refl _) fun i a ha => by
      obtain ⟨r, hr, hvalue, hcount⟩ := hs i a ha
      rw [(h.isFiled.transactions_perm.filter _).length_eq] at hcount
      rw [← htree.id_eq ha]
      exact ⟨r, hr, hvalue, hcount, fun hi =>
        absurd (List.getElem?_eq_some_iff.1 ha).1 (Nat.not_lt.2 hi)⟩
  rw [List.take_length] at hs'
  exact ⟨s', hs', hrest⟩

/-- What is recorded of the accounts of the journal are their marks as before and these sums;
nothing else is recorded anew. -/
structure Summed (j : Journal) (value total : Nat → Value) (s s' : ReportState) : Prop where
  account : ∀ (i : Nat) (a : Account), j.accounts[i]? = some a → s'.account? a.id = some
    { marks := (s.accountOf a.id).marks
      value := value i
      total := total i
      count := (j.postedTo [a]).length
      totalCount := (j.postedTo (j.subtree i)).length }
  outside : ∀ id, id ∉ j.accounts.map (·.id) → s'.account? id = s.account? id
  transactions : s'.transactions = s.transactions

/-- The sums of accounts are there, and they do not depend on what was recorded before. -/
theorem sumAccounts_spec (h : j.Built) (hposts : j.Posts) (hj : Summable j) :
    ∃ value total : Nat → Value,
      (∀ (i : Nat) (a : Account), j.accounts[i]? = some a →
        (value i).IsSumOf (amounts (j.postedTo [a])) ∧
        (total i).IsSumOf (amounts (j.postedTo (j.subtree i)))) ∧
      ∀ s, ∃ s', (sumAccounts j).exec s = (.ok (), s') ∧ Summed j value total s s' := by
  have htree := h.isTree
  obtain ⟨own, total, hown, hsums, htotals⟩ := exists_sums h hj
  refine ⟨fun i => own (.listed i), total, fun i a ha => ?_, fun s => ?_⟩
  · obtain ⟨hvalue, htotal⟩ := hsums i a ha
    rw [htree.id_eq ha] at hvalue
    exact ⟨hvalue, htotal⟩
  have hmem {i : Nat} {a : Account} (ha : j.accounts[i]? = some a) :
      a.id ∈ j.accounts.map (·.id) := List.mem_map_of_mem (List.mem_of_getElem? ha)
  obtain ⟨s₁, hs₁, htransactions₁, hcounted, houtside₁⟩ := exec_forM_addOwn
    (j.accounts.map (·.id)) (s := resetOwn j s)
    (fun x hx => List.mem_map.2 (hposts x (h.isFiled.transactions_perm.mem_iff.1 hx)))
    fun id hid => ⟨_, by rw [account?_resetOwn, if_pos hid], hown id⟩
  have hrecord {i : Nat} {a : Account} (ha : j.accounts[i]? = some a) : s₁.account? a.id = some
      { s.accountOf a.id with value := own a.id, count := 0 + ((j.entries.flatMap
        j.entryTransactions).filter (·.account = a.id)).length } :=
    hcounted a.id (hmem ha) _ (by rw [account?_resetOwn, if_pos (hmem ha)])
  obtain ⟨s₂, hs₂, htransactions₂, hsummed, houtside₂⟩ := htotals s₁ fun i a ha =>
    ⟨_, hrecord ha, rfl, Nat.zero_add _⟩
  refine ⟨s₂, ?_, fun i a ha => ?_, fun id hid => ?_, ?_⟩
  · rw [sumAccounts, Attempt.exec_bind, Attempt.exec_modify]
    simp only
    rw [Attempt.exec_bind, hs₁]
    exact hs₂
  · rw [hsummed i a _ ha (hrecord ha), Nat.zero_add,
      (h.isFiled.transactions_perm.filter _).length_eq, ← Journal.postedTo_singleton,
      htree.id_eq ha]
  · rw [houtside₂ id hid, houtside₁ id hid, account?_resetOwn, if_neg hid]
  · rw [htransactions₂, htransactions₁, transactions_resetOwn]

end ReportState

end Bookkeeping
