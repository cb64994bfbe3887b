import Bookkeeping.Proofs.Report.Rollup
import Mathlib.Tactic.NormNum

/-!
# Running totals

`accumulate` records of every transaction in a sequence the sum up to it and its place, which is its
last if it occurs repeatedly (`accumulate_spec`).  Over all transactions of a journal, in any order,
the last of these sums equals the sum that `sumAccounts` records of the root.
-/

namespace Bookkeeping

namespace ReportState

variable {j : Journal} {s : ReportState}

theorem marks_changeTransaction (s : ReportState) (i i' : Nat) {total : Value} {index : Nat} :
    ((s.changeTransaction i fun r => { r with total, index }).transactionOf i').marks =
      (s.transactionOf i').marks := by
  rw [transactionOf, transaction?_changeTransaction]
  by_cases h : i' = i
  · rw [if_pos h, h]
    rfl
  · rw [if_neg h]
    rfl

theorem exec_accumulateFrom_cons {u v : Value} {x : Transaction}
    (hadd : u.add (.amount x.amount) = .ok v) (index : Nat) (xs : List Transaction) :
    (accumulateFrom u index (x :: xs)).exec s = (accumulateFrom v (index + 1) xs).exec
      (s.changeTransaction x.id fun r => { r with total := v, index }) := by
  rw [accumulateFrom, Attempt.exec_bind, Attempt.exec_ofExcept, hadd]
  rfl

/-- Each transaction is recorded with the sum up to it; what was recorded at an earlier place of the
same transaction is overwritten. -/
theorem exec_accumulateFrom {running : Nat → Value} {u : Value} {xs : List Transaction}
    (hrunning : ∀ p < xs.length,
      u.addUp ((xs.take (p + 1)).map (.amount ·.amount)) = .ok (running p)) (index : Nat) :
    ∃ s', (accumulateFrom u index xs).exec s = (.ok (), s') ∧
      (s'.accounts = s.accounts ∧ s'.outside = s.outside) ∧
      (∀ (p : Nat) (x : Transaction), xs[p]? = some x → x.id ∉ (xs.drop (p + 1)).map (·.id) →
        s'.transaction? x.id = some
          { marks := (s.transactionOf x.id).marks, total := running p, index := index + p }) ∧
      ∀ id, id ∉ xs.map (·.id) → s'.transaction? id = s.transaction? id := by
  induction xs generalizing s u running index with
  | nil => exact ⟨s, rfl, ⟨rfl, rfl⟩, fun _ _ hx => (by simp at hx), fun _ _ => rfl⟩
  | cons x xs ih =>
    obtain ⟨v, hadd, hv⟩ := Value.addUp_cons_ok_iff.1 (hrunning 0 (Nat.succ_pos _))
    obtain rfl : v = running 0 := Except.ok.inj hv
    obtain ⟨s₁, hs₁⟩ : ∃ s₁, s₁ = s.changeTransaction x.id fun r =>
      { r with total := running 0, index } := ⟨_, rfl⟩
    have hmarks (i : Nat) : (s₁.transactionOf i).marks = (s.transactionOf i).marks := by
      rw [hs₁, marks_changeTransaction]
    obtain ⟨s', hs', haccounts, hlast, hothers⟩ := ih (s := s₁) (u := running 0)
      (fun p hp => by
        obtain ⟨w, hw, hrest⟩ := Value.addUp_cons_ok_iff.1 (hrunning (p + 1) (Nat.succ_lt_succ hp))
        cases hadd.symm.trans hw
        exact hrest) (index + 1)
    refine ⟨s', ?_, ?_, fun p y hy hlater => ?_, fun id hid => ?_⟩
    · rw [exec_accumulateFrom_cons hadd, ← hs₁]
      exact hs'
    · rw [haccounts.1, haccounts.2, hs₁]
      exact ⟨rfl, rfl⟩
    · cases p with
      | zero =>
        cases hy
        rw [hothers x.id hlater, hs₁, transaction?_changeTransaction, if_pos rfl]
        rfl
      | succ p =>
        rw [hlast p y hy hlater, hmarks, Nat.add_assoc, Nat.add_comm 1]
    · rw [List.map_cons, List.mem_cons, not_or] at hid
      rw [hothers id hid.2, hs₁, transaction?_changeTransaction, if_neg hid.1]

/-- What is recorded of the transactions are their marks as before, and the sum up to the last place
of each together with this place; nothing else is recorded anew. -/
structure Accumulated (xs : List Transaction) (running : Nat → Value) (s s' : ReportState) :
    Prop where
  last : ∀ (p : Nat) (x : Transaction), xs[p]? = some x → x.id ∉ (xs.drop (p + 1)).map (·.id) →
    s'.transaction? x.id = some
      { marks := (s.transactionOf x.id).marks, total := running p, index := p }
  others : ∀ id, id ∉ xs.map (·.id) → s'.transaction? id = s.transaction? id
  accounts : s'.accounts = s.accounts ∧ s'.outside = s.outside

/-- The running totals are there, and they do not depend on what was recorded before. -/
theorem accumulate_spec {xs : List Transaction} (hden : ∀ x ∈ xs, x.amount.Denominated)
    (hfit : Amount.FitTogether (amounts xs)) :
    ∃ running : Nat → Value, (∀ p, (running p).IsSumOf (amounts (xs.take (p + 1)))) ∧
      ∀ s, ∃ s', (accumulate xs).exec s = (.ok (), s') ∧ Accumulated xs running s s' := by
  have hsums (p : Nat) : ∃ v, Value.null.addUp ((xs.take (p + 1)).map (.amount ·.amount)) = .ok v ∧
      v.IsSumOf (amounts (xs.take (p + 1))) :=
    exists_addUp (.null rfl) (fun x hx => hden x (List.mem_of_mem_take hx))
      (hfit.mono ((List.take_sublist _ _).map _).subperm)
  choose running hrunning using hsums
  refine ⟨running, fun p => (hrunning p).2, fun s => ?_⟩
  obtain ⟨s', hs', haccounts, hlast, hothers⟩ :=
    exec_accumulateFrom (s := s) (fun p _ => (hrunning p).1) 0
  refine ⟨s', hs', fun p x hx hlater => ?_, hothers, haccounts⟩
  rw [hlast p x hx hlater, Nat.zero_add]

/-- In a journal whose amounts can be summed, every account gets the sums and the numbers of its own
transactions and of those in its subtree; every sequence of its transactions that can be summed gets
its running totals; and over all transactions, in any order, the last one equals the sum of the
root.  None of it depends on what was recorded before. -/
theorem sums_agree_with_running_totals (h : j.Built) (hposts : j.Posts) (hj : Summable j) :
    ∃ value total : Nat → Value,
      (∀ (i : Nat) (a : Account), j.accounts[i]? = some a →
        (value i).IsSumOf (amounts (j.postedTo [a])) ∧
        (total i).IsSumOf (amounts (j.postedTo (j.subtree i)))) ∧
      (∀ s, ∃ s', (sumAccounts j).exec s = (.ok (), s') ∧ Summed j value total s s') ∧
      ∀ xs : List Transaction, (∀ x ∈ xs, x ∈ j.transactions) → Amount.FitTogether (amounts xs) →
        ∃ running : Nat → Value,
          (∀ p < xs.length, (running p).IsSumOf (amounts (xs.take (p + 1)))) ∧
          (∀ s, ∃ s', (accumulate xs).exec s = (.ok (), s') ∧ Accumulated xs running s s') ∧
          (xs.Perm j.transactions → ∀ p, p + 1 = xs.length → (running p).same (total 0)) := by
  obtain ⟨value, total, hsums, hrun⟩ := sumAccounts_spec h hposts hj
  refine ⟨value, total, hsums, hrun, fun xs hxs hfit => ?_⟩
  obtain ⟨running, hrunning, hexec⟩ :=
    accumulate_spec (fun x hx => hj.denominated x (hxs x hx)) hfit
  refine ⟨running, fun p _ => hrunning p, hexec, fun hperm p hp => ?_⟩
  have hroot := (hsums 0 _ (List.getElem?_eq_getElem h.isTree.root)).2
  rw [Journal.postedTo_root h.isTree hposts] at hroot
  refine (hrunning p).same hroot fun k => ?_
  rw [hp, List.take_length]
  exact Amount.total_perm (hperm.map _) k

/-- So many dollars, owed if negative. -/
def dollars (negative : Bool) (n : Nat) (h : n < 79228162514264337593543950336) : Amount where
  quantity := .whole negative n h
  commodity := some { symbol := "$", precision := 2 }

theorem toRat_dollars (negative : Bool) (n : Nat) (h : n < 79228162514264337593543950336) :
    (dollars negative n h).quantity.toRat = if negative then -(n : ℚ) else n :=
  Decimal.toRat_whole negative n h

/-- A journal of some errands: food and fuel, paid in cash. -/
def errands : Journal :=
  ((((((({} : Journal).openAccount "Expenses:Food").2.openAccount "Expenses:Fuel").2.openAccount
    "Assets:Cash").2.addEntry (.period "")).addTransaction 0
      { account := .listed 2, amount := dollars false 7 (by decide) }).addTransaction 0
      { account := .listed 3, amount := dollars false 30 (by decide) }).addTransaction 0
      { account := .listed 5, amount := dollars true 37 (by decide) }

theorem amounts_errands : amounts errands.transactions =
    [dollars false 7 (by decide), dollars false 30 (by decide), dollars true 37 (by decide)] := by
  decide +kernel

theorem summable_errands : Summable errands := by
  refine ⟨fun x hx => ?_, ?_⟩
  · have hmem : x.amount ∈ amounts errands.transactions := List.mem_map_of_mem hx
    rw [amounts_errands] at hmem
    simp only [List.mem_cons, List.not_mem_nil, or_false] at hmem
    rcases hmem with h | h | h <;> rw [h] <;> exact Amount.denominated_of_isSome rfl
  · rw [amounts_errands]
    refine ⟨0, by decide, fun a ha => ?_, ?_⟩
    · simp only [List.mem_cons, List.not_mem_nil, or_false] at ha
      rcases ha with rfl | rfl | rfl
      · exact ⟨7, by rw [toRat_dollars]; norm_num [Decimal.tens]⟩
      · exact ⟨30, by rw [toRat_dollars]; norm_num [Decimal.tens]⟩
      · exact ⟨-37, by rw [toRat_dollars]; norm_num [Decimal.tens]⟩
    · simp only [List.map_cons, List.map_nil, toRat_dollars]
      norm_num [Decimal.tens, Decimal.limit]

/-- The errands come to 37 dollars of expenses, of which none are posted there directly, and what is
left after the last of them is what is left in the whole journal. -/
theorem sums_agree_with_running_totals_errands :
    errands.Built ∧ errands.Posts ∧ Summable errands ∧
      ∃ value total running : Nat → Value,
        value 1 = .null ∧ (total 1).same (.amount (dollars false 37 (by decide))) ∧
        (running 2).same (total 0) ∧
        ∀ s, ∃ s' s'', (sumAccounts errands).exec s = (.ok (), s') ∧
          Summed errands value total s s' ∧
          (accumulate errands.transactions).exec s' = (.ok (), s'') ∧
          Accumulated errands.transactions running s' s'' := by
  have hopened := ((Journal.Built.empty.openAccount "Expenses:Food").openAccount
    "Expenses:Fuel").openAccount "Assets:Cash"
  have hbuilt : errands.Built :=
    (((hopened.addEntry _).addTransaction _ (by decide +kernel)).addTransaction _
      (by decide +kernel)).addTransaction _ (by decide +kernel)
  have hposts : errands.Posts := by
    unfold Journal.Posts
    decide +kernel
  obtain ⟨value, total, hsums, hsummed, hall⟩ :=
    sums_agree_with_running_totals hbuilt hposts summable_errands
  obtain ⟨running, -, haccumulated, hlast⟩ :=
    hall errands.transactions (fun _ hx => hx) summable_errands.fitTogether
  obtain ⟨a, ha⟩ : ∃ a, errands.accounts[1]? = some a :=
    ⟨_, List.getElem?_eq_getElem (by decide +kernel)⟩
  obtain ⟨hvalue, htotal⟩ := hsums 1 a ha
  have hnone : amounts (errands.postedTo [a]) = [] := by
    rw [Journal.postedTo, List.map_singleton, hbuilt.isTree.id_eq ha]
    decide +kernel
  have hboth : amounts (errands.postedTo (errands.subtree 1)) =
      [dollars false 7 (by decide), dollars false 30 (by decide)] := by
    decide +kernel
  rw [hnone] at hvalue
  rw [hboth] at htotal
  refine ⟨hbuilt, hposts, summable_errands, value, total, running, Value.isSumOf_nil_iff.1 hvalue,
    htotal.same (Value.isSumOf_amount (Amount.denominated_of_isSome rfl)) fun k => ?_,
    hlast (.refl _) 2 (by decide +kernel), fun s => ?_⟩
  · simp only [Amount.total, List.map_cons, List.map_nil, Amount.holding, toRat_dollars]
    have hsymbol (n : Bool) (m : Nat) (h : m < 79228162514264337593543950336) :
        (dollars n m h).symbol = "$" := rfl
    simp only [hsymbol]
    by_cases hk : k = "$"
    · simp only [hk, if_true]
      norm_num
    · simp only [hk, if_false, List.sum_cons, List.sum_nil, add_zero]
  · obtain ⟨s', hs', hsums'⟩ := hsummed s
    obtain ⟨s'', hs'', hacc⟩ := haccumulated s'
    exact ⟨s', s'', hs', hsums', hs'', hacc⟩

end ReportState

end Bookkeeping
