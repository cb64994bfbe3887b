import Bookkeeping.Proofs.Amount.Denominated
import Bookkeeping.Proofs.Value.Sum

/-!
# What amounts with commodities come to

`Value.IsSumOf` says that a value is what a list of denominated amounts comes to.  While all amounts
fit together, what two lists come to adds up to what both come to (`IsSumOf.add`), and so it goes
for any number of lists (`IsSumOf.addUp`).  Lists that hold as much of each commodity come to equal
values (`IsSumOf.same`).
-/

namespace Bookkeeping

namespace Value

/-- The value is nothing if there are no amounts, and else an amount or a balance, with commodities,
that holds what they hold together. -/
inductive IsSumOf (as : List Amount) : Value → Prop where
  | null : as = [] → IsSumOf as null
  | amount {a : Amount} : as ≠ [] → a.Denominated → (∀ k, a.holding k = Amount.total as k) →
      IsSumOf as (amount a)
  | balance {b : Balance} : as ≠ [] → b.Keyed Amount.Denominated →
      (∀ k, b.holding k = Amount.total as k) → IsSumOf as (balance b)

variable {u v : Value} {as bs : List Amount}

theorem isSumOf_nil_iff : u.IsSumOf [] ↔ u = null := by
  refine ⟨fun h => ?_, fun h => h ▸ .null rfl⟩
  cases h with
  | null => rfl
  | amount hne => exact absurd rfl hne
  | balance hne => exact absurd rfl hne

theorem isSumOf_amount {a : Amount} (h : a.Denominated) : (amount a).IsSumOf [a] := by
  refine .amount nofun h fun k => ?_
  rw [Amount.total_cons]
  exact (add_zero _).symm

theorem isSumOf_ofBalance {b : Balance} (hne : as ≠ []) (hb : b.Keyed Amount.Denominated)
    (hhold : ∀ k, b.holding k = Amount.total as k) : (ofBalance b).IsSumOf as := by
  rcases ofBalance_cases hb with ⟨h, hzero⟩ | ⟨a, h, ha, -, hhold'⟩ | h <;> rw [h]
  · have hz : Amount.zero.isZero := rfl
    refine .amount hne (fun _ => hz) fun k => ?_
    rw [Amount.holding_of_isZero hz, ← hhold, hzero]
  · exact .amount hne ha fun k => (hhold' k).symm.trans (hhold k)
  · exact .balance hne hb hhold

theorem IsSumOf.perm (h : u.IsSumOf as) (hperm : as.Perm bs) : u.IsSumOf bs := by
  have hne : as ≠ [] → bs ≠ [] := fun hne he => hne (List.perm_nil.1 (he ▸ hperm))
  cases h with
  | null he =>
    subst he
    exact .null (List.nil_perm.1 hperm)
  | amount has ha hhold =>
    exact .amount (hne has) ha fun k => by rw [hhold, Amount.total_perm hperm]
  | balance has hb hhold =>
    exact .balance (hne has) hb fun k => by rw [hhold, Amount.total_perm hperm]

/-- As a balance the value holds what the amounts hold. -/
theorem IsSumOf.view (h : u.IsSumOf as) :
    ∃ b, u.toBalance? = some b ∧ b.Keyed Amount.Denominated ∧
      ∀ k, b.holding k = Amount.total as k := by
  cases h with
  | null he =>
    subst he
    exact ⟨.empty, rfl, Balance.keyed_empty, fun k => rfl⟩
  | @amount a _ ha hhold =>
    exact ⟨.ofAmount a, rfl, Balance.keyed_ofAmount ha, fun k => by
      rw [Balance.holding_ofAmount, hhold]⟩
  | @balance b _ hb hhold => exact ⟨b, rfl, hb, hhold⟩

/-- Lists that hold as much of each commodity come to equal values. -/
theorem IsSumOf.same (hu : u.IsSumOf as) (hv : v.IsSumOf bs)
    (h : ∀ k, Amount.total as k = Amount.total bs k) : u.same v := by
  obtain ⟨b, hb, hkeyed, hhold⟩ := hu.view
  obtain ⟨c, hc, hkeyed', hhold'⟩ := hv.view
  have hsame : b.same c := (Balance.same_iff_holding hkeyed hkeyed').2 fun k => by
    rw [hhold, hhold', h]
  rw [same_iff, essence_eq_sum_iff hb, essence_eq_sum_iff hc, Balance.same_iff.1 hsame]

/-! ## Adding up -/

theorem addsExactly_of_fitTogether (hfit : Amount.FitTogether (as ++ bs)) {b c : Balance}
    (hb : ∀ k, b.holding k = Amount.total as k) (hc : ∀ k, c.holding k = Amount.total bs k) :
    b.AddsExactly c := by
  intro k x y hx hy
  refine hfit.addsExactly (k := k) ?_ ?_
  · rw [← hb, Balance.holding_of_amount?_some hx]
  · rw [← hc, Balance.holding_of_amount?_some hy]

theorem IsSumOf.addBalances (hu : u.IsSumOf as) (hv : v.IsSumOf bs) (hne : as ≠ [])
    (hfit : Amount.FitTogether (as ++ bs)) :
    ∃ w, addBalances u v = .ok w ∧ w.IsSumOf (as ++ bs) := by
  obtain ⟨b, hb, hkeyed, hhold⟩ := hu.view
  obtain ⟨c, hc, hkeyed', hhold'⟩ := hv.view
  obtain ⟨d, hd, hkeyedd, hholdd⟩ := Balance.addBalance_spec Amount.additive_denominated hkeyed
    hkeyed' (addsExactly_of_fitTogether hfit hhold hhold')
  refine ⟨ofBalance d, addBalances_of_exec hb hc hd,
    isSumOf_ofBalance (List.append_ne_nil_of_left_ne_nil hne bs) hkeyedd fun k => ?_⟩
  rw [hholdd, hhold, hhold', Amount.total_append]

theorem isSumOf_addAmounts {a b : Amount} (ha : (amount a).IsSumOf as) (hb : (amount b).IsSumOf bs)
    (hfit : Amount.FitTogether (as ++ bs)) :
    ∃ w, addAmounts a b = .ok w ∧ w.IsSumOf (as ++ bs) := by
  cases ha with | amount has hda hholda =>
  cases hb with | amount hbs hdb hholdb =>
  have hne := List.append_ne_nil_of_left_ne_nil has bs
  by_cases hcompat : a.compatible b
  · have hexact : (Balance.ofAmount a).AddsExactly (.ofAmount b) :=
      addsExactly_of_fitTogether hfit (fun k => by rw [Balance.holding_ofAmount, hholda])
        fun k => by rw [Balance.holding_ofAmount, hholdb]
    obtain ⟨s, hs, hcom, hrat⟩ := addAmounts_of_compatible hcompat hexact
    have hds := Amount.additive_denominated.sum hda hdb hcom hrat
    refine ⟨.amount s, hs, .amount hne hds fun k => ?_⟩
    rw [hda.holding_add hdb hcompat hcom hrat, hholda, hholdb, Amount.total_append]
  · obtain ⟨d, hd, hkeyed, hhold⟩ :=
      addAmounts_of_not_compatible Amount.additive_denominated hda hdb hcompat
    refine ⟨ofBalance d, hd, isSumOf_ofBalance hne hkeyed fun k => ?_⟩
    rw [hhold, Balance.holding_ofAmount, Balance.holding_ofAmount, hholda, hholdb,
      Amount.total_append]

/-- What two lists come to adds up to what both come to. -/
theorem IsSumOf.add (hu : u.IsSumOf as) (hv : v.IsSumOf bs)
    (hfit : Amount.FitTogether (as ++ bs)) : ∃ w, u.add v = .ok w ∧ w.IsSumOf (as ++ bs) := by
  cases hu with
  | null he =>
    subst he
    exact ⟨v, rfl, hv⟩
  | amount has ha hhold =>
    have hu : (Value.amount _).IsSumOf as := .amount has ha hhold
    cases hv with
    | null he =>
      subst he
      exact ⟨_, rfl, hu.perm (by rw [List.append_nil])⟩
    | amount hbs hb hholdb => exact isSumOf_addAmounts hu (.amount hbs hb hholdb) hfit
    | balance hbs hb hholdb => exact hu.addBalances (.balance hbs hb hholdb) has hfit
  | balance has hb hhold =>
    have hu : (Value.balance _).IsSumOf as := .balance has hb hhold
    cases hv with
    | null he =>
      subst he
      exact ⟨_, rfl, hu.perm (by rw [List.append_nil])⟩
    | amount hbs hc hholdc => exact hu.addBalances (.amount hbs hc hholdc) has hfit
    | balance hbs hc hholdc => exact hu.addBalances (.balance hbs hc hholdc) has hfit

/-- Adds further values to one, from left to right. -/
def addUp (u : Value) (vs : List Value) : Except ValueError Value := vs.foldlM add u

theorem addUp_cons_ok_iff {w : Value} {vs : List Value} :
    u.addUp (v :: vs) = .ok w ↔ ∃ x, u.add v = .ok x ∧ x.addUp vs = .ok w := by
  rw [addUp, List.foldlM_cons]
  cases u.add v with
  | error e => exact ⟨fun h => (by cases h), fun ⟨x, hx, _⟩ => (by cases hx)⟩
  | ok x => exact ⟨fun h => ⟨x, rfl, h⟩, fun ⟨_, hx, h⟩ => Except.ok.inj hx ▸ h⟩

theorem addUp_append_singleton {w x : Value} {vs : List Value} (h : u.addUp vs = .ok w)
    (hx : w.add v = .ok x) : u.addUp (vs ++ [v]) = .ok x := by
  rw [addUp] at h
  rw [addUp, List.foldlM_append, h]
  exact (bind_pure (w.add v)).trans hx

/-- Values, each of which is what a list of amounts comes to, add up to what all these lists come
to. -/
theorem IsSumOf.addUp {ι : Type} (value : ι → Value) (amounts : ι → List Amount) {is : List ι}
    (hu : u.IsSumOf as) (h : ∀ i ∈ is, (value i).IsSumOf (amounts i))
    (hfit : Amount.FitTogether (as ++ is.flatMap amounts)) :
    ∃ w, u.addUp (is.map value) = .ok w ∧ w.IsSumOf (as ++ is.flatMap amounts) := by
  induction is generalizing u as with
  | nil => exact ⟨u, rfl, hu.perm (by rw [List.flatMap_nil, List.append_nil])⟩
  | cons i is ih =>
    rw [List.flatMap_cons, ← List.append_assoc] at hfit ⊢
    obtain ⟨w, hw, hsum⟩ := hu.add (h i (.head _))
      (hfit.mono (List.sublist_append_left _ _).subperm)
    obtain ⟨x, hx, hsumx⟩ := ih hsum (fun i' hi' => h i' (.tail _ hi')) hfit
    exact ⟨x, addUp_cons_ok_iff.2 ⟨w, hw, hx⟩, hsumx⟩

end Value

end Bookkeeping
