import Bookkeeping.Proofs.Value.Sum
import Mathlib.Algebra.BigOperators.Group.List.Basic

/-!
# Sums of many amounts

A `Bracketing` is a list of amounts with the brackets in which they are summed.  Where no step rounds
(`Bracketing.AddsExactly`) and none relabels an amount (`Bracketing.KeepsCommodities`), the sum holds
what the amounts hold together (`Bracketing.Sound.sum_spec`), so that neither the order nor the
brackets matter.  No step relabels if only zeros are bare, or if no amounts of one commodity cancel
out (`Bracketing.sound_of_cancels`).
-/

namespace Bookkeeping

/-- Amounts to be summed, with the brackets. -/
inductive Bracketing where
  | nothing
  | single (a : Amount)
  | both (s t : Bracketing)

namespace Bracketing

/-- The amounts from left to right. -/
def amounts : Bracketing → List Amount
  | nothing => []
  | single a => [a]
  | both s t => s.amounts ++ t.amounts

/-- The sum, taken as the brackets say. -/
def sum : Bracketing → Except ValueError Value
  | nothing => .ok .null
  | single a => .ok (.amount a)
  | both s t => s.sum.bind fun u => t.sum.bind u.add

/-- No sum on the way overflows or is rounded. -/
def AddsExactly : Bracketing → Prop
  | nothing => True
  | single _ => True
  | both s t =>
    s.AddsExactly ∧ t.AddsExactly ∧ ∀ u v, s.sum = .ok u → t.sum = .ok v → u.AddsExactly v

/-- No sum on the way gives a bare number the commodity of a zero. -/
def KeepsCommodities : Bracketing → Prop
  | nothing => True
  | single _ => True
  | both s t =>
    s.KeepsCommodities ∧ t.KeepsCommodities ∧
      ∀ u v, s.sum = .ok u → t.sum = .ok v → u.relabels v = false

/-- What the amounts hold together of the commodity with this symbol. -/
def total (t : Bracketing) (symbol : String) : ℚ := (t.amounts.map (·.holding symbol)).sum

/-- Only zeros are bare among these amounts. -/
def OnlyZerosBare (l : List Amount) : Prop := ∀ a ∈ l, a.commodity = none → a.isZero

/-- Some of these amounts are of one commodity and come to zero together. -/
def Cancels (l : List Amount) : Prop :=
  ∃ m k, m.Subperm l ∧ m ≠ [] ∧ k ≠ "" ∧ (∀ a ∈ m, a.symbol = k) ∧ (m.map (·.holding k)).sum = 0

/-- The amounts are in order, and every step sums them as the balances would. -/
structure Sound (t : Bracketing) : Prop where
  wellFormed : ∀ a ∈ t.amounts, a.WellFormed
  addsExactly : t.AddsExactly
  keepsCommodities : t.KeepsCommodities

variable {s t : Bracketing} {u v : Value} {x y : Amount}

theorem Sound.left (h : (both s t).Sound) : s.Sound where
  wellFormed a ha := h.wellFormed a (List.mem_append_left _ ha)
  addsExactly := h.addsExactly.1
  keepsCommodities := h.keepsCommodities.1

theorem Sound.right (h : (both s t).Sound) : t.Sound where
  wellFormed a ha := h.wellFormed a (List.mem_append_right _ ha)
  addsExactly := h.addsExactly.2.1
  keepsCommodities := h.keepsCommodities.2.1

theorem sum_both (hs : s.sum = .ok u) (ht : t.sum = .ok v) : (both s t).sum = u.add v := by
  rw [sum, hs, ht]
  rfl

/-! ## What the amounts hold together -/

theorem total_both (s t : Bracketing) (k : String) :
    (both s t).total k = s.total k + t.total k := by
  rw [total, amounts, List.map_append, List.sum_append]
  rfl

theorem total_perm (h : s.amounts.Perm t.amounts) (k : String) : s.total k = t.total k :=
  (h.map _).sum_eq

theorem total_eq_zero {k : String} (h : ∀ a ∈ t.amounts, a.holding k = 0) : t.total k = 0 := by
  refine List.sum_eq_zero fun r hr => ?_
  obtain ⟨a, ha, rfl⟩ := List.mem_map.1 hr
  exact h a ha

theorem sum_filter_symbol (l : List Amount) (k : String) :
    ((l.filter (·.symbol = k)).map (·.holding k)).sum = (l.map (·.holding k)).sum := by
  induction l with
  | nil => rfl
  | cons a l ih =>
    by_cases h : a.symbol = k
    · rw [List.filter_cons_of_pos (by simpa using h)]
      simp only [List.map_cons, List.sum_cons, ih]
    · rw [List.filter_cons_of_neg (by simpa using h), ih, List.map_cons, List.sum_cons,
        Amount.holding, if_neg (Ne.symm h), zero_add]

/-- The sum is there and holds what the amounts hold together. -/
theorem Sound.sum_spec (h : t.Sound) :
    ∃ w d, t.sum = .ok w ∧ w.WellFormed ∧ w.toBalance? = some d ∧ ∀ k, d.holding k = t.total k := by
  induction t with
  | nothing => exact ⟨.null, .empty, rfl, trivial, rfl, fun _ => rfl⟩
  | single a =>
    refine ⟨.amount a, .ofAmount a, rfl, h.wellFormed a (List.mem_singleton.2 rfl), rfl,
      fun k => ?_⟩
    rw [Balance.holding_ofAmount]
    exact (add_zero _).symm
  | both s t ihs iht =>
    obtain ⟨u, b, hu, hwfu, hb, hholdb⟩ := ihs h.left
    obtain ⟨v, c, hv, hwfv, hc, hholdc⟩ := iht h.right
    have hexact := h.addsExactly.2.2 u v hu hv
    have hkeeps := h.keepsCommodities.2.2 u v hu hv
    obtain ⟨w, hw, hwfw, d, hd, hiff⟩ := Value.add_spec hwfu hwfv hexact hb hc
    refine ⟨w, d, (sum_both hu hv).trans hw, hwfw, hd, fun k => ?_⟩
    rw [hiff.2 hkeeps, hholdb, hholdc, total_both]

theorem Sound.holding_amount (h : t.Sound) (hx : t.sum = .ok (.amount x)) (k : String) :
    x.holding k = t.total k := by
  obtain ⟨w, d, hw, -, hd, hhold⟩ := h.sum_spec
  cases hx.symm.trans hw
  cases hd
  rw [← hhold, Balance.holding_ofAmount]

/-! ## When no number is relabelled -/

theorem Sound.exists_symbol_of_ne_zero (h : t.Sound) (hx : t.sum = .ok (.amount x))
    (hz : ¬x.isZero) : ∃ a ∈ t.amounts, a.symbol = x.symbol := by
  by_contra hno
  have htotal : t.total x.symbol = 0 := by
    refine total_eq_zero fun a ha => ?_
    rw [Amount.holding, if_neg fun hs => hno ⟨a, ha, hs.symm⟩]
  rw [← h.holding_amount hx, Amount.holding, if_pos rfl] at htotal
  exact hz (Amount.isZero_iff_toRat.2 htotal)

/-- The commodity of a sum is that of an amount in it. -/
theorem Sound.exists_symbol (h : t.Sound) (hx : t.sum = .ok (.amount x)) (hc : x.commodity ≠ none) :
    ∃ a ∈ t.amounts, a.symbol = x.symbol := by
  induction t generalizing x with
  | nothing => cases hx
  | single a =>
    cases hx
    exact ⟨a, List.mem_singleton.2 rfl, rfl⟩
  | both s t ihs iht =>
    by_cases hz : x.isZero
    · obtain ⟨u, b, hu, hwfu, hb, -⟩ := h.left.sum_spec
      obtain ⟨v, c, hv, hwfv, hc', -⟩ := h.right.sum_spec
      have hadd : u.add v = .ok (.amount x) := (sum_both hu hv).symm.trans hx
      obtain ⟨y, hy, hcom⟩ :=
        Value.commodity_of_add hwfu hwfv (h.addsExactly.2.2 u v hu hv) hb hc' hadd hz hc
      have hsym : y.symbol = x.symbol := by
        rw [Amount.symbol, hcom, ← Amount.symbol]
      rcases hy with rfl | rfl
      · obtain ⟨a, ha, has⟩ := ihs h.left hu (hcom ▸ hc)
        exact ⟨a, List.mem_append_left _ ha, has.trans hsym⟩
      · obtain ⟨a, ha, has⟩ := iht h.right hv (hcom ▸ hc)
        exact ⟨a, List.mem_append_right _ ha, has.trans hsym⟩
    · exact h.exists_symbol_of_ne_zero hx hz

/-- Where a zero comes out with a commodity, amounts of that commodity cancel out. -/
theorem Sound.cancels (h : t.Sound) (hx : t.sum = .ok (.amount x)) (hz : x.isZero)
    (hc : x.commodity ≠ none) : Cancels t.amounts := by
  obtain ⟨a, ha, hsym⟩ := h.exists_symbol hx hc
  have hwf : x.WellFormed := by
    obtain ⟨w, d, hw, hwfw, -⟩ := h.sum_spec
    cases hx.symm.trans hw
    exact hwfw
  refine ⟨t.amounts.filter (·.symbol = x.symbol), x.symbol, List.filter_sublist.subperm, ?_, ?_,
    ?_, ?_⟩
  · exact List.ne_nil_of_mem (List.mem_filter.2 ⟨ha, by simpa using hsym⟩)
  · exact fun he => hc (hwf.symbol_eq_empty_iff.1 he)
  · intro b hb
    simpa using (List.mem_filter.1 hb).2
  · rw [sum_filter_symbol]
    show t.total x.symbol = 0
    rw [← h.holding_amount hx, Amount.holding_of_isZero hz]

/-- Where a number other than zero comes out bare, an amount was such a number. -/
theorem Sound.exists_bare (h : t.Sound) (hx : t.sum = .ok (.amount x)) (hz : ¬x.isZero)
    (hc : x.commodity = none) : ∃ a ∈ t.amounts, a.commodity = none ∧ ¬a.isZero := by
  have hsym := Amount.symbol_of_commodity_none hc
  by_contra hno
  have htotal : t.total "" = 0 := by
    refine total_eq_zero fun a ha => ?_
    rw [Amount.holding]
    by_cases ha' : "" = a.symbol
    · have hnone := (h.wellFormed a ha).symbol_eq_empty_iff.1 ha'.symm
      have hza : a.isZero := by
        by_contra hza
        exact hno ⟨a, ha, hnone, hza⟩
      rw [if_pos ha', Amount.isZero_iff_toRat.1 hza]
    · rw [if_neg ha']
  rw [← h.holding_amount hx, Amount.holding, if_pos hsym.symm] at htotal
  exact hz (Amount.isZero_iff_toRat.2 htotal)

theorem Sound.labels_eq_false (hs : s.Sound) (ht : t.Sound) (hx : s.sum = .ok (.amount x))
    (hy : t.sum = .ok (.amount y))
    (h : OnlyZerosBare t.amounts ∨ ¬Cancels s.amounts) : x.labels y = false := by
  by_contra hlab
  simp only [Amount.labels, Bool.not_eq_false, Bool.and_eq_true, Bool.not_eq_true',
    Option.isNone_iff_eq_none, Option.isSome_iff_ne_none] at hlab
  obtain ⟨⟨⟨hzx, hcx⟩, hzy⟩, hcy⟩ := hlab
  rcases h with h | h
  · obtain ⟨a, ha, hca, hza⟩ := ht.exists_bare hy (by simp [hzy]) hcy
    exact hza (h a ha hca)
  · exact h (hs.cancels hx hzx hcx)

theorem OnlyZerosBare.mono {l m : List Amount} (h : l.Subperm m) (hm : OnlyZerosBare m) :
    OnlyZerosBare l := fun a ha => hm a (h.subset ha)

theorem Cancels.mono {l m : List Amount} (h : l.Subperm m) (hl : Cancels l) : Cancels m := by
  obtain ⟨n, k, hn, hrest⟩ := hl
  exact ⟨n, k, hn.trans h, hrest⟩

/-- No number is relabelled if only zeros are bare, or no amounts cancel out. -/
theorem sound_of_cancels (hwf : ∀ a ∈ t.amounts, a.WellFormed) (hexact : t.AddsExactly)
    (h : OnlyZerosBare t.amounts ∨ ¬Cancels t.amounts) : t.Sound := by
  induction t with
  | nothing => exact ⟨hwf, hexact, trivial⟩
  | single a => exact ⟨hwf, hexact, trivial⟩
  | both s t ihs iht =>
    have hleft : s.amounts.Subperm (both s t).amounts := (List.sublist_append_left _ _).subperm
    have hright : t.amounts.Subperm (both s t).amounts := (List.sublist_append_right _ _).subperm
    have hs := ihs (fun a ha => hwf a (hleft.subset ha)) hexact.1
      (h.imp (.mono hleft) fun h hc => h (hc.mono hleft))
    have ht := iht (fun a ha => hwf a (hright.subset ha)) hexact.2.1
      (h.imp (.mono hright) fun h hc => h (hc.mono hright))
    refine ⟨hwf, hexact, hs.keepsCommodities, ht.keepsCommodities, fun u v hu hv => ?_⟩
    cases u <;> cases v
    case amount.amount x y =>
      have hxy : x.labels y = false := hs.labels_eq_false ht hu hv
        (h.imp (.mono hright) fun h hc => h (hc.mono hleft))
      have hyx : y.labels x = false := ht.labels_eq_false hs hv hu
        (h.imp (.mono hleft) fun h hc => h (hc.mono hright))
      rw [Value.relabels, Amount.relabels, hxy, hyx, Bool.or_false]
    all_goals rfl

/-! ## Order and brackets -/

theorem same_of_perm (hperm : s.amounts.Perm t.amounts) (hs : s.Sound) (ht : t.Sound) :
    ∃ u v, s.sum = .ok u ∧ t.sum = .ok v ∧ u.same v := by
  obtain ⟨u, b, hu, hwfu, hb, hholdb⟩ := hs.sum_spec
  obtain ⟨v, c, hv, hwfv, hc, hholdc⟩ := ht.sum_spec
  refine ⟨u, v, hu, hv, ?_⟩
  have hsame : b.same c := by
    rw [Balance.same_iff_holding (hwfu.view hb) (hwfv.view hc)]
    intro k
    rw [hholdb, hholdc, total_perm hperm]
  rw [Value.same_iff, Value.essence_eq_sum_iff hb, Value.essence_eq_sum_iff hc,
    Balance.same_iff.1 hsame]

/-- Adding values agrees with adding balances exactly if no amount is relabelled; and then amounts
come to equal values in any order and with any brackets, as they do whenever only zeros are bare
among them or none of them cancel out. -/
theorem sums_agree_with_balances (u v : Value) (s t : Bracketing) :
    (∀ b c, u.WellFormed → v.WellFormed → u.AddsExactly v → u.toBalance? = some b →
      v.toBalance? = some c →
      ∃ w d r, u.add v = .ok w ∧ w.WellFormed ∧ w.toBalance? = some d ∧
        (Balance.addBalance c).exec b = (.ok (), r) ∧
        (∀ k, r.holding k = b.holding k + c.holding k) ∧ (d.same r ↔ u.relabels v = false)) ∧
    (s.amounts.Perm t.amounts → (∀ a ∈ s.amounts, a.WellFormed) → s.AddsExactly → t.AddsExactly →
      (OnlyZerosBare s.amounts ∨ ¬Cancels s.amounts) ∨ s.KeepsCommodities ∧ t.KeepsCommodities →
      ∃ x y, s.sum = .ok x ∧ t.sum = .ok y ∧ x.same y) := by
  refine ⟨fun b c => Value.add_same_iff, fun hperm hwf hs ht hkeeps => ?_⟩
  have hwft : ∀ a ∈ t.amounts, a.WellFormed := fun a ha => hwf a (hperm.mem_iff.2 ha)
  rcases hkeeps with h | ⟨hks, hkt⟩
  · have ht' : OnlyZerosBare t.amounts ∨ ¬Cancels t.amounts :=
      h.imp (.mono hperm.symm.subperm) fun h hc => h (hc.mono hperm.symm.subperm)
    exact same_of_perm hperm (sound_of_cancels hwf hs h) (sound_of_cancels hwft ht ht')
  · exact same_of_perm hperm ⟨hwf, hs, hks⟩ ⟨hwft, ht, hkt⟩

/-- Nothing in dollars. -/
def zeroDollars : Amount where
  quantity := ⟨false, 0, 2, Decimal.zero.mantissa_lt, by decide⟩
  commodity := some { symbol := "$", precision := 2 }

/-- Two dollars. -/
def twoDollars : Amount where
  quantity := ⟨false, 200, 2, by decide, by decide⟩
  commodity := some { symbol := "$", precision := 2 }

/-- The bare number five. -/
def five : Amount where
  quantity := .whole false 5 (by decide)

theorem addsExactly_both {a b : Amount} (h : a.quantity.AddsExactly b.quantity) :
    (both (single a) (single b)).AddsExactly := by
  refine ⟨trivial, trivial, fun u v hu hv => ?_⟩
  cases hu
  cases hv
  exact Value.addsExactly_amounts h

/-- Two dollars and the number five make a balance, in either order. -/
theorem sums_agree_two_dollars_and_five :
    (∃ w d r, (Value.amount twoDollars).add (.amount five) = .ok w ∧ w.WellFormed ∧
      w.toBalance? = some d ∧
      (Balance.addBalance (.ofAmount five)).exec (.ofAmount twoDollars) = (.ok (), r) ∧
      (∀ k, r.holding k =
        (Balance.ofAmount twoDollars).holding k + (Balance.ofAmount five).holding k) ∧
      (d.same r ↔ (Value.amount twoDollars).relabels (.amount five) = false)) ∧
    ∃ x y, (both (single twoDollars) (single five)).sum = .ok x ∧
      (both (single five) (single twoDollars)).sum = .ok y ∧ x.same y := by
  have hwf₁ : twoDollars.WellFormed := by
    intro c hc
    cases hc
    decide
  have hwf₂ : five.WellFormed := Amount.wellFormed_of_commodity_none rfl
  have hexact : twoDollars.quantity.AddsExactly five.quantity :=
    Decimal.addsExactly_of_lt (by decide)
  obtain ⟨hvalues, hsums⟩ := sums_agree_with_balances (.amount twoDollars) (.amount five)
    (both (single twoDollars) (single five)) (both (single five) (single twoDollars))
  refine ⟨hvalues _ _ hwf₁ hwf₂ (Value.addsExactly_amounts hexact) rfl rfl,
    hsums (List.Perm.swap _ _ _) ?_ (addsExactly_both hexact) (addsExactly_both hexact.symm)
      (.inr ⟨⟨trivial, trivial, ?_⟩, trivial, trivial, ?_⟩)⟩
  · intro a ha
    rcases List.mem_cons.1 ha with rfl | ha
    · exact hwf₁
    · exact List.mem_singleton.1 ha ▸ hwf₂
  · intro u v hu hv
    cases hu
    cases hv
    rfl
  · intro u v hu hv
    cases hu
    cases hv
    rfl

/-- Nothing in dollars turns the number five into dollars, so that its sum is not that of the
balances and what comes of two such numbers depends on the brackets. -/
theorem zero_dollars_relabel_five :
    (zeroDollars.WellFormed ∧ five.WellFormed ∧
      (Value.amount zeroDollars).AddsExactly (.amount five) ∧
      ∃ w d s, (Value.amount zeroDollars).add (.amount five) = .ok w ∧ w.toBalance? = some d ∧
        (Balance.addBalance (.ofAmount five)).exec (.ofAmount zeroDollars) = (.ok (), s) ∧
        ¬d.same s) ∧
    ∃ s t : Bracketing, s.amounts.Perm t.amounts ∧ (∀ a ∈ s.amounts, a.WellFormed) ∧
      s.AddsExactly ∧ t.AddsExactly ∧ ¬∃ u v, s.sum = .ok u ∧ t.sum = .ok v ∧ u.same v := by
  have hwf₁ : zeroDollars.WellFormed := by
    intro c hc
    cases hc
    decide
  have hwf₂ : five.WellFormed := Amount.wellFormed_of_commodity_none rfl
  have hexact : (Value.amount zeroDollars).AddsExactly (.amount five) :=
    Value.addsExactly_amounts (Decimal.addsExactly_of_isZero (.inl rfl))
  refine ⟨⟨hwf₁, hwf₂, hexact, ?_⟩,
    both (both (single zeroDollars) (single five)) (single five),
    both (single zeroDollars) (both (single five) (single five)), .refl _, ?_, ?_, ?_, ?_⟩
  · obtain ⟨w, d, s, hw, -, hd, hs, -, hiff⟩ :=
      Value.add_same_iff (u := .amount zeroDollars) (v := .amount five) hwf₁ hwf₂ hexact rfl rfl
    refine ⟨w, d, s, hw, hd, hs, fun h => ?_⟩
    have hrel := hiff.1 h
    cases hrel
  · intro a ha
    rcases List.mem_cons.1 ha with rfl | ha
    · exact hwf₁
    · rcases List.mem_cons.1 ha with rfl | ha
      · exact hwf₂
      · exact List.mem_singleton.1 ha ▸ hwf₂
  · refine ⟨addsExactly_both (Decimal.addsExactly_of_isZero (.inl rfl)), trivial,
      fun u v hu hv => ?_⟩
    cases hu
    cases hv
    exact Value.addsExactly_amounts (Decimal.addsExactly_of_lt (by decide))
  · refine ⟨trivial, addsExactly_both (Decimal.addsExactly_of_lt (by decide)), fun u v hu hv => ?_⟩
    cases hu
    cases hv
    exact Value.addsExactly_amounts (Decimal.addsExactly_of_isZero (.inl rfl))
  · rintro ⟨u, v, hu, hv, hsame⟩
    cases hu
    cases hv
    exact absurd hsame (by decide)

end Bracketing

end Bookkeeping
