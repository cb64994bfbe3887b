import Bookkeeping.Proofs.Balance.Sum
import Bookkeeping.Proofs.Decimal.Vanishing

/-!
# How balances hold amounts

Every amount of a balance stands under its own symbol, whatever is done to the balance
(`Balance.Arises.bySymbol`).  No amount held is zero either, be it that an operation fails, as long
as no division makes zero of one (`Balance.Arises.nonzero`); this it does with amounts of which the
quotient is at most half of the least decimal, and with no others (`nonzero_divBy_iff`).  Balances
without zeros are zero only when empty, and equal when they hold as much of each commodity.
-/

namespace Bookkeeping

namespace Index

variable {κ α ε : Type} [Ord κ]

/-- What stands under a key has been changed, or not come to. -/
theorem find?_of_mapEntries {f : α → Except ε α} {k : κ} {v' : α} {l : List (κ × α)}
    (h : find? k (mapEntries f l).2 = some v') :
    ∃ v, find? k l = some v ∧ (v' = v ∨ f v = .ok v') := by
  induction l with
  | nil => cases h
  | cons e l ih =>
    obtain ⟨key, v⟩ := e
    rw [mapEntries] at h
    split at h
    · rename_i w hw
      rw [find?] at h ⊢
      split at h
      · rename_i hk
        rw [if_pos hk]
        exact ⟨v, rfl, .inr (hw.trans (congrArg _ (Option.some.inj h)))⟩
      · rename_i hk
        rw [if_neg hk]
        exact ih h
    · exact ⟨v', h, .inl rfl⟩

/-- If all values can be changed, all are. -/
theorem find?_mapEntries {f : α → Except ε α} {l : List (κ × α)}
    (hf : ∀ e ∈ l, ∃ v', f e.2 = .ok v') :
    (mapEntries f l).1 = .ok () ∧ ∀ k v v', find? k l = some v → f v = .ok v' →
      find? k (mapEntries f l).2 = some v' := by
  induction l with
  | nil => exact ⟨rfl, fun _ _ _ h => (by cases h)⟩
  | cons e l ih =>
    obtain ⟨w', hw⟩ := hf e (.head _)
    have ih := ih fun e he => hf e (.tail _ he)
    obtain ⟨key, w⟩ := e
    rw [mapEntries, hw]
    refine ⟨ih.1, fun k v v' hv hv' => ?_⟩
    rw [find?] at hv ⊢
    split at hv
    · rename_i hk
      cases hv
      rw [if_pos hk]
      exact congrArg some (Except.ok.inj (hw.symm.trans hv'))
    · rename_i hk
      rw [if_neg hk]
      exact ih.2 k v v' hv hv'

end Index

/-! ## Amounts -/

namespace Amount

variable {a b d p s : Amount}

theorem symbol_of_add (h : a.add b = .ok s) (hsym : a.symbol = b.symbol) :
    s.symbol = a.symbol := by
  rw [add] at h
  split at h
  · split at h
    · cases h
      exact symbol_of_symbol_eq rfl hsym
    · cases h
  · cases h

/-- A bare number beside it leaves an amount its commodity. -/
theorem orElse_number (a b : Amount) : (a.commodity <|> b.number.commodity) = a.commodity := by
  cases a.commodity <;> rfl

theorem mul_number_cases {r : Except AmountError Amount} (h : a.mul b.number = r) :
    (∃ e, r = .error e ∧ a.quantity.mul? b.quantity = none) ∨
      ∃ p, r = .ok p ∧ a.quantity.mul? b.quantity = some p.quantity ∧ p.symbol = a.symbol := by
  rw [mul, orElse_number] at h
  split at h
  · rename_i q hq
    exact .inr ⟨_, h.symm, hq, rfl⟩
  · rename_i hq
    exact .inl ⟨_, h.symm, hq⟩

theorem div_number_cases {r : Except AmountError Amount} (h : a.div b.number = r) :
    (∃ e, r = .error e ∧ a.quantity.div? b.quantity = none) ∨
      ∃ p, r = .ok p ∧ a.quantity.div? b.quantity = some p.quantity ∧ p.symbol = a.symbol := by
  rw [div, orElse_number] at h
  split at h
  · rename_i hzero
    have hz : b.quantity.isZero = true := hzero
    refine .inl ⟨_, h.symm, ?_⟩
    rw [Decimal.div?, if_pos hz]
  · split at h
    · rename_i q hq
      exact .inr ⟨_, h.symm, hq, rfl⟩
    · rename_i hq
      exact .inl ⟨_, h.symm, hq⟩

theorem exists_mul_of_le_half (h : 2 * b.quantity.mantissa ≤ Decimal.tens b.quantity.places)
    (a : Amount) : ∃ p, a.mul b.number = .ok p := by
  obtain ⟨_, -, hnone⟩ | ⟨p, hp, -⟩ := mul_number_cases (a := a) (b := b) rfl
  · have hsome := Decimal.isSome_mul?_of_le_half a.quantity h
    rw [hnone] at hsome
    cases hsome
  · exact ⟨p, hp⟩

theorem exists_div_of_one_le (h : 1 ≤ |b.quantity.toRat|) (a : Amount) :
    ∃ p, a.div b.number = .ok p := by
  obtain ⟨_, -, hnone⟩ | ⟨p, hp, -⟩ := div_number_cases (a := a) (b := b) rfl
  · have hsome := Decimal.isSome_div?_of_one_le a.quantity h
    rw [hnone] at hsome
    cases hsome
  · exact ⟨p, hp⟩

theorem isZero_of_div (h : a.div b.number = .ok p) :
    p.isZero ↔ |a.quantity.toRat / b.quantity.toRat| ≤ Decimal.unit / 2 := by
  obtain ⟨_, he, -⟩ | ⟨_, he, hq, -⟩ := div_number_cases h
  · cases he
  · cases he
    exact Decimal.isZero_div?_iff hq

end Amount

namespace Attempt

variable {σ ε β : Type}

/-- What every step keeps, whether or not it fails, all of them together keep. -/
theorem exec_forM_keeps {P : σ → Prop} {f : β → Attempt σ ε Unit} {l : List β}
    (hf : ∀ x ∈ l, ∀ s, P s → P ((f x).exec s).2) {s : σ} (hs : P s) :
    P ((l.forM f).exec s).2 := by
  induction l generalizing s with
  | nil => exact hs
  | cons x l ih =>
    have hx := hf x (.head _) s hs
    have hrest := fun y hy => hf y (.tail _ hy)
    rw [exec_forM_cons]
    rcases hrun : (f x).exec s with ⟨r, t⟩
    rw [hrun] at hx
    cases r with
    | ok _ => exact ih hrest hx
    | error _ => exact hx

/-- What a change keeps where it succeeds, the step keeps. -/
theorem exec_update_keeps {P : σ → Prop} {f : σ → Except ε σ} {s : σ}
    (hf : ∀ t, f s = .ok t → P t) (hs : P s) : P ((update f).exec s).2 := by
  rw [exec_update]
  split
  · rename_i t ht
    exact hf t ht
  · exact hs

end Attempt

/-! ## Balances -/

namespace Balance

/-- Every amount held stands under its own symbol. -/
def BySymbol (b : Balance) : Prop := ∀ k a, b.amount? k = some a → a.symbol = k

/-- No amount held is zero. -/
def Nonzero (b : Balance) : Prop := ∀ k a, b.amount? k = some a → a.isZero = false

/-- A division of the balance by this number makes zero of no amount held. -/
def KeepsAll (b : Balance) (d : Amount) : Prop :=
  d.isZero ∨ ∀ a ∈ b.amounts, Decimal.unit / 2 < |a.quantity.toRat / d.quantity.toRat|

/-- The balances that operations lead to, be it that they fail; divisions only where they `may`. -/
inductive Arises (may : Balance → Amount → Prop) : Balance → Prop where
  | empty : Arises may .empty
  | ofAmount (a : Amount) : Arises may (.ofAmount a)
  | addAmount {b} (a : Amount) : Arises may b →
      Arises may ((Attempt.update (·.addAmount a)).exec b).2
  | subAmount {b} (a : Amount) : Arises may b →
      Arises may ((Attempt.update (·.subAmount a)).exec b).2
  | addBalance {b c} : Arises may b → Arises may c → Arises may ((addBalance c).exec b).2
  | mulBy {b} (f : Amount) : Arises may b → Arises may ((mulBy f).exec b).2
  | divBy {b} (d : Amount) : may b d → Arises may b → Arises may ((divBy d).exec b).2
  | neg {b} : Arises may b → Arises may b.neg

variable {may : Balance → Amount → Prop} {a d : Amount} {b c : Balance}

theorem mem_amounts_iff : a ∈ b.amounts ↔ ∃ k, b.amount? k = some a := Index.mem_values_iff

/-! ### Adding -/

theorem bySymbol_empty : empty.BySymbol := fun k a h => by cases h

theorem nonzero_empty : empty.Nonzero := fun k a h => by cases h

theorem BySymbol.store {k : String} (hb : b.BySymbol) (ha : a.symbol = k) :
    (b.store k a).BySymbol := by
  intro x e he
  rw [amount?_store] at he
  split at he
  · rename_i hx
    split at he
    · cases he
    · cases he
      exact ha.trans hx.symm
  · exact hb x e he

theorem Nonzero.store (hb : b.Nonzero) (k : String) (a : Amount) : (b.store k a).Nonzero := by
  intro x e he
  rw [amount?_store] at he
  split at he
  · split at he
    · cases he
    · rename_i hz
      cases he
      exact Bool.eq_false_iff.2 hz
  · exact hb x e he

theorem exists_store_of_addAmount (h : b.addAmount a = .ok c) :
    ∃ s, c = b.store a.symbol s ∧ (b.BySymbol → s.symbol = a.symbol) := by
  rw [addAmount] at h
  split at h
  · cases h
    exact ⟨a, rfl, fun _ => rfl⟩
  · rename_i held hheld
    split at h
    · rename_i sum hsum
      cases h
      refine ⟨sum, rfl, fun hb => ?_⟩
      have hsym := hb _ held hheld
      exact (Amount.symbol_of_add hsum hsym).trans hsym
    · cases h

theorem BySymbol.addAmount (hb : b.BySymbol) (h : b.addAmount a = .ok c) : c.BySymbol := by
  obtain ⟨s, rfl, hsym⟩ := exists_store_of_addAmount h
  exact hb.store (hsym hb)

theorem Nonzero.addAmount (hb : b.Nonzero) (h : b.addAmount a = .ok c) : c.Nonzero := by
  obtain ⟨s, rfl, -⟩ := exists_store_of_addAmount h
  exact hb.store _ s

/-! ### Scaling -/

theorem amount?_of_mapAmounts {f : Amount → Except AmountError Amount} {k : String} {a' : Amount}
    (h : ((mapAmounts f).exec b).2.amount? k = some a') :
    ∃ a, b.amount? k = some a ∧ (a' = a ∨ f a = .ok a') :=
  Index.find?_of_mapEntries h

theorem amount?_mapAmounts {f : Amount → Except AmountError Amount}
    (hf : ∀ a ∈ b.amounts, ∃ a', f a = .ok a') :
    ((mapAmounts f).exec b).1 = .ok () ∧ ∀ k a a', b.amount? k = some a → f a = .ok a' →
      ((mapAmounts f).exec b).2.amount? k = some a' := by
  obtain ⟨hok, hall⟩ := Index.find?_mapEntries (l := b.held.entries) fun e he =>
    hf e.2 (List.mem_map_of_mem he)
  refine ⟨?_, hall⟩
  show ((Index.mapEntries f b.held.entries).1).mapError BalanceError.amount = .ok ()
  rw [hok]
  rfl

theorem BySymbol.mapAmounts {f : Amount → Except AmountError Amount} (hb : b.BySymbol)
    (hf : ∀ a a', f a = .ok a' → a'.symbol = a.symbol) :
    ((mapAmounts f).exec b).2.BySymbol := by
  intro k a' h
  obtain ⟨a, ha, rfl | hfa⟩ := amount?_of_mapAmounts h
  · exact hb k a' ha
  · exact (hf a a' hfa).trans (hb k a ha)

/-- After the multiplications either all went well and the zeros are dropped, or one failed. -/
theorem exec_mulBy (f : Amount) (b : Balance) :
    ((mulBy f).exec b).2 =
      match (mapAmounts (·.mul f.number)).exec b with
      | (.ok _, c) => ⟨c.held.filter fun _ a => !a.isZero⟩
      | (.error _, c) => c := by
  rw [mulBy, Attempt.exec_bind]
  rcases (mapAmounts (·.mul f.number)).exec b with ⟨r, c⟩
  cases r <;> rfl

theorem amount?_filter_nonzero {k : String}
    (h : amount? ⟨b.held.filter fun _ a => !a.isZero⟩ k = some a) :
    b.amount? k = some a ∧ a.isZero = false := by
  rw [amount?, Index.get?_filter, Option.filter_eq_some_iff] at h
  exact ⟨h.1, by simpa using h.2⟩

theorem BySymbol.mulBy (hb : b.BySymbol) (f : Amount) : ((mulBy f).exec b).2.BySymbol := by
  have hmap : ((Balance.mapAmounts (·.mul f.number)).exec b).2.BySymbol :=
    hb.mapAmounts fun a a' h => by
      obtain ⟨e, he, -⟩ | ⟨p, hp, -, hsym⟩ := Amount.mul_number_cases h
      · cases he
      · cases hp
        exact hsym
  rw [exec_mulBy]
  rcases hrun : (Balance.mapAmounts (·.mul f.number)).exec b with ⟨r, c⟩
  rw [hrun] at hmap
  cases r with
  | ok _ => exact fun k a h => hmap k a (amount?_filter_nonzero h).1
  | error _ => exact hmap

/-- Where a product vanishes every product exists, so the zeros of a failure were there before. -/
theorem Nonzero.mulBy (hb : b.Nonzero) (f : Amount) : ((mulBy f).exec b).2.Nonzero := by
  rw [exec_mulBy]
  rcases hrun : (mapAmounts (·.mul f.number)).exec b with ⟨r, c⟩
  cases r with
  | ok _ => exact fun k a h => (amount?_filter_nonzero h).2
  | error e =>
    intro k p h
    have hc : ((mapAmounts (·.mul f.number)).exec b).2 = c := congrArg Prod.snd hrun
    rw [← hc] at h
    obtain ⟨a, ha, rfl | hp⟩ := amount?_of_mapAmounts h
    · exact hb k p ha
    · by_contra hz
      obtain ⟨_, he, -⟩ | ⟨_, he, hq, -⟩ := Amount.mul_number_cases hp
      · cases he
      cases he
      have hhalf := Decimal.le_half_of_mul? hq (Bool.eq_true_of_not_eq_false hz)
        (Bool.eq_false_iff.1 (hb k a ha))
      have hok := (amount?_mapAmounts (b := b) fun a _ =>
        Amount.exists_mul_of_le_half hhalf a).1
      rw [hrun] at hok
      cases hok

theorem BySymbol.divBy (hb : b.BySymbol) (d : Amount) : ((divBy d).exec b).2.BySymbol :=
  hb.mapAmounts fun a a' h => by
    obtain ⟨e, he, -⟩ | ⟨p, hp, -, hsym⟩ := Amount.div_number_cases h
    · cases he
    · cases hp
      exact hsym

theorem Nonzero.divBy (hb : b.Nonzero) (hd : b.KeepsAll d) : ((divBy d).exec b).2.Nonzero := by
  intro k p h
  obtain ⟨a, ha, rfl | hp⟩ := amount?_of_mapAmounts h
  · exact hb k p ha
  · rw [← Bool.not_eq_true, Amount.isZero_of_div hp, not_le]
    rcases hd with hd | hd
    · rw [Amount.div, if_pos (show d.number.isZero = true from hd)] at hp
      cases hp
    · exact hd a (mem_amounts_iff.2 ⟨k, ha⟩)

/-- A division makes zero of an amount exactly if a quotient is at most half of the least decimal:
then the divisor is so large that no division fails. -/
theorem nonzero_divBy_iff (hb : b.Nonzero) :
    ((divBy d).exec b).2.Nonzero ↔ b.KeepsAll d := by
  refine ⟨fun h => ?_, hb.divBy⟩
  by_contra hkeeps
  rw [KeepsAll, not_or] at hkeeps
  obtain ⟨hd, hsmall⟩ := hkeeps
  simp only [not_forall, not_lt] at hsmall
  obtain ⟨a, ha, hle⟩ := hsmall
  obtain ⟨k, hk⟩ := mem_amounts_iff.1 ha
  have htwo : 2 ≤ |d.quantity.toRat| :=
    Decimal.two_le_of_abs_div_le (Bool.eq_false_iff.1 (hb k a hk)) hd hle
  have hall := Amount.exists_div_of_one_le (one_le_two.trans htwo)
  obtain ⟨p, hp⟩ := hall a
  have hzero := h k p ((amount?_mapAmounts fun a _ => hall a).2 k a p hk hp)
  rw [(Amount.isZero_of_div hp).2 hle] at hzero
  cases hzero

theorem BySymbol.neg (hb : b.BySymbol) : b.neg.BySymbol := by
  intro k a h
  rw [amount?, Balance.neg, Index.get?_mapValues, Option.map_eq_some_iff] at h
  obtain ⟨a, ha, rfl⟩ := h
  rw [Amount.symbol_neg]
  exact hb k a ha

theorem Nonzero.neg (hb : b.Nonzero) : b.neg.Nonzero := by
  intro k a h
  rw [amount?, Balance.neg, Index.get?_mapValues, Option.map_eq_some_iff] at h
  obtain ⟨a, ha, rfl⟩ := h
  rw [Amount.isZero_neg]
  exact hb k a ha

/-! ### All operations -/

theorem Arises.bySymbol (h : Arises may b) : b.BySymbol := by
  induction h with
  | empty => exact bySymbol_empty
  | ofAmount a => exact bySymbol_empty.store rfl
  | addAmount a _ ih => exact Attempt.exec_update_keeps (fun _ => ih.addAmount) ih
  | subAmount a _ ih => exact Attempt.exec_update_keeps (fun _ => ih.addAmount) ih
  | addBalance _ _ ih _ =>
    exact Attempt.exec_forM_keeps
      (fun _ _ _ hs => Attempt.exec_update_keeps (fun _ => hs.addAmount) hs) ih
  | mulBy f _ ih => exact ih.mulBy f
  | divBy d _ _ ih => exact ih.divBy d
  | neg _ ih => exact ih.neg

theorem Arises.nonzero (h : Arises KeepsAll b) : b.Nonzero := by
  induction h with
  | empty => exact nonzero_empty
  | ofAmount a => exact nonzero_empty.store _ a
  | addAmount a _ ih => exact Attempt.exec_update_keeps (fun _ => ih.addAmount) ih
  | subAmount a _ ih => exact Attempt.exec_update_keeps (fun _ => ih.addAmount) ih
  | addBalance _ _ ih _ =>
    exact Attempt.exec_forM_keeps
      (fun _ _ _ hs => Attempt.exec_update_keeps (fun _ => hs.addAmount) hs) ih
  | mulBy f _ ih => exact ih.mulBy f
  | divBy d hd _ ih => exact ih.divBy hd
  | neg _ ih => exact ih.neg

theorem Arises.keyed (h : Arises KeepsAll b) : b.Keyed fun _ => True :=
  fun k a ha => ⟨h.bySymbol k a ha, h.nonzero k a ha, trivial⟩

theorem Nonzero.isZero_iff_isEmpty (hb : b.Nonzero) : b.isZero ↔ b.isEmpty := by
  rw [isZero, isEmpty, List.all_eq_true, List.isEmpty_iff]
  constructor
  · intro h
    refine List.eq_nil_iff_forall_not_mem.2 fun a ha => ?_
    obtain ⟨k, hk⟩ := mem_amounts_iff.1 ha
    have hzero := h a ha
    rw [hb k a hk] at hzero
    cases hzero
  · intro h a ha
    rw [h] at ha
    cases ha

/-- A balance of zeros only holds nothing of any commodity, and yet it is not the empty one. -/
theorem differs_from_empty {k : String} (hk : b.amount? k = some a) (hb : b.isZero) :
    ¬b.isEmpty ∧ ¬b.same empty ∧ ∀ k, b.holding k = empty.holding k := by
  refine ⟨fun hempty => ?_, fun hsame => ?_, fun k => ?_⟩
  · have ha := mem_amounts_iff.2 ⟨k, hk⟩
    rw [List.isEmpty_iff.1 hempty] at ha
    cases ha
  · have hessence := amount?_essence_of_same hsame k
    rw [hk] at hessence
    cases hessence
  · rw [holding_empty, holding]
    split
    · rename_i x hx
      exact Amount.isZero_iff_toRat.1 (List.all_eq_true.1 hb x (mem_amounts_iff.2 ⟨k, hx⟩))
    · rfl

/-- Whatever was done, amounts stand under their symbols.  As long as no division made zero of one,
none is zero, only the empty balance is, and balances are equal if they hold as much of each
commodity; and a division makes zero of one just where a quotient is at most half of the least
decimal. -/
theorem representation_kept (hb : Arises KeepsAll b) (hc : Arises KeepsAll c) :
    (∀ e, Arises (fun _ _ => True) e → e.BySymbol) ∧
      b.BySymbol ∧ b.Nonzero ∧ (b.isZero ↔ b.isEmpty) ∧
      (b.same c ↔ ∀ k, b.holding k = c.holding k) ∧
      ∀ d, ((divBy d).exec b).2.Nonzero ↔ b.KeepsAll d :=
  ⟨fun _ => Arises.bySymbol, hb.bySymbol, hb.nonzero, hb.nonzero.isZero_iff_isEmpty,
    same_iff_holding hb.keyed hc.keyed, fun _ => nonzero_divBy_iff hb.nonzero⟩

/-- One dollar. -/
def dollar : Amount := ⟨.whole false 1 (by decide), some { symbol := "$", precision := 2 }, false⟩

/-- The least number of dollars. -/
def leastDollar : Amount :=
  ⟨⟨false, 1, 28, by decide, by decide⟩, some { symbol := "$", precision := 2 }, false⟩

/-- The bare number ten. -/
def ten : Amount := { quantity := .whole false 10 (by decide) }

theorem toRat_ten : ten.quantity.toRat = 10 := Decimal.toRat_whole false 10 _

theorem toRat_dollar : dollar.quantity.toRat = 1 :=
  (Decimal.toRat_whole false 1 _).trans Nat.cast_one

theorem toRat_leastDollar : leastDollar.quantity.toRat = Decimal.unit := by
  simp [Decimal.toRat, leastDollar, Decimal.unit, Decimal.coefficient, Decimal.maxPlaces]

/-- The tenth of a dollar is no smaller than half of the least decimal. -/
theorem representation_kept_tenth :
    Arises KeepsAll (ofAmount dollar) ∧ Arises KeepsAll ((divBy ten).exec (ofAmount dollar)).2 ∧
      ((divBy ten).exec (ofAmount dollar)).2.Nonzero ∧
      (((divBy ten).exec (ofAmount dollar)).2.same (ofAmount dollar) ↔
        ∀ k, ((divBy ten).exec (ofAmount dollar)).2.holding k = (ofAmount dollar).holding k) := by
  have hone : Arises KeepsAll (ofAmount dollar) := .ofAmount dollar
  have hkeeps : (ofAmount dollar).KeepsAll ten := by
    refine .inr fun a ha => ?_
    obtain ⟨k, hk⟩ := mem_amounts_iff.1 ha
    rw [eq_of_amount?_ofAmount hk, toRat_ten, toRat_dollar, abs_of_pos (by norm_num),
      Decimal.unit]
    norm_num [Decimal.tens, Decimal.maxPlaces]
  have htenth := hone.divBy ten hkeeps
  obtain ⟨-, -, hnonzero, -, hsame, -⟩ := representation_kept htenth hone
  exact ⟨hone, htenth, hnonzero, hsame⟩

/-- The tenth of the least dollar is a zero under the symbol, which is not the empty balance. -/
theorem divBy_leaves_zero :
    Arises (fun _ _ => True) ((divBy ten).exec (ofAmount leastDollar)).2 ∧
      ((divBy ten).exec (ofAmount leastDollar)).1 = .ok () ∧
      (∃ a, ((divBy ten).exec (ofAmount leastDollar)).2.amount? "$" = some a ∧ a.isZero) ∧
      ((divBy ten).exec (ofAmount leastDollar)).2.isZero ∧
      ¬((divBy ten).exec (ofAmount leastDollar)).2.isEmpty ∧
      ¬((divBy ten).exec (ofAmount leastDollar)).2.same empty ∧
      ∀ k, ((divBy ten).exec (ofAmount leastDollar)).2.holding k = empty.holding k := by
  have hall := Amount.exists_div_of_one_le (b := ten) (by rw [toRat_ten]; norm_num)
  obtain ⟨hok, hamount⟩ := amount?_mapAmounts (b := ofAmount leastDollar) fun a _ => hall a
  have hzero {p : Amount} (hp : leastDollar.div ten.number = .ok p) : p.isZero := by
    rw [Amount.isZero_of_div hp, toRat_ten, toRat_leastDollar,
      abs_of_pos (div_pos Decimal.unit_pos (by norm_num))]
    exact div_le_div_of_nonneg_left Decimal.unit_pos.le two_pos (by norm_num)
  obtain ⟨p, hp⟩ := hall leastDollar
  have hstored := hamount "$" leastDollar p rfl hp
  have hzeros : ((divBy ten).exec (ofAmount leastDollar)).2.isZero := by
    refine List.all_eq_true.2 fun x hx => ?_
    obtain ⟨k, hk⟩ := mem_amounts_iff.1 hx
    obtain ⟨a, ha, -⟩ := amount?_of_mapAmounts hk
    obtain ⟨q, hq⟩ := hall a
    obtain rfl := Option.some.inj ((hamount k a q ha hq).symm.trans hk)
    rw [eq_of_amount?_ofAmount ha] at hq
    exact hzero hq
  exact ⟨.divBy ten trivial (.ofAmount leastDollar), hok, ⟨p, hstored, hzero hp⟩, hzeros,
    differs_from_empty hstored hzeros⟩

end Balance

end Bookkeeping
