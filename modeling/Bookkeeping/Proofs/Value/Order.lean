import Bookkeeping.Proofs.Decimal.Order
import Bookkeeping.Proofs.Value.Labels

/-!
# The order of values

What the order looks at: `Balance.aspect` and `Value.aspect` leave out everything else, so that
values compare as their aspects do (`Value.compare_eq`).  Where aspects compare, they compare as
numbers (`Balance.Aspect.order?_eq_some`), and from this come the laws of the order
(`Value.comparison_coherent`).  Equal values have one aspect, unless one is a bare number and the
other of a commodity without a symbol; then those that have one tell them apart
(`Value.TellsApart`).
-/

namespace Bookkeeping

/-! ## Orders -/

instance : Std.TransCmp Date.compare :=
  inferInstanceAs (Std.TransCmp (compareLex (compareOn Date.year)
    (compareLex (compareOn Date.month) (compareOn Date.day))))

instance : Std.TransCmp fun s t : DateTime => s.date.compare t.date where
  eq_swap {s t} := @Std.OrientedCmp.eq_swap Date Date.compare _ s.date t.date
  isLE_trans {s t u} := @Std.TransCmp.isLE_trans Date Date.compare _ s.date t.date u.date

instance : Std.TransCmp DateTime.compare :=
  inferInstanceAs (Std.TransCmp (compareLex (fun s t : DateTime => s.date.compare t.date)
    (compareOn DateTime.seconds)))

/-- At most, and less in all if less in one step. -/
theorem isLE_chain {α : Type} {cmp : α → α → Ordering} [Std.TransCmp cmp] {a b c : α}
    (hab : (cmp a b).isLE) (hbc : (cmp b c).isLE) :
    (cmp a c).isLE ∧ (cmp a b = .lt ∨ cmp b c = .lt → cmp a c = .lt) := by
  refine ⟨Std.TransCmp.isLE_trans hab hbc, fun h => ?_⟩
  rcases h with h | h
  · exact Std.TransCmp.lt_of_lt_of_isLE h hbc
  · exact Std.TransCmp.lt_of_isLE_of_lt hab h

/-! ## What the order looks at of balances -/

namespace Amount

variable {a b : Amount}

theorem toRat_neg_iff : a.quantity.toRat < 0 ↔ a.sign < 0 := by
  have htens : (0 : ℚ) < Decimal.tens a.quantity.places := by
    exact_mod_cast Decimal.tens_pos a.quantity.places
  rw [sign, Decimal.sign, Int.sign_neg_iff, Decimal.toRat, div_lt_iff₀ htens, zero_mul]
  exact_mod_cast Iff.rfl

theorem toRat_pos_iff : 0 < a.quantity.toRat ↔ 0 < a.sign := by
  have htens : (0 : ℚ) < Decimal.tens a.quantity.places := by
    exact_mod_cast Decimal.tens_pos a.quantity.places
  rw [sign, Decimal.sign, Int.sign_pos_iff, Decimal.toRat, lt_div_iff₀ htens, zero_mul]
  exact_mod_cast Iff.rfl

theorem sign_eq_zero_iff : a.sign = 0 ↔ a.isZero := by
  rw [sign, Decimal.sign, Int.sign_eq_zero_iff_zero, isZero, Decimal.isZero_iff]

theorem toRat_eq_of_essence (a : Amount) : a.quantity.toRat = (a.essence.map Prod.snd).getD 0 := by
  rw [essence]
  split
  · exact isZero_iff_toRat.1 (by assumption)
  · rfl

/-- Under one symbol stand amounts of one commodity, unless it is the empty one. -/
theorem commodity_eq_or_of_symbol_eq (h : a.symbol = b.symbol) :
    a.commodity.map Commodity.symbol = b.commodity.map Commodity.symbol ∨
      a.commodity.map Commodity.symbol = none ∧ b.commodity.map Commodity.symbol = some "" ∨
      a.commodity.map Commodity.symbol = some "" ∧ b.commodity.map Commodity.symbol = none := by
  rw [symbol, symbol] at h
  cases ha : a.commodity.map Commodity.symbol with
  | none =>
    cases hb : b.commodity.map Commodity.symbol with
    | none => exact .inl rfl
    | some d =>
      rw [ha, hb] at h
      exact .inr (.inl ⟨rfl, congrArg some h.symm⟩)
  | some c =>
    cases hb : b.commodity.map Commodity.symbol with
    | none =>
      rw [ha, hb] at h
      exact .inr (.inr ⟨congrArg some h, rfl⟩)
    | some d =>
      rw [ha, hb] at h
      exact .inl (congrArg some h)

end Amount

namespace Balance

/-- What the order looks at of a balance: of at most one amount its commodity and its number, of
several the side of zero that all of them are on. -/
inductive Aspect where
  | single (commodity : Option String) (number : ℚ)
  | several (side : Option Ordering)

/-- What the order looks at of the balance. -/
def aspect (b : Balance) : Aspect :=
  match Value.atMostOne? b with
  | some a => .single (a.commodity.map Commodity.symbol) a.quantity.toRat
  | none => .several (Value.compareZero? b)

namespace Aspect

/-- How two aspects compare, if they do. -/
def order? : Aspect → Aspect → Option Ordering
  | single c m, single d n =>
    if c.isSome && d.isSome && c != d then none else some (Ord.compare m n)
  | several side, single _ n => if n = 0 then side else none
  | single _ m, several side => if m = 0 then side.map Ordering.swap else none
  | several _, several _ => none

/-- A number that compares as the aspect does. -/
def number : Aspect → ℚ
  | single _ m => m
  | several (some .lt) => -1
  | several (some .gt) => 1
  | several _ => 0

variable {f g : Aspect} {o : Ordering}

theorem compare_number_several (side : Ordering) :
    Ord.compare (several (some side)).number 0 = side := by
  cases side
  · exact compare_lt_iff_lt.2 (show (-1 : ℚ) < 0 by norm_num)
  · exact compare_eq_iff_eq.2 rfl
  · exact compare_gt_iff_gt.2 (show (0 : ℚ) < 1 by norm_num)

/-- Where aspects compare, they compare as their numbers. -/
theorem order?_eq_some (h : f.order? g = some o) : o = Ord.compare f.number g.number := by
  cases f with
  | single c m =>
    cases g with
    | single d n =>
      rw [order?] at h
      split at h
      · cases h
      · exact (Option.some.inj h).symm
    | several side =>
      rw [order?] at h
      split at h
      · rename_i hm
        obtain ⟨side, rfl, rfl⟩ := Option.map_eq_some_iff.1 h
        rw [show (single c m).number = 0 from hm, @Std.OrientedCmp.eq_swap ℚ Ord.compare _ 0,
          compare_number_several]
      · cases h
  | several side =>
    cases g with
    | single d n =>
      rw [order?] at h
      split at h
      · rename_i hn
        rw [h, show (single d n).number = 0 from hn, compare_number_several]
      · cases h
    | several _ => cases h

theorem order?_swap (f g : Aspect) : g.order? f = (f.order? g).map Ordering.swap := by
  cases f with
  | single c m =>
    cases g with
    | single d n =>
      have hcond : (d.isSome && c.isSome && d != c) = (c.isSome && d.isSome && c != d) := by
        rw [Bool.and_comm d.isSome, bne_comm]
      rw [order?, order?, hcond, @Std.OrientedCmp.eq_swap ℚ Ord.compare _ n]
      split <;> rfl
    | several side =>
      rw [order?, order?]
      split
      · cases side <;> simp
      · rfl
  | several side =>
    cases g with
    | single d n =>
      rw [order?, order?]
      split <;> rfl
    | several _ => rfl

/-- The aspects are the same, except that one may be of a bare number and the other of as much of a
commodity without a symbol. -/
def Close (f g : Aspect) : Prop :=
  f = g ∨
    ∃ m, f = single none m ∧ g = single (some "") m ∨ f = single (some "") m ∧ g = single none m

/-- Bare numbers compare like amounts of a commodity without a symbol, except with amounts of those
that have one. -/
theorem order?_bare_eq_iff {m : ℚ} : (single none m).order? f = (single (some "") m).order? f ↔
    ∀ symbol n, f = single (some symbol) n → symbol = "" := by
  cases f with
  | several side => exact iff_of_true rfl nofun
  | single c n =>
    cases c with
    | none => exact iff_of_true rfl nofun
    | some symbol =>
      have hbare : (single none m).order? (single (some symbol) n) = some (Ord.compare m n) := rfl
      rw [hbare, order?]
      by_cases h : symbol = ""
      · refine iff_of_true (if_neg (by simp [h])).symm fun _ _ heq => ?_
        cases heq
        exact h
      · rw [if_pos (by simpa using Ne.symm h)]
        exact iff_of_false nofun fun hall => h (hall symbol n rfl)

end Aspect

variable {b c : Balance}

theorem symbol_bne_eq (x y : Amount) :
    (x.commodity.isSome && y.commodity.isSome && x.symbol != y.symbol) =
      (x.commodity.isSome && y.commodity.isSome &&
        x.commodity.map Commodity.symbol != y.commodity.map Commodity.symbol) := by
  cases hx : x.commodity with
  | none => rfl
  | some c =>
    cases hy : y.commodity with
    | none => rfl
    | some d =>
      rw [Amount.symbol_of_commodity_some hx, Amount.symbol_of_commodity_some hy]
      rfl

/-- Balances compare as their aspects do. -/
theorem compareBalances?_eq (b c : Balance) :
    Value.compareBalances? b c = b.aspect.order? c.aspect := by
  rw [Value.compareBalances?, aspect, aspect]
  cases hb : Value.atMostOne? b with
  | none =>
    cases hc : Value.atMostOne? c with
    | none => rfl
    | some y => simp only [Aspect.order?, Amount.isZero_iff_toRat]
  | some x =>
    cases hc : Value.atMostOne? c with
    | none => simp only [Aspect.order?, Amount.isZero_iff_toRat]
    | some y =>
      simp only [Aspect.order?, Option.isSome_map, Decimal.compare_eq]
      rw [symbol_bne_eq x y]

theorem aspect_of_several {e e' : String × Amount} {rest : List (String × Amount)}
    (h : b.held.entries = e :: e' :: rest) : b.aspect = .several (Value.compareZero? b) := by
  have hmany : Value.atMostOne? b = none := by
    rw [Value.atMostOne?, amounts, Index.values, h]
    rfl
  rw [aspect, hmany]

/-- The sides of zero that the amounts are on are those of their numbers. -/
theorem compareZero?_eq (b : Balance) : Value.compareZero? b =
    match (b.amounts.map (·.quantity.toRat)).any (· < 0),
      (b.amounts.map (·.quantity.toRat)).any (0 < ·) with
    | true, true => none
    | true, false => some .lt
    | false, true => some .gt
    | false, false => some .eq := by
  have hneg : (b.amounts.map (·.quantity.toRat)).any (· < 0) = b.hasNegative := by
    rw [List.any_map, hasNegative]
    exact congrArg b.amounts.any (funext fun a => decide_eq_decide.2 Amount.toRat_neg_iff)
  have hpos : (b.amounts.map (·.quantity.toRat)).any (0 < ·) = b.hasPositive := by
    rw [List.any_map, hasPositive]
    exact congrArg b.amounts.any (funext fun a => decide_eq_decide.2 Amount.toRat_pos_iff)
  rw [hneg, hpos]
  rfl

/-- Equal balances have close aspects. -/
theorem aspect_close (hb : b.BySymbol) (hc : c.BySymbol) (h : b.essence = c.essence) :
    b.aspect.Close c.aspect := by
  obtain ⟨l, hl⟩ : ∃ l, b.held.entries = l := ⟨_, rfl⟩
  obtain ⟨m, hm⟩ : ∃ m, c.held.entries = m := ⟨_, rfl⟩
  have hentries : l.map (fun e => (e.1, e.2.essence)) = m.map fun e => (e.1, e.2.essence) := by
    rw [← hl, ← hm]
    exact congrArg Index.entries h
  have hnumbers : b.amounts.map (·.quantity.toRat) = c.amounts.map (·.quantity.toRat) := by
    have hread (d : Balance) : d.amounts.map (·.quantity.toRat) =
        (d.held.entries.map fun e => (e.1, e.2.essence)).map
          fun e => (e.2.map Prod.snd).getD 0 := by
      rw [amounts, Index.values, List.map_map, List.map_map]
      exact List.map_congr_left fun e _ => e.2.toRat_eq_of_essence
    rw [hread, hread, hl, hm, hentries]
  -- Both hold as many amounts, so that they have aspects of one kind.
  rcases l with _ | ⟨⟨k, x⟩, _ | ⟨e, l⟩⟩ <;> rcases m with _ | ⟨⟨k', y⟩, _ | ⟨e', m⟩⟩
  case nil.nil =>
    left
    simp only [aspect, Value.atMostOne?, amounts, Index.values, hl, hm, List.map_nil]
  case cons.nil.cons.nil =>
    obtain ⟨rfl, -⟩ := Prod.mk.inj (List.cons.inj hentries).1
    have hx : b.amount? k = some x := Index.find?_of_mem b.held.increasing (hl ▸ .head _)
    have hy : c.amount? k = some y := Index.find?_of_mem c.held.increasing (hm ▸ .head _)
    simp only [amounts, Index.values, hl, hm, List.map_cons, List.map_nil, List.cons.injEq,
      and_true] at hnumbers
    simp only [aspect, Value.atMostOne?, amounts, Index.values, hl, hm, List.map_cons,
      List.map_nil, hnumbers]
    rcases Amount.commodity_eq_or_of_symbol_eq ((hb k x hx).trans (hc k y hy).symm) with
      h | ⟨h₁, h₂⟩ | ⟨h₁, h₂⟩
    · exact .inl (by rw [h])
    · exact .inr ⟨_, .inl ⟨by rw [h₁], by rw [h₂]⟩⟩
    · exact .inr ⟨_, .inr ⟨by rw [h₁], by rw [h₂]⟩⟩
  case cons.cons.cons.cons =>
    left
    rw [aspect_of_several hl, aspect_of_several hm, compareZero?_eq, compareZero?_eq, hnumbers]
  all_goals simp at hentries

/-! ### Comparing with nothing -/

theorem compareZero?_eq_some (h : Value.compareZero? b = some o) :
    o = Ord.compare (Value.balanceSign b) 0 := by
  rw [Value.compareZero?] at h
  rw [Value.balanceSign]
  cases hneg : b.hasNegative <;> cases hpos : b.hasPositive <;> rw [hneg, hpos] at h <;> cases h <;>
    rfl

theorem compareZero?_singleton (h : b.amounts = [a]) :
    Value.compareZero? b = some (Ord.compare a.quantity.toRat 0) := by
  rw [compareZero?_eq, h, List.map_singleton, List.any_cons, List.any_cons, List.any_nil,
    List.any_nil, Bool.or_false, Bool.or_false]
  rcases lt_trichotomy a.quantity.toRat 0 with h | h | h
  · rw [compare_lt_iff_lt.2 h, decide_eq_true h, decide_eq_false h.not_gt]
  · rw [compare_eq_iff_eq.2 h, decide_eq_false h.not_lt, decide_eq_false h.not_gt]
  · rw [compare_gt_iff_gt.2 h, decide_eq_true h, decide_eq_false h.not_gt]

/-- With zero every balance compares by the side that its amounts are on. -/
theorem order?_zero (b : Balance) : b.aspect.order? (.single none 0) = Value.compareZero? b := by
  rw [aspect, Value.atMostOne?]
  split
  · rename_i a ha
    have horder : (Aspect.single (a.commodity.map Commodity.symbol) a.quantity.toRat).order?
        (.single none 0) = some (Ord.compare a.quantity.toRat 0) := by
      rw [Aspect.order?, Option.isSome_none, Bool.and_false, Bool.false_and]
      rfl
    rw [horder]
    split at ha
    · rename_i hnil
      cases ha
      rw [Value.compareZero?, hasNegative, hasPositive, hnil]
      exact congrArg some (compare_eq_iff_eq.2 (Amount.isZero_iff_toRat.1 rfl))
    · rename_i hone
      cases ha
      exact (compareZero?_singleton hone).symm
    · cases ha
  · rw [Aspect.order?, if_pos rfl]

theorem balanceSign_eq_zero_iff : Value.balanceSign b = 0 ↔ b.isZero := by
  have hall : b.isZero ↔ b.hasNegative = false ∧ b.hasPositive = false := by
    rw [isZero, hasNegative, hasPositive, List.all_eq_true, List.any_eq_false, List.any_eq_false]
    constructor
    · intro h
      have hzero (a : Amount) (ha : a ∈ b.amounts) : a.sign = 0 :=
        Amount.sign_eq_zero_iff.2 (h a ha)
      exact ⟨fun a ha => by simp [hzero a ha], fun a ha => by simp [hzero a ha]⟩
    · rintro ⟨hneg, hpos⟩ a ha
      have hle := hneg a ha
      have hge := hpos a ha
      simp only [decide_eq_true_eq] at hle hge
      exact Amount.sign_eq_zero_iff.1 (by omega)
  rw [hall, Value.balanceSign]
  cases b.hasNegative <;> cases b.hasPositive <;> simp

theorem amounts_ofAmount (a : Amount) : (ofAmount a).amounts = if a.isZero then [] else [a] := by
  rw [ofAmount, store]
  split <;> rfl

theorem aspect_ofAmount (a : Amount) : (ofAmount a).aspect =
    .single (if a.isZero then none else a.commodity.map Commodity.symbol) a.quantity.toRat := by
  rw [aspect, Value.atMostOne?, amounts_ofAmount]
  by_cases hz : a.isZero
  · have hzero : Amount.zero.quantity.toRat = 0 := Amount.isZero_iff_toRat.1 rfl
    rw [if_pos hz, if_pos hz, Amount.isZero_iff_toRat.1 hz]
    exact congrArg (Aspect.single none) hzero
  · rw [if_neg hz, if_neg hz]

theorem isZero_ofAmount (a : Amount) : (ofAmount a).isZero = a.isZero := by
  rw [isZero, amounts_ofAmount]
  cases hz : a.isZero
  · simp [hz]
  · rfl

theorem balanceSign_ofAmount (a : Amount) : Value.balanceSign (ofAmount a) = a.sign := by
  rw [Value.balanceSign, hasNegative, hasPositive, amounts_ofAmount]
  by_cases hz : a.isZero
  · rw [if_pos hz, Amount.sign_eq_zero_iff.2 hz]
    rfl
  · rw [if_neg hz]
    rcases Int.sign_trichotomy a.quantity.coefficient with h | h | h <;>
      simp only [List.any_cons, List.any_nil, Amount.sign, Decimal.sign, h] <;> rfl

end Balance

/-! ## What the order looks at of values -/

namespace Value

/-- What the order looks at of a value. -/
inductive Aspect where
  | truth (b : Bool)
  | time (t : DateTime)
  | sum (f : Balance.Aspect)

/-- The symbol of the commodity of the only amount of the value, which a bare number and nothing at
all do not have; several amounts are of no one commodity. -/
def commodity? (v : Value) : Option (Option String) :=
  (v.toBalance?.bind atMostOne?).map fun a => a.commodity.map Commodity.symbol

/-- Viewed as a balance, the value is at most a bare number. -/
def IsBare (v : Value) : Prop := v.commodity? = some none

/-- Viewed as a balance, the value is an amount of the commodity with this symbol. -/
def IsOf (v : Value) (symbol : String) : Prop := v.commodity? = some (some symbol)

/-- The value is an amount of a commodity that has a symbol, and of the other two one is a bare
number and one of a commodity without a symbol. -/
def TellsApart (w u v : Value) : Prop :=
  (∃ symbol, symbol ≠ "" ∧ w.IsOf symbol) ∧ (u.IsBare ∧ v.IsOf "" ∨ u.IsOf "" ∧ v.IsBare)

/-- What the value holds stands under its own symbols. -/
def BySymbol (v : Value) : Prop := ∀ b, v.toBalance? = some b → b.BySymbol

/-- How two aspects compare, if they do. -/
def Aspect.order? : Aspect → Aspect → Option Ordering
  | truth a, truth b => some (Ord.compare a b)
  | time s, time t => some (s.compare t)
  | sum f, sum g => f.order? g
  | _, _ => none

/-- What the order looks at of the value. -/
def aspect : Value → Aspect
  | boolean b => .truth b
  | dateTime t => .time t
  | null => .sum Balance.empty.aspect
  | integer n => .sum (Balance.ofAmount n.toAmount).aspect
  | amount a => .sum (Balance.ofAmount a).aspect
  | balance b => .sum b.aspect
  | pair p => .sum p.quantity.aspect

variable {u v w : Value} {b c : Balance} {o p q : Ordering} {s : Int}

theorem aspect_of_toBalance? (h : v.toBalance? = some b) : v.aspect = .sum b.aspect := by
  cases v <;> cases h <;> rfl

theorem commodity?_eq_some_iff {c : Option String} :
    v.commodity? = some c ↔ ∃ m, v.aspect = .sum (.single c m) := by
  have hview {b : Balance} (h : v.toBalance? = some b) :
      v.commodity? = some c ↔ ∃ m, v.aspect = .sum (.single c m) := by
    rw [commodity?, h, aspect_of_toBalance? h, Balance.aspect, Option.bind_some]
    cases atMostOne? b <;> simp
  cases v
  case boolean | dateTime => exact iff_of_false nofun nofun
  all_goals exact hview rfl

theorem aspect_integer (n : Whole) : (integer n).aspect = .sum (.single none n.val) := by
  rw [aspect, Balance.aspect_ofAmount, ← Whole.toRat_toDecimal]
  exact congrArg (fun c => Aspect.sum (.single c _)) (ite_self _)

theorem order?_integers (m n : Whole) :
    (integer m).aspect.order? (integer n).aspect = some (Ord.compare m.val n.val) := by
  rw [aspect_integer, aspect_integer]
  refine congrArg some ?_
  rcases lt_trichotomy m.val n.val with h | h | h
  · rw [compare_lt_iff_lt.2 h]
    exact compare_lt_iff_lt.2 (Int.cast_lt.2 h)
  · rw [compare_eq_iff_eq.2 h]
    exact compare_eq_iff_eq.2 (congrArg _ h)
  · rw [compare_gt_iff_gt.2 h]
    exact compare_gt_iff_gt.2 (Int.cast_lt.2 h)

/-- How two values compare, if they do, as an answer. -/
def answer (u v : Value) : Option Ordering → Except ValueError Ordering
  | some o => .ok o
  | none => .error (mismatch "comparison" u v)

/-- Values compare as their aspects do. -/
theorem compare_eq (u v : Value) : u.compare v = answer u v (u.aspect.order? v.aspect) := by
  have hsum {b c : Balance} (hb : u.toBalance? = some b) (hc : v.toBalance? = some c) :
      (match compareBalances? b c with
        | some o => Except.ok o
        | none => Except.error (mismatch "comparison" u v)) =
        answer u v (u.aspect.order? v.aspect) := by
    rw [aspect_of_toBalance? hb, aspect_of_toBalance? hc, Aspect.order?,
      ← Balance.compareBalances?_eq, answer.eq_def]
  cases u <;> cases v
  case integer.integer m n =>
    rw [order?_integers]
    rfl
  all_goals first
    | rfl
    | exact hsum rfl rfl

theorem compare_eq_ok_iff : u.compare v = .ok o ↔ u.aspect.order? v.aspect = some o := by
  rw [compare_eq]
  cases u.aspect.order? v.aspect <;> simp [answer]

/-! ### The laws -/

theorem compare_swap : v.compare u = .ok o ↔ u.compare v = .ok o.swap := by
  have hswap (f g : Aspect) : g.order? f = (f.order? g).map Ordering.swap := by
    cases f <;> cases g
    case truth.truth a b => exact congrArg some Std.OrientedCmp.eq_swap
    case time.time s t =>
      exact congrArg some (@Std.OrientedCmp.eq_swap DateTime DateTime.compare _ t s)
    case sum.sum f g => exact f.order?_swap g
    all_goals rfl
  rw [compare_eq_ok_iff, compare_eq_ok_iff, hswap]
  cases u.aspect.order? v.aspect with
  | none => simp
  | some p =>
    rw [Option.map_some, Option.some.injEq, Option.some.injEq]
    constructor
    · rintro rfl
      exact p.swap_swap.symm
    · rintro rfl
      exact o.swap_swap

/-- Equal values look alike to the order, unless one is a bare number and the other of a commodity
without a symbol. -/
theorem aspect_close (hu : u.BySymbol) (hv : v.BySymbol) (h : u.same v) : u.aspect = v.aspect ∨
    ∃ m, u.aspect = .sum (.single none m) ∧ v.aspect = .sum (.single (some "") m) ∨
      u.aspect = .sum (.single (some "") m) ∧ v.aspect = .sum (.single none m) := by
  have hsum {b c : Balance} (hb : u.toBalance? = some b) (hc : v.toBalance? = some c) :
      u.aspect = v.aspect ∨
        ∃ m, u.aspect = .sum (.single none m) ∧ v.aspect = .sum (.single (some "") m) ∨
          u.aspect = .sum (.single (some "") m) ∧ v.aspect = .sum (.single none m) := by
    rw [same_iff, essence_eq_sum_iff hb, essence_eq_sum_iff hc, Essence.sum.injEq] at h
    rw [aspect_of_toBalance? hb, aspect_of_toBalance? hc]
    simp only [Aspect.sum.injEq]
    exact Balance.aspect_close (hu b hb) (hv c hc) h
  have hessence := same_iff.1 h
  cases u <;> cases v
  case boolean.boolean | dateTime.dateTime =>
    cases hessence
    exact .inl rfl
  all_goals first
    | exact hsum rfl rfl
    | cases hessence

/-- With amounts of commodities that have symbols, and with nothing else, a bare number does not
compare like as much of a commodity without one. -/
theorem order?_bare_eq_iff {m : ℚ} : (Aspect.sum (.single none m)).order? w.aspect =
      (Aspect.sum (.single (some "") m)).order? w.aspect ↔
    ¬∃ symbol, symbol ≠ "" ∧ w.IsOf symbol := by
  simp only [IsOf, commodity?_eq_some_iff]
  cases w.aspect with
  | sum f =>
    simp only [Aspect.order?, Balance.Aspect.order?_bare_eq_iff, Aspect.sum.injEq]
    grind
  | _ => exact iff_of_true rfl (by simp)

/-- Equal values compare alike, unless they are told apart. -/
theorem compare_iff_of_same (hu : u.BySymbol) (hv : v.BySymbol) (h : u.same v) :
    (∀ o, u.compare w = .ok o ↔ v.compare w = .ok o) ↔ ¬w.TellsApart u v := by
  have horder : (∀ o, u.compare w = .ok o ↔ v.compare w = .ok o) ↔
      u.aspect.order? w.aspect = v.aspect.order? w.aspect := by
    simp only [compare_eq_ok_iff]
    exact Option.ext_iff.symm
  rw [horder, TellsApart, IsBare, IsBare, IsOf, IsOf]
  simp only [commodity?_eq_some_iff]
  rcases aspect_close hu hv h with haspect | ⟨m, ⟨hua, hva⟩ | ⟨hua, hva⟩⟩
  · refine iff_of_true (by rw [haspect]) ?_
    rintro ⟨-, ⟨⟨_, hbare⟩, _, hof⟩ | ⟨⟨_, hof⟩, _, hbare⟩⟩ <;> simp_all
  · rw [hua, hva, order?_bare_eq_iff]
    simp
  · rw [hua, hva, eq_comm, order?_bare_eq_iff]
    simp

theorem Labelled.bySymbol (hv : v.Labelled) : v.BySymbol := fun _ hb => (hv.view hb).1

/-- No labelled value is of a commodity without a symbol. -/
theorem Labelled.not_isOf_empty (hv : v.Labelled) : ¬v.IsOf "" := by
  intro h
  obtain ⟨a, ha, hcommodity⟩ := Option.map_eq_some_iff.1 h
  obtain ⟨b, hb, ha⟩ := Option.bind_eq_some_iff.1 ha
  obtain ⟨c, hc, hempty⟩ := Option.map_eq_some_iff.1 hcommodity
  rw [atMostOne?] at ha
  split at ha <;> cases ha
  · cases hc
  · rename_i hone
    exact (hv.view hb).2 a (hone ▸ .head _) c hc hempty

/-- Where all compare, the order is transitive. -/
theorem compare_trans (huv : u.compare v = .ok o) (hvw : v.compare w = .ok p)
    (huw : u.compare w = .ok q) (ho : o.isLE) (hp : p.isLE) :
    q.isLE ∧ (o = .lt ∨ p = .lt → q = .lt) := by
  rw [compare_eq_ok_iff] at huv hvw huw
  cases hf : u.aspect <;> cases hg : v.aspect <;> cases hh : w.aspect <;>
    rw [hf, hg] at huv <;> rw [hg, hh] at hvw <;> rw [hf, hh] at huw
  case truth.truth.truth =>
    cases huv
    cases hvw
    cases huw
    exact isLE_chain ho hp
  case time.time.time =>
    cases huv
    cases hvw
    cases huw
    exact isLE_chain ho hp
  case sum.sum.sum =>
    cases Balance.Aspect.order?_eq_some huv
    cases Balance.Aspect.order?_eq_some hvw
    cases Balance.Aspect.order?_eq_some huw
    exact isLE_chain ho hp
  -- Values that compare are of one kind.
  all_goals first
    | cases huv; done
    | cases hvw

/-! ### Signs -/

/-- The sign of a value is that of the balance as which it can be viewed. -/
theorem sign?_eq_some (h : v.sign? = some s) :
    ∃ b, v.toBalance? = some b ∧ s = balanceSign b ∧ v.isTruthy = !b.isZero := by
  cases v <;> cases h
  case integer n =>
    refine ⟨_, rfl, ?_, ?_⟩
    · rw [Balance.balanceSign_ofAmount, Amount.sign, Decimal.sign, Whole.toAmount,
        Whole.coefficient_toDecimal]
    · have hzero : n.toAmount.isZero = (n.val == 0) := by
        rw [Bool.eq_iff_iff, ← Amount.sign_eq_zero_iff, Amount.sign, Decimal.sign, Whole.toAmount,
          Whole.coefficient_toDecimal, Int.sign_eq_zero_iff_zero, beq_iff_eq]
      rw [Balance.isZero_ofAmount, hzero]
      rfl
  case amount a =>
    refine ⟨_, rfl, (Balance.balanceSign_ofAmount a).symm, ?_⟩
    rw [Balance.isZero_ofAmount]
    rfl
  case balance b => exact ⟨b, rfl, rfl, rfl⟩
  case pair p => exact ⟨p.quantity, rfl, rfl, rfl⟩

/-- A value of any kind with a sign compares with zero as its sign does, and is true if it has a
sign other than zero. -/
theorem compare_zero (h : v.sign? = some s) (hzero : v.compare (integer .zero) = .ok o) :
    o = Ord.compare s 0 := by
  obtain ⟨b, hb, rfl, -⟩ := sign?_eq_some h
  rw [compare_eq_ok_iff, aspect_of_toBalance? hb, aspect_integer] at hzero
  exact Balance.compareZero?_eq_some ((b.order?_zero).symm.trans hzero)

theorem isTruthy_iff (h : v.sign? = some s) : v.isTruthy ↔ s ≠ 0 := by
  obtain ⟨b, -, rfl, htrue⟩ := sign?_eq_some h
  rw [htrue, ne_eq, Balance.balanceSign_eq_zero_iff, Bool.not_eq_true']
  exact Bool.eq_false_iff

/-- Equality is an equivalence.  Values compare both ways round or not at all.  Equal values compare
alike with all that do not tell a bare number from as much of a commodity without a symbol.  The
order is transitive where all compare; values with a sign compare with zero as it does, and are true
unless it is zero.  However the balance of a value came about, it holds amounts under their symbols.
What expressions that are read come to is labelled, and labelled values are of no commodity without
a symbol. -/
theorem comparison_coherent (u v w : Value) :
    (u.same u ∧ (u.same v → v.same u) ∧ (u.same v → v.same w → u.same w)) ∧
    (∀ o, v.compare u = .ok o ↔ u.compare v = .ok o.swap) ∧
    (u.BySymbol → v.BySymbol → u.same v →
      ((∀ o, u.compare w = .ok o ↔ v.compare w = .ok o) ↔ ¬w.TellsApart u v)) ∧
    (∀ o p q, u.compare v = .ok o → v.compare w = .ok p → u.compare w = .ok q →
      o.isLE → p.isLE → q.isLE ∧ (o = .lt ∨ p = .lt → q = .lt)) ∧
    (∀ s, v.sign? = some s →
      (∀ o, v.compare (integer .zero) = .ok o → o = Ord.compare s 0) ∧ (v.isTruthy ↔ s ≠ 0)) ∧
    ((∀ b, v.toBalance? = some b → Balance.Arises (fun _ _ => True) b) → v.BySymbol) ∧
    (v.Labelled → v.BySymbol ∧ ¬v.IsOf "") ∧
    ∀ text e s, Expr.read text = .ok e → s.Labelled → e.eval s = .ok u → u.Labelled :=
  ⟨⟨same_refl u, same_symm, same_trans⟩, fun _ => compare_swap, compare_iff_of_same,
    fun _ _ _ => compare_trans, fun _ h => ⟨fun _ => compare_zero h, isTruthy_iff h⟩,
    fun h b hb => (h b hb).bySymbol, fun h => ⟨h.bySymbol, h.not_isOf_empty⟩,
    fun _ _ _ he hs => Expr.labelled_of_eval hs (Expr.labelled_of_read he)⟩

/-- Three is less than five dollars, and five dollars are less than a balance of seven dollars;
compared with three, five dollars and the balance of them are alike. -/
theorem comparison_coherent_dollars :
    let dollars (n : Whole) : Amount :=
      { quantity := n.toDecimal, commodity := some { symbol := "$" } }
    let three : Whole := ⟨3, by decide, by decide⟩
    let five : Whole := ⟨5, by decide, by decide⟩
    let seven : Whole := ⟨7, by decide, by decide⟩
    (∃ o, (integer three).compare (balance (.ofAmount (dollars seven))) = .ok o ∧ o = .lt) ∧
      (balance (.ofAmount (dollars five))).compare (integer three) = .ok .gt := by
  intro dollars three five seven
  have hfive : (amount (dollars five)).Labelled := fun c hc => by
    cases hc
    decide
  have hbalance : (balance (.ofAmount (dollars five))).Labelled := Balance.labelled_ofAmount hfive
  obtain ⟨-, -, -, htrans, -⟩ := comparison_coherent (integer three) (amount (dollars five))
    (balance (.ofAmount (dollars seven)))
  obtain ⟨-, -, halike, -, -, -, hlabels, -⟩ := comparison_coherent (amount (dollars five))
    (balance (.ofAmount (dollars five))) (integer three)
  have hnot : ¬(integer three).TellsApart (amount (dollars five))
      (balance (.ofAmount (dollars five))) := by
    rintro ⟨⟨_, -, h⟩, -⟩
    cases h
  have hlt : (integer three).compare (amount (dollars five)) = .ok .lt := rfl
  have hlt' : (amount (dollars five)).compare (balance (.ofAmount (dollars seven))) = .ok .lt :=
    rfl
  have hend : (integer three).compare (balance (.ofAmount (dollars seven))) = .ok .lt := rfl
  have hgt : (amount (dollars five)).compare (integer three) = .ok .gt := rfl
  exact ⟨⟨_, hend, (htrans _ _ _ hlt hlt' hend rfl rfl).2 (.inl rfl)⟩,
    ((halike hfive.bySymbol (hlabels hbalance).1 rfl).2 hnot .gt).1 hgt⟩

/-- The number five equals five of a commodity without a symbol, but it compares with five euros and
those do not. -/
theorem equal_but_told_apart :
    let five : Amount := { quantity := .whole false 5 (by decide) }
    let unnamed : Amount := { five with commodity := some { symbol := "" } }
    let euros : Amount := { five with commodity := some { symbol := "EUR" } }
    (amount five).same (amount unnamed) ∧ (amount five).compare (amount euros) = .ok .eq ∧
      (amount unnamed).compare (amount euros) =
        .error (mismatch "comparison" (amount unnamed) (amount euros)) := by
  intro five unnamed euros
  exact ⟨rfl, rfl, rfl⟩

end Value

end Bookkeeping
