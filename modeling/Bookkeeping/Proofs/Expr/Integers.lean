import Bookkeeping.Proofs.Expr.Folding

/-!
# Arithmetic of whole numbers

A sum, a product or a negative of whole numbers is exact if it fits into 64 bits, and overflows only
if it does not (`Value.IsExact`).  A difference is the sum with the negative.  The least whole
number has no negative, so that taking it away always overflows, also from a number below zero,
where the difference fits; all other differences are exact (`Value.isExact_sub_iff`).  Expressions
that come to whole numbers are computed with in the same way, be they folded or not
(`Expr.eval_operation`).
-/

namespace Bookkeeping

namespace Whole

/-- The least whole number. -/
def least : Whole := ⟨-9223372036854775808, by decide, by decide⟩

theorem val_ext {a b : Whole} (h : a.val = b.val) : a = b := by
  cases a
  cases b
  cases h
  rfl

theorem ofInt?_eq_none_iff {n : Int} :
    ofInt? n = none ↔ n < -9223372036854775808 ∨ 9223372036854775808 ≤ n := by
  unfold ofInt?
  split
  · simp
    omega
  · simp
    omega

theorem neg?_least : least.neg? = none := by decide

theorem exists_neg? {a : Whole} (h : a ≠ least) : ∃ b, a.neg? = some b ∧ b.val = -a.val := by
  have hle := a.le_val
  have hlt := a.val_lt
  have hne : a.val ≠ -9223372036854775808 := fun heq => h (val_ext heq)
  exact ⟨⟨-a.val, by omega, by omega⟩, ofInt?_eq_some_iff.2 rfl, rfl⟩

end Whole

namespace Value

/-- The result is this number if it is a whole number of 64 bits, and overflow if it is not. -/
def IsExact (n : Int) (r : Except ValueError Value) : Prop :=
  (∀ w : Whole, w.val = n → r = .ok (.integer w)) ∧
    (n < -9223372036854775808 ∨ 9223372036854775808 ≤ n → r = .error .overflow)

variable {a b : Whole}

theorem isExact_orOverflow (n : Int) : IsExact n (orOverflow (Whole.ofInt? n)) := by
  constructor
  · intro w hw
    rw [Whole.ofInt?_eq_some_iff.2 hw]
    rfl
  · intro h
    rw [Whole.ofInt?_eq_none_iff.2 h]
    rfl

theorem isExact_add (a b : Whole) : IsExact (a.val + b.val) ((integer a).add (integer b)) :=
  isExact_orOverflow _

theorem isExact_mul (a b : Whole) : IsExact (a.val * b.val) ((integer a).mul (integer b)) :=
  isExact_orOverflow _

theorem isExact_neg (a : Whole) : IsExact (-a.val) (integer a).neg := isExact_orOverflow _

theorem sub_integers (a b : Whole) :
    (integer a).sub (integer b) = (orOverflow b.neg?).bind (integer a).add := rfl

/-- The least whole number cannot be taken away from any. -/
theorem sub_least (a : Whole) : (integer a).sub (integer .least) = .error .overflow := by
  rw [sub_integers, Whole.neg?_least]
  rfl

theorem isExact_sub_of_ne (h : b ≠ .least) :
    IsExact (a.val - b.val) ((integer a).sub (integer b)) := by
  obtain ⟨c, hc, hval⟩ := Whole.exists_neg? h
  have hsub : (integer a).sub (integer b) = (integer a).add (integer c) := by
    rw [sub_integers, hc]
    rfl
  rw [hsub, Int.sub_eq_add_neg, ← hval]
  exact isExact_add a c

/-- A difference is exact unless the least whole number is taken away from one below zero. -/
theorem isExact_sub_iff :
    IsExact (a.val - b.val) ((integer a).sub (integer b)) ↔ (b = .least → 0 ≤ a.val) := by
  by_cases hb : b = .least
  · subst hb
    have hle := a.le_val
    have hleast : Whole.least.val = -9223372036854775808 := rfl
    rw [sub_least, forall_prop_of_true rfl]
    constructor
    · rintro ⟨hfits, -⟩
      refine Int.not_lt.1 fun hneg => ?_
      cases hfits ⟨a.val - Whole.least.val, by omega, by omega⟩ rfl
    · intro hpos
      refine ⟨fun w hw => ?_, fun _ => rfl⟩
      have hlt := w.val_lt
      omega
  · exact iff_of_true (isExact_sub_of_ne hb) fun h => absurd h hb

end Value

namespace Expr

variable {s : Scope} {l r e : Expr} {u v : Value}

/-- An operation on what its sides come to, be it folded or not. -/
theorem eval_operation (op : BinaryOp) (hl : l.eval s = .ok u) (hr : r.eval s = .ok v)
    (he : e = binary op l r ∨ e = (binary op l r).fold) : e.eval s = op.apply u v := by
  have heval : (binary op l r).eval s = op.apply u v := by
    rw [eval_binary, hl, hr, BinaryOp.run_ok]
  rcases he with rfl | rfl
  · exact heval
  · rw [eval_fold, heval]

/-- An operation on what its side comes to, be it folded or not. -/
theorem eval_unaryOperation (op : UnaryOp) (hl : l.eval s = .ok u)
    (he : e = unary op l ∨ e = (unary op l).fold) : e.eval s = op.apply u := by
  have heval : (unary op l).eval s = op.apply u := by
    rw [eval_unary, hl]
    rfl
  rcases he with rfl | rfl
  · exact heval
  · rw [eval_fold, heval]

end Expr

/-- Sums, products and negatives of whole numbers are exact and overflow only if they do not fit;
so are differences, except that the least whole number taken away from any other overflows.  It is
all the same with expressions that come to whole numbers, be they folded or not. -/
theorem integers_exact_iff (a b : Whole) :
    Value.IsExact (a.val + b.val) ((Value.integer a).add (.integer b)) ∧
    Value.IsExact (a.val * b.val) ((Value.integer a).mul (.integer b)) ∧
    Value.IsExact (-a.val) (Value.integer a).neg ∧
    (Value.IsExact (a.val - b.val) ((Value.integer a).sub (.integer b)) ↔
      (b = .least → 0 ≤ a.val)) ∧
    (Value.integer a).sub (.integer .least) = .error .overflow ∧
    ∀ s l r, Expr.eval s l = .ok (.integer a) → Expr.eval s r = .ok (.integer b) →
      (∀ op e, e = .binary op l r ∨ e = (Expr.binary op l r).fold →
        e.eval s = op.apply (.integer a) (.integer b)) ∧
      ∀ e, e = .unary .neg l ∨ e = (Expr.unary .neg l).fold → e.eval s = (Value.integer a).neg :=
  ⟨Value.isExact_add a b, Value.isExact_mul a b, Value.isExact_neg a, Value.isExact_sub_iff,
    Value.sub_least a, fun _ _ _ hl hr => ⟨fun op _ => Expr.eval_operation op hl hr,
      fun _ => Expr.eval_unaryOperation .neg hl⟩⟩

/-- One more than the largest whole number overflows, folded or not, and one less does not. -/
theorem integers_exact_iff_largest :
    let largest : Whole := ⟨9223372036854775807, by decide, by decide⟩
    let one : Whole := ⟨1, by decide, by decide⟩
    let sum : Expr := .binary .add (.literal (.integer largest)) (.literal (.integer one))
    (∀ s, sum.fold.eval s = .error .overflow) ∧
      ∃ n, (Value.integer largest).sub (.integer one) = .ok (.integer n) := by
  intro largest one sum
  obtain ⟨hadd, -, -, hsub, -, heval⟩ := integers_exact_iff largest one
  constructor
  · intro s
    rw [(heval s _ _ rfl rfl).1 .add sum.fold (.inr rfl)]
    exact hadd.2 (by decide)
  · have hexact := hsub.2 (by decide)
    exact ⟨⟨9223372036854775806, by decide, by decide⟩, hexact.1 _ (by decide)⟩

/-- The least whole number taken away from minus one is the largest, which fits; and yet it
overflows, on the values and in expressions, folded or not. -/
theorem least_cannot_be_taken_away :
    let one : Whole := ⟨-1, by decide, by decide⟩
    let difference : Expr := .binary .sub (.literal (.integer one)) (.literal (.integer .least))
    (∃ n : Whole, n.val = one.val - Whole.least.val) ∧
      (Value.integer one).sub (.integer .least) = .error .overflow ∧
      ∀ s, difference.eval s = .error .overflow ∧ difference.fold.eval s = .error .overflow := by
  intro one difference
  refine ⟨⟨⟨9223372036854775807, by decide, by decide⟩, by decide⟩, rfl, fun s => ⟨rfl, rfl⟩⟩

end Bookkeeping
