/-!
# Whole numbers

A `Whole` is an integer of 64 signed bits.  Sums, products and negations are exact, or none at all
when they do not fit.
-/

namespace Bookkeeping

/-- An integer of 64 signed bits. -/
structure Whole where
  val : Int
  le_val : -9223372036854775808 ≤ val
  val_lt : val < 9223372036854775808
deriving DecidableEq

namespace Whole

/-- The number as a whole number, if it fits. -/
def ofInt? (n : Int) : Option Whole :=
  if h : -9223372036854775808 ≤ n ∧ n.toNat < 9223372036854775808 then
    some ⟨n, h.1, by omega⟩
  else none

/-- A count in 64 bits: past the largest whole number it goes on from the least one. -/
def ofCount (n : Nat) : Whole where
  val := Int.bmod n 18446744073709551616
  le_val := by
    have := @Int.le_bmod n 18446744073709551616 (by decide)
    omega
  val_lt := by
    have := @Int.bmod_lt n 18446744073709551616 (by decide)
    omega

def zero : Whole := ⟨0, by decide, by decide⟩

instance : Inhabited Whole := ⟨zero⟩

def add? (a b : Whole) : Option Whole := ofInt? (a.val + b.val)

def mul? (a b : Whole) : Option Whole := ofInt? (a.val * b.val)

/-- The negative; the least whole number has none. -/
def neg? (a : Whole) : Option Whole := ofInt? (-a.val)

theorem ofInt?_eq_some_iff {n : Int} {w : Whole} : ofInt? n = some w ↔ w.val = n := by
  unfold ofInt?
  split
  · constructor
    · rintro ⟨⟩
      rfl
    · rintro rfl
      rfl
  · rename_i h
    refine ⟨fun e => by simp at e, ?_⟩
    rintro rfl
    have hlt := w.val_lt
    exact absurd ⟨w.le_val, by omega⟩ h

end Whole

end Bookkeeping
