import Bookkeeping.Decimal.Basic

/-!
# Arithmetic of decimals

Sums, products and quotients are exact as long as they fit.  A result with too many digits loses
the fewest places that make it fit, and the last digit kept is rounded, a half to the even digit
(`shrink?`); a result whose whole part does not fit is none at all.
-/

namespace Bookkeeping

namespace Decimal

/-- The quotient rounded to the nearest whole number, a half to the even one. -/
def roundEven (m k : Nat) : Nat :=
  let q := m / k
  let r := m % k
  if 2 * r > k || (2 * r == k && q % 2 == 1) then q + 1 else q

/-- The decimal that keeps as many of the places as fit. -/
def shrink? (negative : Bool) (m places : Nat) : Option Decimal :=
  (List.range (places + 1)).findSome? fun k => fit? negative (roundEven m (tens k)) (places - k)

/-! ## Sum and product -/

/-- The sum; a side that is zero leaves the other as it is, places included. -/
def add? (a b : Decimal) : Option Decimal :=
  if a.isZero then some b
  else if b.isZero then some a
  else
    let places := max a.places b.places
    let sum := a.coefficient * tens (places - a.places) + b.coefficient * tens (places - b.places)
    shrink? (sum < 0) sum.natAbs places

/-- The first mantissa that is not short, `2 ^ 32`. -/
def shortLimit : Nat := 4294967296

/-- The product; products of two short numbers with more than 47 places together vanish. -/
def mul? (a b : Decimal) : Option Decimal :=
  if a.isZero || b.isZero then some zero
  else if a.mantissa < shortLimit && b.mantissa < shortLimit && a.places + b.places > 47 then
    some zero
  else shrink? (a.negative != b.negative) (a.mantissa * b.mantissa) (a.places + b.places)

/-! ## Quotient -/

/-- The largest `k` up to `bound` for which `q * 10 ^ k` is still a mantissa. -/
def headroom (q : Nat) : Nat → Nat
  | 0 => 0
  | k + 1 => if q * tens (k + 1) < limit then k + 1 else headroom q k

theorem headroom_le (q k : Nat) : headroom q k ≤ k := by
  induction k with
  | zero => simp [headroom]
  | succ k ih =>
    rw [headroom]
    split <;> omega

/-- A quotient found so far: `whole` at `places` places. -/
structure Quotient where
  whole : Nat
  places : Int
  /-- Zeros at the end of the places were added by the division itself. -/
  padded : Bool

/-- The quotient with one digit fewer, rounded, a half to the even digit; `rest` tells that the
digits beyond `m` are not all zero. -/
def dropDigit (m : Nat) (rest : Bool) : Nat :=
  let q := m / 10
  let r := m % 10
  if r > 5 || (r == 5 && (rest || q % 2 == 1)) then q + 1 else q

/-- Long division by `m`: `q` has been found at `s` places and `r` is left over.  Up to nine digits
are added at a time, until nothing is left over or no digit more fits. -/
def divideFrom (m q r : Nat) (s : Int) (padded : Bool) : Option Quotient :=
  if r = 0 ∧ 0 ≤ s then some ⟨q, s, padded⟩
  else
    let k := if r = 0 then min 9 (-s).toNat else headroom q (min 9 (28 - s).toNat)
    let padded := padded || r != 0
    if r ≠ 0 ∧ k < 9 ∧ s + k < 0 then none
    else if k = 0 then
      let rounded := if 2 * r > m || (2 * r == m && q % 2 == 1) then q + 1 else q
      if rounded < limit then some ⟨rounded, s, padded⟩
      else if s ≤ 0 then none
      else some ⟨dropDigit rounded false, s - 1, padded⟩
    else if limit ≤ q * tens k then none
    else
      let q' := q * tens k + r * tens k / m
      let r' := r * tens k % m
      if q' < limit then divideFrom m q' r' (s + k) padded
      else if s + k ≤ 0 then none
      else some ⟨dropDigit q' (r' != 0), s + k - 1, padded⟩
termination_by (28 - s).toNat
decreasing_by
  have hk := headroom_le q (min 9 (28 - s).toNat)
  have hpos : k ≠ 0 := by assumption
  simp only [k] at hpos ⊢
  split at hpos <;> omega

/-- Drops `e` zero places, if the number ends in that many. -/
def dropZeroPlaces (e : Nat) (q : Nat) (s : Nat) : Nat × Nat :=
  if e ≤ s ∧ q % tens e = 0 then (q / tens e, s - e) else (q, s)

/-- Drops zero places by eights while the mantissa is a multiple of `2 ^ 32`. -/
def dropEights (q s : Nat) : Nat × Nat :=
  if q % shortLimit = 0 ∧ 8 ≤ s ∧ q % tens 8 = 0 then dropEights (q / tens 8) (s - 8)
  else (q, s)
termination_by s

/-- The zero places that a division leaves are dropped by eights, then four, two and one at most
once each. -/
def dropPadding (q s : Nat) : Nat × Nat :=
  let (q, s) := dropEights q s
  let (q, s) := dropZeroPlaces 4 q s
  let (q, s) := dropZeroPlaces 2 q s
  dropZeroPlaces 1 q s

/-- The quotient; none when the divisor is zero or the quotient does not fit. -/
def div? (a b : Decimal) : Option Decimal :=
  if b.isZero then none
  else if a.isZero then some zero
  else
    (divideFrom b.mantissa (a.mantissa / b.mantissa) (a.mantissa % b.mantissa)
      (a.places - b.places) false).bind fun found =>
        let (q, s) :=
          if found.padded then dropPadding found.whole found.places.toNat
          else (found.whole, found.places.toNat)
        fit? (a.negative != b.negative) q s

end Decimal

end Bookkeeping
