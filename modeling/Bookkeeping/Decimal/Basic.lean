/-!
# Decimal numbers

A `Decimal` is a sign, a mantissa below `2 ^ 96` and a number of decimal places of at most 28; it
denotes `± mantissa / 10 ^ places`.  Places are part of the number, so `1.5` and `1.50` are two
decimals of one value, and zero may carry a sign.  `fit?` builds a decimal when the parts are in
range, `compare` orders decimals by value, and `normalize` drops trailing zero places.
-/

namespace Bookkeeping

/-- A decimal number with its places: `± mantissa / 10 ^ places`. -/
structure Decimal where
  negative : Bool
  mantissa : Nat
  places : Nat
  mantissa_lt : mantissa < 79228162514264337593543950336
  places_le : places ≤ 28
deriving DecidableEq

namespace Decimal

/-- The first mantissa that is too large, `2 ^ 96`. -/
def limit : Nat := 79228162514264337593543950336

/-- The most places a decimal can have. -/
def maxPlaces : Nat := 28

/-- The decimal of these parts, if they are in range. -/
def fit? (negative : Bool) (mantissa places : Nat) : Option Decimal :=
  if h : mantissa < limit ∧ places ≤ 28 then some ⟨negative, mantissa, places, h.1, h.2⟩
  else none

/-- A decimal without places. -/
def whole (negative : Bool) (mantissa : Nat) (h : mantissa < 79228162514264337593543950336) :
    Decimal :=
  ⟨negative, mantissa, 0, h, by decide⟩

/-- Zero without places. -/
def zero : Decimal := whole false 0 (by decide)

instance : Inhabited Decimal := ⟨zero⟩

/-- The mantissa with the sign. -/
def coefficient (d : Decimal) : Int := if d.negative then -d.mantissa else d.mantissa

/-- The number is zero, with any sign and any places. -/
def isZero (d : Decimal) : Bool := d.mantissa == 0

/-- The sign: `-1`, `0` or `1`. -/
def sign (d : Decimal) : Int := d.coefficient.sign

/-- The number without its sign. -/
def abs (d : Decimal) : Decimal := { d with negative := false }

/-- The number with the other sign; zero changes its sign too. -/
def neg (d : Decimal) : Decimal := { d with negative := !d.negative }

/-- The power of ten with this exponent. -/
def tens (k : Nat) : Nat := Nat.pow 10 k

/-- The order of the values. -/
def compare (a b : Decimal) : Ordering :=
  Ord.compare (a.coefficient * tens b.places) (b.coefficient * tens a.places)

/-- The values are equal. -/
def same (a b : Decimal) : Bool := a.compare b == .eq

/-- The mantissa and places left after dropping the zeros at the end of the places. -/
def dropZeros : Nat → Nat → Nat × Nat
  | m, 0 => (m, 0)
  | m, p + 1 => if m % 10 = 0 then dropZeros (m / 10) p else (m, p + 1)

theorem dropZeros_fst_le (m p : Nat) : (dropZeros m p).1 ≤ m := by
  induction p generalizing m with
  | zero => simp [dropZeros]
  | succ p ih =>
    rw [dropZeros]
    split
    · exact Nat.le_trans (ih _) (Nat.div_le_self m 10)
    · exact Nat.le_refl _

theorem dropZeros_snd_le (m p : Nat) : (dropZeros m p).2 ≤ p := by
  induction p generalizing m with
  | zero => simp [dropZeros]
  | succ p ih =>
    rw [dropZeros]
    split
    · exact Nat.le_succ_of_le (ih _)
    · exact Nat.le_refl _

/-- The same value with the fewest places. -/
def normalize (d : Decimal) : Decimal where
  negative := d.negative
  mantissa := (dropZeros d.mantissa d.places).1
  places := (dropZeros d.mantissa d.places).2
  mantissa_lt := Nat.lt_of_le_of_lt (dropZeros_fst_le _ _) d.mantissa_lt
  places_le := Nat.le_trans (dropZeros_snd_le _ _) d.places_le

/-! ## What the parts say -/

theorem tens_succ (k : Nat) : tens (k + 1) = tens k * 10 := rfl

theorem tens_pos (k : Nat) : 0 < tens k := Nat.pow_pos (by decide)

theorem fit?_eq_some_iff {s : Bool} {m p : Nat} {d : Decimal} :
    fit? s m p = some d ↔ d.negative = s ∧ d.mantissa = m ∧ d.places = p := by
  unfold fit?
  split
  · rename_i h
    constructor
    · rintro ⟨⟩
      exact ⟨rfl, rfl, rfl⟩
    · rintro ⟨rfl, rfl, rfl⟩
      rfl
  · rename_i h
    refine ⟨fun e => by simp at e, ?_⟩
    rintro ⟨rfl, rfl, rfl⟩
    exact absurd ⟨d.mantissa_lt, d.places_le⟩ h

theorem isZero_iff {d : Decimal} : d.isZero ↔ d.coefficient = 0 := by
  simp only [isZero, coefficient, beq_iff_eq]
  split <;> omega

theorem coefficient_neg (d : Decimal) : d.neg.coefficient = -d.coefficient := by
  cases h : d.negative <;> simp [coefficient, neg, h]

theorem neg_neg (d : Decimal) : d.neg.neg = d := by
  simp [neg]

end Decimal

end Bookkeeping
