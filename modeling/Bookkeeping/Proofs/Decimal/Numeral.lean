import Bookkeeping.Proofs.Decimal.Reading
import Bookkeeping.Proofs.Decimal.Rounding
import Mathlib.Algebra.Order.Floor.Semifield
import Mathlib.Data.Nat.Cast.Field

/-!
# The number that digits denote

A `Numeral` is a number in digits, with or without a sign; `Numeral.toRat` is the number that it
denotes, and no text is that of two numerals (`Numeral.text_injective`).  A sign in front of
nothing but zeros is the only one that does not tell a number below zero (`Numeral.signed_iff`).

`Decimal.textTo` writes a numeral (`Decimal.text_numeral`) of the size of the decimal, cut off at
the last place shown (`Decimal.size_numeral`).  So it is less than one unit of that place away
(`Decimal.abs_toRat_numeral_sub_lt`), and all zeros if the decimal is itself less than a unit.
-/

namespace Bookkeeping

/-- With a sign in front, a number is below zero unless it is zero. -/
theorem signed_lt_zero_iff {negative : Bool} {x : ℚ} (hx : 0 ≤ x) :
    (if negative then -x else x) < 0 ↔ negative ∧ x ≠ 0 := by
  split
  · rename_i h
    rw [neg_lt_zero, and_iff_right h]
    exact hx.lt_iff_ne'
  · rename_i h
    exact iff_of_false hx.not_gt fun hneg => h hneg.1

theorem abs_signed_sub (negative : Bool) (x y : ℚ) :
    |(if negative then -x else x) - (if negative then -y else y)| = |x - y| := by
  split
  · rw [neg_sub_neg, abs_sub_comm]
  · rfl

/-- A number in digits: a sign, if there is one, and the digits before and after the point. -/
structure Numeral where
  negative : Bool
  whole : List Char
  places : List Char
  whole_ne_nil : whole ≠ []
  isDigit_whole : ∀ c ∈ whole, c.isDigit
  isDigit_places : ∀ c ∈ places, c.isDigit

namespace Numeral

/-- The number without its sign. -/
def size (n : Numeral) : ℚ :=
  Nat.ofDigitChars 10 (n.whole ++ n.places) 0 / Decimal.tens n.places.length

/-- The number that is denoted. -/
def toRat (n : Numeral) : ℚ := if n.negative then -n.size else n.size

/-- The digits, with a point in front of the places if there are any. -/
def unsigned (n : Numeral) : List Char :=
  n.whole ++ if n.places = [] then [] else '.' :: n.places

/-- The characters of the number. -/
def chars (n : Numeral) : List Char := (if n.negative then ['-'] else []) ++ n.unsigned

/-- The text of the number. -/
def text (n : Numeral) : String := String.ofList n.chars

variable {n m : Numeral}

theorem size_nonneg (n : Numeral) : 0 ≤ n.size := by
  unfold size
  positivity

theorem toRat_lt_zero_iff : n.toRat < 0 ↔ n.negative ∧ n.size ≠ 0 :=
  signed_lt_zero_iff n.size_nonneg

/-- The sign tells whether the number is below zero, unless it stands in front of zeros. -/
theorem signed_iff : (n.negative ↔ n.toRat < 0) ↔ ¬(n.negative ∧ n.size = 0) := by
  rw [toRat_lt_zero_iff, not_and]
  exact ⟨fun h hneg => (h.1 hneg).2, fun h => ⟨fun hneg => ⟨hneg, h hneg⟩, And.left⟩⟩

/-! ## Telling numerals apart -/

theorem takeWhile_unsigned (n : Numeral) : n.unsigned.takeWhile Char.isDigit = n.whole := by
  rw [unsigned, List.takeWhile_append_of_pos n.isDigit_whole]
  split <;> simp

theorem tail_dropWhile_unsigned (n : Numeral) :
    (n.unsigned.dropWhile Char.isDigit).tail = n.places := by
  rw [unsigned, List.dropWhile_append_of_pos n.isDigit_whole]
  split
  · rename_i h
    rw [h]
    rfl
  · rfl

/-- Without a sign the first character is a digit. -/
theorem head?_chars_iff : n.chars.head? = some '-' ↔ n.negative := by
  unfold chars
  cases n.negative with
  | true => exact iff_of_true rfl rfl
  | false =>
    obtain ⟨c, t, hwhole⟩ := List.exists_cons_of_ne_nil n.whole_ne_nil
    have hdigit : c.isDigit := n.isDigit_whole c (by rw [hwhole]; exact .head _)
    refine iff_of_false ?_ Bool.false_ne_true
    simp only [Bool.false_eq_true, if_false, List.nil_append, unsigned, hwhole, List.cons_append,
      List.head?_cons, Option.some.injEq]
    rintro rfl
    exact absurd hdigit (by decide)

theorem chars_injective : Function.Injective chars := by
  intro n m h
  have hsign : n.negative = m.negative := by
    rw [Bool.eq_iff_iff, ← head?_chars_iff, ← head?_chars_iff, h]
  unfold chars at h
  rw [hsign] at h
  have hunsigned : n.unsigned = m.unsigned := List.append_cancel_left h
  have hwhole : n.whole = m.whole := by
    rw [← takeWhile_unsigned, hunsigned, takeWhile_unsigned]
  have hplaces : n.places = m.places := by
    rw [← tail_dropWhile_unsigned, hunsigned, tail_dropWhile_unsigned]
  cases n
  cases m
  cases hsign
  cases hwhole
  cases hplaces
  rfl

/-- A text says which number in digits it is. -/
theorem text_injective : Function.Injective text :=
  fun _ _ h => chars_injective (String.ofList_injective h)

end Numeral

namespace Decimal

variable (d : Decimal) (p : Nat)

/-- The decimal in digits, with `p` places. -/
def numeral : Numeral where
  negative := d.negative
  whole := d.wholeDigits
  places := d.shownDigits p
  whole_ne_nil := d.wholeDigits_ne_nil
  isDigit_whole := d.isDigit_of_mem_wholeDigits
  isDigit_places := d.isDigit_of_mem_shownDigits

theorem length_places_numeral : (d.numeral p).places.length = p := d.length_shownDigits p

theorem unsigned_numeral : (d.numeral p).unsigned = d.abs.charsTo p := by
  have hnil : (d.numeral p).places = [] ↔ p = 0 := by
    rw [← List.length_eq_zero_iff, length_places_numeral]
  rw [d.abs.charsTo_eq rfl p, Numeral.unsigned]
  by_cases hp : p = 0
  · rw [if_pos hp, if_pos (hnil.2 hp)]
    rfl
  · rw [if_neg hp, if_neg (mt hnil.1 hp)]
    rfl

/-- What is written is the number in digits. -/
theorem text_numeral : (d.numeral p).text = d.textTo p := by
  rw [textTo, charsTo_eq_append, ← unsigned_numeral]
  rfl

/-- Digits that are cut off, or zeros that are filled in, as a division. -/
theorem mul_tens_div_tens (m p s : Nat) :
    m * tens p / tens s = m / tens (s - p) * tens (p - s) := by
  rcases Nat.le_total p s with h | h
  · have hs : tens s = tens (s - p) * tens p := by rw [← tens_add, Nat.sub_add_cancel h]
    rw [hs, Nat.mul_div_mul_right _ _ (tens_pos p), Nat.sub_eq_zero_of_le h]
    exact (Nat.mul_one _).symm
  · have hp : tens p = tens (p - s) * tens s := by rw [← tens_add, Nat.sub_add_cancel h]
    rw [hp, ← Nat.mul_assoc, Nat.mul_div_cancel _ (tens_pos s), Nat.sub_eq_zero_of_le h]
    exact congrArg (· * _) (Nat.div_one m).symm

theorem size_numeral_div :
    (d.numeral p).size = ((d.mantissa * tens p / tens d.places : ℕ) : ℚ) / tens p := by
  have hdigits : Nat.ofDigitChars 10 (d.wholeDigits ++ d.shownDigits p) 0 =
      d.mantissa / tens (d.places - p) * tens (p - d.places) := by
    rw [shownDigits, ← List.append_assoc, Nat.ofDigitChars_append, Nat.ofDigitChars_replicate_zero,
      ofDigitChars_front, Nat.mul_comm]
    rfl
  rw [mul_tens_div_tens, ← hdigits, Numeral.size, length_places_numeral]
  rfl

/-- The number shown, without its sign, is that of the decimal, cut off at the last place. -/
theorem size_numeral : (d.numeral p).size = (⌊|d.toRat| * tens p⌋₊ : ℚ) / tens p := by
  rw [size_numeral_div, abs_toRat, div_mul_eq_mul_div, ← Nat.cast_mul, Nat.floor_div_eq_div]

theorem toRat_eq_signed : d.toRat = if d.negative then -|d.toRat| else |d.toRat| := by
  rw [abs_toRat, toRat, coefficient]
  split
  · rw [Int.cast_neg, Int.cast_natCast, neg_div]
  · rw [Int.cast_natCast]

theorem toRat_lt_zero_iff : d.toRat < 0 ↔ d.negative ∧ ¬d.isZero := by
  rw [isZero_iff_toRat, ← abs_eq_zero, ← ne_eq, ← signed_lt_zero_iff (abs_nonneg d.toRat),
    ← toRat_eq_signed]

/-- The number shown is the decimal up to one unit of the last place. -/
theorem abs_toRat_numeral_sub_lt : |(d.numeral p).toRat - d.toRat| < 1 / tens p := by
  have hpos := tens_pos_rat p
  have hscaled : 0 ≤ |d.toRat| * tens p := mul_nonneg (abs_nonneg _) hpos.le
  have hbelow : (d.numeral p).size ≤ |d.toRat| := by
    rw [size_numeral, div_le_iff₀ hpos]
    exact Nat.floor_le hscaled
  have habove : |d.toRat| < (d.numeral p).size + 1 / tens p := by
    rw [size_numeral, ← add_div, lt_div_iff₀ hpos]
    exact Nat.lt_floor_add_one _
  -- The sign is that of the decimal, so that only the sizes are apart.
  calc |(d.numeral p).toRat - d.toRat|
      = |(if d.negative then -(d.numeral p).size else (d.numeral p).size) -
          (if d.negative then -|d.toRat| else |d.toRat|)| := by
        rw [← toRat_eq_signed]
        rfl
    _ = |(d.numeral p).size - (|d.toRat|)| := abs_signed_sub _ _ _
    _ < 1 / tens p := by
        rw [abs_sub_lt_iff]
        constructor <;> linarith [one_div_pos.2 hpos]

/-- With all the places that are needed for it, the number is shown as it is. -/
theorem toRat_numeral_of_le {p : Nat} (h : d.normalize.places ≤ p) :
    (d.numeral p).toRat = d.toRat := by
  have hdvd : tens d.places ∣ d.mantissa * tens p :=
    calc tens d.places ∣ tens (d.places - p + p) := Nat.pow_dvd_pow 10 (by omega)
      _ = tens (d.places - p) * tens p := tens_add _ _
      _ ∣ d.mantissa * tens p := Nat.mul_dvd_mul_right (d.tens_dvd_mantissa h) _
  have hsize : (d.numeral p).size = |d.toRat| := by
    rw [size_numeral_div, Nat.cast_div hdvd (tens_ne_zero _), Nat.cast_mul, abs_toRat,
      div_right_comm, mul_div_cancel_right₀ _ (tens_ne_zero p)]
  rw [Numeral.toRat, hsize]
  exact d.toRat_eq_signed.symm

/-- Nothing but zeros is shown of a number that is less than one unit of the last place. -/
theorem size_numeral_eq_zero_iff : (d.numeral p).size = 0 ↔ |d.toRat| < 1 / tens p := by
  rw [size_numeral, div_eq_zero_iff, or_iff_left (tens_ne_zero p), Nat.cast_eq_zero,
    Nat.floor_eq_zero, lt_div_iff₀ (tens_pos_rat p)]

end Decimal

end Bookkeeping
