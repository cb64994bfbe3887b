import Bookkeeping.Decimal.Text
import Bookkeeping.Proofs.Decimal.Grid

/-!
# Reading decimals back

What `Decimal.charsTo` writes, `Decimal.ofDigits?` reads.  `readFrom_whole` and `readFrom_places`
follow the reader through digits that fit, and zeros behind them do not change the number
(`readFrom_zeros`).  So a decimal without a sign is read back if it is written with enough places
for its value (`ofDigits?_charsTo`): the places that are cut off were zeros, and so are those that
are filled in.
-/

namespace Bookkeeping

namespace Decimal

/-! ## Reading digits -/

section

variable {m p : Nat} {c : Char} {ds r : List Char}

theorem ne_point_of_isDigit (h : c.isDigit) : c ≠ '.' := by
  rintro rfl
  exact absurd h (by decide)

theorem readFrom_whole_digit (hc : c.isDigit) (hfits : m * 10 + (c.toNat - 48) < limit) :
    readFrom ⟨m, p, false⟩ (c :: r) = readFrom ⟨m * 10 + (c.toNat - 48), p, false⟩ r := by
  rw [readFrom]
  · exact if_pos hfits
  · exact ne_point_of_isDigit hc

theorem readFrom_place_digit (hc : c.isDigit) :
    readFrom ⟨m, p, true⟩ (c :: r) =
      if p < maxPlaces ∧ m * 10 + (c.toNat - 48) < limit then
        readFrom ⟨m * 10 + (c.toNat - 48), p + 1, true⟩ r
      else roundLast? m p (c.toNat - 48) := by
  rw [readFrom]
  · rfl
  · exact ne_point_of_isDigit hc

theorem ofDigitChars_ten_cons :
    Nat.ofDigitChars 10 (c :: ds) m = Nat.ofDigitChars 10 ds (m * 10 + (c.toNat - 48)) := by
  rw [Nat.ofDigitChars_cons, Nat.mul_comm]
  rfl

theorem le_ofDigitChars (ds : List Char) (m : Nat) : m ≤ Nat.ofDigitChars 10 ds m := by
  rw [Nat.ofDigitChars_eq_ofDigitChars_zero]
  exact Nat.le_add_right_of_le (Nat.le_mul_of_pos_left m (tens_pos ds.length))

theorem readFrom_whole (hds : ∀ c ∈ ds, c.isDigit) (hlt : Nat.ofDigitChars 10 ds m < limit) :
    readFrom ⟨m, p, false⟩ (ds ++ r) = readFrom ⟨Nat.ofDigitChars 10 ds m, p, false⟩ r := by
  induction ds generalizing m with
  | nil => rfl
  | cons c ds ih =>
    rw [ofDigitChars_ten_cons] at hlt ⊢
    rw [List.cons_append, readFrom_whole_digit (hds c (.head _))
      (Nat.lt_of_le_of_lt (le_ofDigitChars ds _) hlt)]
    exact ih (fun d hd => hds d (.tail _ hd)) hlt

theorem readFrom_places (hds : ∀ c ∈ ds, c.isDigit) (hlt : Nat.ofDigitChars 10 ds m < limit)
    (hp : p + ds.length ≤ maxPlaces) :
    readFrom ⟨m, p, true⟩ (ds ++ r) =
      readFrom ⟨Nat.ofDigitChars 10 ds m, p + ds.length, true⟩ r := by
  induction ds generalizing m p with
  | nil => rfl
  | cons c ds ih =>
    rw [ofDigitChars_ten_cons] at hlt ⊢
    rw [List.length_cons] at hp ⊢
    have hfits := Nat.lt_of_le_of_lt (le_ofDigitChars ds _) hlt
    rw [List.cons_append, readFrom_place_digit (hds c (.head _)), if_pos ⟨by omega, hfits⟩,
      ih (fun d hd => hds d (.tail _ hd)) hlt (by omega), Nat.add_right_comm, Nat.add_assoc]

/-- Zeros behind the places that were read do not change the number, whether they fit or not. -/
theorem readFrom_zeros (n : Nat) (hm : m < limit) (hp : p ≤ maxPlaces) :
    ∃ q, readFrom ⟨m, p, true⟩ (List.replicate n '0') = some q ∧ q.negative = false ∧
      q.mantissa * tens p = m * tens q.places := by
  induction n generalizing m p with
  | zero => exact ⟨⟨false, m, p, hm, hp⟩, dif_pos ⟨hm, hp⟩, rfl, rfl⟩
  | succ n ih =>
    rw [List.replicate_succ, readFrom_place_digit (by decide),
      show '0'.toNat - 48 = 0 from rfl, Nat.add_zero]
    split
    · rename_i hfits
      obtain ⟨q, hq, hsign, hvalue⟩ := ih hfits.2 hfits.1
      refine ⟨q, hq, hsign, Nat.eq_of_mul_eq_mul_right (by decide : 0 < 10) ?_⟩
      rw [Nat.mul_assoc, ← tens_succ, hvalue, Nat.mul_right_comm]
    · refine ⟨⟨false, m, p, hm, hp⟩, ?_, rfl, rfl⟩
      rw [roundLast?, if_neg (Nat.not_succ_le_zero 4)]
      exact (if_pos hm).trans (dif_pos ⟨hm, hp⟩)

end

/-! ## What is written -/

/-- Digits with at most one point, which is not the first character. -/
structure IsNumeral (s : List Char) : Prop where
  chars : ∀ c ∈ s, c.isDigit ∨ c = '.'
  head : ∃ c ∈ s.head?, c.isDigit
  points : s.count '.' ≤ 1

theorem IsNumeral.ofDigits?_eq {s : List Char} (h : IsNumeral s) :
    ofDigits? s = readFrom ⟨0, 0, false⟩ s := by
  obtain ⟨c, hc, hdigit⟩ := h.head
  have hchars : s.all fun c => c.isDigit || c == '.' := by simpa using h.chars
  have hsome : s.any Char.isDigit := List.any_eq_true.2 ⟨c, List.mem_of_mem_head? hc, hdigit⟩
  rw [ofDigits?, hchars, hsome, if_pos (by simpa using h.points)]

section

variable (d : Decimal) {p : Nat}

theorem length_digits : d.places + 1 ≤ d.digits.length := by
  rw [digits, List.length_leftpad]
  exact Nat.le_max_left _ _

theorem length_placeDigits : d.placeDigits.length = d.places := by
  have := d.length_digits
  rw [placeDigits, List.length_drop]
  omega

theorem wholeDigits_ne_nil : d.wholeDigits ≠ [] := by
  have := d.length_digits
  refine List.ne_nil_of_length_pos ?_
  rw [wholeDigits, List.length_take]
  omega

theorem isDigit_of_mem_digits : ∀ c ∈ d.digits, c.isDigit := by
  intro c hc
  rw [digits, List.leftpad, List.mem_append] at hc
  rcases hc with hc | hc
  · rw [List.eq_of_mem_replicate hc]
    decide
  · exact Nat.isDigit_of_mem_toDigits (by decide) (by decide) hc

theorem isDigit_of_mem_wholeDigits : ∀ c ∈ d.wholeDigits, c.isDigit :=
  fun c hc => d.isDigit_of_mem_digits c (List.mem_of_mem_take hc)

theorem isDigit_of_mem_placeDigits : ∀ c ∈ d.placeDigits, c.isDigit :=
  fun c hc => d.isDigit_of_mem_digits c (List.mem_of_mem_drop hc)

/-- The digits after the point, cut or filled with zeros to `p` places. -/
def shownDigits (p : Nat) : List Char :=
  d.placeDigits.take p ++ List.replicate (p - d.places) '0'

theorem length_shownDigits (p : Nat) : (d.shownDigits p).length = p := by
  rw [shownDigits, List.length_append, List.length_take, d.length_placeDigits,
    List.length_replicate]
  omega

theorem isDigit_of_mem_shownDigits : ∀ c ∈ d.shownDigits p, c.isDigit := by
  intro c hc
  rcases List.mem_append.1 hc with hc | hc
  · exact d.isDigit_of_mem_placeDigits c (List.mem_of_mem_take hc)
  · rw [List.eq_of_mem_replicate hc]
    decide

theorem charsTo_eq_append (p : Nat) :
    d.charsTo p = (if d.negative then ['-'] else []) ++ d.abs.charsTo p := by
  rw [charsTo, charsTo, List.append_assoc]
  rfl

/-- A number without a sign that shows some places is written with a point. -/
theorem charsTo_eq (h : d.negative = false) (p : Nat) : d.charsTo p =
    d.wholeDigits ++ if p = 0 then [] else '.' :: d.shownDigits p := by
  have hshown : (d.placeDigits ++ List.replicate (p - d.places) '0').take p = d.shownDigits p := by
    rw [List.take_append, d.length_placeDigits, List.take_of_length_le
      (List.length_replicate).le, shownDigits]
  rw [charsTo, h, hshown]
  rfl

theorem isNumeral_charsTo (h : d.negative = false) (p : Nat) : IsNumeral (d.charsTo p) := by
  rw [d.charsTo_eq h]
  have hcount {ds : List Char} (hds : ∀ c ∈ ds, c.isDigit) : ds.count '.' = 0 :=
    List.count_eq_zero.2 fun hpoint => ne_point_of_isDigit (hds _ hpoint) rfl
  constructor
  · intro c hc
    rcases List.mem_append.1 hc with hc | hc
    · exact .inl (d.isDigit_of_mem_wholeDigits c hc)
    · split at hc
      · cases hc
      · exact (List.mem_cons.1 hc).symm.imp_left (d.isDigit_of_mem_shownDigits c)
  · obtain ⟨c, cs, hwhole⟩ := List.exists_cons_of_ne_nil d.wholeDigits_ne_nil
    exact ⟨c, by rw [hwhole]; rfl, d.isDigit_of_mem_wholeDigits c (by rw [hwhole]; exact .head _)⟩
  · rw [List.count_append, hcount d.isDigit_of_mem_wholeDigits]
    split
    · exact Nat.zero_le 1
    · rw [List.count_cons_self, hcount d.isDigit_of_mem_shownDigits]

/-! ## The value of what is written -/

theorem ofDigitChars_digits : Nat.ofDigitChars 10 d.digits 0 = d.mantissa := by
  rw [digits, List.leftpad, Nat.ofDigitChars_append, Nat.ofDigitChars_replicate_zero, Nat.mul_zero,
    Nat.ofDigitChars_toDigits (by decide) (by decide)]

theorem ofDigitChars_append (ds es : List Char) : Nat.ofDigitChars 10 (ds ++ es) 0 =
    tens es.length * Nat.ofDigitChars 10 ds 0 + Nat.ofDigitChars 10 es 0 := by
  rw [Nat.ofDigitChars_append, Nat.ofDigitChars_eq_ofDigitChars_zero]
  rfl

theorem ofDigitChars_lt {ds : List Char} (hds : ∀ c ∈ ds, c.isDigit) :
    Nat.ofDigitChars 10 ds 0 < tens ds.length := by
  induction ds with
  | nil => exact Nat.one_pos
  | cons c ds ih =>
    have hc : c.toNat ≤ 57 := (Char.isDigit_iff_toNat.1 (hds c (.head _))).2
    have hrest := ih fun d hd => hds d (.tail _ hd)
    have hdigit : tens ds.length * (c.toNat - 48) ≤ tens ds.length * 9 :=
      Nat.mul_le_mul_left _ (by omega)
    have hvalue : Nat.ofDigitChars 10 [c] 0 = c.toNat - 48 := by
      rw [ofDigitChars_ten_cons, Nat.ofDigitChars_nil, Nat.zero_mul, Nat.zero_add]
    rw [← List.singleton_append, ofDigitChars_append, hvalue, List.singleton_append,
      List.length_cons, tens_succ]
    omega

/-- Digits that are cut off the end are divided away. -/
theorem ofDigitChars_take_digits {k : Nat} (h : k ≤ d.digits.length) :
    Nat.ofDigitChars 10 (d.digits.take (d.digits.length - k)) 0 = d.mantissa / tens k := by
  have hlength : (d.digits.drop (d.digits.length - k)).length = k := by
    rw [List.length_drop, Nat.sub_sub_self h]
  have hlast := ofDigitChars_lt fun c hc => d.isDigit_of_mem_digits c
    (List.mem_of_mem_drop (i := d.digits.length - k) hc)
  have hsplit := ofDigitChars_append (d.digits.take (d.digits.length - k))
    (d.digits.drop (d.digits.length - k))
  rw [List.take_append_drop, ofDigitChars_digits, hlength] at hsplit
  rw [hlength] at hlast
  rw [hsplit, Nat.mul_add_div (tens_pos k), Nat.div_eq_of_lt hlast, Nat.add_zero]

/-- The digits before the point and the first `p` places are the number cut off there. -/
theorem ofDigitChars_front (p : Nat) :
    Nat.ofDigitChars 10 (d.wholeDigits ++ d.placeDigits.take p) 0 =
      d.mantissa / tens (d.places - p) := by
  have hlength := d.length_digits
  rw [wholeDigits, placeDigits, ← List.take_add, ← d.ofDigitChars_take_digits (by omega),
    List.take_eq_take_iff.2 (show _ = min (d.digits.length - (d.places - p)) _ by omega)]

theorem dropZeros_spec (m p : Nat) :
    (dropZeros m p).1 * tens (p - (dropZeros m p).2) = m := by
  induction p generalizing m with
  | zero => exact Nat.mul_one m
  | succ p ih =>
    rw [dropZeros]
    split
    · rename_i hzero
      have hle := dropZeros_snd_le (m / 10) p
      rw [Nat.succ_sub hle, tens_succ, ← Nat.mul_assoc, ih,
        Nat.div_mul_cancel (Nat.dvd_of_mod_eq_zero hzero)]
    · rw [Nat.sub_self]
      exact Nat.mul_one m

/-- Places that are not needed for the value are zeros. -/
theorem tens_dvd_mantissa (h : d.normalize.places ≤ p) : tens (d.places - p) ∣ d.mantissa := by
  refine Nat.dvd_trans (Nat.pow_dvd_pow 10 (Nat.sub_le_sub_left h d.places)) ?_
  exact ⟨_, (Nat.mul_comm _ _ ▸ dropZeros_spec d.mantissa d.places).symm⟩

/-! ## Reading what is written -/

theorem readFrom_point {m n : Nat} {ds : List Char} (h : n = 0 → ds = []) :
    readFrom ⟨m, 0, false⟩ (if n = 0 then [] else '.' :: ds) = readFrom ⟨m, 0, true⟩ ds := by
  split
  · rename_i hn
    rw [h hn]
    rfl
  · rfl

/-- A decimal without a sign is read back, as far as its value goes, from what is written for it
with enough places. -/
theorem ofDigits?_charsTo (hd : d.negative = false) (hp : d.normalize.places ≤ p) :
    ∃ q, ofDigits? (d.charsTo p) = some q ∧ q.toRat = d.toRat := by
  have hlength := d.length_digits
  -- the digits that are shown, in front of the zeros that are filled in
  have hwhole : Nat.ofDigitChars 10 d.wholeDigits 0 = d.mantissa / tens d.places :=
    d.ofDigitChars_take_digits (by omega)
  have hplaces : Nat.ofDigitChars 10 (d.placeDigits.take p) (d.mantissa / tens d.places) =
      d.mantissa / tens (d.places - p) := by
    rw [← hwhole, ← Nat.ofDigitChars_append, ofDigitChars_front]
  have hfits (k : Nat) : d.mantissa / tens k < limit :=
    Nat.lt_of_le_of_lt (Nat.div_le_self _ _) d.mantissa_lt
  have hshown : (d.placeDigits.take p).length = min p d.places := by
    rw [List.length_take, d.length_placeDigits]
  have hmax : min p d.places ≤ maxPlaces := Nat.le_trans (Nat.min_le_right _ _) d.places_le
  obtain ⟨q, hq, hsign, hvalue⟩ := readFrom_zeros (p - d.places) (hfits (d.places - p)) hmax
  refine ⟨q, ?_, toRat_eq_iff.2 ?_⟩
  · rw [(d.isNumeral_charsTo hd p).ofDigits?_eq, d.charsTo_eq hd p,
      readFrom_whole d.isDigit_of_mem_wholeDigits (hwhole ▸ hfits _), hwhole, readFrom_point
        fun hzero => List.length_eq_zero_iff.1 (by rw [length_shownDigits, hzero]),
      shownDigits, readFrom_places, hplaces, hshown, Nat.zero_add, hq]
    · exact fun c hc => d.isDigit_of_mem_placeDigits c (List.mem_of_mem_take hc)
    · exact hplaces ▸ hfits _
    · omega
  · have hmantissa : d.mantissa / tens (d.places - p) * tens (d.places - p) = d.mantissa :=
      Nat.div_mul_cancel (d.tens_dvd_mantissa hp)
    have htens : tens d.places = tens (min p d.places) * tens (d.places - p) := by
      rw [← tens_add]
      congr 1
      omega
    have heq : q.mantissa * tens d.places = d.mantissa * tens q.places := by
      calc q.mantissa * tens d.places
          = q.mantissa * tens (min p d.places) * tens (d.places - p) := by
            rw [htens, Nat.mul_assoc]
        _ = d.mantissa / tens (d.places - p) * tens q.places * tens (d.places - p) := by
            rw [hvalue]
        _ = d.mantissa * tens q.places := by rw [Nat.mul_right_comm, hmantissa]
    simp only [coefficient, hsign, hd, Bool.false_eq_true, if_false]
    exact_mod_cast heq

end

end Decimal

end Bookkeeping
