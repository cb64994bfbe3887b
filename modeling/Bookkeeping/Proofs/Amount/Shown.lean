import Bookkeeping.Proofs.Amount.Reading
import Bookkeeping.Proofs.Decimal.Numeral

/-!
# What the text of an amount shows

Beside the symbol of its commodity the text of an amount has a number in digits (`Amount.shown`),
with as many places as the commodity has, or as the quantity needs.  The number is the quantity up
to one unit of the last place, and the sign is that of the quantity (`Amount.negative_shown_iff`).
So the sign stands in front of zeros just if something below zero is lost at the places that are
not shown; with all its places shown, an amount shows its quantity as it is.
-/

namespace Bookkeeping

open Decimal (tens)

namespace Amount

/-- The text beside the symbol of the amount, if it has one. -/
def beside (a : Amount) (s : String) : String :=
  match a.commodity with
  | none => s
  | some c => c.decorate s

/-- The number in digits that is shown. -/
def shown (a : Amount) : Numeral := a.cleared.numeral a.shownPlaces

section

variable {a : Amount}

theorem text_eq_beside (a : Amount) : a.text = a.beside a.shown.text := by
  rw [shown, Decimal.text_numeral, ← quantityText_eq]
  rfl

/-- The symbol can be taken away from what stands beside it. -/
theorem beside_injective (a : Amount) : Function.Injective a.beside := by
  intro s t h
  unfold beside at h
  split at h
  · exact h
  · unfold Commodity.decorate at h
    dsimp only at h
    split at h
    · exact (String.append_left_inj _).1 ((String.append_left_inj _).1 h)
    · exact (String.append_right_inj _).1 h

/-- No other number in digits is shown. -/
theorem text_eq_beside_iff {n : Numeral} : a.text = a.beside n.text ↔ n = a.shown := by
  rw [text_eq_beside, a.beside_injective.eq_iff, Numeral.text_injective.eq_iff, eq_comm]

theorem length_places_shown (a : Amount) : a.shown.places.length = a.shownPlaces :=
  Decimal.length_places_numeral _ _

/-- The sign of a zero is no part of the number. -/
theorem toRat_cleared (a : Amount) : a.cleared.toRat = a.quantity.toRat := by
  unfold cleared
  split
  · rename_i hz
    have habs : a.quantity.abs.isZero := hz
    rw [Decimal.isZero_iff_toRat.1 habs, Decimal.isZero_iff_toRat.1 hz]
  · rfl

theorem places_normalize_cleared (a : Amount) :
    a.cleared.normalize.places = a.quantity.normalize.places := by
  unfold cleared
  split <;> rfl

/-- The sign shown is that of the quantity, also if the digits shown are zeros. -/
theorem negative_shown_iff : a.shown.negative ↔ a.quantity.toRat < 0 := by
  rw [Decimal.toRat_lt_zero_iff]
  show a.cleared.negative = true ↔ _
  unfold cleared
  split
  · rename_i hz
    exact iff_of_false Bool.false_ne_true fun h => h.2 hz
  · rename_i hz
    exact (and_iff_left hz).symm

theorem abs_toRat_shown_sub_lt (a : Amount) :
    |a.shown.toRat - a.quantity.toRat| < 1 / tens a.shownPlaces := by
  rw [← a.toRat_cleared]
  exact Decimal.abs_toRat_numeral_sub_lt _ _

/-- The sign is wrong just if the quantity is below zero, but by less than a unit of the last place
shown. -/
theorem signed_shown_iff : (a.shown.negative ↔ a.shown.toRat < 0) ↔
    ¬(a.quantity.toRat < 0 ∧ |a.quantity.toRat| < 1 / tens a.shownPlaces) := by
  rw [Numeral.signed_iff, negative_shown_iff, shown, Decimal.size_numeral_eq_zero_iff,
    toRat_cleared]

/-- With enough places the quantity is shown as it is. -/
theorem toRat_shown_of_le (h : a.quantity.normalize.places ≤ a.shownPlaces) :
    a.shown.toRat = a.quantity.toRat := by
  rw [← places_normalize_cleared] at h
  rw [← toRat_cleared]
  exact Decimal.toRat_numeral_of_le _ h

theorem places_le_shownPlaces (h : a.unrounded ∨ a.commodity = none) :
    a.quantity.normalize.places ≤ a.shownPlaces := by
  unfold shownPlaces
  split
  · exact Decimal.dropZeros_snd_le _ _
  · rename_i c hc
    have hall : a.unrounded := h.resolve_right (by simp [hc])
    rw [if_pos hall]
    exact Nat.le_max_right _ _

end

/-- Beside its symbol an amount shows just one number in digits, with as many places as the
commodity has, which is its quantity up to one unit of the last of them.  The sign is that of the
quantity; so it tells whether the number shown is below zero, save where the quantity is below zero
by less than such a unit and zeros are shown.  A bare number and an amount with all its places show
the quantity itself. -/
theorem text_shows_quantity (a : Amount) :
    ∃ n : Numeral, (∀ m : Numeral, a.text = a.beside m.text ↔ m = n) ∧
      (∀ c, a.commodity = some c → a.unrounded = false → n.places.length = c.precision) ∧
      |n.toRat - a.quantity.toRat| < 1 / tens n.places.length ∧
      (n.negative ↔ a.quantity.toRat < 0) ∧
      ((n.negative ↔ n.toRat < 0) ↔
        ¬(a.quantity.toRat < 0 ∧ |a.quantity.toRat| < 1 / tens n.places.length)) ∧
      (a.unrounded ∨ a.commodity = none →
        n.toRat = a.quantity.toRat ∧ (n.negative ↔ n.toRat < 0)) := by
  have hexact (h : a.unrounded ∨ a.commodity = none) : a.shown.toRat = a.quantity.toRat :=
    toRat_shown_of_le (places_le_shownPlaces h)
  refine ⟨a.shown, fun m => text_eq_beside_iff, fun c hc hrounded => ?_, ?_, negative_shown_iff, ?_,
    fun h => ⟨hexact h, ?_⟩⟩
  · simp [length_places_shown, shownPlaces, hc, hrounded]
  · rw [length_places_shown]
    exact a.abs_toRat_shown_sub_lt
  · rw [length_places_shown]
    exact signed_shown_iff
  · rw [hexact h]
    exact negative_shown_iff

/-- Of twelve dollars and thirty-four and a half cents lost the half is not shown, unless all places
are. -/
theorem text_shows_quantity_change :
    let dollars : Commodity := { symbol := "$", precision := 2 }
    let a : Amount :=
      { quantity := ⟨true, 12345, 3, by decide, by decide⟩, commodity := some dollars }
    (a.commodity = some dollars ∧ a.unrounded = false ∧ a.text = "$-12.34" ∧
      ∃ n : Numeral, a.text = a.beside n.text ∧ n.places.length = 2 ∧
        |n.toRat - -12.345| < 1 / 100 ∧ n.negative ∧ n.toRat < 0) ∧
    (a.showAll.unrounded ∧ a.showAll.text = "$-12.345" ∧
      ∃ n : Numeral, a.showAll.text = a.showAll.beside n.text ∧ n.toRat = -12.345) := by
  intro dollars a
  have hrat : a.quantity.toRat = -12.345 := by
    norm_num [a, Decimal.toRat, Decimal.coefficient, tens]
  obtain ⟨n, hn, hplaces, hunit, hnegative, hsign, -⟩ := text_shows_quantity a
  obtain ⟨m, hm, -, -, -, -, hall⟩ := text_shows_quantity a.showAll
  have htwo : n.places.length = 2 := hplaces dollars rfl rfl
  have hhundred : (tens 2 : ℚ) = 100 := by norm_num [tens]
  rw [htwo, hhundred, hrat] at hunit hsign
  have hneg : n.negative := hnegative.2 (by rw [hrat]; norm_num)
  have hbelow : n.toRat < 0 := (hsign.2 (by norm_num [abs_lt])).1 hneg
  refine ⟨⟨rfl, rfl, by decide +kernel, n, (hn n).2 rfl, htwo, hunit, hneg, hbelow⟩, rfl,
    by decide +kernel, m, (hm m).2 rfl, ?_⟩
  exact (hall (.inl rfl)).1.trans hrat

/-- A tenth of a lost cent is shown as zero with a sign. -/
theorem tenth_of_cent_shows_sign :
    ∃ cent tenth a, read "$-0.01" = .ok cent ∧ read "0.1" = .ok tenth ∧
      cent.mul tenth = .ok a ∧ a.text = "$-0.00" ∧
      ∀ n : Numeral, a.text = a.beside n.text → n.negative ∧ n.toRat = 0 := by
  let dollars : Commodity := { symbol := "$", precision := 2 }
  let cent : Amount :=
    { quantity := ⟨true, 1, 2, by decide, by decide⟩, commodity := some dollars }
  let tenth : Amount := { quantity := ⟨false, 1, 1, by decide, by decide⟩ }
  let a : Amount :=
    { quantity := ⟨true, 1, 3, by decide, by decide⟩, commodity := some dollars }
  have hcent : read "$-0.01" = .ok cent := by decide +kernel
  have htenth : read "0.1" = .ok tenth := by decide +kernel
  have ha : cent.mul tenth = .ok a := by decide +kernel
  refine ⟨cent, tenth, a, hcent, htenth, ha, by decide +kernel, fun n hn => ?_⟩
  rw [text_eq_beside_iff.1 hn]
  exact ⟨rfl, by decide +kernel⟩

end Amount

end Bookkeeping
