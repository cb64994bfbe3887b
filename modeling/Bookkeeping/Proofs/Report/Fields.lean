import Bookkeeping.Proofs.Decimal.Overflow
import Bookkeeping.Proofs.Report.Opening
import Bookkeeping.Proofs.Report.Outline

/-!
# Texts of fields

A field that asks for no value has a text, whatever the scope has of records, but for one: the price
that stands behind an amount is a quotient, which is not there if it does not fit
(`Renderer.elementText_error_iff`).  So a line without values is written unless it has such a price
or the sink refuses a piece (`Renderer.plain_line_written_iff`).
-/

namespace Bookkeeping

open Attempt

/-- The field is the value of an expression. -/
def Field.isValue : Field → Bool
  | .expression _ | .amount | .total => true
  | _ => false

/-- The price of one unit of the transaction's amount, if it has one, can be written as a
decimal. -/
def Scope.PriceFits (sc : Scope) : Prop :=
  ∀ x cost, sc.transaction = some x → x.cost = some cost → x.amount.isZero = false →
    |cost.quantity.toRat / x.amount.quantity.toRat| < Decimal.limit - 1 / 2

theorem Scope.priceFits_iff {sc : Scope} {x : Transaction} {cost : Amount}
    (hx : sc.transaction = some x) (hcost : x.cost = some cost) (h : x.amount.isZero = false) :
    sc.PriceFits ↔ |cost.quantity.toRat / x.amount.quantity.toRat| < Decimal.limit - 1 / 2 := by
  refine ⟨fun hfits => hfits x cost hx hcost h, fun hlt x' cost' hx' hcost' _ => ?_⟩
  cases hx.symm.trans hx'
  cases hcost.symm.trans hcost'
  exact hlt

/-- The price of one unit overflows or is there. -/
theorem Amount.perUnit_cases (cost : Amount) {count : Amount} (h : count.isZero = false) :
    (|cost.quantity.toRat / count.quantity.toRat| < Decimal.limit - 1 / 2 ∧
        ∃ price, cost.perUnit count = .ok price) ∨
      (¬|cost.quantity.toRat / count.quantity.toRat| < Decimal.limit - 1 / 2 ∧
        cost.perUnit count = .error .overflow) := by
  rw [← Decimal.isSome_div?_iff (Bool.eq_false_iff.1 h), perUnit, if_neg (Bool.eq_false_iff.1 h)]
  cases cost.quantity.div? count.quantity with
  | some q => exact .inl ⟨rfl, _, rfl⟩
  | none => exact .inr ⟨Bool.false_ne_true, rfl⟩

namespace Sink

theorem takesAll_of_takes {k : Sink} (hk : ∀ before piece, k.takes before piece)
    (ts : List String) : k.TakesAll ts := by
  induction ts generalizing k with
  | nil => trivial
  | cons t ts ih => exact ⟨hk _ _, ih hk⟩

end Sink

namespace Renderer

variable {r : Renderer} {sc : Scope} {e : Element} {es : List Element} {error : ReportError}

/-! ## Elements -/

theorem amountWithPriceText_cases (sc : Scope) :
    (sc.PriceFits ∧ ∃ text, amountWithPriceText sc = .ok text) ∨
      (¬sc.PriceFits ∧ amountWithPriceText sc = .error (.value (.amount .overflow))) := by
  rw [amountWithPriceText]
  split
  · rename_i hnone
    refine .inl ⟨fun x cost hx => ?_, _, rfl⟩
    cases hnone.symm.trans hx
  · rename_i x hx
    split
    · rename_i cost hcost hzero
      rw [Scope.priceFits_iff hx hcost hzero]
      rcases cost.perUnit_cases hzero with ⟨hlt, price, hprice⟩ | ⟨hge, hprice⟩
      · exact .inl ⟨hlt, _, by rw [hprice]⟩
      · exact .inr ⟨hge, by rw [hprice]⟩
    · rename_i hnot
      refine .inl ⟨fun x' cost hx' hcost hzero => ?_, _, rfl⟩
      cases hx.symm.trans hx'
      exact absurd hzero (hnot cost hcost)

/-- The only field but values that may have no text is an amount with its price. -/
theorem elementText_error_iff (he : e.field.isValue = false) :
    r.elementText sc e = .error error ↔
      e.field = .amountWithPrice ∧ ¬sc.PriceFits ∧ error = .value (.amount .overflow) := by
  rw [elementText, cellOf]
  cases hfield : e.field with
  | expression | amount | total =>
    rw [hfield] at he
    cases he
  | amountWithPrice =>
    simp only
    rcases amountWithPriceText_cases sc with ⟨hfits, text, htext⟩ | ⟨hfits, htext⟩
    · rw [htext]
      exact ⟨fun h => (by cases h), fun h => absurd hfits h.2.1⟩
    · rw [htext]
      constructor
      · rintro ⟨⟩
        exact ⟨trivial, hfits, rfl⟩
      · rintro ⟨-, -, rfl⟩
        rfl
  | _ => simp [Except.map]

/-! ## Templates -/

/-- The texts are found up to the first element that has none. -/
theorem texts_eq_ok_iff :
    (r.texts sc es).2 = .ok () ↔ ∀ e ∈ es, ∀ error, r.elementText sc e ≠ .error error := by
  induction es with
  | nil => exact ⟨fun _ _ he => (by cases he), fun _ => rfl⟩
  | cons e es ih =>
    rw [texts, List.forall_mem_cons]
    cases he : r.elementText sc e with
    | error error => exact ⟨fun h => (by cases h), fun h => absurd rfl (h.1 error)⟩
    | ok text =>
      have hok (error : ReportError) : Except.ok text ≠ .error error := by simp
      rw [and_iff_right hok]
      exact ih

theorem exists_of_texts_error (h : (r.texts sc es).2 = .error error) :
    ∃ e ∈ es, r.elementText sc e = .error error := by
  induction es with
  | nil => cases h
  | cons e es ih =>
    rw [texts] at h
    cases he : r.elementText sc e with
    | error error' =>
      rw [he] at h
      cases h
      exact ⟨e, .head _, he⟩
    | ok text =>
      rw [he] at h
      obtain ⟨e', he', herror⟩ := ih h
      exact ⟨e', .tail _ he', herror⟩

/-- Without values, the texts are found just if the prices fit. -/
theorem plain_texts_eq_ok_iff (hplain : ∀ e ∈ es, e.field.isValue = false) :
    (r.texts sc es).2 = .ok () ↔ (∀ e ∈ es, e.field ≠ .amountWithPrice) ∨ sc.PriceFits := by
  rw [texts_eq_ok_iff]
  constructor
  · intro h
    by_contra hnot
    obtain ⟨hprice, hfits⟩ := not_or.1 hnot
    simp only [not_forall, not_not] at hprice
    obtain ⟨e, he, hfield⟩ := hprice
    exact h e he _ ((elementText_error_iff (hplain e he)).2 ⟨hfield, hfits, rfl⟩)
  · intro h e he error herror
    obtain ⟨hfield, hfits, -⟩ := (elementText_error_iff (hplain e he)).1 herror
    exact h.elim (fun hnone => hnone e he hfield) hfits

/-- A template is written as far as its texts go, or up to the first piece that is refused. -/
theorem exec_render_cases (r : Renderer) (t : Template) (sc : Scope) (k : Sink) :
    (r.render t sc).exec k = ((r.texts sc t.elements).2, k.after (r.texts sc t.elements).1) ∨
      (∃ before piece, k.takes before piece = false) ∧
        ((r.render t sc).exec k).1 = .error .write := by
  by_cases hk : k.TakesAll (r.texts sc t.elements).1
  · exact .inl (exec_forM_writeElement r sc hk)
  · obtain ⟨before, text, later, htexts, hbefore, hrefused⟩ := Sink.exists_refused hk
    have hrun : (r.render t sc).exec k = _ :=
      exec_forM_writeElement_cut r sc htexts hbefore hrefused
    exact .inr ⟨⟨_, text, hrefused⟩, by rw [hrun]⟩

/-- A template without values is written to a sink that takes everything, unless it has an amount
with a price that does not fit.  Whatever the template and the sink, if writing fails, then a value
has failed, such a price has overflowed, or the sink has refused a piece. -/
theorem plain_line_written_iff (r : Renderer) (t : Template) (sc : Scope) (k : Sink) :
    ((∀ e ∈ t.elements, e.field.isValue = false) → (∀ before piece, k.takes before piece) →
      (((r.render t sc).exec k).1 = .ok () ↔
        (∀ e ∈ t.elements, e.field ≠ .amountWithPrice) ∨ sc.PriceFits)) ∧
    ∀ error, ((r.render t sc).exec k).1 = .error error →
      (∃ e ∈ t.elements, e.field.isValue ∧ r.elementText sc e = .error error) ∨
      (error = .value (.amount .overflow) ∧ ¬sc.PriceFits ∧
        ∃ e ∈ t.elements, e.field = .amountWithPrice) ∨
      (error = .write ∧ ∃ before piece, k.takes before piece = false) := by
  constructor
  · intro hplain hk
    rw [← plain_texts_eq_ok_iff hplain]
    exact iff_of_eq (congrArg (·.1 = _) (exec_forM_writeElement r sc (Sink.takesAll_of_takes hk _)))
  · intro error herror
    rcases exec_render_cases r t sc k with hrun | ⟨hrefused, hrun⟩
    · rw [hrun] at herror
      obtain ⟨e, he, htext⟩ := exists_of_texts_error herror
      cases hvalue : e.field.isValue with
      | true => exact .inl ⟨e, he, hvalue, htext⟩
      | false =>
        obtain ⟨hfield, hfits, hoverflow⟩ := (elementText_error_iff hvalue).1 htext
        exact .inr (.inl ⟨hoverflow, hfits, e, he, hfield⟩)
    · exact .inr (.inr ⟨Except.error.inj (herror.symm.trans hrun), hrefused⟩)

/-- A transaction of this quantity at this cost. -/
def purchase (quantity cost : Decimal) : Transaction where
  account := .detached
  amount := { quantity }
  cost := some { quantity := cost }
  id := 0
  entry := 0

/-- A scope with nothing but this transaction. -/
def bareScope (x : Transaction) : Scope where
  journal := {}
  state := {}
  now := .midnight .earliest
  transaction := some x

theorem priceFits_purchase {quantity cost : Decimal} (h : quantity.isZero = false) :
    (bareScope (purchase quantity cost)).PriceFits ↔
      |cost.toRat / quantity.toRat| < Decimal.limit - 1 / 2 := by
  have hx : (bareScope (purchase quantity cost)).transaction = some (purchase quantity cost) := rfl
  have hcost : (purchase quantity cost).cost = some { quantity := cost } := rfl
  rw [Scope.priceFits_iff hx hcost h, purchase]

/-- A line with an amount and its price. -/
def priceLine : Template := ⟨[{ field := .amountWithPrice }], "%o"⟩

theorem isValue_priceLine : ∀ e ∈ priceLine.elements, e.field.isValue = false := by decide

/-- The least decimal above zero. -/
def least : Decimal := Balance.leastDollar.quantity

/-- The largest decimal. -/
def largest : Decimal := .whole false 79228162514264337593543950335 (by decide)

theorem toRat_least : least.toRat = 1 / 10000000000000000000000000000 := by
  norm_num [least, Balance.toRat_leastDollar, Decimal.unit, Decimal.tens, Decimal.maxPlaces]

theorem toRat_largest : largest.toRat = Decimal.limit - 1 := by
  norm_num [largest, Decimal.toRat_whole, Decimal.limit]

/-- The largest decimal can be bought for the least. -/
theorem plain_line_written_iff_purchase :
    Renderer.ofSettings {} = .ok Opening.ofErrands.renderer ∧
      ((Opening.ofErrands.renderer.render priceLine (bareScope (purchase largest least))).exec
        .unlimited).1 = .ok () := by
  refine ⟨Opening.ofSettings_default, ?_⟩
  obtain ⟨hwritten, -⟩ := plain_line_written_iff Opening.ofErrands.renderer priceLine
    (bareScope (purchase largest least)) .unlimited
  refine (hwritten isValue_priceLine fun _ _ => rfl).2 (.inr ?_)
  rw [priceFits_purchase (by decide), toRat_least, toRat_largest, Decimal.limit]
  norm_num [abs_of_pos]

/-- The least decimal for which the largest was paid has no price, so that its line is not
written. -/
theorem price_overflows :
    Renderer.ofSettings {} = .ok Opening.ofErrands.renderer ∧
      (∀ e ∈ priceLine.elements, e.field.isValue = false) ∧
      (∀ before piece, Sink.unlimited.takes before piece) ∧
      ((Opening.ofErrands.renderer.render priceLine (bareScope (purchase least largest))).exec
        .unlimited).1 = .error (.value (.amount .overflow)) := by
  have hfits : ¬(bareScope (purchase least largest)).PriceFits := by
    rw [priceFits_purchase (by decide), toRat_least, toRat_largest, Decimal.limit]
    norm_num [abs_of_pos]
  have htext : Opening.ofErrands.renderer.elementText (bareScope (purchase least largest))
      { field := .amountWithPrice } = .error (.value (.amount .overflow)) :=
    (elementText_error_iff rfl).2 ⟨rfl, hfits, rfl⟩
  have htexts : (Opening.ofErrands.renderer.texts (bareScope (purchase least largest))
      priceLine.elements).2 = .error (.value (.amount .overflow)) := by
    rw [priceLine, texts, htext]
  have hrun : (Opening.ofErrands.renderer.render priceLine
      (bareScope (purchase least largest))).exec .unlimited = _ :=
    exec_forM_writeElement _ _ (Sink.takesAll_of_takes (fun _ _ => rfl) _)
  exact ⟨Opening.ofSettings_default, isValue_priceLine, fun _ _ => rfl, by rw [hrun, htexts]⟩

end Renderer

end Bookkeeping
