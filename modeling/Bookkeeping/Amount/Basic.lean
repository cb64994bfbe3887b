import Bookkeeping.Commodity
import Bookkeeping.Decimal.Arithmetic
import Bookkeeping.Decimal.Text

/-!
# Amounts

An `Amount` is a decimal quantity of a commodity, or a bare number.  Sums and comparisons need one
commodity on both sides, or a zero on one of them; products and quotients take the commodity of
the left operand, or of the right one when the left is bare.  `text` writes an amount the way its
commodity is written.
-/

namespace Bookkeeping

/-- What can go wrong with amounts. -/
inductive AmountError where
  | divisionByZero
  | overflow
  /-- The operands count different things. -/
  | mismatch (left right : String)
  /-- The text is no amount. -/
  | unreadable (text : String)
deriving DecidableEq

namespace AmountError

/-- The wording of the error. -/
def message : AmountError → String
  | divisionByZero => "Division by zero"
  | overflow => "Arithmetic overflow"
  | mismatch l r =>
    "Cannot perform operation on amounts with different commodities (" ++ l ++ " and " ++ r ++ ")"
  | unreadable text => "Cannot parse amount from string: " ++ text

end AmountError

/-- A quantity of a commodity, or a bare number. -/
structure Amount where
  quantity : Decimal
  commodity : Option Commodity := none
  /-- All places are shown, also beyond those of the commodity. -/
  unrounded : Bool := false
deriving DecidableEq

namespace Amount

/-- The symbol of the commodity, empty for a bare number. -/
def symbol (a : Amount) : String := (a.commodity.map Commodity.symbol).getD ""

/-- The sign of the quantity: `-1`, `0` or `1`. -/
def sign (a : Amount) : Int := a.quantity.sign

/-- The quantity is zero. -/
def isZero (a : Amount) : Bool := a.quantity.isZero

/-- The amount without its sign. -/
def abs (a : Amount) : Amount := { a with quantity := a.quantity.abs }

/-- The amount with the other sign; zero stays as it is. -/
def neg (a : Amount) : Amount := if a.isZero then a else { a with quantity := a.quantity.neg }

/-- The bare number. -/
def number (a : Amount) : Amount := { quantity := a.quantity }

/-- The amount with all its places shown. -/
def showAll (a : Amount) : Amount := { a with unrounded := true }

/-! ## Arithmetic -/

/-- The amounts may be added and compared: they count the same thing, or one of them is zero. -/
def compatible (a b : Amount) : Bool :=
  match a.commodity, b.commodity with
  | some c, some d => c.same d || a.isZero || b.isZero
  | none, none => true
  | _, _ => a.isZero || b.isZero

/-- The error of two amounts that are not compatible. -/
def mismatch (a b : Amount) : AmountError := .mismatch a.symbol b.symbol

/-- The commodity of a sum: of one commodity written in two ways the one with more places, else
that of a side that is not zero. -/
def sumCommodity (a b : Amount) : Option Commodity :=
  match a.commodity, b.commodity with
  | some c, some d =>
    if c.same d then (if c.precision < d.precision then some d else some c)
    else if a.isZero then some d else some c
  | some c, none => some c
  | none, d => d

/-- The sum. -/
def add (a b : Amount) : Except AmountError Amount :=
  if a.compatible b then
    match a.quantity.add? b.quantity with
    | some q => .ok { quantity := q, commodity := a.sumCommodity b }
    | none => .error .overflow
  else .error (a.mismatch b)

/-- The difference. -/
def sub (a b : Amount) : Except AmountError Amount := a.add b.neg

/-- The product. -/
def mul (a b : Amount) : Except AmountError Amount :=
  match a.quantity.mul? b.quantity with
  | some q => .ok { quantity := q, commodity := a.commodity <|> b.commodity }
  | none => .error .overflow

/-- The quotient. -/
def div (a b : Amount) : Except AmountError Amount :=
  if b.isZero then .error .divisionByZero
  else
    match a.quantity.div? b.quantity with
    | some q => .ok { quantity := q, commodity := a.commodity <|> b.commodity }
    | none => .error .overflow

/-- The price of one unit when `cost` was paid for `count`. -/
def perUnit (cost count : Amount) : Except AmountError Amount :=
  if count.isZero then .error .divisionByZero
  else
    match cost.quantity.div? count.quantity with
    | some q => .ok { quantity := q, commodity := cost.commodity }
    | none => .error .overflow

/-! ## Order -/

/-- The order of two compatible amounts. -/
def compare (a b : Amount) : Except AmountError Ordering :=
  if a.compatible b then .ok (a.quantity.compare b.quantity) else .error (a.mismatch b)

/-- The order of two amounts, none when they are not compatible. -/
def compare? (a b : Amount) : Option Ordering := (a.compare b).toOption

/-- The amounts are equal: all zeros are, others if symbol and quantity are. -/
def same (a b : Amount) : Bool :=
  (a.isZero && b.isZero) || (a.symbol == b.symbol && a.quantity.same b.quantity)

/-! ## Text -/

/-- The text of the quantity, never with the sign of a zero. -/
def quantityText (a : Amount) : String :=
  let q := if a.isZero then a.quantity.abs else a.quantity
  match a.commodity with
  | none => q.text
  | some c => q.textTo (if a.unrounded then max c.precision q.normalize.places else c.precision)

/-- The text of the amount. -/
def text (a : Amount) : String :=
  match a.commodity with
  | none => a.quantityText
  | some c => c.decorate a.quantityText

/-! ## First laws -/

theorem symbol_neg (a : Amount) : a.neg.symbol = a.symbol := by
  unfold neg
  split <;> rfl

theorem isZero_neg (a : Amount) : a.neg.isZero = a.isZero := by
  unfold neg
  split <;> rfl

end Amount

end Bookkeeping
