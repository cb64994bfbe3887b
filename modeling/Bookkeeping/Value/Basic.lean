import Bookkeeping.Balance.Pair
import Bookkeeping.Calendar.Pattern
import Bookkeeping.Text.Numeral
import Bookkeeping.Whole

/-!
# Values

A `Value` is what an expression comes to: nothing, a truth value, a whole number, a time, an
amount, a balance, or a balance with its cost.  All but truth values and times can be viewed as a
balance (`toBalance?`); this view is what sums and comparisons of mixed kinds rest on.
-/

namespace Bookkeeping

/-- What an expression comes to. -/
inductive Value where
  | null
  | boolean (b : Bool)
  | integer (n : Whole)
  | dateTime (t : DateTime)
  | amount (a : Amount)
  | balance (b : Balance)
  | pair (p : BalancePair)

/-- What can go wrong with values. -/
inductive ValueError where
  /-- The operation does not apply to values of these kinds. -/
  | mismatch (operation left right : String)
  | divisionByZero
  | overflow
  | amount (error : AmountError)
  | balance (error : BalanceError)
deriving DecidableEq

namespace ValueError

/-- The wording of the error. -/
def message : ValueError → String
  | mismatch operation l r => "Type mismatch in " ++ operation ++ ": " ++ l ++ " and " ++ r
  | divisionByZero => "Division by zero"
  | overflow => "Arithmetic overflow"
  | amount e => e.message
  | balance e => e.message

end ValueError

namespace Whole

theorem natAbs_val_lt (n : Whole) : n.val.natAbs < 79228162514264337593543950336 := by
  have := n.le_val
  have := n.val_lt
  omega

/-- The whole number as a decimal without places. -/
def toDecimal (n : Whole) : Decimal := .whole (n.val < 0) n.val.natAbs n.natAbs_val_lt

/-- The whole number as a bare amount. -/
def toAmount (n : Whole) : Amount := { quantity := n.toDecimal }

end Whole

namespace Amount

/-- The bare amount zero. -/
def zero : Amount := { quantity := .zero }

end Amount

namespace Value

instance : Inhabited Value := ⟨null⟩

/-- The kind of the value, as messages name it. -/
def kind : Value → String
  | null => "null"
  | boolean _ => "boolean"
  | integer _ => "integer"
  | dateTime _ => "datetime"
  | amount _ => "amount"
  | balance _ => "balance"
  | pair _ => "balance pair"

/-- The error of an operation that does not apply to the two values. -/
def mismatch (operation : String) (u v : Value) : ValueError :=
  .mismatch operation u.kind v.kind

/-- The value is nothing. -/
def isNull : Value → Bool
  | null => true
  | _ => false

/-- The value counts as true: times do, and numbers other than zero. -/
def isTruthy : Value → Bool
  | null => false
  | boolean b => b
  | integer n => n.val != 0
  | dateTime _ => true
  | amount a => !a.isZero
  | balance b => !b.isZero
  | pair p => !p.quantity.isZero

/-- The sign of a balance: negative as soon as one component is. -/
def balanceSign (b : Balance) : Int := if b.hasNegative then -1 else if b.hasPositive then 1 else 0

/-- The sign of a number of any kind. -/
def sign? : Value → Option Int
  | integer n => some n.val.sign
  | amount a => some a.sign
  | balance b => some (balanceSign b)
  | pair p => some (balanceSign p.quantity)
  | _ => none

/-- The value viewed as a balance. -/
def toBalance? : Value → Option Balance
  | null => some .empty
  | integer n => some (.ofAmount n.toAmount)
  | amount a => some (.ofAmount a)
  | balance b => some b
  | pair p => some p.quantity
  | boolean _ | dateTime _ => none

/-- The value viewed as a single amount. -/
def toAmount? : Value → Option Amount
  | null => some .zero
  | integer n => some n.toAmount
  | amount a => some a
  | balance b => b.single?
  | pair p => p.quantity.single?
  | boolean _ | dateTime _ => none

/-- The amounts of a value that may hold several. -/
def components? : Value → Option (List Amount)
  | balance b => some b.amounts
  | pair p => some p.quantity.amounts
  | _ => none

/-- The simplest value that stands for a balance: an amount when at most one is held. -/
def ofBalance (b : Balance) : Value :=
  match b.amounts with
  | [] => .amount .zero
  | [a] => .amount a
  | _ => .balance b

/-- The text of the value. -/
def text : Value → String
  | null => ""
  | boolean b => if b then "true" else "false"
  | integer n => Text.intText n.val
  | dateTime t => t.text
  | amount a => a.text
  | balance b => b.text
  | pair p => p.quantity.text

end Value

end Bookkeeping
