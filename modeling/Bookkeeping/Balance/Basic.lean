import Bookkeeping.Amount.Basic
import Bookkeeping.Attempt
import Bookkeeping.Index
import Bookkeeping.Text.Pad

/-!
# Balances

A `Balance` holds one amount of each of any number of commodities, under their symbols and in the
order of the symbols; bare numbers count as a commodity of their own.  Amounts are added one by one
(`addAmount`), and a component that reaches zero is dropped.  The operations that touch several
components are attempts: when one component fails, those before it stay changed.
-/

namespace Bookkeeping

/-- What can go wrong with balances. -/
inductive BalanceError where
  /-- No amount can stand for an empty balance. -/
  | empty
  /-- No amount can stand for several commodities. -/
  | several
  | amount (error : AmountError)
deriving DecidableEq

namespace BalanceError

/-- The wording of the error. -/
def message : BalanceError → String
  | empty => "Cannot convert an empty balance to an amount"
  | several => "Cannot convert a balance with multiple commodities to an amount"
  | amount e => "Amount operation failed: " ++ e.message

end BalanceError

/-- Amounts of different commodities, by symbol. -/
structure Balance where
  held : Index String Amount

namespace Balance

/-- The balance that holds nothing. -/
def empty : Balance := ⟨.empty⟩

instance : Inhabited Balance := ⟨empty⟩

/-- The amounts in the order of their symbols. -/
def amounts (b : Balance) : List Amount := b.held.values

/-- The amount held under a symbol. -/
def amount? (b : Balance) (symbol : String) : Option Amount := b.held.get? symbol

/-- The number of commodities held. -/
def count (b : Balance) : Nat := b.held.size

/-- Nothing is held. -/
def isEmpty (b : Balance) : Bool := b.amounts.isEmpty

/-- Every amount held is zero. -/
def isZero (b : Balance) : Bool := b.amounts.all Amount.isZero

/-- Some amount is below zero. -/
def hasNegative (b : Balance) : Bool := b.amounts.any (·.sign < 0)

/-- Some amount is above zero. -/
def hasPositive (b : Balance) : Bool := b.amounts.any (0 < ·.sign)

/-- The only amount held. -/
def single? (b : Balance) : Option Amount :=
  match b.amounts with
  | [a] => some a
  | _ => none

/-- The amount that stands for the whole balance. -/
def toAmount (b : Balance) : Except BalanceError Amount :=
  match b.amounts with
  | [] => .error .empty
  | [a] => .ok a
  | _ => .error .several

/-- The balances hold equal amounts under the same symbols. -/
def same (a b : Balance) : Bool :=
  a.held.keys == b.held.keys && (a.amounts.zip b.amounts).all fun (x, y) => x.same y

/-! ## Adding -/

/-- The balance with this amount under a symbol, or without the symbol if the amount is zero. -/
def store (b : Balance) (symbol : String) (a : Amount) : Balance :=
  ⟨if a.isZero then b.held.erase symbol else b.held.insert symbol a⟩

/-- The balance of one amount; a zero is nothing. -/
def ofAmount (a : Amount) : Balance := empty.store a.symbol a

/-- The balance with an amount added to what it holds of that commodity. -/
def addAmount (b : Balance) (a : Amount) : Except BalanceError Balance :=
  match b.amount? a.symbol with
  | none => .ok (b.store a.symbol a)
  | some held =>
    match held.add a with
    | .ok sum => .ok (b.store a.symbol sum)
    | .error e => .error (.amount e)

/-- The balance with an amount taken away. -/
def subAmount (b : Balance) (a : Amount) : Except BalanceError Balance := b.addAmount a.neg

/-- Adds the amounts of another balance one after the other. -/
def addBalance (other : Balance) : Attempt Balance BalanceError Unit :=
  other.amounts.forM fun a => Attempt.update (·.addAmount a)

/-! ## Scaling -/

/-- Applies a function to the amounts in order, up to the first that fails. -/
def mapAmounts (f : Amount → Except AmountError Amount) : Attempt Balance BalanceError Unit :=
  Attempt.ofExec fun b => ((b.held.mapUntil f).1.mapError .amount, ⟨(b.held.mapUntil f).2⟩)

/-- Multiplies every amount by a number, then drops those that have become zero. -/
def mulBy (factor : Amount) : Attempt Balance BalanceError Unit := do
  mapAmounts (·.mul factor.number)
  modify fun b => ⟨b.held.filter fun _ a => !a.isZero⟩

/-- Divides every amount by a number. -/
def divBy (divisor : Amount) : Attempt Balance BalanceError Unit :=
  mapAmounts (·.div divisor.number)

/-- The balance with every amount negated. -/
def neg (b : Balance) : Balance := ⟨b.held.mapValues Amount.neg⟩

/-! ## Text -/

/-- The amounts one to a line, to the right of `first` columns and from the second line on of
`next` columns; nothing is written as `0`. -/
def textIn (first next : Nat) (b : Balance) : String :=
  match b.amounts with
  | [] => Text.padLeft first "0"
  | a :: rest =>
    rest.foldl (fun s a => s ++ "\n" ++ Text.padLeft next a.text) (Text.padLeft first a.text)

/-- The amounts one to a line. -/
def text (b : Balance) : String := b.textIn 0 0

end Balance

end Bookkeeping
