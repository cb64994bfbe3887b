import Bookkeeping.Balance.Basic

/-!
# Balances with their cost

A `BalancePair` is a balance with the balance of what was paid for it.  The cost side appears with
the first cost; until then, and for whatever has no cost of its own, the cost is the quantity.
-/

namespace Bookkeeping

/-- A quantity with what was paid for it, once any cost is known. -/
structure BalancePair where
  quantity : Balance
  cost : Option Balance := none

namespace BalancePair

/-- The sides of both pairs are equal. -/
def same (a b : BalancePair) : Bool :=
  a.quantity.same b.quantity &&
    match a.cost, b.cost with
    | some c, some d => c.same d
    | none, none => true
    | _, _ => false

/-- A step on the quantity. -/
def onQuantity (x : Attempt Balance BalanceError Unit) : Attempt BalancePair BalanceError Unit :=
  x.onPart quantity fun q p => { p with quantity := q }

/-- A step on the cost side, if there is one. -/
def onCost (x : Attempt Balance BalanceError Unit) : Attempt BalancePair BalanceError Unit := do
  match (← get).cost with
  | none => pure ()
  | some c => x.onPart (fun _ => c) fun c p => { p with cost := some c }

/-- Lets the cost side begin as the quantity, if there is none. -/
def openCost : Attempt BalancePair BalanceError Unit :=
  modify fun p => { p with cost := some (p.cost.getD p.quantity) }

/-- Adds an amount, with its cost when one was paid. -/
def addAmount (a : Amount) (cost : Option Amount) : Attempt BalancePair BalanceError Unit := do
  if cost.isSome then openCost
  onQuantity (.update (·.addAmount a))
  onCost (.update (·.addAmount (cost.getD a)))

/-- Adds another pair, the cost side first. -/
def addPair (other : BalancePair) : Attempt BalancePair BalanceError Unit := do
  match (← get).cost, other.cost with
  | some _, theirs => onCost (Balance.addBalance (theirs.getD other.quantity))
  | none, some theirs =>
    let cost := (Balance.addBalance theirs).exec (← get).quantity
    Attempt.ofExcept cost.1
    modify fun p => { p with cost := some cost.2 }
  | none, none => pure ()
  onQuantity (Balance.addBalance other.quantity)

/-- Both sides negated. -/
def neg (p : BalancePair) : BalancePair := ⟨p.quantity.neg, p.cost.map Balance.neg⟩

end BalancePair

end Bookkeeping
