import Bookkeeping.Value.Basic

/-!
# Arithmetic of values

Sums widen as they go: amounts of different commodities add up to a balance, and a balance that is
left with one commodity becomes an amount again.  Products and quotients need a single amount on
the side that scales.
-/

namespace Bookkeeping

namespace Value

/-- A value, or overflow when there is none. -/
def orOverflow (n : Option Whole) : Except ValueError Value :=
  match n with
  | some n => .ok (.integer n)
  | none => .error .overflow

/-- The state after a step on balances, with its error as an error of values. -/
def afterStep {σ : Type} (x : Attempt σ BalanceError Unit) (s : σ) : Except ValueError σ :=
  (x.after s).mapError .balance

/-- The pair with a value added. -/
def addToPair (p : BalancePair) (v : Value) : Except ValueError Value :=
  match v with
  | pair q => (afterStep (BalancePair.addPair q) p).map .pair
  | v =>
    match v.toBalance? with
    | some b => (afterStep (BalancePair.addPair { quantity := b }) p).map .pair
    | none => .error (mismatch "addition" (.pair p) v)

/-- The sum of two amounts; amounts of different commodities make a balance. -/
def addAmounts (a b : Amount) : Except ValueError Value :=
  match a.add b with
  | .ok sum => .ok (.amount sum)
  | .error (.mismatch ..) => (((Balance.ofAmount a).addAmount b).mapError .balance).map ofBalance
  | .error e => .error (.amount e)

/-- The sum of two values viewed as balances. -/
def addBalances (u v : Value) : Except ValueError Value :=
  match u.toBalance?, v.toBalance? with
  | some b, some c => (afterStep (Balance.addBalance c) b).map ofBalance
  | _, _ => .error (mismatch "addition" u v)

/-- The sum of two values. -/
def add : Value → Value → Except ValueError Value
  | null, v => .ok v
  | u, null => .ok u
  | integer m, integer n => orOverflow (m.add? n)
  | pair p, v => addToPair p v
  | u, pair p => addToPair p u
  | amount a, amount b => addAmounts a b
  | u, v => addBalances u v

/-- The value with the other sign. -/
def neg : Value → Except ValueError Value
  | null => .ok null
  | integer n => orOverflow n.neg?
  | amount a => .ok (.amount a.neg)
  | balance b => .ok (.balance b.neg)
  | pair p => .ok (.pair p.neg)
  | v => .error (.mismatch "negation" "number" v.kind)

/-- The difference of two values. -/
def sub (u v : Value) : Except ValueError Value := v.neg.bind u.add

/-- The product of two single amounts. -/
def mulAmounts (u v : Value) : Except ValueError Value :=
  match u.toAmount?, v.toAmount? with
  | some a, some b => ((a.mul b).mapError .amount).map .amount
  | _, _ => .error (mismatch "multiplication" u v)

/-- The product of two values; a balance is scaled by a single amount. -/
def mul (u v : Value) : Except ValueError Value :=
  let scale (b : Balance) (n : Value) : Except ValueError Value :=
    match n.toAmount? with
    | some factor => (afterStep (Balance.mulBy factor) b).map ofBalance
    | none => .error (mismatch "multiplication" u v)
  match u, v with
  | integer m, integer n => orOverflow (m.mul? n)
  | balance b, n => scale b n
  | n, balance b => scale b n
  | u, v => mulAmounts u v

/-- The quotient of two values; a balance stays a balance. -/
def div (u v : Value) : Except ValueError Value :=
  if v.sign? = some 0 then .error .divisionByZero
  else
    match u, v with
    | integer m, integer n => ((m.toAmount.div n.toAmount).mapError .amount).map .amount
    | balance b, n =>
      match n.toAmount? with
      | some divisor => (afterStep (Balance.divBy divisor) b).map .balance
      | none => .error (mismatch "division" u v)
    | u, v =>
      match u.toAmount?, v.toAmount? with
      | some a, some b => ((a.div b).mapError .amount).map .amount
      | _, _ => .error (mismatch "division" u v)

end Value

end Bookkeeping
