import Bookkeeping.Value.Basic

/-!
# Equality and order of values

Truth values, whole numbers and times are compared with their own kind; everything else is viewed
as a balance.  Balances of at most one amount compare by quantity, where a bare number goes with
any commodity; a balance of several amounts compares with zero alone, and only if its amounts have
one sign.
-/

namespace Bookkeeping

namespace Value

/-- The one amount of a balance that holds at most one. -/
def atMostOne? (b : Balance) : Option Amount :=
  match b.amounts with
  | [] => some .zero
  | [a] => some a
  | _ => none

/-- How a balance compares with zero, if its amounts agree. -/
def compareZero? (b : Balance) : Option Ordering :=
  match b.hasNegative, b.hasPositive with
  | true, true => none
  | true, false => some .lt
  | false, true => some .gt
  | false, false => some .eq

/-- How two balances compare, if they do. -/
def compareBalances? (b c : Balance) : Option Ordering :=
  match atMostOne? b, atMostOne? c with
  | some x, some y =>
    if x.commodity.isSome && y.commodity.isSome && x.symbol != y.symbol then none
    else some (x.quantity.compare y.quantity)
  | none, some y => if y.isZero then compareZero? b else none
  | some x, none => if x.isZero then (compareZero? c).map Ordering.swap else none
  | none, none => none

/-- The order of two values. -/
def compare (u v : Value) : Except ValueError Ordering :=
  match u, v with
  | boolean a, boolean b => .ok (Ord.compare a b)
  | integer m, integer n => .ok (Ord.compare m.val n.val)
  | dateTime s, dateTime t => .ok (s.compare t)
  | u, v =>
    match u.toBalance?, v.toBalance? with
    | some b, some c =>
      match compareBalances? b c with
      | some o => .ok o
      | none => .error (mismatch "comparison" u v)
    | _, _ => .error (mismatch "comparison" u v)

/-- The values are equal. -/
def same (u v : Value) : Bool :=
  match u, v with
  | boolean a, boolean b => a == b
  | dateTime s, dateTime t => s == t
  | integer m, integer n => m == n
  | u, v =>
    match u.toBalance?, v.toBalance? with
    | some b, some c => b.same c
    | _, _ => false

end Value

end Bookkeeping
