import Bookkeeping.Expr.Formula
import Bookkeeping.Journal.Tree
import Bookkeeping.Mask.Walk
import Bookkeeping.Report.Scope

/-!
# The value of expressions

`Expr.eval` computes an expression in a scope.  Operands are evaluated from left to right; `&&` and
`||` do not look at their right side when the left one settles the answer.
-/

namespace Bookkeeping

namespace Variable

/-- What the scope knows under the variable. -/
def eval (s : Scope) : Variable → Value
  | amount => s.amount
  | total => s.total
  | cost => s.cost
  | date =>
    match s.actualDate with
    | some d => .dateTime (.midnight d)
    | none => .null
  | now => .dateTime s.now
  | depth => .integer (.ofCount ((s.account.map (·.depth)).getD 0))
  | cleared => .boolean (s.clearing == some .cleared)
  | pending => .boolean (s.clearing == some .pending)
  | real => .boolean !s.isVirtual
  | virtual => .boolean s.isVirtual
  | count => .integer (.ofCount s.count)

end Variable

namespace Mask

/-- The mask holds of the path of the scope's account. -/
def holdsIn (m : Mask) (s : Scope) : Bool := s.account.any fun a => m.holds (s.journal.fullname a)

end Mask

namespace Expr

/-- The value of the expression in a scope. -/
def eval (s : Scope) : Expr → Except ValueError Value
  | literal v => .ok v
  | known x => .ok (x.eval s)
  | mask m => .ok (.boolean (m.holdsIn s))
  | binary .and l r => do
    if (← l.eval s).isTruthy then return .boolean (← r.eval s).isTruthy
    else return .boolean false
  | binary .or l r => do
    if (← l.eval s).isTruthy then return .boolean true
    else return .boolean (← r.eval s).isTruthy
  | binary op l r => do op.apply (← l.eval s) (← r.eval s)
  | unary op e => do op.apply (← e.eval s)

end Expr

namespace Formula

/-- The value of the formula in a scope. -/
def eval (s : Scope) (f : Formula) : Except ValueError Value := f.expr.eval s

end Formula

end Bookkeeping
