import Bookkeeping.Mask.Basic
import Bookkeeping.Value.Arithmetic
import Bookkeeping.Value.Order

/-!
# Expressions

An `Expr` computes a value from literals, from what is known of the record being reported on, from
account masks and from operators.  `apply` gives the meaning of the operators on values, and `fold`
replaces operations on literals by their results where they have one.
-/

namespace Bookkeeping

/-- The operators between two operands. -/
inductive BinaryOp where
  | add | sub | mul | div
  | eq | ne | lt | gt | le | ge
  | and | or
deriving DecidableEq

namespace BinaryOp

/-- How tightly the operator binds, from 1. -/
def precedence : BinaryOp → Nat
  | or => 1
  | and => 2
  | eq | ne => 3
  | lt | gt | le | ge => 4
  | add | sub => 5
  | mul | div => 6

/-- The operator as it is written. -/
def text : BinaryOp → String
  | add => "+"
  | sub => "-"
  | mul => "*"
  | div => "/"
  | eq => "=="
  | ne => "!="
  | lt => "<"
  | gt => ">"
  | le => "<="
  | ge => ">="
  | and => "&&"
  | or => "||"

/-- The operator applied to two values. -/
def apply (op : BinaryOp) (u v : Value) : Except ValueError Value :=
  match op with
  | add => u.add v
  | sub => u.sub v
  | mul => u.mul v
  | div => u.div v
  | eq => .ok (.boolean (u.same v))
  | ne => .ok (.boolean !(u.same v))
  | lt => (u.compare v).map fun o => .boolean (o == .lt)
  | gt => (u.compare v).map fun o => .boolean (o == .gt)
  | le => (u.compare v).map fun o => .boolean (o != .gt)
  | ge => (u.compare v).map fun o => .boolean (o != .lt)
  | and => .ok (.boolean (u.isTruthy && v.isTruthy))
  | or => .ok (.boolean (u.isTruthy || v.isTruthy))

end BinaryOp

/-- The operators before an operand. -/
inductive UnaryOp where
  | neg
  | not
deriving DecidableEq

namespace UnaryOp

/-- The operator applied to a value. -/
def apply (op : UnaryOp) (v : Value) : Except ValueError Value :=
  match op with
  | neg => v.neg
  | not => .ok (.boolean !v.isTruthy)

end UnaryOp

/-- What an expression can ask about the record being reported on. -/
inductive Variable where
  | amount | total | cost
  | date | now
  | depth
  | cleared | pending
  | real | virtual
  | count
deriving DecidableEq

namespace Variable

/-- The variable with this name, long or of one letter. -/
def ofName? : String → Option Variable
  | "amount" | "a" => some amount
  | "total" | "t" => some total
  | "cost" | "b" => some cost
  | "date" | "d" => some date
  | "now" | "m" => some now
  | "depth" | "l" => some depth
  | "cleared" | "X" => some cleared
  | "pending" => some pending
  | "real" | "R" => some real
  | "virtual" => some virtual
  | "count" | "N" => some count
  | _ => none

/-- The long name of the variable. -/
def name : Variable → String
  | amount => "amount"
  | total => "total"
  | cost => "cost"
  | date => "date"
  | now => "now"
  | depth => "depth"
  | cleared => "cleared"
  | pending => "pending"
  | real => "real"
  | virtual => "virtual"
  | count => "count"

theorem ofName?_name (v : Variable) : ofName? v.name = some v := by
  cases v <;> rfl

end Variable

/-- What computes a value. -/
inductive Expr where
  | literal (v : Value)
  /-- What is known of the record being reported on. -/
  | known (x : Variable)
  /-- The path of the account is one that the mask holds of. -/
  | mask (m : Mask)
  | binary (op : BinaryOp) (l r : Expr)
  | unary (op : UnaryOp) (e : Expr)

namespace Expr

instance : Inhabited Expr := ⟨literal .null⟩

/-- The expression is a literal. -/
def isLiteral : Expr → Bool
  | literal _ => true
  | _ => false

/-- The same tree, with equal literals and with masks written alike. -/
def same : Expr → Expr → Bool
  | literal u, literal v => u.same v
  | known x, known y => x == y
  | mask m, mask n => m.source == n.source
  | binary op l r, binary op' l' r' => op == op' && l.same l' && r.same r'
  | unary op e, unary op' e' => op == op' && e.same e'
  | _, _ => false

/-- The operation on two folded operands: its result if both are literals and it has one. -/
def foldBinary (op : BinaryOp) (l r : Expr) : Expr :=
  match l, r with
  | literal u, literal v =>
    match op.apply u v with
    | .ok w => literal w
    | .error _ => binary op l r
  | _, _ => binary op l r

/-- The operation on a folded operand: its result if that is a literal and it has one. -/
def foldUnary (op : UnaryOp) (e : Expr) : Expr :=
  match e with
  | literal v =>
    match op.apply v with
    | .ok w => literal w
    | .error _ => unary op e
  | _ => unary op e

/-- The expression with its operations on literals carried out where they succeed. -/
def fold : Expr → Expr
  | binary op l r => foldBinary op l.fold r.fold
  | unary op e => foldUnary op e.fold
  | e => e

end Expr

end Bookkeeping
