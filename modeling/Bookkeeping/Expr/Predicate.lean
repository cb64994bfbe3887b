import Bookkeeping.Expr.Eval

/-!
# Predicates

A `Predicate` is a formula asked for its truth.  Without text it accepts everything, and a formula
that folds to a literal is settled without a scope.
-/

namespace Bookkeeping

/-- A formula asked for its truth. -/
structure Predicate where
  /-- The formula with its operations on literals carried out. -/
  formula : Formula

namespace Predicate

/-- Reads the text of a predicate. -/
def read (text : String) : Except SyntaxError Predicate :=
  (Formula.read text).map fun f => { formula := f.fold }

/-- The answer that does not depend on the scope, if the formula is a literal; nothing at all counts
as true. -/
def constant? (p : Predicate) : Option Bool :=
  match p.formula.expr with
  | .literal v => some (v.isNull || v.isTruthy)
  | _ => none

/-- The predicate holds in the scope. -/
def holds (s : Scope) (p : Predicate) : Except ValueError Bool :=
  match p.constant? with
  | some b => .ok b
  | none => (p.formula.eval s).map Value.isTruthy

/-- The text of the predicate. -/
def source (p : Predicate) : String := p.formula.source

end Predicate

end Bookkeeping
