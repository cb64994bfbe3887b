import Bookkeeping.Expr.Parser
import Bookkeeping.Text.Blank

/-!
# Formulas

A `Formula` is an expression with the text it was read from.  A blank text is the formula whose
value is nothing.
-/

namespace Bookkeeping

/-- An expression with the text it was read from. -/
structure Formula where
  expr : Expr
  source : String

namespace Formula

/-- Reads the text of a formula. -/
def read (text : String) : Except SyntaxError Formula :=
  if Text.isBlankText text then .ok { expr := .literal .null, source := text }
  else (Expr.read text).map fun expr => { expr, source := text }

/-- The formula with its operations on literals carried out. -/
def fold (f : Formula) : Formula := { f with expr := f.expr.fold }

/-- The formula is a literal. -/
def isLiteral (f : Formula) : Bool := f.expr.isLiteral

/-- Equal expressions from the same text. -/
def same (f g : Formula) : Bool := f.expr.same g.expr && f.source == g.source

end Formula

end Bookkeeping
