import Bookkeeping.Attempt
import Bookkeeping.Expr.Token
import Bookkeeping.Template.Reader

/-!
# Where reports are written

A `Sink` receives a report piece by piece.  It may refuse a piece, of which nothing is written then;
later pieces are still offered to it.  `ReportError` collects all that can stop a report.
-/

namespace Bookkeeping

/-- What can stop a report. -/
inductive ReportError where
  /-- A template has no reading. -/
  | template (error : TemplateError)
  /-- An expression has no reading. -/
  | expression (error : SyntaxError)
  /-- An expression has no value. -/
  | value (error : ValueError)
  /-- The sink refused a piece. -/
  | write
deriving DecidableEq

namespace ReportError

/-- The wording of the error. -/
def message : ReportError → String
  | template e => e.message
  | expression e => e.message
  | value e => e.message
  | write => "Failed to write report output"

end ReportError

/-- A receiver of pieces of text. -/
structure Sink where
  /-- Whether a piece is taken, by the pieces before it. -/
  takes : List String → String → Bool
  /-- The pieces written so far. -/
  pieces : List String := []

namespace Sink

/-- The sink that takes everything. -/
def unlimited : Sink := { takes := fun _ _ => true }

/-- The number of bytes of the pieces. -/
def bytes (pieces : List String) : Nat := (pieces.map String.utf8ByteSize).foldr (· + ·) 0

/-- The sink that takes what fits into a number of bytes. -/
def limited (room : Nat) : Sink where
  takes before piece := bytes before + piece.utf8ByteSize ≤ room

instance : Inhabited Sink := ⟨unlimited⟩

/-- The text written so far. -/
def text (k : Sink) : String := String.join k.pieces

/-- Writes a piece, unless the sink refuses it. -/
def write (piece : String) : Attempt Sink ReportError Unit :=
  .update fun k =>
    if k.takes k.pieces piece then .ok { k with pieces := k.pieces ++ [piece] }
    else .error .write

end Sink

end Bookkeeping
