/-!
# Templates

A `Template` is a list of elements.  Each writes a field of a record in a layout: a least and a
greatest width, padding on one side or the other, and perhaps colour.
-/

namespace Bookkeeping

/-- The record that a position belongs to. -/
inductive PositionOf where
  | entry
  | transaction
deriving DecidableEq

/-- The end of a record in its source, by offset or by line. -/
inductive PositionMark where
  | startOffset
  | startLine
  | endOffset
  | endLine
deriving DecidableEq

/-- What an element writes. -/
inductive Field where
  | literal (text : String)
  /-- The value of an expression. -/
  | expression (text : String)
  /-- The date, by a pattern of its own or by the usual one. -/
  | date (pattern : Option String)
  /-- The actual date, and the effective one if it is another. -/
  | bothDates
  /-- The path of the source. -/
  | source
  | position (record : PositionOf) (mark : PositionMark)
  /-- The mark of the transaction's state. -/
  | state
  /-- The mark of the entry's state. -/
  | entryState
  | code
  | payee
  /-- The account's name, behind the mark of the state when the entry as a whole has none. -/
  | accountWithState
  /-- The account's name below the nearest displayed account above it. -/
  | accountName
  | accountPath
  | amount
  /-- The amount and its price, or nothing where it only offsets that of the first transaction. -/
  | amountWithPrice
  | total
  | note
  /-- The note behind its mark. -/
  | markedNote
  | space
  /-- Spaces for each displayed account above. -/
  | indent
  /-- A letter that stands for no field. -/
  | unknown (letter : Char)
deriving DecidableEq

/-- A field with its layout; a width of zero is no width. -/
structure Element where
  field : Field
  /-- Padding goes to the right of the text. -/
  left : Bool := false
  /-- The value is coloured by its sign. -/
  highlight : Bool := false
  min : Nat := 0
  max : Nat := 0
deriving DecidableEq

/-- A list of elements with the text it was read from. -/
structure Template where
  elements : List Element
  source : String
deriving DecidableEq

namespace Template

/-- The template writes nothing. -/
def isEmpty (t : Template) : Bool := t.elements.isEmpty

end Template

end Bookkeeping
