import Bookkeeping.Amount.Basic
import Bookkeeping.Text.Blank

/-!
# Reading amounts

`Amount.read` takes texts such as `$10.00`, `-5 EUR`, `USD 3` or `42`.  A text that begins with a
digit or a point has its symbol behind the number, any other in front.  The commodity remembers
where its symbol stood and how many places were written.
-/

namespace Bookkeeping

namespace Amount

open Text

/-- The parts of a written amount. -/
structure Written where
  negative : Bool
  symbol : List Char
  number : List Char
  suffixed : Bool
  separated : Bool

/-- The characters of a number: digits, points and commas that group digits. -/
def isNumberChar (c : Char) : Bool := c.isDigit || c == '.' || c == ','

/-- A number is expected to begin with this character. -/
def startsNumber (c : Char) : Bool := c.isDigit || c == '.'

/-- A symbol in front of a number ends before this character. -/
def endsSymbol (c : Char) : Bool := c.isDigit || c == '-' || c == '.' || isBlank c

/-- The text begins with a blank. -/
def startsBlank (s : List Char) : Bool := s.head?.any isBlank

/-- A sign in front of everything. -/
def takeSign : List Char → Bool × List Char
  | '-' :: rest => (true, trimStart rest)
  | s => (false, s)

/-- The number first, then the symbol. -/
def splitSuffixed (negative : Bool) (s : List Char) : Written :=
  let tail := s.dropWhile isNumberChar
  let symbol := trim tail
  { negative, symbol, number := s.takeWhile isNumberChar, suffixed := true,
    separated := !symbol.isEmpty && startsBlank tail }

/-- The symbol first, then the number, which may have a sign of its own. -/
def splitPrefixed (negative : Bool) (s : List Char) : Written :=
  let symbol := s.takeWhile (!endsSymbol ·)
  let tail := s.dropWhile (!endsSymbol ·)
  let separated := startsBlank tail
  match trimStart tail with
  | '-' :: number =>
    { negative := !negative, symbol, number := trimEnd number, suffixed := false, separated }
  | number => { negative, symbol, number := trimEnd number, suffixed := false, separated }

/-- The parts of a text without blanks at its ends; a symbol in front must not be empty. -/
def split? (s : List Char) : Option Written :=
  let (negative, rest) := takeSign s
  if rest.head?.any startsNumber then some (splitSuffixed negative rest)
  else
    let written := splitPrefixed negative rest
    if written.symbol.isEmpty then none else some written

/-- The places written after the point. -/
def writtenPlaces (number : List Char) : Nat := (number.dropWhile (· != '.')).length - 1

/-- The amount that the parts denote. -/
def ofWritten? (w : Written) : Option Amount :=
  if w.number.isEmpty || !w.number.all isNumberChar || w.symbol.any isBlank then none
  else
    let number := w.number.filter (· != ',')
    (Decimal.ofDigits? number).map fun q =>
      { quantity := if w.negative then q.neg else q
        commodity :=
          if w.symbol.isEmpty then none
          else some
            { symbol := String.ofList w.symbol
              precision := min (writtenPlaces number) Commodity.maxPrecision
              suffixed := w.suffixed
              separated := w.separated } }

/-- Reads an amount; the error quotes the text without the blanks at its ends. -/
def read (text : String) : Except AmountError Amount :=
  let s := trim text.toList
  match (split? s).bind ofWritten? with
  | some a => .ok a
  | none => .error (.unreadable (String.ofList s))

end Amount

end Bookkeeping
