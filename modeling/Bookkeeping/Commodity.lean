/-!
# Commodities

A `Commodity` is a currency or another thing that is counted.  Its symbol alone says which one it
is; the number of places it shows and the way its symbol stands beside a quantity only say how an
amount of it is written (`decorate`).
-/

namespace Bookkeeping

/-- A currency or another thing that is counted, with the way its amounts are written. -/
structure Commodity where
  symbol : String
  /-- The places that are shown. -/
  precision : Nat := 0
  /-- The symbol follows the quantity. -/
  suffixed : Bool := false
  /-- A space stands between symbol and quantity. -/
  separated : Bool := false
deriving DecidableEq

namespace Commodity

/-- The most places a commodity can show. -/
def maxPrecision : Nat := 65535

/-- The two are the same commodity, however each is written. -/
def same (a b : Commodity) : Bool := a.symbol == b.symbol

/-- Commodities are ordered by symbol. -/
def compare (a b : Commodity) : Ordering := Ord.compare a.symbol b.symbol

/-- The quantity's text with the symbol beside it. -/
def decorate (c : Commodity) (quantity : String) : String :=
  let gap := if c.separated then " " else ""
  if c.suffixed then quantity ++ gap ++ c.symbol else c.symbol ++ gap ++ quantity

theorem same_iff {a b : Commodity} : a.same b ↔ a.symbol = b.symbol := beq_iff_eq

end Commodity

end Bookkeeping
