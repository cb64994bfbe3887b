/-!
# Whole numbers in digits

`natText` and `intText` write numbers in decimal digits.
-/

namespace Bookkeeping

namespace Text

/-- The number in decimal digits. -/
def natText (n : Nat) : String := String.ofList (Nat.toDigits 10 n)

/-- The number in decimal digits, behind `-` if it is below zero. -/
def intText (n : Int) : String := (if n < 0 then "-" else "") ++ natText n.natAbs

end Text

end Bookkeeping
