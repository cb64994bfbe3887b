import Bookkeeping.Text.Property

/-!
# Characters of words

Words are made of letters, marks on letters, decimal digits, and the characters that join words.
-/

namespace Bookkeeping

namespace Text

namespace CharSet

/-- The decimal digits of all scripts. -/
def decimalDigits : CharSet := ofCategories ["nd"]

/-- The characters that words are made of. -/
def wordChars : CharSet :=
  unionAll [alphabetic, ofCategories ["mn", "mc", "me", "nd", "pc"], joinControl]

/-- The characters of ASCII that words are made of. -/
def asciiWordChars : CharSet :=
  unionAll [ofRange 0x30 0x39, ofRange 0x41 0x5A, ofRange 0x5F 0x5F, ofRange 0x61 0x7A]

end CharSet

end Text

end Bookkeeping
