import Bookkeeping.Text.CharSet

/-!
# Sets of characters in bytes

In UTF-8 a character is one byte, or a leading byte and up to three bytes that carry six bits each.
`byteRows` lists a set of characters as rows of byte ranges: a row stands for the characters
whose bytes lie, one by one, in its ranges.
-/

namespace Bookkeeping

namespace Mask

open Text (CharSet)

/-- A first and a last byte. -/
abbrev ByteRange := Nat × Nat

/-- Byte ranges for the bytes of a character, in turn. -/
abbrev ByteRow := List ByteRange

/-- The number of values of some bytes that carry six bits each. -/
def sixBitValues : Nat → Nat
  | 0 => 1
  | n + 1 => 64 * sixBitValues n

/-- The rows of the values from one to another, for a first byte above `lead` and `n` further ones.
Values that share the first byte stand together, and so do all values of full blocks. -/
def rowsFrom (lead : Nat) : Nat → Nat → Nat → List ByteRow
  | 0, first, last => [[(lead + first, lead + last)]]
  | n + 1, first, last =>
    let block := sixBitValues (n + 1)
    let low := first / block
    let high := last / block
    let inBlock (b low high : Nat) : List ByteRow :=
      (rowsFrom 0x80 n low high).map ((lead + b, lead + b) :: ·)
    if low = high ∧ (first % block ≠ 0 ∨ last % block ≠ block - 1) then
      inBlock low (first % block) (last % block)
    else
      let (before, low) :=
        if first % block = 0 then ([], low) else (inBlock low (first % block) (block - 1), low + 1)
      let (behind, stop) :=
        if last % block = block - 1 then ([], high + 1) else (inBlock high 0 (last % block), high)
      let full : List ByteRow :=
        if low < stop then
          [(lead + low, lead + stop - 1) :: List.replicate (n + 1) (0x80, 0xBF)]
        else []
      before ++ full ++ behind

/-- The code points that take the same number of bytes: the first and the last, the leading byte and
the number of further bytes. -/
def byteLengths : List (Nat × Nat × Nat × Nat) :=
  [(0, 0x7F, 0, 0), (0x80, 0x7FF, 0xC0, 1), (0x800, 0xD7FF, 0xE0, 2), (0xE000, 0xFFFF, 0xE0, 2),
   (0x10000, 0x10FFFF, 0xF0, 3)]

/-- The rows of a range of code points. -/
def rangeRows (first last : Nat) : List ByteRow :=
  byteLengths.flatMap fun (low, high, lead, n) =>
    if first ≤ high ∧ low ≤ last then rowsFrom lead n (max first low) (min last high) else []

/-- The rows of a set, in increasing order. -/
def byteRows (s : CharSet) : List ByteRow :=
  s.ranges.flatMap fun (first, last) => rangeRows first last

end Mask

end Bookkeeping
