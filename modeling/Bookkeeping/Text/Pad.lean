/-!
# Padding to a width

`padLeft`, `padRight` and `center` widen a text with spaces to a number of characters; a text that
is already wide enough is left alone.
-/

namespace Bookkeeping

namespace Text

/-- A text of `n` spaces. -/
def spaces (n : Nat) : String := String.ofList (List.replicate n ' ')

/-- Spaces in front, up to `width` characters. -/
def padLeft (width : Nat) (s : String) : String := spaces (width - s.length) ++ s

/-- Spaces behind, up to `width` characters. -/
def padRight (width : Nat) (s : String) : String := s ++ spaces (width - s.length)

/-- Spaces on both sides, up to `width` characters; an odd space goes behind. -/
def center (width : Nat) (s : String) : String :=
  let room := width - s.length
  spaces (room / 2) ++ s ++ spaces (room - room / 2)

theorem length_spaces (n : Nat) : (spaces n).length = n := by
  simp [spaces]

theorem length_padLeft (width : Nat) (s : String) :
    (padLeft width s).length = max width s.length := by
  rw [padLeft, String.length_append, length_spaces]
  omega

theorem length_padRight (width : Nat) (s : String) :
    (padRight width s).length = max width s.length := by
  rw [padRight, String.length_append, length_spaces]
  omega

theorem padLeft_of_le {width : Nat} {s : String} (h : width ≤ s.length) : padLeft width s = s := by
  have : width - s.length = 0 := by omega
  simp [padLeft, spaces, this]

theorem padRight_of_le {width : Nat} {s : String} (h : width ≤ s.length) :
    padRight width s = s := by
  have : width - s.length = 0 := by omega
  simp [padRight, spaces, this]

end Text

end Bookkeeping
