/-!
# Blank characters and trimming

`isBlank` is membership in the Unicode class of white space, a closed table of twenty-five
characters.  `trimStart`, `trimEnd` and `trim` remove blanks from the ends of a text, given as a
list of characters.
-/

namespace Bookkeeping

namespace Text

/-- A white-space character, anywhere in Unicode. -/
def isBlank (c : Char) : Bool :=
  let n := c.toNat
  (9 ≤ n && n ≤ 13) || n == 0x20 || n == 0x85 || n == 0xA0 || n == 0x1680 ||
    (0x2000 ≤ n && n ≤ 0x200A) || n == 0x2028 || n == 0x2029 || n == 0x202F || n == 0x205F ||
    n == 0x3000

theorem isBlank_of_isWhitespace {c : Char} (h : c.isWhitespace) : isBlank c := by
  simp only [Char.isWhitespace, Bool.or_eq_true, decide_eq_true_eq] at h
  rcases h with ((h | h) | h) | h <;> subst h <;> decide

/-- The text without the blanks it begins with. -/
def trimStart (s : List Char) : List Char := s.dropWhile isBlank

/-- The text without the blanks it ends with. -/
def trimEnd (s : List Char) : List Char := (s.reverse.dropWhile isBlank).reverse

/-- The text without the blanks at either end. -/
def trim (s : List Char) : List Char := trimEnd (trimStart s)

theorem length_trimStart_le (s : List Char) : (trimStart s).length ≤ s.length :=
  (List.dropWhile_suffix isBlank).length_le

theorem trimStart_eq_self {s : List Char} (h : ∀ c ∈ s.head?, isBlank c = false) :
    trimStart s = s := by
  cases s with
  | nil => rfl
  | cons c r => simp [trimStart, h c (by simp)]

theorem trimEnd_eq_self {s : List Char} (h : ∀ c ∈ s.getLast?, isBlank c = false) :
    trimEnd s = s := by
  have := trimStart_eq_self (s := s.reverse) (by simpa using h)
  simp only [trimStart] at this
  simp [trimEnd, this]

theorem trim_eq_self {s : List Char} (h₁ : ∀ c ∈ s.head?, isBlank c = false)
    (h₂ : ∀ c ∈ s.getLast?, isBlank c = false) : trim s = s := by
  rw [trim, trimStart_eq_self h₁, trimEnd_eq_self h₂]

/-- A text of blanks alone, or of nothing. -/
def isBlankText (s : String) : Bool := s.toList.all isBlank

end Text

end Bookkeeping
