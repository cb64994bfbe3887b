import Bookkeeping.Mask.Property
import Bookkeeping.Text.Blank

/-!
# Switches of masks

Switches say how what follows in a mask is read: in any case or as it stands, with or without blanks
that do not count, and so on.
-/

namespace Bookkeeping

namespace Mask

open Text (CharSet)

/-- How a mask is read. -/
structure Switches where
  /-- Characters stand for their variants in case too. -/
  anyCase : Bool := false
  /-- `^` and `$` are the ends of lines rather than of the text. -/
  lines : Bool := false
  /-- Lines may end with a carriage return and a line feed. -/
  returns : Bool := false
  /-- `.` is any character, ends of lines among them. -/
  dotAll : Bool := false
  /-- Repetitions are short unless `?` asks for long ones. -/
  shortest : Bool := false
  /-- Classes are those of all characters rather than of ASCII. -/
  unicode : Bool := true
  /-- Blanks and comments do not count. -/
  spaced : Bool := false

namespace Switches

/-! ## Blanks and comments -/

/-- The text without the blanks and comments that it begins with, perhaps within a comment. -/
def skipFrom : Bool → List Char → List Char
  | _, [] => []
  | true, c :: s => skipFrom (c != '\n') s
  | false, c :: s =>
    if Text.isBlank c then skipFrom false s else if c = '#' then skipFrom true s else c :: s

theorem length_skipFrom_le (inside : Bool) (s : List Char) :
    (skipFrom inside s).length ≤ s.length := by
  fun_induction skipFrom inside s <;> simp_all <;> omega

/-- The text without what does not count at its start. -/
def skip (w : Switches) (s : List Char) : List Char := if w.spaced then skipFrom false s else s

theorem length_skip_le (w : Switches) (s : List Char) : (w.skip s).length ≤ s.length := by
  unfold skip
  split
  · exact length_skipFrom_le false s
  · exact Nat.le_refl _

/-- The characters that pass, with blanks skipped behind each of them, and the rest. -/
def span (w : Switches) (pass : Char → Bool) : List Char → List Char × List Char
  | [] => ([], [])
  | c :: s =>
    if pass c then
      let (cs, rest) := w.span pass (w.skip s)
      (c :: cs, rest)
    else ([], c :: s)
termination_by s => s.length
decreasing_by exact Nat.lt_succ_of_le (w.length_skip_le s)

/-- The character that stands next but for blanks and at most one sign of a comment. -/
def peek? (w : Switches) (s : List Char) : Option Char :=
  if w.spaced then
    match s.dropWhile Text.isBlank with
    | '#' :: s => (s.dropWhile Text.isBlank).head?
    | s => s.head?
  else s.head?

/-! ## Sets -/

/-- The set with the variants in case of its characters, if they count. -/
def fold (w : Switches) (s : CharSet) : CharSet :=
  if !w.anyCase then s else if w.unicode then s.closeCase else s.closeAsciiCase

/-- The set, or the characters that it has not, with the variants in case.  Without the classes of
all characters it has to be within ASCII. -/
def finish? (w : Switches) (inverted : Bool) (s : CharSet) : Option CharSet :=
  let s := w.fold s
  let s := if !inverted then s else if w.unicode then s.compl else CharSet.bytes.diff s
  if w.unicode || s.isBelow 0x80 then some s else none

/-! ## Letters of switches -/

/-- With the switch of a letter on or off. -/
def set? (w : Switches) (on : Bool) : Char → Option Switches
  | 'i' => some { w with anyCase := on }
  | 'm' => some { w with lines := on }
  | 'R' => some { w with returns := on }
  | 's' => some { w with dotAll := on }
  | 'U' => some { w with shortest := on }
  | 'u' => some { w with unicode := on }
  | 'x' => some { w with spaced := on }
  | _ => none

/-- Reads switches up to a colon or a closing parenthesis.  No letter may stand twice; a hyphen,
which may stand once and not last, switches off what stands behind it.  Gives the switches, whether
there is a letter, what they end with, and the rest. -/
def read? (w : Switches) (seen : List Char) (last : Char) :
    List Char → Option (Switches × Bool × Char × List Char)
  | [] => none
  | c :: s =>
    if c = ':' ∨ c = ')' then
      if last = '-' then none else some (w, !seen.isEmpty, c, s)
    else if seen.contains c then none
    else if c = '-' then w.read? (c :: seen) c s
    else (w.set? (!seen.contains '-') c).bind fun w => w.read? (c :: seen) c s

end Switches

end Mask

end Bookkeeping
