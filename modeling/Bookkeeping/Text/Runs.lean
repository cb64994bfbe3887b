import Bookkeeping.Text.CharSet

/-!
# Written tables of characters

Large tables are written as texts, with blanks between the entries, in two forms.  A table of gaps
such as `65 26 6 26` has the distances between the edges of a set, the first of them from zero.  A
table of runs such as `32Cc 1Zs 3Po` goes through all code points and says how many of them in turn
have which value.
-/

namespace Bookkeeping

namespace Text

/-- The entries of a written table. -/
def entries (lines : List String) : List String := lines.flatMap (·.splitOn " ")

/-! ## Gaps -/

/-- The edges that gaps lead to from a code point. -/
def CharSet.edgesOfGaps : Nat → List Nat → List Nat
  | _, [] => []
  | start, gap :: gaps => (start + gap) :: edgesOfGaps (start + gap) gaps

/-- The set that a table of gaps describes. -/
def CharSet.ofGaps (lines : List String) : CharSet :=
  ⟨edgesOfGaps 0 ((entries lines).filterMap String.toNat?)⟩

/-! ## Runs -/

/-- Code points in turn that have one value. -/
structure Run where
  length : Nat
  value : String
deriving DecidableEq

/-- The run of an entry: its length and, behind it, the value. -/
def Run.ofEntry (entry : String) : Run :=
  let s := entry.toList
  ⟨Nat.ofDigitChars 10 (s.takeWhile Char.isDigit) 0, String.ofList (s.dropWhile Char.isDigit)⟩

/-- The runs of a table. -/
def Run.ofLines (lines : List String) : List Run := (entries lines).map Run.ofEntry

/-- The edges of the code points whose values pass, from a code point on, where `inside` tells it of
the one before. -/
def CharSet.edgesOfRuns (pass : String → Bool) : Nat → Bool → List Run → List Nat
  | start, inside, [] => edgeIf inside start []
  | start, inside, r :: rs =>
    edgeIf (pass r.value != inside) start (edgesOfRuns pass (start + r.length) (pass r.value) rs)

/-- The characters whose values pass. -/
def CharSet.ofRuns (pass : String → Bool) (runs : List Run) : CharSet :=
  ⟨edgesOfRuns pass 0 false runs⟩

end Text

end Bookkeeping
