import Bookkeeping.Text.Path

/-!
# Elision

`Elision.shorten` fits a text into a number of columns.  A cut leaves `..` where text is missing:
in front, in the middle or behind.  The style `abbreviate` shortens the segments of a path from the
left before it cuts in front; any other text it cuts behind.  Lengths count characters.
-/

namespace Bookkeeping

/-- Where a text that is too long loses characters. -/
inductive ElisionStyle where
  | leading
  | middle
  | trailing
  /-- Segments of paths are shortened one by one. -/
  | abbreviate
deriving DecidableEq

/-- How a text that is too long is shortened. -/
structure Elision where
  style : ElisionStyle := .abbreviate
  /-- The characters that an abbreviated segment keeps. -/
  kept : Nat := 2
deriving DecidableEq

namespace Elision

/-- The text with dots in place of the character at a position and the one after it. -/
def mark (position : Nat) (s : List Char) : List Char :=
  (s.set position '.').set (position + 1) '.'

/-- The last `width` characters, marked in front. -/
def cutLeading (width : Nat) (s : List Char) : List Char := mark 0 (s.drop (s.length - width))

/-- The first and the last characters, `width` together, marked where they meet. -/
def cutMiddle (width : Nat) (s : List Char) : List Char :=
  let head := width / 2
  let tail := width - head
  mark (head - 1) (s.take head ++ s.drop (s.length - tail))

/-- The first characters and two dots, `width` together. -/
def cutTrailing (width : Nat) (s : List Char) : List Char := s.take (width - 2) ++ ['.', '.']

/-- The path with its segments but the last cut to `kept` characters, from the left, as long as its
length is beyond `width`; and the length it comes to. -/
def abbreviateFrom (kept width : Nat) : Nat → List (List Char) → List (List Char) × Nat
  | length, [] => ([], length)
  | length, [last] => ([last], length)
  | length, s :: rest =>
    if width < length then
      let s' := s.take kept
      let (ss, n) := abbreviateFrom kept width (length - (s.length - s'.length)) rest
      (s' :: ss, n)
    else
      let (ss, n) := abbreviateFrom kept width length rest
      (s :: ss, n)

/-- The path with as few of its first segments shortened as needed, and cut in front if that is not
enough. -/
def abbreviatePath (kept width : Nat) (s : List Char) : List Char :=
  let (segments, length) := abbreviateFrom kept width s.length (Path.segments s)
  if width < length then cutLeading width (Path.join segments) else Path.join segments

/-- The text in at most `width` characters; `isPath` tells a path from any other text. -/
def shortenChars (e : Elision) (width : Nat) (isPath : Bool) (s : List Char) : List Char :=
  if s.length ≤ width then s
  else if width < 2 then List.replicate width '.'
  else
    match e.style with
    | .leading => cutLeading width s
    | .middle => cutMiddle width s
    | .trailing => cutTrailing width s
    | .abbreviate => if isPath then abbreviatePath e.kept width s else cutTrailing width s

/-- The text in at most `width` characters; `isPath` tells a path from any other text. -/
def shorten (e : Elision) (width : Nat) (isPath : Bool) (s : String) : String :=
  String.ofList (e.shortenChars width isPath s.toList)

end Elision

end Bookkeeping
