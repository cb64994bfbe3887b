import Bookkeeping.Text.Word

/-!
# Patterns of account masks

A `Pattern` describes texts: characters and members of sets, one after the other, in alternatives
and in repetitions, with conditions on the places where they stand.  Sequences and alternatives of
more than two parts lean to the right, and the builders of this module (`concat`, `alternation`,
`again`) keep patterns in a simple form: no sequence stands inside a sequence but as its rest, texts
next to each other are one text, and alternatives that are single characters are one set.
-/

namespace Bookkeeping

namespace Mask

open Text (CharSet)

/-! ## Places -/

/-- Which edge of a word a place is. -/
inductive WordSide where
  /-- Where a word begins or ends. -/
  | edge
  /-- Where none begins or ends. -/
  | inner
  | start
  | finish
  /-- Where no word character stands before. -/
  | startHalf
  /-- Where no word character stands behind. -/
  | finishHalf
deriving DecidableEq

/-- A condition on a place in a text. -/
inductive Look where
  | textStart
  | textEnd
  /-- The start of a line; lines may end with a carriage return and a line feed. -/
  | lineStart (withReturn : Bool)
  | lineEnd (withReturn : Bool)
  /-- A place beside a word, whose characters may be those of ASCII alone. -/
  | word (side : WordSide) (ascii : Bool)
deriving DecidableEq

namespace Look

/-- The character is one of a word. -/
def isWordChar (ascii : Bool) (c : Char) : Bool :=
  if ascii then CharSet.asciiWordChars.has c else CharSet.wordChars.has c

/-- The condition holds between two characters, of which one is missing at an end of the text. -/
def holds (before after : Option Char) : Look → Bool
  | textStart => before.isNone
  | textEnd => after.isNone
  | lineStart false => before.all (· == '\n')
  | lineStart true =>
    before.all fun c => c == '\n' || (c == '\r' && after != some '\n')
  | lineEnd false => after.all (· == '\n')
  | lineEnd true =>
    after.all fun c => c == '\r' || (c == '\n' && before != some '\r')
  | word side ascii =>
    let left := before.any (isWordChar ascii)
    let right := after.any (isWordChar ascii)
    match side with
    | .edge => left != right
    | .inner => left == right
    | .start => !left && right
    | .finish => left && !right
    | .startHalf => !left
    | .finishHalf => !right

end Look

/-! ## Patterns -/

/-- A description of texts. -/
inductive Pattern where
  | empty
  /-- A text, character by character. -/
  | chars (cs : List Char)
  /-- One character of a set. -/
  | set (s : CharSet)
  | look (l : Look)
  /-- A numbered group. -/
  | group (number : Nat) (p : Pattern)
  | seq (p q : Pattern)
  | either (p q : Pattern)
  /-- Repetitions, of which the longest or the shortest are wanted. -/
  | repeated (p : Pattern) (least : Nat) (most : Option Nat) (longest : Bool)
deriving DecidableEq

namespace Pattern

/-! ### Lengths -/

/-- The length of the shortest texts in bytes; `none` if there are no texts at all. -/
def minLength? : Pattern → Option Nat
  | empty => some 0
  | chars cs => some (cs.foldl (fun n c => n + c.utf8Size) 0)
  | set s => s.ranges.head?.map fun r => (Char.ofNat r.1).utf8Size
  | look _ => some 0
  | group _ p => p.minLength?
  | seq p q => p.minLength?.bind fun m => q.minLength?.map (m + ·)
  | either p q => p.minLength?.bind fun m => q.minLength?.map (min m ·)
  | repeated p least _ _ => p.minLength?.map (least * ·)

/-- All texts of the pattern are empty. -/
def isPlace : Pattern → Bool
  | empty | look _ => true
  | chars cs => cs.isEmpty
  | set _ => false
  | group _ p => p.isPlace
  | seq p q | either p q => p.isPlace && q.isPlace
  | repeated p _ _ _ => p.isPlace

/-! ### Builders -/

/-- A set of characters, or a text if it has only one. -/
def ofSet (s : CharSet) : Pattern :=
  match s.single? with
  | some c => chars [c]
  | none => set s

/-- The parts of a sequence. -/
def parts : Pattern → List Pattern
  | empty => []
  | seq p q => p :: q.parts
  | p => [p]

/-- A part before others; a text goes on with the text behind it. -/
def cons : Pattern → List Pattern → List Pattern
  | chars cs, chars ds :: ps => chars (cs ++ ds) :: ps
  | p, ps => p :: ps

/-- The sequence of parts that are none themselves. -/
def ofParts : List Pattern → Pattern
  | [] => empty
  | [p] => p
  | p :: ps => seq p (ofParts ps)

/-- One pattern after the other. -/
def concat (ps : List Pattern) : Pattern := ofParts ((ps.flatMap parts).foldr cons [])

/-- The alternatives of a pattern. -/
def members : Pattern → List Pattern
  | either p q => p :: q.members
  | p => [p]

/-- The alternatives that are none themselves; without any, what no text has. -/
def ofMembers : List Pattern → Pattern
  | [] => set .empty
  | [p] => p
  | p :: ps => either p (ofMembers ps)

/-- The character, if the pattern is one. -/
def char? : Pattern → Option Char
  | chars [c] => some c
  | _ => none

/-- The set, if the pattern is one. -/
def set? : Pattern → Option CharSet
  | set s => some s
  | _ => none

/-- The set of a list of patterns that are all single characters or all sets. -/
def jointSet? (ps : List Pattern) : Option CharSet :=
  (ps.mapM fun p => p.char?.map CharSet.ofChar) <|> ps.mapM set? |>.map CharSet.unionAll

/-- What two lists begin with alike. -/
def commonStart : List Pattern → List Pattern → List Pattern
  | p :: ps, q :: qs => if p = q then p :: commonStart ps qs else []
  | _, _ => []

/-- The parts that all alternatives begin with, if they are all sequences. -/
def sharedStart (ps : List Pattern) : List Pattern :=
  match ps.map parts with
  | [] => []
  | first :: rest =>
    if (first :: rest).all fun parts => 2 ≤ parts.length then rest.foldl commonStart first else []

/-- Alternatives as one set or else one by one. -/
def alternatives (ps : List Pattern) : Pattern :=
  match ps with
  | [p] => p
  | ps => ((jointSet? ps).map ofSet).getD (ofMembers ps)

/-- Either of the patterns; what all begin with is said once. -/
def alternation (ps : List Pattern) : Pattern :=
  match ps.flatMap members with
  | [p] => p
  | ps =>
    match sharedStart ps with
    | [] => alternatives ps
    | start =>
      let rests := ps.map fun p => concat (p.parts.drop start.length)
      concat (start ++ [alternatives (rests.flatMap members)])

/-- A pattern again and again; a mere place is repeated at most once. -/
def again (p : Pattern) (least : Nat) (most : Option Nat) (longest : Bool) : Pattern :=
  let (least, most) :=
    if p.isPlace then (min least 1, some ((most.map (min · 1)).getD 1)) else (least, most)
  if least = 0 ∧ most = some 0 then empty
  else if least = 1 ∧ most = some 1 then p
  else repeated p least most longest

end Pattern

end Mask

/-- A mask of account paths, with the text it was read from. -/
structure Mask where
  source : String
  pattern : Mask.Pattern
deriving DecidableEq

end Bookkeeping
