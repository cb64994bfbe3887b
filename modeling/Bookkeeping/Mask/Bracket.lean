import Bookkeeping.Mask.Escape

/-!
# Sets in brackets

Brackets enclose a set: characters, ranges, escapes, classes such as `[:alpha:]` and further
brackets.  Between such items, `&&` takes what both sides have, `--` what only the left one has, and
`~~` what just one of them has; the operations apply from left to right.
-/

namespace Bookkeeping

namespace Mask

open Text (CharSet)

/-- An operation on sets in brackets. -/
inductive SetOp where
  | inter
  | diff
  | symmDiff

/-- What an operation makes of two sets. -/
def SetOp.apply : SetOp → CharSet → CharSet → CharSet
  | inter => CharSet.inter
  | diff => CharSet.diff
  | symmDiff => CharSet.symmDiff

/-- Items of a set, with how deep the brackets and operations in them go. -/
structure Items where
  set : CharSet := .empty
  count : Nat := 0
  depth : Nat := 0

namespace Items

/-- With one more item. -/
def add (i : Items) (set : CharSet) (depth : Nat) : Items :=
  ⟨i.set.union set, i.count + 1, max i.depth depth⟩

/-- The depth of the items together. -/
def joinedDepth (i : Items) : Nat := if i.count < 2 then i.depth else i.depth + 1

end Items

/-- Brackets under way: items since the last operation, and that operation with its left side. -/
structure OpenBracket where
  inverted : Bool
  items : Items := {}
  left : Option (SetOp × CharSet × Nat) := none

namespace OpenBracket

/-- With one more item. -/
def add (b : OpenBracket) (set : CharSet) (depth : Nat) : OpenBracket :=
  { b with items := b.items.add set depth }

/-- The set so far and its depth. -/
def total (b : OpenBracket) (w : Switches) : CharSet × Nat :=
  match b.left with
  | none => (b.items.set, b.items.joinedDepth)
  | some (op, set, depth) =>
    (op.apply (w.fold set) (w.fold b.items.set), max depth b.items.joinedDepth + 1)

/-- With the items so far as the left side of an operation. -/
def operate (b : OpenBracket) (w : Switches) (op : SetOp) : OpenBracket :=
  { b with items := {}, left := some (op, b.total w) }

end OpenBracket

/-- What stands behind an opening bracket up to the first item: a sign of inversion, then hyphens or
else a closing bracket as characters. -/
def openBracket (w : Switches) (s : List Char) : OpenBracket × List Char :=
  let (inverted, s) :=
    match w.skip s with
    | '^' :: s => (true, w.skip s)
    | s => (false, s)
  let start : OpenBracket := { inverted }
  match w.span (· == '-') s with
  | ([], ']' :: s) => (start.add (.ofChar ']') 0, w.skip s)
  | ([], s) => (start, s)
  | (hyphens, s) => (hyphens.foldl (fun b c => b.add (.ofChar c) 0) start, s)

/-- The class of ASCII characters behind an opening bracket, and the rest, if it is one. -/
def readAsciiClass? (w : Switches) (s : List Char) : Option (Option CharSet × List Char) :=
  match s with
  | ':' :: s =>
    let (inverted, s) :=
      match s with
      | '^' :: s => (true, s)
      | s => (false, s)
    match s.dropWhile (· != ':') with
    | ':' :: ']' :: rest =>
      (asciiClass? (String.ofList (s.takeWhile (· != ':')))).map fun set =>
        (w.finish? inverted set, rest)
    | _ => none
  | _ => none

/-- A character, an escape, or nothing, and the rest. -/
def readItem? (w : Switches) : List Char → Option (Escape × List Char)
  | [] => none
  | '\\' :: s => readEscape? w s
  | c :: s => some (.char c, s)

/-- The characters from one to another; without the classes of all characters they have to be of
ASCII. -/
def rangeSet? (w : Switches) (first last : Char) : Option CharSet :=
  if first ≤ last ∧ (w.unicode ∨ last.toNat < 128) then some (.ofRange first.toNat last.toNat)
  else none

/-- A range, a character or the set of an escape, and the rest. -/
def readRange? (w : Switches) (s : List Char) : Option (CharSet × List Char) :=
  (readItem? w s).bind fun (item, rest) =>
    let alone (rest : List Char) : Option (CharSet × List Char) :=
      match item with
      | .char c => (rangeSet? w c c).map fun set => (set, rest)
      | .set set => some (set, rest)
      | .place _ => none
    match w.skip rest with
    | '-' :: behind =>
      if w.peek? behind = some ']' ∨ w.peek? behind = some '-' then alone ('-' :: behind)
      else
        (readItem? w (w.skip behind)).bind fun (other, rest) =>
          match item, other with
          | .char first, .char last => (rangeSet? w first last).map fun set => (set, rest)
          | _, _ => none
    | rest => alone rest

/-- Reads on in brackets; `around` are the brackets around the innermost ones.  Every step takes a
character at least. -/
def readBracketFrom? (w : Switches) :
    Nat → OpenBracket → List OpenBracket → List Char → Option (CharSet × Nat × List Char)
  | 0, _, _, _ => none
  | fuel + 1, b, around, s =>
    match w.skip s with
    | [] => none
    | '[' :: s =>
      match readAsciiClass? w s with
      | some (some set, rest) => readBracketFrom? w fuel (b.add set 0) around rest
      | some (none, _) => none
      | none =>
        let (inner, s) := openBracket w s
        readBracketFrom? w fuel inner (b :: around) s
    | ']' :: s =>
      let (set, depth) := b.total w
      (w.finish? b.inverted set).bind fun set =>
        match around with
        | [] => some (set, depth + 1, s)
        | outer :: around => readBracketFrom? w fuel (outer.add set (depth + 1)) around s
    | '&' :: '&' :: s => readBracketFrom? w fuel (b.operate w .inter) around s
    | '-' :: '-' :: s => readBracketFrom? w fuel (b.operate w .diff) around s
    | '~' :: '~' :: s => readBracketFrom? w fuel (b.operate w .symmDiff) around s
    | s =>
      (readRange? w s).bind fun (set, rest) => readBracketFrom? w fuel (b.add set 0) around rest

/-- The set behind an opening bracket, its depth, and the rest. -/
def readBracket? (w : Switches) (s : List Char) : Option (CharSet × Nat × List Char) :=
  let (b, rest) := openBracket w s
  readBracketFrom? w (rest.length + 1) b [] rest

end Mask

end Bookkeeping
