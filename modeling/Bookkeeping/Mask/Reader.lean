import Bookkeeping.Mask.Bracket
import Bookkeeping.Mask.Weight
import Bookkeeping.Text.Letter

/-!
# Reading account masks

A mask is written as a regular expression: characters stand for themselves in any case, `.` for any
character but a line end, brackets and escapes for sets of characters, `^` and `$` for the ends of
the text, `|` between alternatives, and `*`, `+`, `?` and counts in braces behind what is repeated.
Groups stand in parentheses, perhaps with a name or with switches such as `(?-i)`.  A mask must not
be nested too deeply, nor its pattern be too large.
-/

namespace Bookkeeping

namespace Mask

open Text (CharSet)

/-! ## Repetitions -/

/-- The first count that is too large, `2 ^ 32`. -/
def countLimit : Nat := 4294967296

/-- The count in decimal digits, perhaps between blanks, and the rest. -/
def readCount? (w : Switches) (s : List Char) : Option (Nat × List Char) :=
  match w.span Char.isDigit (Text.trimStart s) with
  | ([], _) => none
  | (digits, rest) =>
    let n := Nat.ofDigitChars 10 digits 0
    if n < countLimit then some (n, (w.span Text.isBlank rest).2) else none

/-- The bounds of a repetition behind an opening brace, and the rest. -/
def readBounds? (w : Switches) (s : List Char) : Option (Nat × Option Nat × List Char) :=
  (readCount? w (w.skip s)).bind fun (least, rest) =>
    match rest with
    | '\x7d' :: rest => some (least, some least, rest)
    | ',' :: rest =>
      match w.skip rest with
      | '\x7d' :: rest => some (least, none, rest)
      | rest =>
        match readCount? w rest with
        | some (most, '\x7d' :: rest) =>
          if least ≤ most then some (least, some most, rest) else none
        | _ => none
    | _ => none

/-- Whether a sign stands next that asks for the other length of repetitions, and the rest. -/
def readTurn : List Char → Bool × List Char
  | '?' :: rest => (true, rest)
  | s => (false, s)

/-! ## Groups -/

/-- What an opening parenthesis stands for. -/
inductive GroupStart where
  /-- A numbered group, perhaps with a name. -/
  | numbered (name : Option (List Char))
  /-- A group in which switches apply. -/
  | plain (switches : Switches)
  /-- Switches for the rest of the group they stand in. -/
  | switches (switches : Switches)

/-- The name that stands before `>`, and the rest behind it. -/
def readName? (s : List Char) : Option (List Char × List Char) :=
  let isInner (c : Char) : Bool :=
    Text.isLetter c || Text.isNumber c || c == '_' || c == '.' || c == '[' || c == ']'
  match s.takeWhile (· != '>'), s.dropWhile (· != '>') with
  | c :: inner, _ :: rest =>
    if (c == '_' || Text.isLetter c) && inner.all isInner then some (c :: inner, rest) else none
  | _, _ => none

/-- The start of a group behind its opening parenthesis, and the rest. -/
def readGroupStart? (w : Switches) (s : List Char) : Option (GroupStart × List Char) :=
  let named (s : List Char) : Option (GroupStart × List Char) :=
    (readName? s).map fun (name, rest) => (.numbered (some name), rest)
  match w.skip s with
  | '?' :: '<' :: '=' :: _ | '?' :: '<' :: '!' :: _ => none
  | '?' :: 'P' :: '<' :: s => named s
  | '?' :: '<' :: s => named s
  | '?' :: s =>
    (w.read? [] '?' s).bind fun (switches, any, last, rest) =>
      if last = ':' then some (.plain switches, rest)
      else if any then some (.switches switches, rest)
      else none
  | s => some (.numbered none, s)

/-! ## Patterns -/

/-- A part of a pattern, with how deeply it is nested. -/
structure Part where
  pattern : Pattern
  depth : Nat := 0
  repeatable : Bool := true

/-- One part of several, or no more than the part if it is the only one. -/
def Part.join (join : List Pattern → Pattern) : List Part → Part
  | [p] => p
  | ps =>
    { pattern := join (ps.map Part.pattern)
      depth := if ps.isEmpty then 0 else (ps.map Part.depth).foldl max 0 + 1 }

/-- A group that is being read: its finished alternatives and the parts of the current one, each
last first, and the switches in force around it. -/
structure OpenGroup where
  number : Option Nat := none
  alternatives : List Part := []
  parts : List Part := []
  outside : Switches := {}

namespace OpenGroup

/-- The alternative that is being read. -/
def current (g : OpenGroup) : Part := Part.join .concat g.parts.reverse

/-- The group with its alternative finished. -/
def nextAlternative (g : OpenGroup) : OpenGroup :=
  { g with alternatives := g.current :: g.alternatives, parts := [] }

/-- What stands in the group. -/
def inside (g : OpenGroup) : Part :=
  Part.join .alternation (g.current :: g.alternatives).reverse

/-- The group as a part. -/
def part (g : OpenGroup) : Part :=
  let inside := g.inside
  let pattern :=
    match g.number with
    | some n => .group n inside.pattern
    | none => inside.pattern
  { pattern, depth := inside.depth + 1 }

/-- The group with one more part. -/
def add (g : OpenGroup) (p : Part) : OpenGroup := { g with parts := p :: g.parts }

end OpenGroup

/-- A pattern that is being read. -/
structure Reading where
  group : OpenGroup := {}
  /-- The groups around it, innermost first. -/
  around : List OpenGroup := []
  switches : Switches := {}
  /-- The number of groups with a number. -/
  groups : Nat := 0
  names : List (List Char) := []

namespace Reading

/-- Adds a part. -/
def add (r : Reading) (pattern : Pattern) (depth : Nat) : Reading :=
  { r with group := r.group.add { pattern, depth } }

/-- Adds a character, in any case or as it stands. -/
def addChar (r : Reading) (c : Char) : Reading :=
  let set := r.switches.fold (.ofChar c)
  r.add (if set = .ofChar c then .chars [c] else .ofSet set) 0

/-- Adds what an escape stands for. -/
def addEscape (r : Reading) : Escape → Reading
  | .char c => r.addChar c
  | .set set => r.add (.ofSet set) 0
  | .place l => r.add (.look l) 0

/-- Adds the set that a dot stands for. -/
def addDot? (r : Reading) : Option Reading :=
  let w := r.switches
  let ends : CharSet :=
    if w.dotAll then .empty
    else if w.returns then (CharSet.ofChar '\n').union (.ofChar '\r')
    else .ofChar '\n'
  if w.unicode then some (r.add (.set ends.compl) 0) else none

/-- Adds the start of the text or of a line. -/
def addStart (r : Reading) : Reading :=
  let w := r.switches
  r.add (.look (if w.lines then .lineStart w.returns else .textStart)) 0

/-- Adds the end of the text or of a line. -/
def addEnd (r : Reading) : Reading :=
  let w := r.switches
  r.add (.look (if w.lines then .lineEnd w.returns else .textEnd)) 0

/-- Repeats the last part, if it can be repeated. -/
def repeatLast? (r : Reading) (least : Nat) (most : Option Nat) (turned : Bool) : Option Reading :=
  match r.group.parts with
  | p :: parts =>
    if p.repeatable then
      let pattern := p.pattern.again least most (turned == r.switches.shortest)
      some { r with group := { r.group with parts := { pattern, depth := p.depth + 1 } :: parts } }
    else none
  | [] => none

/-- Opens a group, or changes the switches. -/
def start? (r : Reading) : GroupStart → Option Reading
  | .switches switches =>
    some { r with switches, group := r.group.add { pattern := .empty, repeatable := false } }
  | .plain switches =>
    some { r with group := { outside := r.switches }, around := r.group :: r.around, switches }
  | .numbered name =>
    if name.any r.names.contains then none
    else
      some
        { r with
          group := { number := some (r.groups + 1), outside := r.switches }
          around := r.group :: r.around
          groups := r.groups + 1
          names := name.toList ++ r.names }

/-- Closes the innermost group. -/
def close? (r : Reading) : Option Reading :=
  match r.around with
  | [] => none
  | outer :: around =>
    some { r with group := outer.add r.group.part, around, switches := r.group.outside }

end Reading

/-- Reads on in a pattern; every step takes a character at least. -/
def readFrom? : Nat → Reading → List Char → Option Part
  | 0, _, _ => none
  | fuel + 1, r, s =>
    let w := r.switches
    match w.skip s with
    | [] => if r.around.isEmpty then some r.group.inside else none
    | c :: rest =>
      let again (least : Nat) (most : Option Nat) (rest : List Char) : Option Part :=
        let (turned, rest) := readTurn rest
        (r.repeatLast? least most turned).bind fun r => readFrom? fuel r rest
      match c with
      | '(' =>
        (readGroupStart? w rest).bind fun (start, rest) =>
          (r.start? start).bind fun r => readFrom? fuel r rest
      | ')' => r.close?.bind fun r => readFrom? fuel r rest
      | '|' => readFrom? fuel { r with group := r.group.nextAlternative } rest
      | '*' => again 0 none rest
      | '+' => again 1 none rest
      | '?' => again 0 (some 1) rest
      | '\x7b' =>
        (readBounds? w rest).bind fun (least, most, rest) => again least most (w.skip rest)
      | '[' =>
        (readBracket? w rest).bind fun (set, depth, rest) =>
          readFrom? fuel (r.add (.ofSet set) depth) rest
      | '\\' => (readEscape? w rest).bind fun (e, rest) => readFrom? fuel (r.addEscape e) rest
      | '.' => r.addDot?.bind fun r => readFrom? fuel r rest
      | '^' => readFrom? fuel r.addStart rest
      | '$' => readFrom? fuel r.addEnd rest
      | c => readFrom? fuel (r.addChar c) rest

/-- How deeply a mask may be nested. -/
def depthLimit : Nat := 250

/-- Reads a mask, which takes characters in any case from the start. -/
def read? (source : String) : Option Mask :=
  let s := "(?i)".toList ++ source.toList
  (readFrom? (s.length + 1) {} s).bind fun p =>
    if p.depth ≤ depthLimit ∧ p.pattern.fits then some { source, pattern := p.pattern } else none

end Mask

end Bookkeeping
