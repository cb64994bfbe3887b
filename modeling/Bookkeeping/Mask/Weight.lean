import Std.Data.HashMap
import Bookkeeping.Mask.Basic
import Bookkeeping.Mask.Encoding

/-!
# The weight of patterns

A pattern can be followed by a machine that reads a text byte by byte.  Masks whose machines, for
reading forwards or backwards, take more than ten mebibytes are refused; `Pattern.fits` tells which
ones are not.

A machine has states of 32 bytes.  Byte ranges of a state that has several take 8 bytes each, and
the links of a fork, a state with a choice of others, 4 bytes each.  Repetitions with counts are
written out.  A set of characters that is not within ASCII becomes a net of states for the bytes of
its characters.  In such nets states with the same role are shared, as far as they are found again
in a table that holds one state in each slot: reading forwards those with the same continuations,
reading backwards those with the same beginnings.
-/

namespace Bookkeeping

namespace Mask

open Text (CharSet)

/-- The way in which a text is read. -/
inductive Direction where
  | forward
  | backward
deriving DecidableEq

/-- What has been built of a machine: the number of states, and the bytes of what they hold. -/
structure Tally where
  states : Nat := 0
  held : Nat := 0

namespace Tally

/-- The bytes of the machine. -/
def size (t : Tally) : Nat := 32 * t.states + t.held

/-- The largest size. -/
def limit : Nat := 10485760

/-- The machine is too large. -/
def isOver (t : Tally) : Bool := limit < t.size

/-- With a further state, which holds some bytes. -/
def add (t : Tally) (bytes : Nat) : Tally := ⟨t.states + 1, t.held + bytes⟩

/-- With further states. -/
def addMany (t : Tally) (n : Nat) : Tally := { t with states := t.states + n }

/-- With a further link from a fork. -/
def link (t : Tally) : Tally := { t with held := t.held + 4 }

/-- With a state of some byte ranges, which are a part of the state if there is one only. -/
def addRanges (t : Tally) (n : Nat) : Tally := t.add (if n = 1 then 0 else 8 * n)

end Tally

/-- A part of a machine and whether it ends with a fork, so that the link to what follows counts. -/
structure Built where
  tally : Tally
  forked : Bool := false

/-- What has been built, with the link to what follows. -/
def Built.linked (b : Built) : Tally := if b.forked then b.tally.link else b.tally

/-! ## Nets of states for sets -/

/-- The slot of some numbers in a table. -/
def slotOf (slots : UInt64) (ns : List Nat) : Nat :=
  let mixed := ns.foldl (fun h n => (h ^^^ n.toUInt64) * 1099511628211) 14695981039346656037
  (mixed % slots).toNat

/-- A way on from a state: a byte range and the number of the next state. -/
structure Way where
  bytes : ByteRange
  next : Nat
deriving DecidableEq

/-- A machine under way and its table of states, with what makes them alike. -/
structure Net (α : Type) where
  tally : Tally
  table : Std.HashMap Nat (α × Nat) := ∅

namespace Net

/-- The number of the state in a slot, if it is alike; else that of a new state, which takes the
slot. -/
def state {α : Type} [DecidableEq α] (net : Net α) (slot bytes : Nat) (like : α) : Nat × Net α :=
  let new : Nat × Net α :=
    (net.tally.states, ⟨net.tally.add bytes, net.table.insert slot (like, net.tally.states)⟩)
  match net.table.get? slot with
  | some (other, number) => if other = like then (number, net) else new
  | none => new

end Net

/-- Rows that begin with the same range, in turn, without it. -/
def grouped : List ByteRow → List (ByteRange × List ByteRow)
  | [] => []
  | [] :: rows => grouped rows
  | (r :: row) :: rows =>
    match grouped rows with
    | [] => [(r, [row])]
    | (r', tails) :: groups =>
      if r = r' then (r, row :: tails) :: groups else (r, [row]) :: (r', tails) :: groups

/-- The state for rows of at most some length, which all lead to a target, after the states that it
leads to. -/
def shareRows (target : Nat) : Nat → List ByteRow → Net (List Way) → Nat × Net (List Way)
  | 0, _, net => (target, net)
  | n + 1, rows, net =>
    let (ways, net) := (grouped rows).foldl (fun (ways, net) (bytes, tails) =>
      if tails.all List.isEmpty then (ways ++ [⟨bytes, target⟩], net)
      else
        let (next, net) := shareRows target n tails net
        (ways ++ [⟨bytes, next⟩], net)) (([] : List Way), net)
    let slot := slotOf 10000 (ways.flatMap fun w => [w.bytes.1, w.bytes.2, w.next])
    net.state slot (8 * ways.length) ways

/-- The states for the bytes of a row, each of which leads to the one before; the first leads to a
given state. -/
def shareRow (row : ByteRow) (first : Nat) (net : Net Way) : Nat × Net Way :=
  row.foldl (fun (next, net) bytes =>
    net.state (slotOf 1000 [next, bytes.1, bytes.2]) 0 ⟨bytes, next⟩) (first, net)

/-- Adds the states for a set. -/
def buildSet (d : Direction) (s : CharSet) (t : Tally) : Tally :=
  if s.isBelow 0x80 then (t.add 0).add (8 * s.ranges.length)
  else
    match d with
    | .forward => (shareRows t.states 4 (byteRows s) { tally := t.add 0 }).2.tally
    | .backward =>
      let start : Net Way := { tally := t.addMany 2 }
      ((byteRows s).foldl (fun net row =>
        let net := (shareRow row (t.states + 1) net).2
        { net with tally := net.tally.link }) start).tally

/-! ## Trees of states for texts -/

/-- The texts of a pattern whose alternatives are all texts. -/
def texts? : Pattern → Option (List (List Char))
  | .chars cs => some [cs]
  | .either (.chars cs) q => (texts? q).map (cs :: ·)
  | _ => none

/-- The bytes of a text, as they are read. -/
def bytesOf (d : Direction) (cs : List Char) : List Nat :=
  let bytes := (String.ofList cs).toUTF8.toList.map UInt8.toNat
  if d = .forward then bytes else bytes.reverse

/-- The rows between those that are empty. -/
def segments : List (List Nat) → List (List (List Nat))
  | [] => [[]]
  | [] :: rows => [] :: segments rows
  | row :: rows =>
    match segments rows with
    | [] => [[row]]
    | seg :: segs => (row :: seg) :: segs

/-- The rows with at most one empty row at the start. -/
def oneEmptyFirst : List (List Nat) → List (List Nat)
  | [] :: [] :: rows => oneEmptyFirst ([] :: rows)
  | rows => rows

/-- Adds the states of the tree for texts of at most some length.  A text that ends makes a fork:
what was added before it is tried first. -/
def buildTree : Nat → List (List Nat) → Tally → Tally
  | 0, _, t => t
  | n + 1, texts, t =>
    let segs := segments (oneEmptyFirst texts)
    let (links, t) := segs.foldl (fun (links, t) seg =>
      if seg.isEmpty then (links, t)
      else
        let rows := (seg.map (·.map fun b => (b, b))).mergeSort fun p q =>
          (p.head?.map (·.1)).getD 0 ≤ (q.head?.map (·.1)).getD 0
        let groups := grouped rows
        let t := groups.foldl (fun t (_, tails) =>
          if tails.all List.isEmpty then t else buildTree n (tails.map (·.map (·.1))) t) t
        (links + 1, t.addRanges groups.length)) (0, t)
    t.add (4 * (links + (segs.length - 1)))

/-! ## Machines -/

/-- Where a pattern stands among alternatives. -/
inductive Standing where
  | alone
  | member
  /-- The second alternative, behind which the fork before them all and the state behind them all
  are made. -/
  | second

/-- What has been built, with what a member of alternatives needs beyond itself. -/
def Standing.close (s : Standing) (b : Built) : Built :=
  match s with
  | alone => b
  | member => ⟨b.linked.link, false⟩
  | second => ⟨(b.linked.link).addMany 2, false⟩

/-- Builds on a number of times. -/
def buildOn (build : Tally → Built) : Nat → Built → Built
  | 0, b => b
  | n + 1, b => if b.tally.isOver then b else buildOn build n (build b.linked)

/-- Builds a number of times; a mere state if it is none. -/
def buildTimes (build : Tally → Built) (n : Nat) (t : Tally) : Built :=
  match n with
  | 0 => ⟨t.add 0, false⟩
  | n + 1 => buildOn build n (build t)

/-- Builds what can be left out, a number of times, each time behind a fork. -/
def buildOptional (build : Tally → Built) : Nat → Built → Built
  | 0, b => b
  | n + 1, b =>
    if b.tally.isOver then b
    else
      let b := build (b.linked.add 8)
      buildOptional build n b

/-- Builds repetitions. -/
def buildRepeated (build : Tally → Built) (canBeEmpty : Bool) (least : Nat) (most : Option Nat)
    (t : Tally) : Built :=
  match least, most with
  | 0, some 1 => ⟨(build (t.add 8)).linked.add 0, false⟩
  | 0, none =>
    if canBeEmpty then ⟨(((build t).linked.add 8).add 8).add 0, false⟩
    else ⟨(build (t.add 4)).linked, true⟩
  | 1, none => ⟨(build t).linked.add 4, true⟩
  | n + 2, none => ⟨(build (buildTimes build (n + 1) t).linked).linked.add 4, true⟩
  | least, some most =>
    let start := buildTimes build least t
    if least = most then start
    else
      let b := buildOptional build (most - least) ⟨start.tally.add 0, start.forked⟩
      ⟨b.linked, false⟩

/-- Builds the machine of a pattern. -/
def build (d : Direction) : Pattern → Standing → Tally → Built
  | .empty, s, t => s.close ⟨t.add 0, false⟩
  | .chars cs, s, t => s.close ⟨t.addMany (cs.foldl (fun n c => n + c.utf8Size) 0), false⟩
  | .set k, s, t => s.close (if t.isOver then ⟨t, false⟩ else ⟨buildSet d k t, false⟩)
  | .look _, s, t => s.close ⟨t.add 0, false⟩
  | .group _ p, s, t =>
    match d with
    | .forward => s.close ⟨(build d p .alone (t.add 0)).linked.add 0, false⟩
    | .backward => s.close (build d p .alone t)
  | .seq p q, s, t =>
    match d with
    | .forward => s.close (build d q .alone (build d p .alone t).linked)
    | .backward => s.close (build d p .alone (build d q .alone t).linked)
  | .either p q, .alone, t =>
    match texts? (.either p q) with
    | some texts =>
      let rows := texts.map (bytesOf d)
      ⟨buildTree ((rows.map List.length).foldl max 0 + 1) rows (t.add 0), false⟩
    | none => ⟨(build d q .second (build d p .member t).tally).tally, false⟩
  | .either p q, s, t => ⟨(build d q .member (build d p s t).tally).tally, false⟩
  | .repeated p least most _, s, t =>
    s.close (buildRepeated (build d p .alone) (p.minLength?.all (· == 0)) least most t)

/-- The place that texts of the pattern can stand only at: the start of the text, or the end for
reading backwards. -/
def isAnchored (d : Direction) : Pattern → Bool
  | .look l => l = (if d = .forward then .textStart else .textEnd)
  | .group _ p => isAnchored d p
  | .seq p q =>
    match d with
    | .forward => isAnchored d p || (p.isPlace && isAnchored d q)
    | .backward => isAnchored d q || (q.isPlace && isAnchored d p)
  | .either p q => isAnchored d p && isAnchored d q
  | .repeated p least _ _ => 0 < least && isAnchored d p
  | _ => false

/-- The whole machine of a pattern: first a loop over all bytes if the pattern can stand anywhere,
then the pattern, as a group if groups are noted, and the state of success. -/
def weigh (d : Direction) (p : Pattern) : Tally :=
  let start : Tally := if isAnchored d p then ⟨1, 0⟩ else ⟨3, 16⟩
  ((build d (.group 0 p) .alone start).linked).add 0

/-- The machines of the pattern are not too large. -/
def Pattern.fits (p : Pattern) : Bool := !(weigh .forward p).isOver && !(weigh .backward p).isOver

end Mask

end Bookkeeping
