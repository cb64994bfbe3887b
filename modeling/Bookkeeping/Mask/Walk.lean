import Bookkeeping.Mask.Basic

/-!
# Following patterns through a text

A place in a text is where a character begins or the text ends.  A set of places is a number whose
bit `i` says that place `i` belongs to it, so that one operation on numbers moves all places at
once.  A `Walk` is a pattern prepared for one text: what it asks of characters and places has become
sets of places.  `Pattern.occursIn` tells whether the pattern can be followed from some place of a
text.
-/

namespace Bookkeeping

namespace Mask

open Text (CharSet)

/-- A set of places: bit `i` for place `i`. -/
abbrev Places := Nat

/-- A pattern prepared for a text. -/
inductive Walk where
  | stay
  /-- Over one character that begins at one of the places. -/
  | step (spots : Places)
  /-- No further, but only from the places. -/
  | only (spots : Places)
  | both (w v : Walk)
  | either (w v : Walk)
  | again (w : Walk) (least extra : Nat)

namespace Walk

/-- What `n` moves lead to; nothing changes any more once a move leads back to the same. -/
def times (move : Places → Places) : Nat → Places → Places
  | 0, s => s
  | n + 1, s =>
    let r := move s
    if r = s then s else times move n r

/-- What at most `n` moves lead to, where `reached` is known and `fresh` was reached last. -/
def within (move : Places → Places) : Nat → Places → Places → Places
  | 0, _, reached => reached
  | n + 1, fresh, reached =>
    let new := (move fresh ||| reached) ^^^ reached
    if new = 0 then reached else within move n new (reached ||| new)

/-- The places that a walk leads to from some places. -/
def run : Walk → Places → Places
  | stay, s => s
  | step spots, s => (s &&& spots) <<< 1
  | only spots, s => s &&& spots
  | both w v, s =>
    let r := w.run s
    if r = 0 then 0 else v.run r
  | either w v, s => w.run s ||| v.run s
  | again w least extra, s =>
    let r := times w.run least s
    within w.run extra r r

end Walk

/-! ## Texts -/

/-- A text with what is asked of it. -/
structure Ground where
  /-- The number of characters. -/
  length : Nat
  /-- The characters, each with the places where it begins. -/
  places : List (Char × Places)
  /-- The places with the characters before and behind them. -/
  sides : List (Option Char × Option Char)

namespace Ground

/-- Adds a place of a character. -/
def mark (c : Char) (bit : Places) : List (Char × Places) → List (Char × Places)
  | [] => [(c, bit)]
  | (d, spots) :: rest =>
    if d = c then (d, spots ||| bit) :: rest else (d, spots) :: mark c bit rest

/-- The places of all characters of a text. -/
def placesOf (cs : List Char) : List (Char × Places) :=
  (cs.foldl (fun (bit, found) c => (bit <<< 1, mark c bit found)) (1, [])).2

/-- The characters on both sides of all places, where `before` stands before the first one. -/
def sidesOf (before : Option Char) : List Char → List (Option Char × Option Char)
  | [] => [(before, none)]
  | c :: cs => (before, some c) :: sidesOf (some c) cs

/-- A text, prepared. -/
def ofText (text : String) : Ground :=
  let cs := text.toList
  { length := cs.length, places := placesOf cs, sides := sidesOf none cs }

/-- All places. -/
def all (g : Ground) : Places := (1 <<< (g.length + 1)) - 1

/-- The places where a character begins. -/
def ofChar (g : Ground) (c : Char) : Places := (g.places.lookup c).getD 0

/-- The places where a character of a set begins. -/
def ofSet (g : Ground) (s : CharSet) : Places :=
  g.places.foldl (fun found (c, spots) => if s.has c then found ||| spots else found) 0

/-- The places where a condition holds. -/
def ofLook (g : Ground) (l : Look) : Places :=
  (g.sides.foldl (fun (bit, found) (before, after) =>
    (bit <<< 1, if l.holds before after then found ||| bit else found)) (1, 0)).2

/-- A pattern prepared for the text; a walk without end makes as many moves as there are places. -/
def walk (g : Ground) : Pattern → Walk
  | .empty => .stay
  | .chars cs => cs.foldr (fun c w => .both (.step (g.ofChar c)) w) .stay
  | .set s => .step (g.ofSet s)
  | .look l => .only (g.ofLook l)
  | .group _ p => g.walk p
  | .seq p q => .both (g.walk p) (g.walk q)
  | .either p q => .either (g.walk p) (g.walk q)
  | .repeated p least most _ =>
    .again (g.walk p) least (most.elim (g.length + 1) (· - least))

end Ground

/-- The pattern can be followed from some place of the text. -/
def Pattern.occursIn (p : Pattern) (text : String) : Bool :=
  let g := Ground.ofText text
  (g.walk p).run g.all != 0

/-- The mask holds of a path. -/
def holds (m : Mask) (path : String) : Bool := m.pattern.occursIn path

end Mask

end Bookkeeping
