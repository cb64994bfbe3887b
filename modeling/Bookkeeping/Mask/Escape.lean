import Bookkeeping.Mask.Basic
import Bookkeeping.Mask.Switches

/-!
# Escapes of masks

Behind a backslash, signs stand for themselves and letters for characters, for sets of characters or
for conditions on places.
-/

namespace Bookkeeping

namespace Mask

open Text (CharSet)

/-- What an escape stands for. -/
inductive Escape where
  | char (c : Char)
  | set (s : CharSet)
  | place (l : Look)

/-! ## Code points -/

/-- The value of a hexadecimal digit. -/
def hexDigit? (c : Char) : Option Nat :=
  if c.isDigit then some (c.toNat - 48)
  else if 'a' ≤ c.toLower ∧ c.toLower ≤ 'f' then some (c.toLower.toNat - 87)
  else none

/-- The value of a number of hexadecimal digits, after a value, and the rest. -/
def readHexDigits? (w : Switches) : Nat → Nat → List Char → Option (Nat × List Char)
  | 0, value, s => some (value, s)
  | _ + 1, _, [] => none
  | n + 1, value, c :: s =>
    (hexDigit? c).bind fun digit => readHexDigits? w n (16 * value + digit) (w.skip s)

/-- The character of a code point. -/
def charOf? (n : Nat) : Option Char := if n.isValidChar then some (Char.ofNat n) else none

/-- The character of a code point in hexadecimal, in braces or in a number of digits, and the
rest.  In two digits and without the classes of all characters it has to be one of ASCII. -/
def readCodePoint? (w : Switches) (width : Nat) (s : List Char) : Option (Char × List Char) :=
  match w.skip s with
  | '\x7b' :: s =>
    let (digits, rest) := w.span (fun c => (hexDigit? c).isSome) (w.skip s)
    match rest with
    | '\x7d' :: rest =>
      if digits.isEmpty then none
      else
        (charOf? (digits.foldl (fun n c => 16 * n + (hexDigit? c).getD 0) 0)).map fun c =>
          (c, w.skip rest)
    | _ => none
  | s =>
    (readHexDigits? w width 0 s).bind fun (n, rest) =>
      if width = 2 ∧ !w.unicode ∧ 0x80 ≤ n then none else (charOf? n).map fun c => (c, rest)

/-! ## Sets -/

/-- The set that a letter or a text in braces stands for, and the rest. -/
def readNamedSet? (w : Switches) (inverted : Bool) (s : List Char) :
    Option (CharSet × List Char) :=
  let description? : Option (Option CharSet × List Char) :=
    match w.skip s with
    | [] => none
    | '\x7b' :: s =>
      match w.span (· != '\x7d') (w.skip s) with
      | (text, _ :: rest) => some (setDescribed? text, rest)
      | (_, []) => none
    | '\\' :: _ => none
    | c :: s => some (setNamed? [c], w.skip s)
  if !w.unicode then none
  else
    description?.bind fun (set?, rest) =>
      set?.bind fun set => (w.finish? inverted set).map fun set => (set, rest)

/-- The set of a letter: digits, blanks or characters of words.  The letter in upper case stands for
the others. -/
def letterSet? (w : Switches) (letter : Char) : Option CharSet :=
  let set : CharSet :=
    match letter.toLower, w.unicode with
    | 'd', true => .decimalDigits
    | 'd', false => .ofRange 0x30 0x39
    | 's', true => .whiteSpace
    | 's', false => (CharSet.ofRange 0x9 0xD).union (.ofRange 0x20 0x20)
    | _, true => .wordChars
    | _, false => .asciiWordChars
  if letter.isLower then some set else if w.unicode then some set.compl else none

/-! ## Places -/

/-- The place beside a word that a name in braces tells, and the rest; without a name, the edge.  In
braces that do not begin with a letter or a hyphen there is no name. -/
def readWordSide? (w : Switches) (s : List Char) : Option (WordSide × List Char) :=
  let inName (c : Char) : Bool := c.isAlpha || c == '-'
  match s with
  | '\x7b' :: inside =>
    match w.skip inside with
    | [] => none
    | c :: rest =>
      if !inName c then some (.edge, s)
      else
        match w.span inName (c :: rest) with
        | (name, '\x7d' :: rest) =>
          match String.ofList name with
          | "start" => some (.start, rest)
          | "end" => some (.finish, rest)
          | "start-half" => some (.startHalf, rest)
          | "end-half" => some (.finishHalf, rest)
          | _ => none
        | _ => none
  | s => some (.edge, s)

/-! ## Escapes -/

/-- The escape behind a backslash, and the rest. -/
def readEscape? (w : Switches) : List Char → Option (Escape × List Char)
  | [] => none
  | c :: rest =>
    let char (c : Char) : Option (Escape × List Char) := some (.char c, rest)
    let codePoint (width : Nat) : Option (Escape × List Char) :=
      (readCodePoint? w width rest).map fun (c, rest) => (.char c, rest)
    let word (side : WordSide) (rest : List Char) : Escape × List Char :=
      (.place (.word side (!w.unicode)), rest)
    match c with
    | 'x' => codePoint 2
    | 'u' => codePoint 4
    | 'U' => codePoint 8
    | 'p' => (readNamedSet? w false rest).map fun (set, rest) => (.set set, rest)
    | 'P' => (readNamedSet? w true rest).map fun (set, rest) => (.set set, rest)
    | 'd' | 's' | 'w' | 'D' | 'S' | 'W' => (letterSet? w c).map fun set => (.set set, rest)
    | 'a' => char '\x07'
    | 'f' => char '\x0c'
    | 't' => char '\t'
    | 'n' => char '\n'
    | 'r' => char '\r'
    | 'v' => char '\x0b'
    | 'A' => some (.place .textStart, rest)
    | 'z' => some (.place .textEnd, rest)
    | 'b' => (readWordSide? w rest).map fun (side, rest) => word side rest
    | 'B' => some (word .inner rest)
    | '<' => some (word .start rest)
    | '>' => some (word .finish rest)
    | c => if c.toNat < 128 ∧ !c.isAlphanum then char c else none

end Mask

end Bookkeeping
