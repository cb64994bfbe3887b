import Bookkeeping.Template.Basic
import Bookkeeping.Text.Numeral

/-!
# Reading templates

In the text of a template `%` begins a directive and `\` an escape; everything else is literal.  A
directive has flags (`-` and `!`), a least width, a greatest width behind a point, and a letter for
its field; `%(…)` holds an expression and `%[…]` a date pattern, both with nested brackets.  A text
that ends inside a directive ends the template there.  `Template.split` reads the two halves of a
template that has one layout for the first line of a group and one for the others.
-/

namespace Bookkeeping

/-- What can be wrong with the text of a template. -/
inductive TemplateError where
  /-- A bracket was opened and this closing one is missing. -/
  | unclosed (bracket : Char)
  | tooWide (width : Nat)
deriving DecidableEq

namespace TemplateError

/-- The wording of the error. -/
def message : TemplateError → String
  | unclosed c => "Missing '" ++ String.singleton c ++ "'"
  | tooWide w =>
    "Field width " ++ Text.natText w ++ " is too large (must be below 4095)"

end TemplateError

namespace Template

/-! ## Directives -/

/-- Widths stay below this bound. -/
def widthBound : Nat := 4095

/-- Widths are counted up to this number, `2 ^ 64 - 1`. -/
def widthLimit : Nat := 18446744073709551615

/-- The character is a flag. -/
def isFlag (c : Char) : Bool := c == '-' || c == '!'

/-- The width that the text begins with, zero if it begins with none, and the rest. -/
def readWidth (s : List Char) : Except TemplateError (Nat × List Char) :=
  let width := Nat.ofDigitChars 10 (s.takeWhile Char.isDigit) 0
  if width < widthBound then .ok (width, s.dropWhile Char.isDigit)
  else .error (.tooWide (min width widthLimit))

/-- The text up to the closing bracket of one that is open, with `depth` more open inside it, and
the rest behind that bracket. -/
def readNested? (opening closing : Char) : Nat → List Char → Option (List Char × List Char)
  | _, [] => none
  | depth, c :: rest =>
    let more (depth : Nat) :=
      (readNested? opening closing depth rest).map fun (inner, rest) => (c :: inner, rest)
    if c = closing then
      match depth with
      | 0 => some ([], rest)
      | depth + 1 => more depth
    else if c = opening then more (depth + 1)
    else more depth

/-- The field of a letter. -/
def field? : Char → Option Field
  | 'd' => some .bothDates
  | 'D' => some (.date none)
  | 'S' => some .source
  | 'B' => some (.position .entry .startOffset)
  | 'b' => some (.position .entry .startLine)
  | 'E' => some (.position .entry .endOffset)
  | 'e' => some (.position .entry .endLine)
  | 'X' => some .state
  | 'Y' => some .entryState
  | 'C' => some .code
  | 'P' => some .payee
  | 'W' => some .accountWithState
  | 'a' => some .accountName
  | 'A' => some .accountPath
  | 't' => some .amount
  | 'o' => some .amountWithPrice
  | 'T' => some .total
  | 'N' => some .note
  | 'n' => some .markedNote
  | '|' => some .space
  | '_' => some .indent
  | _ => none

/-- The field of a letter behind `x`. -/
def transactionField : Char → Field
  | 'B' => .position .transaction .startOffset
  | 'b' => .position .transaction .startLine
  | 'E' => .position .transaction .endOffset
  | 'e' => .position .transaction .endLine
  | _ => .unknown 'x'

/-- The field that the text begins with and the rest, or nothing if the text ends before. -/
def readField (s : List Char) : Except TemplateError (Option (Field × List Char)) :=
  match s with
  | [] => .ok none
  | '%' :: rest => .ok (some (.literal "%", rest))
  | '(' :: rest =>
    match readNested? '(' ')' 0 rest with
    | some (inner, rest) => .ok (some (.expression (String.ofList inner), rest))
    | none => .error (.unclosed ')')
  | '[' :: rest =>
    match readNested? '[' ']' 0 rest with
    | some (inner, rest) => .ok (some (.date (some (String.ofList inner)), rest))
    | none => .error (.unclosed ']')
  | ['x'] => .ok none
  | 'x' :: c :: rest => .ok (some (transactionField c, rest))
  | c :: rest => .ok (some ((field? c).getD (.unknown c), rest))

/-- The widths that the text begins with and the rest; a greatest width alone is the least too. -/
def readWidths (s : List Char) : Except TemplateError (Nat × Nat × List Char) := do
  let (least, s) ← readWidth s
  match s with
  | '.' :: s =>
    let (greatest, s) ← readWidth s
    return (if least = 0 then greatest else least, greatest, s)
  | s => return (least, 0, s)

/-- The element that the text behind `%` begins with and the rest, or nothing if the text ends
before. -/
def readDirective (s : List Char) : Except TemplateError (Option (Element × List Char)) := do
  let flags := s.takeWhile isFlag
  let (min, max, s) ← readWidths (s.dropWhile isFlag)
  return (← readField s).map fun (field, s) =>
    ({ field, left := flags.contains '-', highlight := flags.contains '!', min, max }, s)

/-! ## What is read is used up -/

theorem length_of_readNested? {opening closing : Char} {depth : Nat} {s inner rest : List Char}
    (h : readNested? opening closing depth s = some (inner, rest)) : rest.length < s.length := by
  induction s generalizing depth inner with
  | nil => simp [readNested?] at h
  | cons c s ih =>
    have step {d : Nat} {o : List Char}
        (h : ((readNested? opening closing d s).map fun p => (c :: p.1, p.2)) = some (o, rest)) :
        rest.length < (c :: s).length := by
      simp only [Option.map_eq_some_iff, Prod.exists, Prod.mk.injEq] at h
      obtain ⟨i, r, hr, -, rfl⟩ := h
      exact Nat.lt_succ_of_lt (ih hr)
    simp only [readNested?] at h
    split at h
    · split at h
      · cases h
        simp
      · exact step h
    · split at h <;> exact step h

theorem length_of_readField {s rest : List Char} {f : Field}
    (h : readField s = .ok (some (f, rest))) : rest.length < s.length := by
  unfold readField at h
  split at h
  · cases h
  · cases h
    simp
  · split at h
    · rename_i hn
      cases h
      exact Nat.lt_succ_of_lt (length_of_readNested? hn)
    · cases h
  · split at h
    · rename_i hn
      cases h
      exact Nat.lt_succ_of_lt (length_of_readNested? hn)
    · cases h
  · cases h
  · cases h
    simp only [List.length_cons]
    omega
  · cases h
    simp

theorem length_of_readWidth {s rest : List Char} {n : Nat} (h : readWidth s = .ok (n, rest)) :
    rest.length ≤ s.length := by
  simp only [readWidth] at h
  split at h
  · cases h
    exact (List.dropWhile_suffix _).length_le
  · cases h

theorem length_of_readWidths {s rest : List Char} {m n : Nat}
    (h : readWidths s = .ok (m, n, rest)) : rest.length ≤ s.length := by
  unfold readWidths at h
  cases h₁ : readWidth s with
  | error e => simp [h₁, bind, Except.bind] at h
  | ok p =>
    obtain ⟨l, t⟩ := p
    have hl := length_of_readWidth h₁
    simp only [h₁, bind, Except.bind] at h
    split at h
    · rename_i t'
      cases h₂ : readWidth t' with
      | error e => simp [h₂] at h
      | ok q =>
        obtain ⟨g, u⟩ := q
        have hg := length_of_readWidth h₂
        simp only [h₂, pure, Except.pure] at h
        cases h
        simp only [List.length_cons] at hl
        omega
    · simp only [pure, Except.pure] at h
      cases h
      exact hl

theorem length_of_readDirective {s rest : List Char} {e : Element}
    (h : readDirective s = .ok (some (e, rest))) : rest.length < s.length := by
  unfold readDirective at h
  have hd : (s.dropWhile isFlag).length ≤ s.length := (List.dropWhile_suffix isFlag).length_le
  cases h₁ : readWidths (s.dropWhile isFlag) with
  | error e => simp [h₁, bind, Except.bind] at h
  | ok p =>
    obtain ⟨m, n, t⟩ := p
    have hl := length_of_readWidths h₁
    simp only [h₁, bind, Except.bind] at h
    cases h₂ : readField t with
    | error e => simp [h₂] at h
    | ok q =>
      simp only [h₂, pure, Except.pure, Except.ok.injEq, Option.map_eq_some_iff] at h
      obtain ⟨⟨f, u⟩, rfl, h⟩ := h
      cases h
      exact Nat.lt_of_lt_of_le (length_of_readField h₂) (Nat.le_trans hl hd)

/-! ## Templates -/

/-- The character that a letter stands for behind a backslash. -/
def escape? : Char → Option Char
  | 'b' => some '\x08'
  | 'f' => some '\x0c'
  | 'n' => some '\n'
  | 'r' => some '\r'
  | 't' => some '\t'
  | 'v' => some '\x0b'
  | _ => none

/-- The element of fixed text. -/
def plain (s : List Char) : Element := { field := .literal (String.ofList s) }

/-- The element of the literal text read so far, last character first, if there is any. -/
def pending (literal : List Char) : List Element :=
  if literal.isEmpty then [] else [plain literal.reverse]

/-- The elements of a text, behind literal text that has been read, last character first. -/
def readFrom (literal : List Char) (s : List Char) : Except TemplateError (List Element) :=
  match s with
  | [] => .ok (pending literal)
  | '\\' :: [] => .ok (pending literal)
  | '\\' :: c :: rest =>
    (readFrom [] rest).map fun es =>
      pending literal ++ ((escape? c).map fun c => plain [c]).toList ++ es
  | '%' :: rest =>
    match h : readDirective rest with
    | .error e => .error e
    | .ok none => .ok (pending literal)
    | .ok (some (e, rest')) =>
      have : rest'.length < rest.length + 1 := Nat.lt_succ_of_lt (length_of_readDirective h)
      (readFrom [] rest').map fun es => pending literal ++ e :: es
  | c :: rest => readFrom (c :: literal) rest
termination_by s.length

/-- Reads the text of a template. -/
def read (text : String) : Except TemplateError Template :=
  (readFrom [] text.toList).map fun elements => { elements, source := text }

/-- The text before the first `%/` and the text behind it. -/
def splitLine : List Char → Option (List Char × List Char)
  | [] => none
  | '%' :: '/' :: rest => some ([], rest)
  | c :: rest => (splitLine rest).map fun (first, next) => (c :: first, next)

/-- The template of the first line of a group and that of the others; without `%/` they are the
same. -/
def split (text : String) : Except TemplateError (Template × Template) :=
  match splitLine text.toList with
  | some (first, next) => do
    return (← read (String.ofList first), ← read (String.ofList next))
  | none => (read text).map fun t => (t, t)

end Template

end Bookkeeping
