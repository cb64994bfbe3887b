import Bookkeeping.Expr.Token
import Bookkeeping.Text.Letter

/-!
# From text to tokens

`Token.next` cuts the longest token off a text, after blanks.  `Lexeme.scan` cuts a whole text into
tokens; where an operand is expected it takes a slash for the start of an account mask.  Columns
count the characters used up.
-/

namespace Bookkeeping

open Text

/-! ## One token -/

namespace Token

/-- A name begins with this character. -/
def startsName (c : Char) : Bool := isLetter c || c == '_'

/-- A name goes on with this character. -/
def inName (c : Char) : Bool := isLetter c || isNumber c || c == '_'

/-- The whole number of these digits. -/
def ofIntegerDigits (digits : List Char) : Except SyntaxError Token :=
  match Whole.ofInt? (Nat.ofDigitChars 10 digits 0) with
  | some n => .ok (.integer n)
  | none => .error (.badInteger (String.ofList digits))

/-- The decimal of these digits with a point among or behind them. -/
def ofDecimalDigits (digits : List Char) : Except SyntaxError Token :=
  match Decimal.ofDigits? digits with
  | some d => .ok (.decimal d)
  | none => .error (.badDecimal (String.ofList digits))

/-- The number that the text begins with, and the rest. -/
def number (s : List Char) : Except SyntaxError (Token × List Char) :=
  let whole := s.takeWhile Char.isDigit
  match s.dropWhile Char.isDigit with
  | '.' :: rest =>
    (ofDecimalDigits (whole ++ '.' :: rest.takeWhile Char.isDigit)).map
      fun t => (t, rest.dropWhile Char.isDigit)
  | rest => (ofIntegerDigits whole).map fun t => (t, rest)

/-- The amount that the text behind an opening brace begins with, and the rest. -/
def amountLiteral (s : List Char) : Except SyntaxError (Token × List Char) :=
  match s.dropWhile (· != '\x7d') with
  | [] => .error .openAmount
  | _ :: rest =>
    match Amount.read (String.ofList (s.takeWhile (· != '\x7d'))) with
    | .ok a => .ok (.amount a, rest)
    | .error e => .error (.amount e)

/-- One token if the text goes on with `c`, and another if not. -/
def orWith (c : Char) (with' without : Token) (s : List Char) : Token × List Char :=
  match s with
  | d :: rest => if d = c then (with', rest) else (without, s)
  | [] => (without, [])

/-- A token that needs the text to go on with `c`; `column` is where that would stand. -/
def pairWith (c : Char) (t : Token) (column : Nat) (s : List Char) :
    Except SyntaxError (Token × List Char) :=
  match s with
  | d :: rest => if d = c then .ok (t, rest) else .error (.expectedChar c column)
  | [] => .error (.expectedChar c column)

/-- The token that begins with `c` and goes on in `rest`; `column` counts the characters up to
`c`. -/
def startingWith (column : Nat) (c : Char) (rest : List Char) :
    Except SyntaxError (Token × List Char) :=
  match c with
  | '+' => .ok (.plus, rest)
  | '-' => .ok (.minus, rest)
  | '*' => .ok (.star, rest)
  | '/' => .ok (.slash, rest)
  | '(' => .ok (.leftParen, rest)
  | ')' => .ok (.rightParen, rest)
  | '\x7b' => amountLiteral rest
  | '!' => .ok (orWith '=' .notEqual .not rest)
  | '<' => .ok (orWith '=' .lessEqual .less rest)
  | '>' => .ok (orWith '=' .greaterEqual .greater rest)
  | '=' => pairWith '=' .equal (column + 1) rest
  | '&' => pairWith '&' .and (column + 1) rest
  | '|' => pairWith '|' .or (column + 1) rest
  | c =>
    if c.isDigit then number (c :: rest)
    else if startsName c then
      .ok (.name (String.ofList (c :: rest.takeWhile inName)), rest.dropWhile inName)
    else .error (.unexpectedChar c column)

/-- The token that the text begins with after blanks, and the rest; `total` is the length of the
whole text. -/
def next (total : Nat) (s : List Char) : Except SyntaxError (Token × List Char) :=
  match trimStart s with
  | [] => .ok (.endOfInput, [])
  | c :: rest => startingWith (total - rest.length) c rest

/-! ### A token is used up -/

theorem snd_of_map {r : Except SyntaxError Token} {u : List Char} {p : Token × List Char}
    (h : (r.map fun t => (t, u)) = .ok p) : p.2 = u := by
  cases r with
  | error e => cases h
  | ok t =>
    cases h
    rfl

theorem length_of_number {c : Char} {s rest : List Char} {t : Token} (hc : c.isDigit)
    (h : number (c :: s) = .ok (t, rest)) : rest.length ≤ s.length := by
  have hd : ((c :: s).dropWhile Char.isDigit).length ≤ s.length := by
    rw [List.dropWhile_cons_of_pos hc]
    exact (List.dropWhile_suffix _).length_le
  simp only [number] at h
  split at h
  · rename_i r hr
    rw [hr, List.length_cons] at hd
    have hr' := (List.dropWhile_suffix Char.isDigit (l := r)).length_le
    have hrest := snd_of_map h
    simp only at hrest
    subst hrest
    omega
  · have hrest := snd_of_map h
    simp only at hrest
    rw [hrest]
    exact hd

theorem length_of_amountLiteral {s rest : List Char} {t : Token}
    (h : amountLiteral s = .ok (t, rest)) : rest.length ≤ s.length := by
  have hd := (List.dropWhile_suffix (· != '\x7d') (l := s)).length_le
  unfold amountLiteral at h
  split at h
  · cases h
  · rename_i c r hr
    rw [hr, List.length_cons] at hd
    split at h
    · simp only [Except.ok.injEq, Prod.mk.injEq] at h
      obtain ⟨-, rfl⟩ := h
      omega
    · cases h

theorem length_orWith_le (c : Char) (t t' : Token) (s : List Char) :
    (orWith c t t' s).2.length ≤ s.length := by
  unfold orWith
  split
  · split <;> simp
  · simp

theorem length_of_pairWith {c : Char} {t u : Token} {n : Nat} {s rest : List Char}
    (h : pairWith c t n s = .ok (u, rest)) : rest.length ≤ s.length := by
  unfold pairWith at h
  split at h
  · split at h
    · simp only [Except.ok.injEq, Prod.mk.injEq] at h
      obtain ⟨-, rfl⟩ := h
      simp
    · cases h
  · cases h

theorem length_of_startingWith {n : Nat} {c : Char} {s rest : List Char} {t : Token}
    (h : startingWith n c s = .ok (t, rest)) : rest.length ≤ s.length := by
  unfold startingWith at h
  split at h
  case h_7 => exact length_of_amountLiteral h
  case h_8 | h_9 | h_10 =>
    simp only [Except.ok.injEq] at h
    have := congrArg (·.2.length) h
    simp only at this
    rw [← this]
    exact length_orWith_le ..
  case h_11 | h_12 | h_13 => exact length_of_pairWith h
  case h_14 =>
    split at h
    · rename_i hc
      exact length_of_number hc h
    · split at h
      · simp only [Except.ok.injEq, Prod.mk.injEq] at h
        obtain ⟨-, rfl⟩ := h
        exact (List.dropWhile_suffix _).length_le
      · cases h
  all_goals
    simp only [Except.ok.injEq, Prod.mk.injEq] at h
    obtain ⟨-, rfl⟩ := h
    exact Nat.le_refl _

theorem length_of_next {n : Nat} {s rest : List Char} {t : Token}
    (h : next n s = .ok (t, rest)) (ht : t ≠ .endOfInput) : rest.length < s.length := by
  have hs := length_trimStart_le s
  unfold next at h
  split at h
  · cases h
    exact absurd rfl ht
  · rename_i c r hr
    rw [hr, List.length_cons] at hs
    exact Nat.lt_of_le_of_lt (length_of_startingWith h) hs

end Token

/-! ## All tokens of a text -/

/-- A step in the reading of a text: a token or a mask, with the column behind it, or what is wrong
with the text from here on. -/
inductive Lexeme where
  | token (t : Token) (column : Nat)
  | mask (source : String) (column : Nat)
  | fault (e : SyntaxError)
deriving DecidableEq

namespace Lexeme

/-- The text of a mask up to the slash that ends it, and the rest; a slash behind a backslash is a
slash of the mask. -/
def maskText? : List Char → Option (List Char × List Char)
  | [] => none
  | '/' :: rest => some ([], rest)
  | '\\' :: '/' :: rest => (maskText? rest).map fun (s, rest) => ('/' :: s, rest)
  | c :: rest => (maskText? rest).map fun (s, rest) => (c :: s, rest)

theorem length_of_maskText? {s inner rest : List Char} (h : maskText? s = some (inner, rest)) :
    rest.length < s.length := by
  fun_induction maskText? s generalizing inner with
  | case1 => simp at h
  | case2 r =>
    simp only [Option.some.injEq, Prod.mk.injEq] at h
    simp [h.2]
  | case3 r ih =>
    simp only [Option.map_eq_some_iff, Prod.exists, Prod.mk.injEq] at h
    obtain ⟨i, u, hu, -, rfl⟩ := h
    exact Nat.lt_succ_of_lt (Nat.lt_succ_of_lt (ih hu))
  | case4 c r _ _ ih =>
    simp only [Option.map_eq_some_iff, Prod.exists, Prod.mk.injEq] at h
    obtain ⟨i, u, hu, -, rfl⟩ := h
    exact Nat.lt_succ_of_lt (ih hu)

/-- The steps in the reading of a text; `operand` tells that an operand is expected first, and
`total` is the length of the whole text. -/
def scanFrom (total : Nat) (operand : Bool) (s : List Char) : List Lexeme :=
  match h : Token.next total s with
  | .error e => [.fault e]
  | .ok (t, rest) =>
    if ht : t = .endOfInput then [.token t (total - rest.length)]
    else
      have : rest.length < s.length := Token.length_of_next h ht
      if t = .slash ∧ operand then
        match hm : maskText? rest with
        | none => [.fault .openMask]
        | some (source, rest') =>
          have : rest'.length < s.length := Nat.lt_trans (length_of_maskText? hm) this
          .mask (String.ofList source) (total - rest'.length) :: scanFrom total false rest'
      else .token t (total - rest.length) :: scanFrom total (!t.endsOperand) rest
termination_by s.length

/-- The steps in the reading of a text. -/
def scan (text : String) : List Lexeme := scanFrom text.length true text.toList

end Lexeme

end Bookkeeping
