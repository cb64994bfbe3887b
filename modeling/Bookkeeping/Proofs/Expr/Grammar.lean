import Bookkeeping.Expr.Parser

/-!
# The grammar of expressions

The language of expressions without a parser.  `Word` lists the words of the language, and
`Cut s w r` cuts the longest word `w` off the front of `s`, behind blanks, leaving `r`.  `Leaf` says
what a word stands for as an operand, and `MaskBody` how the pattern of a mask is written.  `Reads`
is the grammar itself: `Reads k s e r` derives `e`, on the `k`-th of the `levels` of operators, from
the part of `s` in front of `r`.  `Derives` asks for a whole text.
-/

namespace Bookkeeping

namespace Grammar

open Text

/-! ## Words -/

/-- The words that are made of signs. -/
def signs : List (List Char) :=
  [['+'], ['-'], ['*'], ['/'], ['=', '='], ['!', '='], ['<'], ['>'], ['<', '='], ['>', '='],
   ['&', '&'], ['|', '|'], ['!'], ['('], [')']]

/-- The words of the language, whether or not they stand for something. -/
inductive Word : List Char → Prop where
  | sign {w : List Char} (h : w ∈ signs) : Word w
  | integer {ds : List Char} (hne : ds ≠ []) (hds : ∀ c ∈ ds, c.isDigit) : Word ds
  | decimal {ds es : List Char} (hne : ds ≠ []) (hds : ∀ c ∈ ds, c.isDigit)
      (hes : ∀ c ∈ es, c.isDigit) : Word (ds ++ '.' :: es)
  | amount {w : List Char} (h : '\x7d' ∉ w) : Word ('\x7b' :: (w ++ ['\x7d']))
  | name {c : Char} {cs : List Char} (hc : Token.startsName c) (hcs : ∀ d ∈ cs, Token.inName d) :
      Word (c :: cs)

/-- No word at the front of `w ++ r` is longer than `w`, which is one. -/
def Longest (w r : List Char) : Prop :=
  Word w ∧ ∀ w', Word w' → w' <+: w ++ r → w'.length ≤ w.length

/-- Behind blanks `s` begins with the longest word `w`, and `r` is left over. -/
def Cut (s w r : List Char) : Prop :=
  ∃ blanks, s = blanks ++ (w ++ r) ∧ (∀ c ∈ blanks, isBlank c) ∧ Longest w r

/-! ## Operands -/

/-- The word stands for the expression. -/
inductive Leaf : List Char → Expr → Prop where
  | integer {ds : List Char} {n : Whole} (hne : ds ≠ []) (hds : ∀ c ∈ ds, c.isDigit)
      (h : n.val = Nat.ofDigitChars 10 ds 0) : Leaf ds (.literal (.integer n))
  | decimal {ds es : List Char} {d : Decimal} (hne : ds ≠ []) (hds : ∀ c ∈ ds, c.isDigit)
      (hes : ∀ c ∈ es, c.isDigit) (h : Decimal.ofDigits? (ds ++ '.' :: es) = some d) :
      Leaf (ds ++ '.' :: es) (.literal (.amount { quantity := d }))
  | amount {w : List Char} {a : Amount} (hw : '\x7d' ∉ w)
      (h : Amount.read (String.ofList w) = .ok a) :
      Leaf ('\x7b' :: (w ++ ['\x7d'])) (.literal (.amount a))
  | yes : Leaf ['t', 'r', 'u', 'e'] (.literal (.boolean true))
  | no : Leaf ['f', 'a', 'l', 's', 'e'] (.literal (.boolean false))
  | known {w : List Char} {x : Variable} (h : Variable.ofName? (String.ofList w) = some x) :
      Leaf w (.known x)

/-- The first text is a way to write the second one between the slashes of a mask.  A slash is
written behind a backslash, so a backslash cannot be the last character. -/
inductive MaskBody : List Char → List Char → Prop where
  | nil : MaskBody [] []
  | slash {w p : List Char} : MaskBody w p → MaskBody ('\\' :: '/' :: w) ('/' :: p)
  | char {c : Char} {w p : List Char} (hc : c ≠ '/') (hw : c = '\\' → w ≠ []) :
      MaskBody w p → MaskBody (c :: w) (c :: p)

/-! ## Expressions -/

/-- The operators between operands, level by level, from the loosest to the tightest. -/
def levels : List (List BinaryOp) :=
  [[.or], [.and], [.eq, .ne], [.lt, .gt, .le, .ge], [.add, .sub], [.mul, .div]]

/-- The level of an operator between operands. -/
def level (op : BinaryOp) : Nat := levels.findIdx (·.contains op)

/-- The level of operands, tighter than any operator between them. -/
def operandLevel : Nat := levels.length

/-- The word of an operator before an operand. -/
def signOf : UnaryOp → List Char
  | .neg => ['-']
  | .not => ['!']

/-- The part of the first text in front of the second one is the expression, whose operators outside
of parentheses are on the given level or tighter ones. -/
inductive Reads : Nat → List Char → Expr → List Char → Prop where
  | leaf {s w r : List Char} {e : Expr} : Cut s w r → Leaf w e → Reads operandLevel s e r
  | mask {blanks w p r : List Char} {m : Mask} (hb : ∀ c ∈ blanks, isBlank c)
      (hw : MaskBody w p) (hm : Mask.read? (String.ofList p) = some m) :
      Reads operandLevel (blanks ++ '/' :: (w ++ '/' :: r)) (.mask m) r
  | group {s s₁ s₂ r : List Char} {e : Expr} :
      Cut s ['('] s₁ → Reads 0 s₁ e s₂ → Cut s₂ [')'] r → Reads operandLevel s e r
  | unary {s s₁ r : List Char} {e : Expr} (op : UnaryOp) :
      Cut s (signOf op) s₁ → Reads operandLevel s₁ e r → Reads operandLevel s (.unary op e) r
  | tighter {k : Nat} {s r : List Char} {e : Expr} (hk : k < operandLevel) :
      Reads (k + 1) s e r → Reads k s e r
  | binary {s s₁ s₂ r : List Char} {e₁ e₂ : Expr} (op : BinaryOp) :
      Reads (level op) s e₁ s₁ → Cut s₁ op.text.toList s₂ → Reads (level op + 1) s₂ e₂ r →
      Reads (level op) s (.binary op e₁ e₂) r

/-- The text is a way to write the expression. -/
def Derives (text : String) (e : Expr) : Prop :=
  ∃ r, Reads 0 text.toList e r ∧ ∀ c ∈ r, isBlank c

end Grammar

end Bookkeeping
