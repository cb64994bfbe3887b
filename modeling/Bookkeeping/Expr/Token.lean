import Bookkeeping.Expr.Basic
import Bookkeeping.Amount.Reader
import Bookkeeping.Text.Quoted

/-!
# Tokens of expressions

A `Token` is a word of the language of expressions.  `SyntaxError` lists what can be wrong with the
text of an expression; some of its messages quote a token (`Token.text`).
-/

namespace Bookkeeping

/-- A word of the language of expressions. -/
inductive Token where
  | integer (n : Whole)
  | decimal (d : Decimal)
  | amount (a : Amount)
  | name (s : String)
  | plus | minus | star | slash
  | equal | notEqual | less | greater | lessEqual | greaterEqual
  | and | or | not
  | leftParen | rightParen
  | endOfInput
deriving DecidableEq

namespace Token

/-- The operator between two operands that the token stands for. -/
def binaryOp? : Token → Option BinaryOp
  | plus => some .add
  | minus => some .sub
  | star => some .mul
  | slash => some .div
  | equal => some .eq
  | notEqual => some .ne
  | less => some .lt
  | greater => some .gt
  | lessEqual => some .le
  | greaterEqual => some .ge
  | and => some .and
  | or => some .or
  | _ => none

/-- The operator before an operand that the token stands for. -/
def unaryOp? : Token → Option UnaryOp
  | minus => some .neg
  | not => some .not
  | _ => none

/-- The token may end an operand, so that an operator follows it. -/
def endsOperand : Token → Bool
  | integer _ | decimal _ | amount _ | name _ | rightParen => true
  | _ => false

/-! ## Messages -/

/-- The style of a commodity as messages show it. -/
def styleText (c : Commodity) : String :=
  "CommodityFlags(" ++
    (match c.suffixed, c.separated with
    | false, false => "0x0"
    | true, false => "STYLE_SUFFIXED"
    | false, true => "STYLE_SEPARATED"
    | true, true => "STYLE_SUFFIXED | STYLE_SEPARATED") ++ ")"

/-- A commodity as messages show it. -/
def commodityText : Option Commodity → String
  | none => "None"
  | some c =>
    "Some(Commodity \x7b symbol: " ++ Text.quoted c.symbol ++ ", precision: " ++
      Text.natText c.precision ++ ", flags: " ++ styleText c ++ " \x7d)"

/-- An amount as messages show it. -/
def amountText (a : Amount) : String :=
  "Amount \x7b quantity: " ++ a.quantity.text ++ ", commodity: " ++ commodityText a.commodity ++
    ", keep_precision: " ++ (if a.unrounded then "true" else "false") ++ " \x7d"

/-- The word for the token without what it carries. -/
def word : Token → String
  | integer _ => "Integer"
  | decimal _ => "Decimal"
  | amount _ => "Amount"
  | name _ => "Identifier"
  | plus => "Plus"
  | minus => "Minus"
  | star => "Star"
  | slash => "Slash"
  | equal => "Equal"
  | notEqual => "NotEqual"
  | less => "Less"
  | greater => "Greater"
  | lessEqual => "LessEqual"
  | greaterEqual => "GreaterEqual"
  | and => "And"
  | or => "Or"
  | not => "Not"
  | leftParen => "LeftParen"
  | rightParen => "RightParen"
  | endOfInput => "EndOfInput"

/-- The token as messages show it. -/
def text (t : Token) : String :=
  match t with
  | integer n => t.word ++ "(" ++ Text.intText n.val ++ ")"
  | decimal d => t.word ++ "(" ++ d.text ++ ")"
  | amount a => t.word ++ "(" ++ amountText a ++ ")"
  | name s => t.word ++ "(" ++ Text.quoted s ++ ")"
  | _ => t.word

end Token

/-- What can be wrong with the text of an expression. -/
inductive SyntaxError where
  | unexpectedChar (c : Char) (column : Nat)
  /-- A second character was needed to complete an operator. -/
  | expectedChar (c : Char) (column : Nat)
  | badInteger (digits : String)
  | badDecimal (digits : String)
  | openAmount
  | openMask
  | amount (error : AmountError)
  | badMask (source : String)
  | unknownName (name : String)
  /-- An operand was expected. -/
  | expectedOperand (found : Token)
  | expectedClosing (found : Token)
  /-- The expression was complete before this token. -/
  | trailing (found : Token) (column : Nat)
deriving DecidableEq

namespace SyntaxError

/-- The wording of the error. -/
def message : SyntaxError → String
  | amount e => e.message
  | unknownName s => "Unknown identifier: " ++ s
  | unexpectedChar c n =>
    "Parse error: Unexpected character '" ++ String.singleton c ++ "' at column " ++
      Text.natText n
  | expectedChar c n =>
    "Parse error: Expected '" ++ String.singleton c ++ "' at column " ++ Text.natText n
  | badInteger s => "Parse error: Invalid integer: " ++ s
  | badDecimal s => "Parse error: Invalid decimal number: " ++ s
  | openAmount => "Parse error: Unterminated amount literal"
  | openMask => "Parse error: Unterminated account mask"
  | badMask s => "Parse error: Invalid account mask /" ++ s ++ "/"
  | expectedOperand t => "Parse error: Unexpected token in primary expression: " ++ t.text
  | expectedClosing t => "Parse error: Expected RightParen, found " ++ t.text
  | trailing t n =>
    "Parse error: Unexpected " ++ t.text ++ " after expression at column " ++ Text.natText n

end SyntaxError

end Bookkeeping
