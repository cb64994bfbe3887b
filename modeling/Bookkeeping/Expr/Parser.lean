import Bookkeeping.Expr.Lexer
import Bookkeeping.Mask.Reader

/-!
# From tokens to expressions

An operand is a literal, a name, a mask, an expression in parentheses, or an operator before an
operand; it may be followed by operators and further operands.  An operator takes to its right only
what binds tighter than itself, so operators of one precedence group to the left.
-/

namespace Bookkeeping

namespace Expr

/-- An expression read from the front of the steps `s`, and the steps behind it. -/
abbrev Read (s : List Lexeme) : Type :=
  Except SyntaxError (Expr × { rest : List Lexeme // rest.length < s.length })

/-- What is wrong with the text here, if anything is. -/
def faultAt? : List Lexeme → Option SyntaxError
  | .fault e :: _ => some e
  | _ => none

/-- The token that stands here, for a message. -/
def tokenAt : List Lexeme → Token
  | .token t _ :: _ => t
  | .mask .. :: _ => .slash
  | _ => .endOfInput

/-- The expression that a name stands for. -/
def ofName (s : String) : Except SyntaxError Expr :=
  match s with
  | "true" => .ok (literal (.boolean true))
  | "false" => .ok (literal (.boolean false))
  | s =>
    match Variable.ofName? s with
    | some x => .ok (known x)
    | none => .error (.unknownName s)

/-- The expression of a mask. -/
def ofMask (source : String) : Except SyntaxError Expr :=
  match Mask.read? source with
  | some m => .ok (mask m)
  | none => .error (.badMask source)

/-- Reads a closing parenthesis. -/
def readClosing (s : List Lexeme) :
    Except SyntaxError { rest : List Lexeme // rest.length ≤ s.length } :=
  match s with
  | .token .rightParen _ :: rest => .ok ⟨rest, by simp⟩
  | .fault e :: _ => .error e
  | s => .error (.expectedClosing (tokenAt s))

/-- The end of the text, behind an expression. -/
def readEnd (s : List Lexeme) : Except SyntaxError Unit :=
  match s with
  | .token .endOfInput _ :: _ => .ok ()
  | .token t column :: _ => .error (.trailing t column)
  | .mask _ column :: _ => .error (.trailing .slash column)
  | .fault e :: _ => .error e
  | [] => .ok ()

mutual

/-- Reads an operand. -/
def readOperand (s : List Lexeme) : Read s :=
  match s with
  | [] => .error (.expectedOperand .endOfInput)
  | .fault e :: _ => .error e
  | .mask source _ :: rest =>
    match faultAt? rest with
    | some e => .error e
    | none => (ofMask source).map fun e => (e, ⟨rest, by simp⟩)
  | .token t _ :: rest =>
    match t with
    | .integer n => .ok (literal (.integer n), ⟨rest, by simp⟩)
    | .decimal d => .ok (literal (.amount { quantity := d }), ⟨rest, by simp⟩)
    | .amount a => .ok (literal (.amount a), ⟨rest, by simp⟩)
    | .name name =>
      match faultAt? rest with
      | some e => .error e
      | none => (ofName name).map fun e => (e, ⟨rest, by simp⟩)
    | .leftParen =>
      match readExpr 0 rest with
      | .error e => .error e
      | .ok (e, ⟨rest', h⟩) =>
        match readClosing rest' with
        | .error e => .error e
        | .ok ⟨rest'', h'⟩ => .ok (e, ⟨rest'', by simp only [List.length_cons]; omega⟩)
    | t =>
      match t.unaryOp? with
      | none => .error (.expectedOperand t)
      | some op =>
        match readOperand rest with
        | .error e => .error e
        | .ok (e, ⟨rest', h⟩) =>
          .ok (unary op e, ⟨rest', by simp only [List.length_cons]; omega⟩)
termination_by (s.length, 0)

/-- Reads an operand and the operators of at least the given precedence behind it. -/
def readExpr (least : Nat) (s : List Lexeme) : Read s :=
  match readOperand s with
  | .error e => .error e
  | .ok (left, ⟨rest, h⟩) =>
    match readOperators least left rest with
    | .error e => .error e
    | .ok (e, ⟨rest', h'⟩) => .ok (e, ⟨rest', by omega⟩)
termination_by (s.length, 1)

/-- Reads operators of at least the given precedence, with their right operands, behind an
expression that has been read. -/
def readOperators (least : Nat) (left : Expr) (s : List Lexeme) :
    Except SyntaxError (Expr × { rest : List Lexeme // rest.length ≤ s.length }) :=
  match s with
  | .fault e :: _ => .error e
  | .token t column :: rest =>
    match t.binaryOp? with
    | none => .ok (left, ⟨.token t column :: rest, Nat.le_refl _⟩)
    | some op =>
      if op.precedence < least then .ok (left, ⟨.token t column :: rest, Nat.le_refl _⟩)
      else
        match readExpr (op.precedence + 1) rest with
        | .error e => .error e
        | .ok (right, ⟨rest', h⟩) =>
          match readOperators least (binary op left right) rest' with
          | .error e => .error e
          | .ok (e, ⟨rest'', h'⟩) =>
            .ok (e, ⟨rest'', by simp only [List.length_cons]; omega⟩)
  | s => .ok (left, ⟨s, Nat.le_refl _⟩)
termination_by (s.length, 0)

end

/-- The expression of all the steps. -/
def ofLexemes (s : List Lexeme) : Except SyntaxError Expr := do
  let (e, ⟨rest, _⟩) ← readExpr 0 s
  readEnd rest
  return e

/-- Reads the text of an expression. -/
def read (text : String) : Except SyntaxError Expr := ofLexemes (Lexeme.scan text)

end Expr

end Bookkeeping
