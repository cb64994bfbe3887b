import Bookkeeping.Expr.Eval
import Bookkeeping.Report.Name
import Bookkeeping.Report.Sink
import Bookkeeping.Settings
import Bookkeeping.Text.Numeral

/-!
# Writing lines

A `Renderer` writes a template for a scope, element by element and one piece each.  The text of a
field is found first (`cellOf`); where the field has not laid it out itself it is then padded to
the least width and cut at the greatest (`Element.fit`), and coloured last.  A field whose record
is not in the scope is empty.
-/

namespace Bookkeeping

/-- The text of a field before layout. -/
structure Cell where
  text : String := ""
  /-- The text is written in red. -/
  coloured : Bool := false
  /-- The text has its widths already. -/
  sized : Bool := false

namespace Text

/-- The text in red. -/
def red (s : String) : String := "\x1b[31m" ++ s ++ "\x1b[0m"

end Text

namespace Elision

/-- The text in at most `width` characters, where zero is no width. -/
def limit (e : Elision) (width : Nat) (isPath : Bool) (s : String) : String :=
  if width = 0 then s else e.shorten width isPath s

end Elision

namespace Element

/-- The text padded to the least width and cut at the greatest. -/
def fit (e : Element) (s : String) : String :=
  let padded := if e.left then Text.padRight e.min s else Text.padLeft e.min s
  if 0 < e.max ∧ e.max < padded.length then String.ofList (padded.toList.take e.max) else padded

/-- The text of a cell in the layout of the element. -/
def lay (e : Element) (c : Cell) : String :=
  let s := if c.sized then c.text else e.fit c.text
  if c.coloured then Text.red s else s

end Element

namespace Position

/-- The offset or the line that a mark stands for. -/
def place (p : Position) : PositionMark → Nat
  | .startOffset => p.startOffset
  | .startLine => p.startLine
  | .endOffset => p.endOffset
  | .endLine => p.endLine

end Position

/-- What writes lines: the settings, and the formulas of amounts and totals. -/
structure Renderer where
  settings : Settings
  amount : Formula
  total : Formula

namespace Renderer

/-- The renderer that the settings describe. -/
def ofSettings (settings : Settings) : Except ReportError Renderer := do
  let amount ← (Formula.read settings.amountExpr).mapError .expression
  let total ← (Formula.read settings.totalExpr).mapError .expression
  return { settings, amount := amount.fold, total := total.fold }

/-! ## Texts of fields -/

/-- The text cut to the width of the element. -/
def limit (r : Renderer) (e : Element) (isPath : Bool) (s : String) : String :=
  r.settings.elision.limit e.max isPath s

/-- The date of the scope by a pattern. -/
def dateText (s : Scope) (pattern : String) : String :=
  (s.actualDate.map (·.format pattern)).getD ""

/-- The date of the scope, and the effective one behind `=` if it is another. -/
def bothDatesText (r : Renderer) (s : Scope) : String :=
  let pattern := r.settings.datePattern
  match s.actualDate with
  | none => ""
  | some actual =>
    match s.effectiveDate with
    | some effective =>
      if effective = actual then actual.format pattern
      else actual.format pattern ++ "=" ++ effective.format pattern
    | none => actual.format pattern

/-- The path of the source of the scope's entry. -/
def sourceText (s : Scope) : String :=
  (s.entry.bind fun e => e.source.bind fun i => s.journal.sources[i]?).getD ""

/-- Where the scope's entry or transaction stands in the source. -/
def positionText (s : Scope) (record : PositionOf) (mark : PositionMark) : String :=
  let position : Option Position :=
    match record with
    | .entry => s.entry.map (·.position)
    | .transaction => s.transaction.map (·.position)
  (position.map fun p => Text.natText (p.place mark)).getD ""

/-- The mark of the state that the transactions of the scope's entry share. -/
def entryMarker (s : Scope) : String :=
  ((s.entry.bind s.journal.entryState).map ClearingState.marker).getD ""

/-- The code of the scope's entry in brackets. -/
def codeText (s : Scope) : String :=
  match s.entry.bind (·.code) with
  | some code => "(" ++ code ++ ") "
  | none => ""

/-- The note of the scope's transaction, cut to the element and behind a mark. -/
def noteText (r : Renderer) (e : Element) (s : Scope) (mark : String) : String :=
  match s.transaction.bind (·.note) with
  | some note => mark ++ r.limit e false note
  | none => ""

/-- A name of the scope's account, cut to the element; a virtual posting has it in brackets. -/
def bracketed (r : Renderer) (e : Element) (s : Scope) (name : String) : String :=
  match s.transaction with
  | some x =>
    if x.isVirtual then
      let inner := if 2 < e.max then r.settings.elision.shorten (e.max - 2) true name else name
      if x.mustBalance then "[" ++ inner ++ "]" else "(" ++ inner ++ ")"
    else r.limit e true name
  | none => r.limit e true name

/-- The text of a name that the scope's account has; a space without an account. -/
def accountText (r : Renderer) (e : Element) (s : Scope) (name : Account → String) : String :=
  match s.account with
  | some a => r.bracketed e s (name a)
  | none => " "

/-- The mark of the transaction's state, when its entry's transactions do not share one. -/
def ownMarker (s : Scope) : String :=
  match s.entry, s.transaction with
  | some e, some x => if (s.journal.entryState e).isNone then x.state.marker else ""
  | _, _ => ""

/-- The transaction is the second of the only two that its entry displays, and its amount the
negative of the first one's. -/
def offsetsFirst (s : Scope) (x : Transaction) : Bool :=
  match s.entry with
  | none => false
  | some e =>
    match (s.journal.entryTransactions e).filter fun y => s.state.transactionHas y.id .waiting with
    | [first, last] => last.id == x.id && first.amount.same last.amount.neg
    | _ => false

/-- The amount of the scope's transaction with its price per unit if it has a cost; nothing where
it only offsets that of the first transaction. -/
def amountWithPriceText (s : Scope) : Except ReportError String :=
  match s.transaction with
  | none => .ok ""
  | some x =>
    match x.cost, x.amount.isZero with
    | some cost, false =>
      match cost.perUnit x.amount with
      | .ok price => .ok (x.amount.text ++ " @ " ++ price.showAll.text)
      | .error e => .error (.value (.amount e))
    | _, _ => .ok (if offsetsFirst s x then "" else x.amount.text)

/-! ## Values -/

/-- The value is coloured by the element: it has the sign that the settings ask for. -/
def colours (r : Renderer) (e : Element) (v : Value) : Bool :=
  e.highlight && r.settings.coloured &&
    v.sign?.any fun sign => if r.settings.inverted then 0 < sign else sign < 0

/-- The amounts of a balance one to a line, in the least width of the element and from the second
line on in its greatest. -/
def balanceText (e : Element) (b : Balance) : String :=
  b.textIn e.min (if 0 < e.max then e.max else e.min)

/-- The cell of a value. -/
def valueCell (r : Renderer) (e : Element) (v : Value) : Cell :=
  let coloured := r.colours e v
  match v with
  | .balance b => { text := balanceText e b, coloured, sized := true }
  | .pair p => { text := balanceText e p.quantity, coloured, sized := true }
  | .dateTime t => { text := t.format r.settings.datePattern, coloured }
  | v => { text := v.text, coloured }

/-- The cell of the value of a formula. -/
def formulaCell (r : Renderer) (e : Element) (s : Scope) (f : Formula) : Except ReportError Cell :=
  ((f.eval s).mapError .value).map (r.valueCell e)

/-! ## Elements -/

/-- The cell of an element. -/
def cellOf (r : Renderer) (s : Scope) (e : Element) : Except ReportError Cell :=
  let plain (text : String) : Except ReportError Cell := .ok { text }
  match e.field with
  | .literal text => plain text
  | .expression text => do
    let f ← (Formula.read text).mapError .expression
    r.formulaCell e s f.fold
  | .amount => r.formulaCell e s r.amount
  | .total => r.formulaCell e s r.total
  | .date pattern => plain (r.limit e false (dateText s (pattern.getD r.settings.datePattern)))
  | .bothDates => plain (r.limit e false (r.bothDatesText s))
  | .source => plain (sourceText s)
  | .position record mark => plain (positionText s record mark)
  | .state => plain ((s.transaction.map (·.state.marker)).getD "")
  | .entryState => plain (entryMarker s)
  | .code => plain (codeText s)
  | .payee => plain ((s.entry.map fun h => r.limit e false h.payee).getD "")
  | .note => plain (r.noteText e s "")
  | .markedNote => plain (r.noteText e s "  ; ")
  | .accountWithState => plain (r.accountText e s fun a => ownMarker s ++ s.partialName a)
  | .accountName => plain (r.accountText e s s.partialName)
  | .accountPath => plain (r.accountText e s s.journal.fullname)
  | .amountWithPrice => (amountWithPriceText s).map fun text => { text }
  | .space => plain " "
  | .indent =>
    let unit := max (max e.min e.max) 1
    .ok { text := Text.spaces (unit * (s.account.map s.displayedAbove).getD 0), sized := true }
  | .unknown _ => plain ""

/-- The text of an element. -/
def elementText (r : Renderer) (s : Scope) (e : Element) : Except ReportError String :=
  (r.cellOf s e).map e.lay

/-- Writes a template. -/
def render (r : Renderer) (t : Template) (s : Scope) : Attempt Sink ReportError Unit :=
  t.elements.forM fun e => do Sink.write (← Attempt.ofExcept (r.elementText s e))

end Renderer

end Bookkeeping
