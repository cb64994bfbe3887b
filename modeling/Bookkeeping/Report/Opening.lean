import Bookkeeping.Report.Pass
import Bookkeeping.Report.Selector
import Bookkeeping.Value.Arithmetic

/-!
# Opening balances

`Opening` writes the entry with which the books could be opened again: a header, a line for each
commodity that a selected account holds, and at the end lines that balance them all against the
account `Opening.equity`.
-/

namespace Bookkeeping

/-- A report that writes the values of selected accounts as an entry. -/
structure Opening extends Report where
  line : Template
  predicate : Option Predicate

/-- The sum of the values written. -/
abbrev Opening.Memory := Value

namespace Opening

/-- The account that the lines are balanced against. -/
def equity : Account := .detached "Equity:Opening Balances"

/-- The entry that the header shows. -/
def header (now : DateTime) : Entry := { date := now.date, payee := "Opening Balances" }

/-- The report on a journal by a template, a predicate and settings, and the step that writes its
header. -/
def make (journal : Journal) (now : DateTime) (template predicate : String)
    (settings : Settings) : Except ReportError (Opening × Attempt Sink ReportError Unit) := do
  let (first, line) ← Template.linesOf template
  let renderer ← Renderer.ofSettings settings
  let scope : Scope := { journal, state := {}, now, entry := some (header now) }
  return ({ journal, now, renderer, line, predicate := ← Predicate.ofText predicate },
    renderer.render first scope)

/-- What selects the accounts of the report. -/
def selector (o : Opening) : Selector :=
  { journal := o.journal, now := o.now, total := o.renderer.total, predicate := o.predicate }

/-- The values that get a line each: the amounts of a value that may hold several. -/
def linesOf (v : Value) : List Value :=
  match v.components? with
  | some amounts => amounts.map .amount
  | none => [v]

/-- Writes a line for each commodity of a value. -/
def writeLines (o : Opening) (a : Account) (v : Value) : PassStep Memory Unit :=
  (linesOf v).forM fun w => o.writeAccount o.line a (some w)

/-- Adds a value to the sum of those written. -/
def addUp (v : Value) : PassStep Memory Unit :=
  .update fun p => ((p.memory.add v).mapError .value).map fun sum => { p with memory := sum }

/-- Writes the value of an account, if the account is selected and has one. -/
def feed (o : Opening) (a : Account) : PassStep Memory Unit := do
  let chosen ← Attempt.ofExcept ((o.selector.selects (← get).state a).mapError .value)
  if chosen then
    let v := ((← get).state.accountOf a.id).value
    unless v.isNull do
      o.writeLines a v
      addUp v
    Pass.change (·.markAccount a.id .done)

/-- Writes the values of all accounts, each before those below it. -/
def feedJournal (o : Opening) : PassStep Memory Unit := o.journal.preorder.forM o.feed

/-- Writes the lines that balance those written. -/
def finish (o : Opening) : PassStep Memory Unit := do
  let balancing ← Attempt.ofExcept ((← get).memory.neg.mapError .value)
  o.writeLines equity balancing

end Opening

end Bookkeeping
