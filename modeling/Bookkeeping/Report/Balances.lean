import Bookkeeping.Report.Pass
import Bookkeeping.Report.Selector

/-!
# Balances of accounts

`Balances` writes a line for every account that its selector selects.  The root has no line: it is
only marked as one that waits.
-/

namespace Bookkeeping

/-- A report that writes a line for each selected account. -/
structure Balances extends Report where
  line : Template
  predicate : Option Predicate

namespace Balances

/-- The report on a journal by a template, a predicate and settings. -/
def make (journal : Journal) (now : DateTime) (template predicate : String)
    (settings : Settings) : Except ReportError Balances := do
  let renderer ← Renderer.ofSettings settings
  let line ← (Template.read template).mapError .template
  return { journal, now, renderer, line, predicate := ← Predicate.ofText predicate }

/-- What selects the accounts of the report. -/
def selector (b : Balances) : Selector :=
  { journal := b.journal, now := b.now, total := b.renderer.total, predicate := b.predicate }

/-- Writes the line of an account, if the account is selected. -/
def feed (b : Balances) (a : Account) : PassStep Unit Unit := do
  let chosen ← Attempt.ofExcept ((b.selector.selects (← get).state a).mapError .value)
  if chosen then
    if a.isRoot then Pass.change (·.markAccount a.id .waiting)
    else
      b.writeAccount b.line a none
      Pass.change (·.markAccount a.id .done)

/-- Writes the lines of all accounts, each before those below it. -/
def feedJournal (b : Balances) : PassStep Unit Unit := b.journal.preorder.forM b.feed

end Balances

end Bookkeeping
