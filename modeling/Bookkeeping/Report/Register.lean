import Bookkeeping.Report.Pass

/-!
# Registers

A `Register` writes transactions as they come.  A transaction whose entry or date differs from that
of the one written before begins a group with the first template; the others have the second one.
What has been displayed before is passed over.
-/

namespace Bookkeeping

/-- A report that writes transactions as they come. -/
structure Register extends Report where
  first : Template
  next : Template

/-- The entry and the date of the transaction written last. -/
abbrev Register.Memory := Option (Nat × Option Date)

namespace Register

/-- The register of a journal by a template and settings. -/
def make (journal : Journal) (now : DateTime) (template : String) (settings : Settings) :
    Except ReportError Register := do
  let (first, next) ← Template.linesOf template
  return { journal, now, renderer := ← Renderer.ofSettings settings, first, next }

/-- The entry and the date by which transactions are grouped. -/
def groupOf (r : Register) (x : Transaction) : Nat × Option Date :=
  (x.entry, r.journal.actualDate x)

/-- Writes a transaction, unless it has been displayed. -/
def feed (r : Register) (x : Transaction) : PassStep Memory Unit := do
  let p ← get
  if p.state.transactionHas x.id .done then return
  let template := if p.memory = some (r.groupOf x) then r.next else r.first
  r.writeTransaction template x
  Pass.change (·.markTransaction x.id .done)
  Pass.remember (some (r.groupOf x))

/-- Writes transactions in the given order. -/
def feedAll (r : Register) (xs : List Transaction) : PassStep Memory Unit := xs.forM r.feed

end Register

end Bookkeeping
