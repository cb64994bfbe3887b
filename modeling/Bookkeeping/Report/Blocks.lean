import Bookkeeping.Report.Pass

/-!
# Entries in blocks

`Blocks` collects the transactions that come for one entry and writes them together, in the order
of the entry, when a transaction of another entry comes or at the end.  The first of a block has
the first template and the others the second one.
-/

namespace Bookkeeping

/-- A report that writes the transactions of an entry together. -/
structure Blocks extends Report where
  first : Template
  next : Template

/-- The entry whose transactions are being collected. -/
abbrev Blocks.Memory := Option Nat

namespace Blocks

/-- The report on a journal by a template and settings. -/
def make (journal : Journal) (now : DateTime) (template : String) (settings : Settings) :
    Except ReportError Blocks := do
  let (first, next) ← Template.linesOf template
  return { journal, now, renderer := ← Renderer.ofSettings settings, first, next }

/-- The transactions of an entry that wait to be displayed. -/
def waiting (b : Blocks) (s : ReportState) (entry : Nat) : List Transaction :=
  match b.journal.entries[entry]? with
  | some e => (b.journal.entryTransactions e).filter fun x => s.transactionHas x.id .waiting
  | none => []

/-- Writes a transaction of a block. -/
def writeOne (b : Blocks) (t : Template) (x : Transaction) : PassStep Memory Unit := do
  b.writeTransaction t x
  Pass.change (·.markTransaction x.id .done)

/-- Writes a block of transactions. -/
def writeBlock (b : Blocks) : List Transaction → PassStep Memory Unit
  | [] => pure ()
  | x :: rest => do
    b.writeOne b.first x
    rest.forM (b.writeOne b.next)

/-- Writes the transactions of an entry that wait; once all are written, none of them waits. -/
def writeEntry (b : Blocks) (entry : Nat) : PassStep Memory Unit := do
  let xs := b.waiting (← get).state entry
  b.writeBlock xs
  xs.forM fun x => Pass.change (·.unmarkTransaction x.id .waiting)

/-- Collects a transaction, after those of another entry have been written. -/
def feed (b : Blocks) (x : Transaction) : PassStep Memory Unit := do
  Pass.change (·.markTransaction x.id .waiting)
  match (← get).memory with
  | some last => if last ≠ x.entry then b.writeEntry last
  | none => pure ()
  Pass.remember (some x.entry)

/-- Collects transactions in the given order. -/
def feedAll (b : Blocks) (xs : List Transaction) : PassStep Memory Unit := xs.forM b.feed

/-- Collects the transactions of an entry. -/
def feedEntry (b : Blocks) (e : Entry) : PassStep Memory Unit :=
  b.feedAll (b.journal.entryTransactions e)

/-- Collects the entries of the journal. -/
def feedJournal (b : Blocks) : PassStep Memory Unit := b.journal.entries.forM b.feedEntry

/-- Writes what is still collected. -/
def finish (b : Blocks) : PassStep Memory Unit := do
  match (← get).memory with
  | some last =>
    Pass.remember none
    b.writeEntry last
  | none => pure ()

end Blocks

end Bookkeeping
