import Bookkeeping.Journal.Basic
import Bookkeeping.Report.State

/-!
# What a line is about

A `Scope` is what can be asked while one line of a report is written: the journal, the state of the
report, the time, and whatever is at hand of an entry, a transaction and an account.  Nothing of
the latter needs to be there.
-/

namespace Bookkeeping

/-- What can be asked while a line is written. -/
structure Scope where
  journal : Journal
  state : ReportState
  /-- The time at which the report is made. -/
  now : DateTime
  entry : Option Entry := none
  transaction : Option Transaction := none
  account : Option Account := none
  /-- The date where neither a transaction nor an entry gives one. -/
  date : Option Date := none
  /-- A value that takes the place of the account's value and total. -/
  value : Option Value := none

namespace Scope

/-- The scope of a transaction together with its entry and its account. -/
def forTransaction (journal : Journal) (state : ReportState) (now : DateTime) (x : Transaction) :
    Scope where
  journal
  state
  now
  entry := journal.entryOf? x
  transaction := some x
  account := journal.account? x.account

/-- The date of the transaction, else that of the entry, else the scope's own. -/
def actualDate (s : Scope) : Option Date :=
  match s.transaction, s.entry with
  | some x, some e => some (x.actualDate e)
  | some x, none => x.date <|> s.date
  | none, some e => some e.date
  | none, none => s.date

/-- The effective date of the transaction, else that of the entry. -/
def effectiveDate (s : Scope) : Option Date :=
  match s.transaction, s.entry with
  | some x, some e => x.effectiveDate e
  | some x, none => x.effective
  | none, some e => e.effective
  | none, none => none

/-- The state of the transaction, else the one that the entry's transactions share. -/
def clearing (s : Scope) : Option ClearingState :=
  match s.transaction, s.entry with
  | some x, _ => some x.state
  | none, some e => s.journal.entryState e
  | none, none => none

/-- What the transaction has of its own; without one the value that stands in for the account's, or
what is kept for the account. -/
def sumOf (s : Scope) (own : Transaction → Value) (kept : AccountRecord → Value) : Value :=
  match s.transaction, s.account, s.value with
  | some x, _, _ => own x
  | none, some _, some v => v
  | none, some a, none => kept (s.state.accountOf a.id)
  | none, none, _ => .null

/-- The amount of the transaction, else the value of the account. -/
def amount (s : Scope) : Value := s.sumOf (fun x => .amount x.amount) (·.value)

/-- The running total up to the transaction, else the total of the account. -/
def total (s : Scope) : Value := s.sumOf (fun x => (s.state.transactionOf x.id).total) (·.total)

/-- The cost of the transaction, or its amount if there is none, else the value of the account. -/
def cost (s : Scope) : Value :=
  match s.transaction with
  | some x => .amount (x.cost.getD x.amount)
  | none => s.amount

/-- The place of the transaction counted from 1 if it has a record, else the number of transactions
in the subtree of the account. -/
def count (s : Scope) : Nat :=
  match s.transaction, s.account with
  | some x, _ => ((s.state.transaction? x.id).map (·.index + 1)).getD 0
  | none, some a => (s.state.accountOf a.id).totalCount
  | none, none => 0

/-- The transaction is a virtual one. -/
def isVirtual (s : Scope) : Bool := s.transaction.any (·.isVirtual)

end Scope

end Bookkeeping
