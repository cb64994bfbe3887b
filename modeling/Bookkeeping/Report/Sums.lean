import Bookkeeping.Journal.Basic
import Bookkeeping.Report.State
import Bookkeeping.Value.Arithmetic

/-!
# Sums over a journal

`sumAccounts` records for every account the sum and the number of its own transactions, and of all
transactions in its subtree; accounts come before those below them, so the latter sums are taken
from the last account to the first.  `accumulate` records running totals of a sequence of
transactions.  A sum that fails leaves behind what was recorded before it.
-/

namespace Bookkeeping

namespace ReportState

/-! ## Sums of accounts -/

/-- Every account is given a record without transactions of its own. -/
def resetOwn (j : Journal) (s : ReportState) : ReportState :=
  j.accounts.foldl
    (fun s a => s.changeAccount a.id fun r => { r with value := .null, count := 0 }) s

/-- Counts a transaction among those of its account. -/
def addOwn (x : Transaction) : Attempt ReportState ValueError Unit :=
  .update fun s =>
    ((s.accountOf x.account).value.add (.amount x.amount)).map fun v =>
      s.changeAccount x.account fun r => { r with value := v, count := r.count + 1 }

/-- The records of the accounts below, in the order of their names. -/
def below (s : ReportState) (a : Account) : List AccountRecord :=
  a.children.values.filterMap fun i => s.account? (.listed i)

/-- Adds up an account's own transactions and the sums of the accounts below it. -/
def addTotal (a : Account) : Attempt ReportState ValueError Unit :=
  .update fun s =>
    let own := s.accountOf a.id
    ((s.below a).foldlM (fun (v : Value) r => v.add r.total) own.value).map fun v =>
      s.putAccount a.id
        { own with
          total := v
          totalCount := ((s.below a).map (·.totalCount)).foldr (· + ·) own.count }

/-- Records the sums of all accounts. -/
def sumAccounts (j : Journal) : Attempt ReportState ValueError Unit := do
  modify (resetOwn j)
  (j.entries.flatMap j.entryTransactions).forM addOwn
  j.accounts.reverse.forM addTotal

/-! ## Running totals -/

/-- Records running totals on top of the sum of `index` transactions. -/
def accumulateFrom (running : Value) (index : Nat) :
    List Transaction → Attempt ReportState ValueError Unit
  | [] => pure ()
  | x :: rest => do
    let running ← Attempt.ofExcept (running.add (.amount x.amount))
    modify fun s => s.changeTransaction x.id fun r => { r with total := running, index }
    accumulateFrom running (index + 1) rest

/-- Records the running totals of a sequence of transactions and their places in it. -/
def accumulate (xs : List Transaction) : Attempt ReportState ValueError Unit :=
  accumulateFrom .null 0 xs

end ReportState

end Bookkeeping
