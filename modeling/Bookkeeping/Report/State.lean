import Bookkeeping.Attempt
import Bookkeeping.Journal.Record
import Bookkeeping.Value.Basic

/-!
# The state of a report

A report keeps a record for each account and each transaction that it has dealt with: two marks
that say what is to be displayed and what has been, and the totals that lines are written from.  A
record that was never written reads as an empty one (`accountOf`, `transactionOf`), but only a
record that is there can bear marks.
-/

namespace Bookkeeping

/-- The marks on a record. -/
structure Marks where
  /-- The record waits to be displayed. -/
  toDisplay : Bool := false
  /-- The record has been displayed. -/
  displayed : Bool := false
deriving DecidableEq

namespace Marks

/-- The marks of both. -/
def union (m n : Marks) : Marks := ⟨m.toDisplay || n.toDisplay, m.displayed || n.displayed⟩

/-- The marks of the first that are not among those of the second. -/
def minus (m n : Marks) : Marks := ⟨m.toDisplay && !n.toDisplay, m.displayed && !n.displayed⟩

/-- All marks of the second are among those of the first. -/
def includes (m n : Marks) : Bool := (m.toDisplay || !n.toDisplay) && (m.displayed || !n.displayed)

/-- The mark of what waits to be displayed. -/
def waiting : Marks := { toDisplay := true }

/-- The mark of what has been displayed. -/
def done : Marks := { displayed := true }

end Marks

/-- What a report keeps of an account. -/
structure AccountRecord where
  marks : Marks := {}
  /-- The sum of the account's own transactions. -/
  value : Value := .null
  /-- The sum of those of the account and of all below it. -/
  total : Value := .null
  /-- The number of the account's own transactions. -/
  count : Nat := 0
  /-- The number of those of the account and of all below it. -/
  totalCount : Nat := 0

/-- What a report keeps of a transaction. -/
structure TransactionRecord where
  marks : Marks := {}
  /-- The sum of the transactions up to this one. -/
  total : Value := .null
  /-- The number of transactions before this one. -/
  index : Nat := 0

/-- What a report keeps of accounts and transactions. -/
structure ReportState where
  accounts : Index Nat AccountRecord := .empty
  /-- The record shared by the accounts outside the journal. -/
  outside : Option AccountRecord := none
  transactions : Index Nat TransactionRecord := .empty

namespace ReportState

instance : Inhabited ReportState := ⟨{}⟩

/-! ## Records of accounts -/

/-- The record of an account, if there is one. -/
def account? (s : ReportState) : AccountId → Option AccountRecord
  | .listed i => s.accounts.get? i
  | .detached => s.outside

/-- The record of an account. -/
def accountOf (s : ReportState) (id : AccountId) : AccountRecord := (s.account? id).getD {}

/-- The state with this record of an account. -/
def putAccount (s : ReportState) (id : AccountId) (r : AccountRecord) : ReportState :=
  match id with
  | .listed i => { s with accounts := s.accounts.insert i r }
  | .detached => { s with outside := some r }

/-- The state with the record of an account changed. -/
def changeAccount (s : ReportState) (id : AccountId) (f : AccountRecord → AccountRecord) :
    ReportState :=
  s.putAccount id (f (s.accountOf id))

/-- The account has a record with these marks. -/
def accountHas (s : ReportState) (id : AccountId) (m : Marks) : Bool :=
  (s.account? id).any (·.marks.includes m)

/-- The state with marks put on an account. -/
def markAccount (s : ReportState) (id : AccountId) (m : Marks) : ReportState :=
  s.changeAccount id fun r => { r with marks := r.marks.union m }

/-! ## Records of transactions -/

/-- The record of a transaction, if there is one. -/
def transaction? (s : ReportState) (id : Nat) : Option TransactionRecord := s.transactions.get? id

/-- The record of a transaction. -/
def transactionOf (s : ReportState) (id : Nat) : TransactionRecord := (s.transaction? id).getD {}

/-- The state with the record of a transaction changed. -/
def changeTransaction (s : ReportState) (id : Nat) (f : TransactionRecord → TransactionRecord) :
    ReportState :=
  { s with transactions := s.transactions.insert id (f (s.transactionOf id)) }

/-- The transaction has a record with these marks. -/
def transactionHas (s : ReportState) (id : Nat) (m : Marks) : Bool :=
  (s.transaction? id).any (·.marks.includes m)

/-- The state with marks put on a transaction. -/
def markTransaction (s : ReportState) (id : Nat) (m : Marks) : ReportState :=
  s.changeTransaction id fun r => { r with marks := r.marks.union m }

/-- The state with marks taken off a transaction. -/
def unmarkTransaction (s : ReportState) (id : Nat) (m : Marks) : ReportState :=
  match s.transaction? id with
  | some r => s.changeTransaction id fun _ => { r with marks := r.marks.minus m }
  | none => s

/-! ## All records -/

/-- The state with all marks taken off. -/
def clearMarks (s : ReportState) : ReportState where
  accounts := s.accounts.mapValues fun r => { r with marks := {} }
  outside := s.outside.map fun r => { r with marks := {} }
  transactions := s.transactions.mapValues fun r => { r with marks := {} }

/-! ## What is read after a change -/

theorem account?_putAccount (s : ReportState) (id id' : AccountId) (r : AccountRecord) :
    (s.putAccount id r).account? id' = if id' = id then some r else s.account? id' := by
  cases id <;> cases id' <;> simp [putAccount, account?, Index.get?_insert]

theorem account?_changeAccount (s : ReportState) (id id' : AccountId)
    (f : AccountRecord → AccountRecord) :
    (s.changeAccount id f).account? id' =
      if id' = id then some (f (s.accountOf id)) else s.account? id' :=
  account?_putAccount s id id' _

theorem transaction?_putAccount (s : ReportState) (id : AccountId) (r : AccountRecord) (i : Nat) :
    (s.putAccount id r).transaction? i = s.transaction? i := by
  cases id <;> rfl

theorem transaction?_changeTransaction (s : ReportState) (i i' : Nat)
    (f : TransactionRecord → TransactionRecord) :
    (s.changeTransaction i f).transaction? i' =
      if i' = i then some (f (s.transactionOf i)) else s.transaction? i' :=
  Index.get?_insert _ _ _ _

theorem account?_changeTransaction (s : ReportState) (i : Nat)
    (f : TransactionRecord → TransactionRecord) (id : AccountId) :
    (s.changeTransaction i f).account? id = s.account? id := by
  cases id <;> rfl

theorem transaction?_unmarkTransaction (s : ReportState) (i i' : Nat) (m : Marks) :
    (s.unmarkTransaction i m).transaction? i' =
      if i' = i then (s.transaction? i).map fun r => { r with marks := r.marks.minus m }
      else s.transaction? i' := by
  unfold unmarkTransaction
  split
  · rename_i r hr
    rw [transaction?_changeTransaction, hr]
    rfl
  · rename_i hr
    split
    · rename_i h
      rw [h, hr]
      rfl
    · rfl

theorem account?_clearMarks (s : ReportState) (id : AccountId) :
    s.clearMarks.account? id = (s.account? id).map fun r => { r with marks := {} } := by
  cases id
  · exact Index.get?_mapValues _ _ _
  · rfl

theorem transaction?_clearMarks (s : ReportState) (i : Nat) :
    s.clearMarks.transaction? i = (s.transaction? i).map fun r => { r with marks := {} } :=
  Index.get?_mapValues _ _ _

end ReportState

end Bookkeeping
