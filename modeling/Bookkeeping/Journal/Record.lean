import Bookkeeping.Amount.Basic
import Bookkeeping.Calendar.Date
import Bookkeeping.Index

/-!
# Records of a journal

A journal consists of accounts, which form a tree, and of entries, each of which groups
transactions.  Records of a journal are known by their positions in it.  `Heading` is what an entry
says of itself and `Posting` what a transaction says of itself; `Entry` and `Transaction` add the
positions that join the two.
-/

namespace Bookkeeping

/-! ## Accounts -/

/-- What an account is known by: its position in the journal, unless it belongs to none. -/
inductive AccountId where
  | listed (index : Nat)
  | detached
deriving DecidableEq

/-- A node of the tree of accounts. -/
structure Account where
  id : AccountId
  /-- The last name of its path. -/
  name : String
  /-- The position of the account above. -/
  parent : Option Nat := none
  /-- The positions of the accounts below, by name. -/
  children : Index String Nat := .empty
  /-- The number of names on its path. -/
  depth : Nat := 0

namespace Account

/-- An account outside any journal. -/
def detached (name : String) : Account := { id := .detached, name }

/-- The first account of every journal, which has no name. -/
def root : Account := { id := .listed 0, name := "" }

instance : Inhabited Account := ⟨root⟩

/-- Nothing is above the account. -/
def isRoot (a : Account) : Bool := a.parent.isNone

end Account

/-! ## Entries -/

/-- How far a transaction has been reconciled. -/
inductive ClearingState where
  | uncleared
  | cleared
  | pending
deriving DecidableEq

namespace ClearingState

/-- The mark in front of what has the state. -/
def marker : ClearingState → String
  | uncleared => ""
  | cleared => "* "
  | pending => "! "

end ClearingState

/-- Where a record stands in its source. -/
structure Position where
  startOffset : Nat := 0
  startLine : Nat := 0
  endOffset : Nat := 0
  endLine : Nat := 0
deriving DecidableEq

/-- What makes an entry apply. -/
inductive EntryKind where
  | plain
  /-- The entry applies to transactions for which a predicate holds. -/
  | auto (predicate : String)
  /-- The entry applies again in every period. -/
  | period (text : String)
deriving DecidableEq

/-- What an entry says of itself. -/
structure Heading where
  kind : EntryKind := .plain
  date : Date
  effective : Option Date := none
  code : Option String := none
  payee : String
  /-- The position of the source among those of the journal. -/
  source : Option Nat := none
  position : Position := {}

/-- A heading with the transactions under it. -/
structure Entry extends Heading where
  /-- The positions of the transactions, in the order of the source. -/
  transactions : List Nat := []

namespace Heading

/-- The heading of an entry that applies where a predicate holds; it has no date of its own. -/
def auto (predicate : String) : Heading :=
  { kind := .auto predicate, date := .earliest, payee := "" }

/-- The heading of an entry that applies in every period; it has no date of its own. -/
def period (text : String) : Heading := { kind := .period text, date := .earliest, payee := "" }

end Heading

/-! ## Transactions -/

/-- What a transaction says of itself. -/
structure Posting where
  account : AccountId
  amount : Amount
  /-- What was paid for the whole amount. -/
  cost : Option Amount := none
  state : ClearingState := .uncleared
  /-- The account is written in brackets. -/
  isVirtual : Bool := false
  /-- A virtual posting counts when the entry is balanced. -/
  mustBalance : Bool := false
  date : Option Date := none
  effective : Option Date := none
  note : Option String := none
  position : Position := {}

/-- A posting in an entry of a journal. -/
structure Transaction extends Posting where
  /-- The position of the transaction in the journal. -/
  id : Nat
  /-- The position of its entry in the journal. -/
  entry : Nat

namespace Posting

/-- The posting's own date, or that of its entry. -/
def actualDate (p : Posting) (e : Entry) : Date := p.date.getD e.date

/-- The posting's own effective date, or that of its entry. -/
def effectiveDate (p : Posting) (e : Entry) : Option Date := p.effective <|> e.effective

end Posting

end Bookkeeping
