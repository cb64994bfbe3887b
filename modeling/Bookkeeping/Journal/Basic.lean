import Bookkeeping.Journal.Record

/-!
# Journals

A `Journal` lists its accounts, entries, transactions and sources in the order in which they were
added.  Everything is added behind what is there, so a position once given keeps its meaning.  The
accounts begin with the root; `Journal.addAccount` puts an account under another one.
-/

namespace Bookkeeping

/-- Accounts, entries, transactions and sources in the order in which they were added. -/
structure Journal where
  accounts : List Account := [.root]
  entries : List Entry := []
  transactions : List Transaction := []
  sources : List String := []

namespace Journal

instance : Inhabited Journal := ⟨{}⟩

/-! ## Looking up -/

/-- The account known by an id, if it is listed. -/
def account? (j : Journal) : AccountId → Option Account
  | .listed i => j.accounts[i]?
  | .detached => none

/-- The entry that a transaction belongs to. -/
def entryOf? (j : Journal) (x : Transaction) : Option Entry := j.entries[x.entry]?

/-- The transactions of an entry in the order of the source. -/
def entryTransactions (j : Journal) (e : Entry) : List Transaction :=
  e.transactions.filterMap (j.transactions[·]?)

/-- The state that all transactions of an entry share, if there are any and they do. -/
def entryState (j : Journal) (e : Entry) : Option ClearingState :=
  match (j.entryTransactions e).map (·.state) with
  | [] => none
  | s :: rest => if rest.all (· == s) then some s else none

/-- The actual date of a transaction. -/
def actualDate (j : Journal) (x : Transaction) : Option Date :=
  match j.entryOf? x with
  | some e => some (x.actualDate e)
  | none => x.date

/-! ## Adding -/

/-- The journal with an account of this name under the one at `parent`. -/
def addAccount (j : Journal) (parent : Nat) (name : String) : Journal :=
  match j.accounts[parent]? with
  | none => j
  | some above =>
    let index := j.accounts.length
    let below : Account :=
      { id := .listed index, name, parent := some parent, depth := above.depth + 1 }
    let above := { above with children := above.children.insert name index }
    { j with accounts := j.accounts.set parent above ++ [below] }

/-- The journal with a source. -/
def addSource (j : Journal) (path : String) : Journal := { j with sources := j.sources ++ [path] }

/-- The journal with an entry that has no transactions yet. -/
def addEntry (j : Journal) (h : Heading) : Journal :=
  { j with entries := j.entries ++ [{ toHeading := h }] }

/-- The journal with a transaction behind those of an entry. -/
def addTransaction (j : Journal) (entry : Nat) (p : Posting) : Journal :=
  let id := j.transactions.length
  { j with
    transactions := j.transactions ++ [{ toPosting := p, id, entry }]
    entries := j.entries.modify entry fun e => { e with transactions := e.transactions ++ [id] } }

end Journal

end Bookkeeping
