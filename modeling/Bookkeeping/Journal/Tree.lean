import Bookkeeping.Journal.Basic
import Bookkeeping.Text.Path

/-!
# The tree of accounts

Accounts are found by the names on their paths (`find?`), and opened where they are missing
(`openAccount`).  In the other direction `lineage` goes up from an account to the root, and
`fullname` reads the path off it.  `preorder` lists the accounts of the tree, each before those
below it, which come in the order of their names.
-/

namespace Bookkeeping

namespace Path

/-- The names on a path; nothing between two colons is no name. -/
def names (path : String) : List String :=
  ((segments path.toList).filter fun s => !s.isEmpty).map String.ofList

/-- The path with these names. -/
def ofNames (names : List String) : String := String.ofList (join (names.map String.toList))

end Path

namespace Journal

/-! ## Down from the root -/

/-- The position of the account of this name under the one at `i`. -/
def child? (j : Journal) (i : Nat) (name : String) : Option Nat :=
  (j.accounts[i]?).bind fun a => a.children.get? name

/-- The position of the account that the names lead to from the one at `i`. -/
def findFrom? (j : Journal) (i : Nat) : List String → Option Nat
  | [] => some i
  | name :: rest => (j.child? i name).bind fun c => j.findFrom? c rest

/-- The position of the account at a path; the empty path is that of the root. -/
def find? (j : Journal) (path : String) : Option Nat := j.findFrom? 0 (Path.names path)

/-- The position of the account that the names lead to from the one at `i`, and the journal with
what was missing on the way. -/
def openFrom (j : Journal) (i : Nat) : List String → Nat × Journal
  | [] => (i, j)
  | name :: rest =>
    match j.child? i name with
    | some c => j.openFrom c rest
    | none => (j.addAccount i name).openFrom j.accounts.length rest

/-- The position of the account at a path, and the journal with what was missing on the way. -/
def openAccount (j : Journal) (path : String) : Nat × Journal := j.openFrom 0 (Path.names path)

/-! ## Up to the root -/

/-- The accounts from one that is to lie before `bound` up to the root. -/
def above (j : Journal) (bound : Nat) (parent : Option Nat) : List Account :=
  match parent with
  | none => []
  | some i =>
    if i < bound then
      match j.accounts[i]? with
      | none => []
      | some a => a :: j.above i a.parent
    else []
termination_by bound

/-- The account and those above it, up to the root. -/
def lineage (j : Journal) (a : Account) : List Account := a :: j.above j.accounts.length a.parent

/-- The path of an account, empty for the root; a detached account has its name for a path. -/
def fullname (j : Journal) (a : Account) : String :=
  let upper := (j.above j.accounts.length a.parent).filter fun b => !b.isRoot
  Path.ofNames (((a :: upper).map (·.name)).reverse)

/-! ## The whole tree -/

/-- The accounts reached in `fuel` steps, each step taking the first of those that wait and putting
the accounts below it in front of the others. -/
def preorderFrom (j : Journal) : Nat → List Nat → List Account
  | 0, _ => []
  | _, [] => []
  | fuel + 1, i :: waiting =>
    match j.accounts[i]? with
    | none => j.preorderFrom fuel waiting
    | some a => a :: j.preorderFrom fuel (a.children.values ++ waiting)

/-- The accounts of the tree, each before those below it. -/
def preorder (j : Journal) : List Account := j.preorderFrom j.accounts.length [0]

end Journal

end Bookkeeping
