import Bookkeeping.Expr.Predicate

/-!
# Which accounts are displayed

A `Selector` decides whether an account gets a line of its own.  An account above a single passing
account with the same total leaves the line to that one; an account above passing accounts that
differ from it, or above several, is displayed as their sum; any other account is displayed if it
passes itself.
-/

namespace Bookkeeping

namespace Journal

/-- The accounts directly below one, in the order of their names. -/
def childrenOf (j : Journal) (a : Account) : List Account :=
  a.children.values.filterMap (j.accounts[·]?)

end Journal

/-- What decides which accounts are displayed. -/
structure Selector where
  journal : Journal
  now : DateTime
  /-- The formula by which totals are compared. -/
  total : Formula
  /-- The accounts that pass; without a predicate all do. -/
  predicate : Option Predicate

/-- What the accounts below one mean for it. -/
inductive Standing where
  /-- None of them passes. -/
  | alone
  /-- The only one that passes has the same total and stands for both. -/
  | replaced
  /-- Several pass, or one with another total. -/
  | subtotal
deriving DecidableEq

namespace Selector

/-- The scope of an account. -/
def scopeOf (sel : Selector) (s : ReportState) (a : Account) : Scope :=
  { journal := sel.journal, state := s, now := sel.now, account := some a }

/-- The account satisfies the predicate. -/
def passes (sel : Selector) (s : ReportState) (a : Account) : Except ValueError Bool :=
  match sel.predicate with
  | some p => p.holds (sel.scopeOf s a)
  | none => .ok true

/-- The total of an account. -/
def totalOf (sel : Selector) (s : ReportState) (a : Account) : Except ValueError Value :=
  sel.total.eval (sel.scopeOf s a)

/-- The standing of an account that the accounts before these have left with `found`. -/
def standingFrom (sel : Selector) (s : ReportState) (a : Account) (found : Standing) :
    List Account → Except ValueError Standing
  | [] => .ok found
  | c :: rest => do
    if ← sel.passes s c then
      let theirs ← sel.totalOf s c
      if found = .alone then
        if (← sel.totalOf s a).same theirs then sel.standingFrom s a .replaced rest
        else return .subtotal
      else return .subtotal
    else sel.standingFrom s a found rest

/-- The standing of an account. -/
def standing (sel : Selector) (s : ReportState) (a : Account) : Except ValueError Standing :=
  sel.standingFrom s a .alone (sel.journal.childrenOf a)

/-- The account is to be displayed now. -/
def selects (sel : Selector) (s : ReportState) (a : Account) : Except ValueError Bool := do
  if s.accountHas a.id .done then return false
  match ← sel.standing s a with
  | .subtotal => return true
  | .replaced => return false
  | .alone => sel.passes s a

end Selector

end Bookkeeping
