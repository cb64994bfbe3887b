import Bookkeeping.Journal.Tree
import Bookkeeping.Report.Scope

/-!
# Names of accounts among displayed ones

Below a displayed account the names of others are shortened: `partialName` is the path from the
nearest displayed account above, and `displayedAbove` counts how many displayed accounts the path
goes through.
-/

namespace Bookkeeping

namespace Scope

/-- The account has been displayed. -/
def isDisplayed (s : Scope) (a : Account) : Bool := s.state.accountHas a.id .done

/-- The path of an account from the nearest displayed account on, which is left out; a detached
account keeps its name. -/
def partialName (s : Scope) (a : Account) : String :=
  match a.id with
  | .detached => a.name
  | .listed _ =>
    let shown := (s.journal.lineage a).takeWhile fun b => !b.isRoot && !s.isDisplayed b
    Path.ofNames ((shown.map (·.name)).reverse)

/-- The number of displayed accounts on the path of an account, itself included. -/
def displayedAbove (s : Scope) (a : Account) : Nat := (s.journal.lineage a).countP s.isDisplayed

end Scope

end Bookkeeping
