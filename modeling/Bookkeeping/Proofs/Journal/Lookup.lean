import Bookkeeping.Proofs.Journal.Filing

/-!
# Looking up accounts

`Journal.lookUp` goes down a path and either stops at what is missing or opens it; it is `find?` or
`openAccount` (`lookUp_false`, `lookUp_true`), so that without opening nothing changes.  What a
journal that is built keeps of its accounts and transactions, and what looking up a path does to it,
is put together at the end.
-/

namespace Bookkeeping

namespace Journal

variable {j : Journal}

/-- Goes on by the names from the account at `i`; what is missing is opened, or ends the way. -/
def descend (j : Journal) (create : Bool) (i : Nat) : List String → Option Nat × Journal
  | [] => (some i, j)
  | name :: rest =>
    match j.child? i name with
    | some c => j.descend create c rest
    | none =>
      if create then (j.addAccount i name).descend create j.accounts.length rest else (none, j)

/-- The account at a path, opened with `create` if it is missing, and the journal afterwards. -/
def lookUp (j : Journal) (path : String) (create : Bool) : Option Nat × Journal :=
  j.descend create 0 (Path.names path)

theorem descend_false (i : Nat) (names : List String) :
    j.descend false i names = (j.findFrom? i names, j) := by
  induction names generalizing i with
  | nil => rfl
  | cons name rest ih =>
    rw [descend, findFrom?]
    cases j.child? i name with
    | none => rfl
    | some c => exact ih c

theorem descend_true (i : Nat) (names : List String) :
    j.descend true i names = (some (j.openFrom i names).1, (j.openFrom i names).2) := by
  induction names generalizing i j with
  | nil => rfl
  | cons name rest ih =>
    rw [descend, openFrom]
    cases j.child? i name with
    | none => exact ih _
    | some c => exact ih c

theorem lookUp_false (path : String) : j.lookUp path false = (j.find? path, j) := descend_false 0 _

theorem lookUp_true (path : String) :
    j.lookUp path true = (some (j.openAccount path).1, (j.openAccount path).2) := descend_true 0 _

/-! ## What a journal keeps -/

/-- What is kept of the account at a position. -/
structure Placed (j : Journal) (i : Nat) (a : Account) : Prop where
  id_eq : a.id = .listed i
  parent_eq_none : a.parent = none ↔ i = 0
  parent_lt : ∀ k, a.parent = some k → k < i
  /-- Only the root has a name that could not stand on a path. -/
  isName : ∀ k, a.parent = some k → a.name ≠ "" ∧ ':' ∉ a.name.toList
  depth : ∀ k, a.parent = some k → ∃ b, j.accounts[k]? = some b ∧ a.depth = b.depth + 1
  /-- The account is listed under its name by the account above it, and nowhere else. -/
  listed : ∀ k, a.parent = some k → ∀ (l : Nat) (c : Account) (name : String),
    j.accounts[l]? = some c → (c.children.get? name = some i ↔ l = k ∧ name = a.name)
  /-- The account is found at its full name, and nothing changes on the way. -/
  found : j.lookUp (j.fullname a) false = (some i, j)
  unique : ∀ b ∈ j.accounts, j.fullname a = j.fullname b → a = b

/-- What becomes of a journal when a path is opened that leads to the account at `i`. -/
structure Opened (j : Journal) (path : String) (i : Nat) (j' : Journal) : Prop where
  /-- The account has the path without its empty segments for its full name. -/
  fullname : ∃ a, j'.accounts[i]? = some a ∧ j'.fullname a = Path.ofNames (Path.names path)
  /-- The new accounts are those that were missing at a beginning of the path. -/
  created : (j'.accounts.drop j.accounts.length).map j'.fullname =
    ((Path.names path).inits.filter fun l => (j.find? (Path.ofNames l)).isNone).map Path.ofNames
  kept : ∀ (k : Nat) (a : Account), j.accounts[k]? = some a →
    ∃ a', j'.accounts[k]? = some a' ∧ a'.id = a.id ∧ a'.name = a.name ∧ a'.parent = a.parent ∧
      a'.depth = a.depth ∧ j'.fullname a' = j.fullname a
  records : j'.entries = j.entries ∧ j'.transactions = j.transactions ∧ j'.sources = j.sources

theorem eq_of_fullname_eq (h : j.IsTree) (hn : j.IsNamed) {a b : Account} (ha : a ∈ j.accounts)
    (hb : b ∈ j.accounts) (he : j.fullname a = j.fullname b) : a = b := by
  obtain ⟨i, hi⟩ := List.mem_iff_getElem?.1 ha
  obtain ⟨k, hk⟩ := List.mem_iff_getElem?.1 hb
  have hik : i = k := Option.some.inj <| by
    rw [← find?_fullname h hn hi, he, find?_fullname h hn hk]
  subst hik
  exact Option.some.inj (hi.symm.trans hk)

theorem placed (h : j.IsTree) (hn : j.IsNamed) {i : Nat} {a : Account}
    (ha : j.accounts[i]? = some a) : j.Placed i a where
  id_eq := h.id_eq ha
  parent_eq_none := h.parent_eq_none ha
  parent_lt k hp := Journal.parent_lt h ha hp
  isName k hp := hn.isName ha hp
  depth k hp := by
    obtain ⟨b, hb, hget⟩ := hn.listed ha hp
    obtain ⟨a', ha', -, -, hdepth⟩ := hn.child hb hget
    cases ha.symm.trans ha'
    exact ⟨b, hb, hdepth⟩
  listed k hp l c name hc := by
    obtain ⟨b, hb, hget⟩ := hn.listed ha hp
    constructor
    · intro hl
      obtain ⟨a', ha', hname, hparent, -⟩ := hn.child hc hl
      cases ha.symm.trans ha'
      exact ⟨Option.some.inj (hparent.symm.trans hp), hname.symm⟩
    · rintro ⟨rfl, rfl⟩
      cases hb.symm.trans hc
      exact hget
  found := by rw [lookUp_false, find?_fullname h hn ha]
  unique b hb he := eq_of_fullname_eq h hn (List.mem_of_getElem? ha) hb he

theorem opened (h : j.Built) (path : String) :
    j.Opened path (j.openAccount path).1 (j.openAccount path).2 := by
  obtain ⟨hext, hfound, hcreated⟩ := openAccount_spec h.isTree h.isNamed path
  refine ⟨hfound, hcreated, fun k a ha => ?_, openFrom_records 0 _⟩
  obtain ⟨a', ha', hid, hname, hparent, hdepth⟩ := hext k a ha
  exact ⟨a', ha', hid, hname, hparent, hdepth, hext.fullname h.isTree h.isNamed
    (h.openAccount path).isTree (h.openAccount path).isNamed ha ha'⟩

/-- In a journal that has been built, accounts are placed one below another under names that lead to
them; looking up a path changes nothing, and opening it adds just what is missing; and every
transaction is listed once, by the entry it names. -/
theorem built_keeps_accounts_and_transactions (h : j.Built) (path : String) :
    (∀ (i : Nat) (a : Account), j.accounts[i]? = some a → j.Placed i a) ∧
    j.lookUp path false = (j.find? path, j) ∧
    (∃ (i : Nat) (j' : Journal), j.lookUp path true = (some i, j') ∧ j.openAccount path = (i, j') ∧
      j.Opened path i j') ∧
    ∀ (k : Nat) (x : Transaction), j.transactions[k]? = some x →
      x.id = k ∧ x.entry < j.entries.length ∧ ∀ (i : Nat) (e : Entry), j.entries[i]? = some e →
        e.transactions.count k = if x.entry = i then 1 else 0 :=
  ⟨fun _ _ => placed h.isTree h.isNamed, lookUp_false path,
    ⟨_, _, lookUp_true path, rfl, opened h path⟩, fun _ _ hx =>
      ⟨h.isFiled.id_eq hx, h.isFiled.entry_lt hx, fun _ _ he => h.isFiled.count hx he⟩⟩

/-- A journal of one posting to a bank account, in which cash is opened with colons to spare. -/
theorem built_keeps_accounts_and_transactions_cash :
    let j := ((({} : Journal).openAccount "Assets:Bank").2.addEntry (.period "")).addTransaction 0
      { account := .listed 2, amount := { quantity := .zero } }
    let after := j.openAccount ":Assets::Cash:"
    j.Built ∧ (∀ (i : Nat) (a : Account), j.accounts[i]? = some a → j.Placed i a) ∧
      j.Opened ":Assets::Cash:" after.1 after.2 ∧
      after.2.accounts.map after.2.fullname = ["", "Assets", "Assets:Bank", "Assets:Cash"] := by
  intro j after
  have hj : j.Built := ((Journal.Built.empty.openAccount _).addEntry _).addTransaction _ (by decide)
  obtain ⟨hplaced, -, ⟨i, j', -, hopen, hopened⟩, -⟩ :=
    built_keeps_accounts_and_transactions hj ":Assets::Cash:"
  have hafter : after = (i, j') := hopen
  refine ⟨hj, hplaced, ?_, by decide +kernel⟩
  rw [hafter]
  exact hopened

end Journal

end Bookkeeping
