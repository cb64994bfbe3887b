import Bookkeeping.Journal.Tree

/-!
# Journals are trees

`Journal.Built` holds of the journals that can be put together, and `Journal.IsTree` says that the
accounts of a journal form a tree whose accounts stand behind the ones above them.  Every journal
that is built is a tree (`Built.isTree`).  `subtree` lists an account and all below it by recursion,
`Within` goes up instead; the two agree (`mem_subtree_iff`), no account is listed twice
(`nodup_subtree`), and the walk of `preorder` is the subtree of the root (`preorder_eq`).
-/

namespace Bookkeeping

/-! ## The values of an index -/

namespace Index

variable {κ α : Type} [Ord κ]

theorem map_snd_insertEntry {k : κ} (v : α) {l : List (κ × α)} (h : find? k l = none) :
    ((insertEntry k v l).map Prod.snd).Perm (v :: l.map Prod.snd) := by
  induction l with
  | nil => exact .refl _
  | cons e rest ih =>
    obtain ⟨k', v'⟩ := e
    rw [find?] at h
    rw [insertEntry]
    split at h
    · cases h
    · rename_i hne
      split
      · exact .refl _
      · rename_i heq
        exact absurd heq hne
      · exact ((ih h).cons v').trans (.swap v v' _)

/-- A new key adds its value to the others. -/
theorem values_insert [Std.TransOrd κ] [Std.LawfulEqOrd κ] {m : Index κ α} {k : κ} (v : α)
    (h : m.get? k = none) : (m.insert k v).values.Perm (v :: m.values) :=
  map_snd_insertEntry v h

end Index

namespace Journal

/-! ## Journals that can be built -/

/-- The journal has been put together from nothing. -/
inductive Built : Journal → Prop where
  | empty : Built {}
  | openAccount {j : Journal} (path : String) : Built j → Built (j.openAccount path).2
  | addSource {j : Journal} (path : String) : Built j → Built (j.addSource path)
  | addEntry {j : Journal} (h : Heading) : Built j → Built (j.addEntry h)
  | addTransaction {j : Journal} {entry : Nat} (p : Posting) (h : entry < j.entries.length) :
      Built j → Built (j.addTransaction entry p)

/-- The accounts of the journal form a tree, below the first of them. -/
structure IsTree (j : Journal) : Prop where
  root : 0 < j.accounts.length
  /-- An account is known by its position. -/
  id_eq : ∀ {i : Nat} {a : Account}, j.accounts[i]? = some a → a.id = .listed i
  /-- Only the first account has none above it. -/
  parent_eq_none : ∀ {i : Nat} {a : Account}, j.accounts[i]? = some a → (a.parent = none ↔ i = 0)
  /-- The accounts below one stand behind it and know that they are below it. -/
  child : ∀ {i c : Nat} {a : Account}, j.accounts[i]? = some a → c ∈ a.children.values →
    i < c ∧ ∃ b, j.accounts[c]? = some b ∧ b.parent = some i
  /-- The account above one lists it. -/
  listed : ∀ {i c : Nat} {b : Account}, j.accounts[c]? = some b → b.parent = some i →
    ∃ a, j.accounts[i]? = some a ∧ c ∈ a.children.values
  nodup : ∀ {i : Nat} {a : Account}, j.accounts[i]? = some a → a.children.values.Nodup

theorem isTree_empty : IsTree {} := by
  have hroot {i : Nat} {a : Account} (h : ({} : Journal).accounts[i]? = some a) :
      i = 0 ∧ a = .root := by
    cases i with
    | zero => exact ⟨rfl, (Option.some.inj h).symm⟩
    | succ i => cases h
  refine ⟨by decide, fun h => ?_, fun h => ?_, fun h hc => ?_, fun h hp => ?_, fun h => ?_⟩
  all_goals obtain ⟨rfl, rfl⟩ := hroot h
  · rfl
  · exact ⟨fun _ => rfl, fun _ => rfl⟩
  · cases hc
  · cases hp
  · exact .nil

/-- The accounts after one has been put under the account at `i`. -/
theorem getElem?_addAccount {j : Journal} {i : Nat} {a : Account} {name : String}
    (ha : j.accounts[i]? = some a) (k : Nat) :
    (j.addAccount i name).accounts[k]? =
      if k = j.accounts.length then
        some { id := .listed j.accounts.length, name, parent := some i, depth := a.depth + 1 }
      else if k = i then
        some { a with children := a.children.insert name j.accounts.length }
      else j.accounts[k]? := by
  have hi : i < j.accounts.length := (List.getElem?_eq_some_iff.1 ha).1
  rw [addAccount, ha]
  simp only
  rcases Nat.lt_trichotomy k j.accounts.length with hk | rfl | hk
  · rw [List.getElem?_append_left (by simpa using hk), List.getElem?_set]
    by_cases hik : i = k
    · rw [if_pos hik, if_pos hi, if_neg (by omega), if_pos hik.symm]
    · rw [if_neg hik, if_neg (by omega), if_neg (Ne.symm hik)]
  · rw [List.getElem?_append_right (by simp)]
    simp
  · rw [List.getElem?_append_right (by simp; omega), if_neg (by omega), if_neg (by omega),
      List.getElem?_eq_none (by simp; omega), List.getElem?_eq_none (by omega)]

theorem length_addAccount {j : Journal} {i : Nat} {a : Account} {name : String}
    (ha : j.accounts[i]? = some a) :
    (j.addAccount i name).accounts.length = j.accounts.length + 1 := by
  rw [addAccount, ha]
  simp

section

variable {j : Journal} {i : Nat} {a : Account} {name : String}

/-- An account is the new one, the one above it, or as it was. -/
theorem addAccount_cases (ha : j.accounts[i]? = some a) {k : Nat} {b : Account}
    (hb : (j.addAccount i name).accounts[k]? = some b) :
    (k = j.accounts.length ∧ b.id = .listed k ∧ b.parent = some i ∧ b.children = .empty) ∨
      (k = i ∧ b = { a with children := a.children.insert name j.accounts.length }) ∨
      j.accounts[k]? = some b := by
  rw [getElem?_addAccount ha] at hb
  split at hb
  · rename_i hk
    cases hb
    exact .inl ⟨hk, by rw [hk], rfl, rfl⟩
  · split at hb
    · rename_i hk
      cases hb
      exact .inr (.inl ⟨hk, rfl⟩)
    · exact .inr (.inr hb)

/-- An account that was there stays under the same account and keeps those below it. -/
theorem addAccount_keeps (ha : j.accounts[i]? = some a)
    (hnew : a.children.get? name = none) {k : Nat} {b : Account} (hb : j.accounts[k]? = some b) :
    ∃ b', (j.addAccount i name).accounts[k]? = some b' ∧ b'.parent = b.parent ∧
      ∀ c ∈ b.children.values, c ∈ b'.children.values := by
  have hk : k < j.accounts.length := (List.getElem?_eq_some_iff.1 hb).1
  rw [getElem?_addAccount ha, if_neg (by omega)]
  split
  · rename_i hki
    subst hki
    cases ha.symm.trans hb
    refine ⟨_, rfl, rfl, fun c hc => ?_⟩
    exact (Index.values_insert _ hnew).mem_iff.2 (.tail _ hc)
  · exact ⟨b, hb, rfl, fun _ hc => hc⟩

theorem IsTree.child_addAccount (h : j.IsTree) (ha : j.accounts[i]? = some a)
    (hnew : a.children.get? name = none) {k c : Nat} {b : Account}
    (hb : (j.addAccount i name).accounts[k]? = some b) (hc : c ∈ b.children.values) :
    k < c ∧ ∃ b', (j.addAccount i name).accounts[c]? = some b' ∧ b'.parent = some k := by
  have hold {k c : Nat} {b : Account} (hb : j.accounts[k]? = some b)
      (hc : c ∈ b.children.values) :
      k < c ∧ ∃ b', (j.addAccount i name).accounts[c]? = some b' ∧ b'.parent = some k := by
    obtain ⟨hlt, b', hb', hp⟩ := h.child hb hc
    obtain ⟨b'', hb'', hp', -⟩ := addAccount_keeps ha hnew hb'
    exact ⟨hlt, b'', hb'', hp'.trans hp⟩
  rcases addAccount_cases ha hb with ⟨-, -, -, hempty⟩ | ⟨rfl, rfl⟩ | hb
  · rw [hempty] at hc
    cases hc
  · rcases List.mem_cons.1 ((Index.values_insert _ hnew).mem_iff.1 hc) with rfl | hc
    · have hi : k < j.accounts.length := (List.getElem?_eq_some_iff.1 ha).1
      exact ⟨hi, _, by rw [getElem?_addAccount ha, if_pos rfl], rfl⟩
    · exact hold ha hc
  · exact hold hb hc

theorem IsTree.listed_addAccount (h : j.IsTree) (ha : j.accounts[i]? = some a)
    (hnew : a.children.get? name = none) {k p : Nat} {b : Account}
    (hb : (j.addAccount i name).accounts[k]? = some b) (hp : b.parent = some p) :
    ∃ b', (j.addAccount i name).accounts[p]? = some b' ∧ k ∈ b'.children.values := by
  have hold {b : Account} (hb : j.accounts[k]? = some b) (hp : b.parent = some p) :
      ∃ b', (j.addAccount i name).accounts[p]? = some b' ∧ k ∈ b'.children.values := by
    obtain ⟨b', hb', hk⟩ := h.listed hb hp
    obtain ⟨b'', hb'', -, hkeeps⟩ := addAccount_keeps ha hnew hb'
    exact ⟨b'', hb'', hkeeps k hk⟩
  rcases addAccount_cases ha hb with ⟨rfl, -, hp', -⟩ | ⟨rfl, rfl⟩ | hb
  · cases hp'.symm.trans hp
    have hi : i < j.accounts.length := (List.getElem?_eq_some_iff.1 ha).1
    refine ⟨_, by rw [getElem?_addAccount ha, if_neg (by omega), if_pos rfl], ?_⟩
    exact (Index.values_insert _ hnew).mem_iff.2 (.head _)
  · exact hold ha hp
  · exact hold hb hp

theorem IsTree.nodup_addAccount (h : j.IsTree) (ha : j.accounts[i]? = some a)
    (hnew : a.children.get? name = none) {k : Nat} {b : Account}
    (hb : (j.addAccount i name).accounts[k]? = some b) : b.children.values.Nodup := by
  rcases addAccount_cases ha hb with ⟨-, -, -, hempty⟩ | ⟨rfl, rfl⟩ | hb
  · rw [hempty]
    exact .nil
  · refine (Index.values_insert _ hnew).nodup_iff.2 (List.nodup_cons.2 ⟨fun hmem => ?_, h.nodup ha⟩)
    obtain ⟨-, b, hb, -⟩ := h.child ha hmem
    exact absurd (List.getElem?_eq_some_iff.1 hb).1 (Nat.lt_irrefl _)
  · exact h.nodup hb

end

/-- A new account keeps the journal a tree, if its name is new under the account above. -/
theorem IsTree.addAccount {j : Journal} (h : j.IsTree) {i : Nat} {name : String}
    (hnew : j.child? i name = none) : (j.addAccount i name).IsTree := by
  cases ha : j.accounts[i]? with
  | none =>
    rw [Journal.addAccount, ha]
    exact h
  | some a =>
    have hnew : a.children.get? name = none := by simpa [child?, ha] using hnew
    have hroot := h.root
    refine ⟨?_, fun hb => ?_, fun hb => ?_, h.child_addAccount ha hnew,
      h.listed_addAccount ha hnew, h.nodup_addAccount ha hnew⟩
    · rw [length_addAccount ha]
      omega
    · rcases addAccount_cases ha hb with ⟨-, hid, -⟩ | ⟨rfl, rfl⟩ | hb
      · exact hid
      · show a.id = _
        exact h.id_eq ha
      · exact h.id_eq hb
    · rcases addAccount_cases ha hb with ⟨rfl, -, hp, -⟩ | ⟨rfl, rfl⟩ | hb
      · rw [hp]
        exact ⟨fun h => (by cases h), fun h => by omega⟩
      · show a.parent = none ↔ _
        exact h.parent_eq_none ha
      · exact h.parent_eq_none hb

theorem IsTree.openFrom {j : Journal} (h : j.IsTree) (i : Nat) (names : List String) :
    (j.openFrom i names).2.IsTree := by
  induction names generalizing i j with
  | nil => exact h
  | cons name rest ih =>
    rw [Journal.openFrom]
    split
    · exact ih h _
    · rename_i hnew
      exact ih (h.addAccount hnew) _

theorem isTree_of_accounts_eq {j j' : Journal} (h : j.IsTree) (he : j'.accounts = j.accounts) :
    j'.IsTree := by
  obtain ⟨h₁, h₂, h₃, h₄, h₅, h₆⟩ := h
  constructor <;> rw [he] <;> assumption

/-- Every journal that can be built is a tree. -/
theorem Built.isTree {j : Journal} (h : j.Built) : j.IsTree := by
  induction h with
  | empty => exact isTree_empty
  | openAccount path _ ih => exact ih.openFrom 0 _
  | addSource path _ ih => exact isTree_of_accounts_eq ih rfl
  | addEntry h _ ih => exact isTree_of_accounts_eq ih rfl
  | addTransaction p _ _ ih => exact isTree_of_accounts_eq ih rfl

/-! ## Subtrees -/

/-- The account at a position and all below it, each before those below it, which come in the order
of their names. -/
def subtree (j : Journal) (i : Nat) : List Account :=
  match h : j.accounts[i]? with
  | none => []
  | some a =>
    have : i < j.accounts.length := (List.getElem?_eq_some_iff.1 h).1
    -- what is below stands behind, so that this ends
    a :: a.children.values.flatMap fun c => if i < c then j.subtree c else []
termination_by j.accounts.length - i

/-- The account at `k` is the one at `i` or below it. -/
inductive Within (j : Journal) (i : Nat) : Nat → Prop where
  | self : Within j i i
  | under {p k : Nat} {a : Account} :
      j.accounts[k]? = some a → a.parent = some p → Within j i p → Within j i k

section

variable {j : Journal}

theorem subtree_eq (h : j.IsTree) {i : Nat} {a : Account} (ha : j.accounts[i]? = some a) :
    j.subtree i = a :: a.children.values.flatMap j.subtree := by
  rw [subtree]
  split
  · rename_i hnone
    cases hnone.symm.trans ha
  · rename_i b hb
    cases hb.symm.trans ha
    rw [List.flatMap_def, List.flatMap_def,
      List.map_congr_left fun c hc => if_pos (h.child ha hc).1]

/-- What holds of an account if it holds of those below it holds of all. -/
theorem IsTree.induction (h : j.IsTree) {P : Nat → Prop}
    (step : ∀ i a, j.accounts[i]? = some a → (∀ c ∈ a.children.values, P c) → P i) {i : Nat}
    (hi : i < j.accounts.length) : P i := by
  generalize hn : j.accounts.length - i = n
  induction n using Nat.strongRecOn generalizing i with
  | ind n ih =>
    have ha := List.getElem?_eq_getElem hi
    refine step i _ ha fun c hc => ?_
    obtain ⟨hlt, b, hb, -⟩ := h.child ha hc
    have hc' := (List.getElem?_eq_some_iff.1 hb).1
    exact ih (j.accounts.length - c) (by omega) hc' rfl

/-! ### Going up -/

theorem parent_lt (h : j.IsTree) {k p : Nat} {a : Account} (ha : j.accounts[k]? = some a)
    (hp : a.parent = some p) : p < k := by
  obtain ⟨b, hb, hk⟩ := h.listed ha hp
  exact (h.child hb hk).1

theorem Within.le (h : j.IsTree) {i k : Nat} (hik : j.Within i k) : i ≤ k := by
  induction hik with
  | self => exact Nat.le_refl _
  | under ha hp _ ih =>
    have := parent_lt h ha hp
    omega

theorem Within.trans {i c k : Nat} (hic : j.Within i c) (hck : j.Within c k) : j.Within i k := by
  induction hck with
  | self => exact hic
  | under ha hp _ ih => exact .under ha hp ih

/-- The way down to an account begins with one directly below. -/
theorem Within.cases_below {i k : Nat} (h : j.Within i k) :
    k = i ∨ ∃ c b, j.accounts[c]? = some b ∧ b.parent = some i ∧ j.Within c k := by
  induction h with
  | self => exact .inl rfl
  | @under p k a ha hp _ ih =>
    rcases ih with rfl | ⟨c, b, hb, hpb, hck⟩
    · exact .inr ⟨k, a, ha, hp, .self⟩
    · exact .inr ⟨c, b, hb, hpb, .under ha hp hck⟩

/-- The accounts above one account lie above one another. -/
theorem Within.linear {c d k : Nat} (hc : j.Within c k) (hd : j.Within d k) :
    j.Within c d ∨ j.Within d c := by
  induction hc with
  | self => exact .inr hd
  | under ha hp hcp ih =>
    cases hd with
    | self => exact .inl (.under ha hp hcp)
    | under ha' hp' hd =>
      cases ha.symm.trans ha'
      cases hp.symm.trans hp'
      exact ih hd

/-- No account lies below two accounts that are below the same one. -/
theorem siblings_disjoint (h : j.IsTree) {i c d k : Nat} {a b : Account} (hne : c ≠ d)
    (ha : j.accounts[c]? = some a) (hpa : a.parent = some i) (hb : j.accounts[d]? = some b)
    (hpb : b.parent = some i) (hc : j.Within c k) (hd : j.Within d k) : False := by
  have hstep {c d : Nat} {a b : Account} (hne : c ≠ d) (ha : j.accounts[c]? = some a)
      (hpa : a.parent = some i) (hb : j.accounts[d]? = some b) (hpb : b.parent = some i)
      (hcd : j.Within c d) : False := by
    cases hcd with
    | self => exact hne rfl
    | under hb' hp hci =>
      cases hb.symm.trans hb'
      cases hpb.symm.trans hp
      have := hci.le h
      have := parent_lt h ha hpa
      omega
  rcases hc.linear hd with hcd | hdc
  · exact hstep hne ha hpa hb hpb hcd
  · exact hstep (Ne.symm hne) hb hpb ha hpa hdc

theorem within_root (h : j.IsTree) {k : Nat} (hk : k < j.accounts.length) : j.Within 0 k := by
  induction k using Nat.strongRecOn with
  | ind k ih =>
    have ha := List.getElem?_eq_getElem hk
    cases hp : j.accounts[k].parent with
    | none =>
      rw [(h.parent_eq_none ha).1 hp]
      exact .self
    | some p =>
      have hlt := parent_lt h ha hp
      exact .under ha hp (ih p hlt (by omega))

/-! ### Going down -/

theorem mem_subtree_iff (h : j.IsTree) {i : Nat} (hi : i < j.accounts.length) {b : Account} :
    b ∈ j.subtree i ↔ ∃ k, j.accounts[k]? = some b ∧ j.Within i k := by
  refine h.induction (P := fun i => b ∈ j.subtree i ↔ ∃ k, j.accounts[k]? = some b ∧
    j.Within i k) (fun i a ha ih => ?_) hi
  rw [subtree_eq h ha, List.mem_cons, List.mem_flatMap]
  constructor
  · rintro (rfl | ⟨c, hc, hb⟩)
    · exact ⟨i, ha, .self⟩
    · obtain ⟨k, hk, hck⟩ := (ih c hc).1 hb
      obtain ⟨-, b', hb', hp⟩ := h.child ha hc
      exact ⟨k, hk, .trans (.under hb' hp .self) hck⟩
  · rintro ⟨k, hk, hik⟩
    rcases hik.cases_below with rfl | ⟨c, b', hb', hp, hck⟩
    · cases ha.symm.trans hk
      exact .inl rfl
    · obtain ⟨a', ha', hc⟩ := h.listed hb' hp
      cases ha.symm.trans ha'
      exact .inr ⟨c, hc, (ih c hc).2 ⟨k, hk, hck⟩⟩

/-- No account is listed twice in a subtree. -/
theorem nodup_subtree (h : j.IsTree) {i : Nat} (hi : i < j.accounts.length) :
    (j.subtree i).Nodup := by
  refine h.induction (P := fun i => (j.subtree i).Nodup) (fun i a ha ih => ?_) hi
  have hin {c : Nat} (hc : c ∈ a.children.values) {b : Account} (hb : b ∈ j.subtree c) :
      ∃ k, j.accounts[k]? = some b ∧ j.Within c k := by
    obtain ⟨-, b', hb', -⟩ := h.child ha hc
    exact (mem_subtree_iff h (List.getElem?_eq_some_iff.1 hb').1).1 hb
  rw [subtree_eq h ha, List.nodup_cons]
  constructor
  · rw [List.mem_flatMap]
    rintro ⟨c, hc, hac⟩
    obtain ⟨k, hk, hck⟩ := hin hc hac
    -- one account would stand at two positions
    have hid : AccountId.listed i = .listed k := (h.id_eq ha).symm.trans (h.id_eq hk)
    cases hid
    have := (h.child ha hc).1
    have := hck.le h
    omega
  · rw [List.Nodup, List.pairwise_flatMap]
    refine ⟨ih, (h.nodup ha).imp_of_mem fun hc hd hne x hx y hy hxy => ?_⟩
    subst hxy
    obtain ⟨k, hk, hck⟩ := hin hc hx
    obtain ⟨k', hk', hdk⟩ := hin hd hy
    have hid : AccountId.listed k = .listed k' := (h.id_eq hk).symm.trans (h.id_eq hk')
    cases hid
    obtain ⟨-, b, hb, hpb⟩ := h.child ha hc
    obtain ⟨-, b', hb', hpb'⟩ := h.child ha hd
    exact siblings_disjoint h hne hb hpb hb' hpb' hck hdk

/-- Accounts known by the same id are the same. -/
theorem eq_of_id_eq (h : j.IsTree) {a b : Account} (ha : a ∈ j.accounts) (hb : b ∈ j.accounts)
    (hid : a.id = b.id) : a = b := by
  obtain ⟨i, hi⟩ := List.mem_iff_getElem?.1 ha
  obtain ⟨k, hk⟩ := List.mem_iff_getElem?.1 hb
  have hik : AccountId.listed i = .listed k := by rw [← h.id_eq hi, ← h.id_eq hk, hid]
  cases hik
  exact Option.some.inj (hi.symm.trans hk)

/-- The subtree of the root is the whole tree. -/
theorem mem_subtree_root_iff (h : j.IsTree) {b : Account} :
    b ∈ j.subtree 0 ↔ b ∈ j.accounts := by
  rw [mem_subtree_iff h h.root, List.mem_iff_getElem?]
  constructor
  · rintro ⟨k, hk, -⟩
    exact ⟨k, hk⟩
  · rintro ⟨k, hk⟩
    exact ⟨k, hk, within_root h (List.getElem?_eq_some_iff.1 hk).1⟩

/-- Below an account there is no root. -/
theorem isRoot_of_mem_subtree (h : j.IsTree) {i c : Nat} {a b : Account}
    (ha : j.accounts[i]? = some a) (hc : c ∈ a.children.values) (hb : b ∈ j.subtree c) :
    b.isRoot = false := by
  obtain ⟨hlt, a', ha', -⟩ := h.child ha hc
  obtain ⟨k, hk, hck⟩ := (mem_subtree_iff h (List.getElem?_eq_some_iff.1 ha').1).1 hb
  have hle := hck.le h
  have hne : b.parent ≠ none := fun hp => by
    have := (h.parent_eq_none hk).1 hp
    omega
  cases hp : b.parent with
  | none => exact absurd hp hne
  | some p => rw [Account.isRoot, hp, Option.isNone_some]

/-- The tree is the root and, below it, accounts that are no roots. -/
theorem exists_root (h : j.IsTree) :
    ∃ root below, j.accounts[0]? = some root ∧ root.isRoot ∧ j.subtree 0 = root :: below ∧
      (∀ a ∈ below, a ∈ j.accounts ∧ a.isRoot = false) ∧ (below.map (·.id)).Nodup := by
  obtain ⟨root, hroot⟩ : ∃ root, j.accounts[0]? = some root := ⟨_, List.getElem?_eq_getElem h.root⟩
  have hsubtree := subtree_eq h hroot
  have hmem : ∀ a ∈ root.children.values.flatMap j.subtree, a ∈ j.accounts := by
    intro a ha
    rw [← mem_subtree_root_iff h, hsubtree]
    exact .tail _ ha
  refine ⟨root, _, hroot, ?_, hsubtree, fun a ha => ⟨hmem a ha, ?_⟩, ?_⟩
  · rw [Account.isRoot, (h.parent_eq_none hroot).2 rfl]
    rfl
  · obtain ⟨c, hc, hac⟩ := List.mem_flatMap.1 ha
    exact isRoot_of_mem_subtree h hroot hc hac
  · have hnodup := nodup_subtree h h.root
    rw [hsubtree] at hnodup
    rw [List.Nodup, List.pairwise_map]
    refine (List.nodup_cons.1 hnodup).2.imp_of_mem fun ha ha' hne hid => ?_
    exact hne (eq_of_id_eq h (hmem _ ha) (hmem _ ha') hid)

/-! ## The walk over the whole tree -/

/-- The trees of the accounts that wait are the first of these and the trees of what waits then. -/
theorem flatMap_subtree_cons (h : j.IsTree) {i : Nat} {a : Account} (ha : j.accounts[i]? = some a)
    (waiting : List Nat) :
    (i :: waiting).flatMap j.subtree = a :: (a.children.values ++ waiting).flatMap j.subtree := by
  rw [List.flatMap_cons, subtree_eq h ha, List.cons_append, ← List.flatMap_append]

theorem waiting_listed (h : j.IsTree) {i : Nat} {a : Account} (ha : j.accounts[i]? = some a)
    {waiting : List Nat} (hwaiting : ∀ k ∈ waiting, k < j.accounts.length) :
    ∀ k ∈ a.children.values ++ waiting, k < j.accounts.length := by
  intro k hk
  rcases List.mem_append.1 hk with hk | hk
  · obtain ⟨-, b, hb, -⟩ := h.child ha hk
    exact (List.getElem?_eq_some_iff.1 hb).1
  · exact hwaiting k hk

theorem preorderFrom_eq (h : j.IsTree) (fuel : Nat) (waiting : List Nat)
    (hwaiting : ∀ i ∈ waiting, i < j.accounts.length)
    (hfuel : (waiting.flatMap j.subtree).length ≤ fuel) :
    j.preorderFrom fuel waiting = waiting.flatMap j.subtree := by
  induction fuel generalizing waiting with
  | zero => rw [preorderFrom, List.length_eq_zero_iff.1 (Nat.le_zero.1 hfuel)]
  | succ fuel ih =>
    cases waiting with
    | nil => rfl
    | cons i waiting =>
      have ha := List.getElem?_eq_getElem (hwaiting i (.head _))
      rw [flatMap_subtree_cons h ha] at hfuel ⊢
      rw [preorderFrom, ha]
      simp only
      rw [ih _ (waiting_listed h ha fun k hk => hwaiting k (.tail _ hk))
        (Nat.le_of_succ_le_succ hfuel)]

/-- The walk visits the subtree of the root. -/
theorem preorder_eq (h : j.IsTree) : j.preorder = j.subtree 0 := by
  have hlen : (j.subtree 0).length ≤ j.accounts.length :=
    (nodup_subtree h h.root).length_le_of_subset fun b hb => (mem_subtree_root_iff h).1 hb
  rw [preorder, preorderFrom_eq h _ [0] (by simpa using h.root) (by simpa using hlen)]
  simp

end

end Journal

end Bookkeeping
