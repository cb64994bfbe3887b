import Bookkeeping.Proofs.Journal.Tree
import Mathlib.Data.List.Perm.Basic

/-!
# Transactions by account

`Journal.postedTo` lists the transactions on some accounts of a journal.  Those in the subtree of an
account are its own together with those in the subtrees below it (`postedTo_subtree_perm`), and in
the whole tree they are all, as long as every transaction is on an account of the journal (`Posts`,
`postedTo_root`).
-/

namespace Bookkeeping

/-- Taken key by key, the elements with one of the keys are all found, each once. -/
theorem filter_mem_perm {α κ : Type} [DecidableEq κ] (key : α → κ) {ks : List κ} (h : ks.Nodup)
    (xs : List α) :
    (xs.filter fun x => key x ∈ ks).Perm (ks.flatMap fun k => xs.filter fun x => key x = k) := by
  induction ks with
  | nil => simp
  | cons k ks ih =>
    obtain ⟨hk, hks⟩ := List.nodup_cons.1 h
    rw [List.flatMap_cons]
    refine .trans (.symm (List.filter_append_perm (fun x => key x = k) _)) ?_
    rw [List.filter_filter, List.filter_filter]
    refine .append (.of_eq (List.filter_congr fun x _ => ?_))
      (.trans (.of_eq (List.filter_congr fun x _ => ?_)) (ih hks))
    · by_cases hx : key x = k <;> simp [hx]
    · by_cases hx : key x = k
      · subst hx
        simp [hk]
      · simp [hx]

namespace Journal

/-- The transactions on these accounts, in the order of the journal. -/
def postedTo (j : Journal) (as : List Account) : List Transaction :=
  j.transactions.filter fun x => x.account ∈ as.map (·.id)

/-- Every transaction is on an account of the journal. -/
def Posts (j : Journal) : Prop := ∀ x ∈ j.transactions, ∃ a ∈ j.accounts, a.id = x.account

variable {j : Journal}

theorem postedTo_sublist (as : List Account) : (j.postedTo as).Sublist j.transactions :=
  List.filter_sublist

theorem postedTo_singleton (a : Account) :
    j.postedTo [a] = j.transactions.filter (·.account = a.id) := by
  simp [postedTo]

theorem postedTo_perm {as : List Account} (h : (as.map (·.id)).Nodup) :
    (j.postedTo as).Perm (as.flatMap fun a => j.postedTo [a]) := by
  refine (filter_mem_perm (·.account) h j.transactions).trans (.of_eq ?_)
  rw [List.flatMap_map]
  simp [postedTo]

theorem mem_accounts_of_mem_subtree (h : j.IsTree) {i : Nat} (hi : i < j.accounts.length)
    {b : Account} (hb : b ∈ j.subtree i) : b ∈ j.accounts := by
  obtain ⟨k, hk, -⟩ := (mem_subtree_iff h hi).1 hb
  exact List.mem_of_getElem? hk

theorem nodup_subtree_ids (h : j.IsTree) {i : Nat} (hi : i < j.accounts.length) :
    ((j.subtree i).map (·.id)).Nodup := by
  rw [List.Nodup, List.pairwise_map]
  refine (nodup_subtree h hi).imp_of_mem fun ha hb hne hid => hne ?_
  exact eq_of_id_eq h (mem_accounts_of_mem_subtree h hi ha) (mem_accounts_of_mem_subtree h hi hb)
    hid

/-- The transactions in a subtree are those of its account and of the subtrees below. -/
theorem postedTo_subtree_perm (h : j.IsTree) {i : Nat} {a : Account}
    (ha : j.accounts[i]? = some a) :
    (j.postedTo (j.subtree i)).Perm
      (j.postedTo [a] ++ a.children.values.flatMap fun c => j.postedTo (j.subtree c)) := by
  have hi := (List.getElem?_eq_some_iff.1 ha).1
  refine (postedTo_perm (nodup_subtree_ids h hi)).trans ?_
  rw [subtree_eq h ha, List.flatMap_cons, List.flatMap_assoc]
  refine .append (.refl _) (List.Perm.flatMap_left _ fun c hc => ?_)
  obtain ⟨-, b, hb, -⟩ := h.child ha hc
  exact (postedTo_perm (nodup_subtree_ids h (List.getElem?_eq_some_iff.1 hb).1)).symm

theorem postedTo_root (h : j.IsTree) (hposts : j.Posts) :
    j.postedTo (j.subtree 0) = j.transactions := by
  refine List.filter_eq_self.2 fun x hx => ?_
  obtain ⟨a, ha, hid⟩ := hposts x hx
  exact decide_eq_true (List.mem_map.2 ⟨a, (mem_subtree_root_iff h).2 ha, hid⟩)

end Journal

end Bookkeeping
