import Bookkeeping.Proofs.Journal.Paths
import Mathlib.Data.List.Chain
import Mathlib.Data.List.Infix

/-!
# Lineages

The lineage of an account, read upwards, consists of the accounts that it lies within
(`mem_lineage_iff`), and it ends with the lineage of each of these (`lineage_suffix`).  In preorder,
what lies above an account is the account before it or lies above that one (`isChain_subtree`).
-/

namespace Bookkeeping

theorem Account.exists_parent {a : Account} (h : a.isRoot = false) : ∃ p, a.parent = some p := by
  rwa [isRoot, Option.isNone_eq_false_iff, Option.isSome_iff_exists] at h

namespace Journal

variable {j : Journal} {i : Nat} {a b : Account}

/-- The account at the first position lies above the one at the second. -/
def Above (j : Journal) (d a : Account) : Prop :=
  ∃ k i, j.accounts[k]? = some d ∧ j.accounts[i]? = some a ∧ j.Within k i ∧ k ≠ i

theorem mem_lineage_iff (h : j.IsTree) (ha : j.accounts[i]? = some a) :
    b ∈ j.lineage a ↔ ∃ k, j.accounts[k]? = some b ∧ j.Within k i := by
  induction i using Nat.strongRecOn generalizing a with
  | ind i ih =>
    cases hp : a.parent with
    | none =>
      rw [lineage_root hp, List.mem_singleton]
      constructor
      · rintro rfl
        exact ⟨i, ha, .self⟩
      · rintro ⟨k, hk, hki⟩
        cases hki with
        | self => exact Option.some.inj (hk.symm.trans ha)
        | under ha' hp' _ =>
          cases ha.symm.trans ha'
          cases hp.symm.trans hp'
    | some p =>
      obtain ⟨c, hc, -⟩ := h.listed ha hp
      rw [lineage_child h hp hc, List.mem_cons, ih p (parent_lt h ha hp) hc]
      constructor
      · rintro (rfl | ⟨k, hk, hkp⟩)
        · exact ⟨i, ha, .self⟩
        · exact ⟨k, hk, .under ha hp hkp⟩
      · rintro ⟨k, hk, hki⟩
        cases hki with
        | self => exact .inl (Option.some.inj (hk.symm.trans ha))
        | under ha' hp' hkp =>
          cases ha.symm.trans ha'
          cases hp.symm.trans hp'
          exact .inr ⟨k, hk, hkp⟩

theorem lineage_suffix (h : j.IsTree) {k : Nat} (hik : j.Within i k)
    (ha : j.accounts[i]? = some a) (hb : j.accounts[k]? = some b) :
    j.lineage a <:+ j.lineage b := by
  induction hik generalizing b with
  | self =>
    cases ha.symm.trans hb
    exact List.suffix_refl _
  | @under p k c hc hp _ ih =>
    cases hc.symm.trans hb
    obtain ⟨d, hd, -⟩ := h.listed hb hp
    rw [lineage_child h hp hd]
    exact (ih hd).trans (List.suffix_cons _ _)

/-- No account lies above itself. -/
theorem id_ne_of_mem_tail_lineage (h : j.IsTree) (ha : j.accounts[i]? = some a)
    (hb : b ∈ (j.lineage a).tail) : b.id ≠ a.id := by
  cases hp : a.parent with
  | none =>
    rw [lineage_root hp] at hb
    cases hb
  | some p =>
    obtain ⟨c, hc, -⟩ := h.listed ha hp
    rw [lineage_child h hp hc, List.tail_cons] at hb
    obtain ⟨k, hk, hkp⟩ := (mem_lineage_iff h hc).1 hb
    have hle := hkp.le h
    have hlt := parent_lt h ha hp
    rw [h.id_eq hk, h.id_eq ha, ne_eq, AccountId.listed.injEq]
    omega

theorem namesTo_ne_nil (h : j.IsTree) (ha : j.accounts[i]? = some a) (hroot : a.isRoot = false) :
    j.namesTo a ≠ [] := by
  obtain ⟨p, hp⟩ := a.exists_parent hroot
  obtain ⟨b, hb, -⟩ := h.listed ha hp
  rw [namesTo_child h hp hb]
  exact List.append_ne_nil_of_right_ne_nil _ (List.cons_ne_nil _ _)

/-- What lies above the second account is the first one or lies above it. -/
def FollowsInTree (j : Journal) (a b : Account) : Prop := (j.lineage b).tail <:+ j.lineage a

/-- Behind an account at or below `a`, the trees of those directly below `a` may follow. -/
theorem isChain_flatMap_subtree (h : j.IsTree) (ha : j.accounts[i]? = some a) {cs : List Nat}
    (hcs : ∀ c ∈ cs, c ∈ a.children.values)
    (hchain : ∀ c ∈ cs, (j.subtree c).IsChain j.FollowsInTree) {x : Account}
    (hx : j.lineage a <:+ j.lineage x) : (x :: cs.flatMap j.subtree).IsChain j.FollowsInTree := by
  induction cs generalizing x with
  | nil => exact .singleton x
  | cons c cs ih =>
    obtain ⟨hc, hcs⟩ := List.forall_mem_cons.1 hcs
    obtain ⟨hchainc, hchain⟩ := List.forall_mem_cons.1 hchain
    obtain ⟨-, b, hb, hp⟩ := h.child ha hc
    have hhead : ∀ y ∈ (j.subtree c).head?, j.FollowsInTree x y := by
      rw [subtree_eq h hb]
      intro y hy
      cases hy
      rwa [FollowsInTree, lineage_child h hp ha, List.tail_cons]
    have hlast : ∀ y ∈ (x :: j.subtree c).getLast?, j.lineage a <:+ j.lineage y := by
      intro y hy
      rcases List.mem_cons.1 (List.mem_of_getLast? hy) with rfl | hy
      · exact hx
      · obtain ⟨k, hk, hck⟩ := (mem_subtree_iff h (List.getElem?_eq_some_iff.1 hb).1).1 hy
        exact lineage_suffix h (.trans (.under hb hp .self) hck) ha hk
    rw [List.flatMap_cons, ← List.cons_append, List.isChain_append]
    refine ⟨List.isChain_cons.2 ⟨hhead, hchainc⟩, (ih hcs hchain hx).tail, fun y hy z hz => ?_⟩
    exact (List.isChain_cons.1 (ih hcs hchain (hlast y hy))).1 z hz

theorem isChain_subtree (h : j.IsTree) (hi : i < j.accounts.length) :
    (j.subtree i).IsChain j.FollowsInTree := by
  refine h.induction (P := fun i => (j.subtree i).IsChain j.FollowsInTree) (fun i a ha ih => ?_) hi
  rw [subtree_eq h ha]
  exact isChain_flatMap_subtree h ha (fun _ hc => hc) ih (List.suffix_refl _)

end Journal

end Bookkeeping
