import Bookkeeping.Proofs.Journal.Paths
import Bookkeeping.Proofs.Report.Selection

/-!
# Walks over the accounts

`Journal.Walked` is the walk step by step: the first of the accounts that wait is handed over, and
those below it wait in front of the others.  It knows nothing of a tree, and nothing bounds the
number of its steps.  In a journal that has been built it comes to an end whatever it is handed to,
and has handed over the tree of the accounts, or its beginning up to the first failure
(`exists_walked`); there is no other way that it can end (`Walked.unique`).  So it runs like the
loop over `preorder`, and every account comes once and behind those above it
(`walks_in_preorder`).
-/

namespace Bookkeeping

open Attempt

namespace Journal

section

variable {j : Journal}

/-! ## The accounts below one -/

/-- The accounts directly below one stand there under their names, in increasing order. -/
theorem names_childrenOf (hn : j.IsNamed) {i : Nat} {a : Account} (ha : j.accounts[i]? = some a) :
    (j.childrenOf a).map (·.name) = a.children.keys := by
  have hnamed : ∀ e ∈ a.children.entries, ∃ b, j.accounts[e.2]? = some b ∧ b.name = e.1 := by
    intro e he
    obtain ⟨b, hb, hname, -⟩ := hn.child ha (Index.find?_of_mem a.children.increasing he)
    exact ⟨b, hb, hname⟩
  rw [childrenOf, Index.values, Index.keys]
  generalize a.children.entries = entries at hnamed
  induction entries with
  | nil => rfl
  | cons e entries ih =>
    obtain ⟨b, hb, hname⟩ := hnamed e (.head _)
    rw [List.map_cons, List.filterMap_cons_some hb, List.map_cons, List.map_cons, hname,
      ih fun e' he' => hnamed e' (.tail _ he')]

theorem subtreeOf_eq_cons (h : j.IsTree) {a : Account} (ha : a ∈ j.accounts) :
    j.subtreeOf a = a :: (j.childrenOf a).flatMap j.subtreeOf := by
  obtain ⟨i, hi⟩ := List.mem_iff_getElem?.1 ha
  rw [subtreeOf_eq h hi, subtree_eq h hi, childrenOf]
  have hlisted : ∀ c ∈ a.children.values, ∃ b, j.accounts[c]? = some b := fun c hc => by
    obtain ⟨-, b, hb, -⟩ := h.child hi hc
    exact ⟨b, hb⟩
  congr 1
  generalize a.children.values = values at hlisted
  induction values with
  | nil => rfl
  | cons c values ih =>
    obtain ⟨b, hb⟩ := hlisted c (.head _)
    rw [List.filterMap_cons_some hb, List.flatMap_cons, List.flatMap_cons, subtreeOf_eq h hb,
      ih fun d hd => hlisted d (.tail _ hd)]

theorem Within.subtree_sublist (h : j.IsTree) {i k : Nat} (hik : j.Within i k) :
    (j.subtree k).Sublist (j.subtree i) := by
  induction hik with
  | self => exact .refl _
  | @under p k a ha hp _ ih =>
    obtain ⟨b, hb, hk⟩ := h.listed ha hp
    refine .trans ?_ ih
    rw [subtree_eq h hb]
    exact .cons _ (List.sublist_flatten_of_mem (List.mem_map_of_mem hk))

/-- An account stands before all that are below it. -/
theorem above_before_below (h : j.IsTree) {i k : Nat} {a b : Account}
    (ha : j.accounts[i]? = some a) (hb : j.accounts[k]? = some b) (hik : j.Within i k)
    (hne : k ≠ i) : [a, b].Sublist (j.subtree 0) := by
  have hroot : j.Within 0 i := within_root h (List.getElem?_eq_some_iff.1 ha).1
  obtain ⟨c, d, hd, hp, hck⟩ := hik.cases_below.resolve_left hne
  obtain ⟨a', ha', hc⟩ := h.listed hd hp
  cases ha.symm.trans ha'
  have hbelow : b ∈ a.children.values.flatMap j.subtree := by
    refine List.mem_flatMap.2 ⟨c, hc, ?_⟩
    exact (mem_subtree_iff h (List.getElem?_eq_some_iff.1 hd).1).2 ⟨k, hb, hck⟩
  refine .trans ?_ (hroot.subtree_sublist h)
  rw [subtree_eq h ha]
  exact .cons_cons _ (List.singleton_sublist.2 hbelow)

theorem subtree_root_perm (h : j.IsTree) : (j.subtree 0).Perm j.accounts := by
  have hnodup : j.accounts.Nodup := List.pairwise_iff_getElem.2 fun i k hi hk hik heq => by
    have hid : AccountId.listed i = .listed k := by
      rw [← h.id_eq (List.getElem?_eq_getElem hi), heq, h.id_eq (List.getElem?_eq_getElem hk)]
    cases hid
    exact Nat.lt_irrefl _ hik
  exact (List.perm_ext_iff_of_nodup (nodup_subtree h h.root) hnodup).2 fun _ =>
    mem_subtree_root_iff h

end

/-! ## The walk -/

section

variable {σ ε : Type}

/-- While the accounts at these positions wait, the first of them on top, the walk hands accounts
over in the state `s`: it has handed over `seen` when it ends with the result `r`. -/
inductive Walked (j : Journal) (f : Account → Attempt σ ε Unit) :
    List Nat → σ → List Account → Except ε Unit × σ → Prop where
  | ended {s : σ} : Walked j f [] s [] (.ok (), s)
  | handed {i : Nat} {waiting : List Nat} {a : Account} {s t : σ} {seen : List Account}
      {r : Except ε Unit × σ} :
      j.accounts[i]? = some a → (f a).exec s = (.ok (), t) →
      Walked j f (a.children.values ++ waiting) t seen r → Walked j f (i :: waiting) s (a :: seen) r
  | failed {i : Nat} {waiting : List Nat} {a : Account} {s t : σ} {e : ε} :
      j.accounts[i]? = some a → (f a).exec s = (.error e, t) →
      Walked j f (i :: waiting) s [a] (.error e, t)

variable {j : Journal} {f : Account → Attempt σ ε Unit} {waiting : List Nat} {s : σ}

/-- The walk ends in one way only. -/
theorem Walked.unique {seen seen' : List Account} {r r' : Except ε Unit × σ}
    (h : j.Walked f waiting s seen r) (h' : j.Walked f waiting s seen' r') :
    seen' = seen ∧ r' = r := by
  induction h generalizing seen' r' with
  | ended =>
    cases h'
    exact ⟨rfl, rfl⟩
  | handed ha hf _ ih =>
    cases h' with
    | handed ha' hf' hrest =>
      cases ha.symm.trans ha'
      cases hf.symm.trans hf'
      obtain ⟨rfl, rfl⟩ := ih hrest
      exact ⟨rfl, rfl⟩
    | failed ha' hf' =>
      cases ha.symm.trans ha'
      cases hf.symm.trans hf'
  | failed ha hf =>
    cases h' with
    | handed ha' hf' _ =>
      cases ha.symm.trans ha'
      cases hf.symm.trans hf'
    | failed ha' hf' =>
      cases ha.symm.trans ha'
      cases hf.symm.trans hf'
      exact ⟨rfl, rfl⟩

/-- The walk comes to an end, and runs like the loop over the trees of the accounts that wait. -/
theorem exists_walked (h : j.IsTree) (f : Account → Attempt σ ε Unit) (waiting : List Nat) (s : σ)
    (hwaiting : ∀ i ∈ waiting, i < j.accounts.length) :
    ∃ seen, j.Walked f waiting s seen (((waiting.flatMap j.subtree).forM f).exec s) ∧
      seen <+: waiting.flatMap j.subtree ∧
      ((((waiting.flatMap j.subtree).forM f).exec s).1 = .ok () →
        seen = waiting.flatMap j.subtree) := by
  -- every step takes one account off the trees
  generalize htrees : waiting.flatMap j.subtree = trees
  induction trees generalizing waiting s with
  | nil =>
    cases waiting with
    | nil => exact ⟨[], .ended, List.prefix_refl _, fun _ => rfl⟩
    | cons i waiting =>
      rw [flatMap_subtree_cons h (List.getElem?_eq_getElem (hwaiting i (.head _)))] at htrees
      cases htrees
  | cons b trees ih =>
    cases waiting with
    | nil => cases htrees
    | cons i waiting =>
      obtain ⟨a, ha⟩ : ∃ a, j.accounts[i]? = some a :=
        ⟨_, List.getElem?_eq_getElem (hwaiting i (.head _))⟩
      rw [flatMap_subtree_cons h ha] at htrees
      obtain ⟨rfl, hrest⟩ := List.cons.inj htrees
      rw [exec_forM_cons]
      rcases hf : (f a).exec s with ⟨_ | _, t⟩
      · exact ⟨_, .failed ha hf, by simp, nofun⟩
      · obtain ⟨seen, hwalked, hprefix, hall⟩ := ih _ t
          (waiting_listed h ha fun k hk => hwaiting k (.tail _ hk)) hrest
        exact ⟨_, .handed ha hf hwalked, List.cons_prefix_cons.2 ⟨rfl, hprefix⟩, fun hok =>
          congrArg _ (hall hok)⟩

theorem exec_forM_ok {as : List Account} (hf : ∀ a ∈ as, ∀ t, ((f a).exec t).1 = .ok ()) (s : σ) :
    ((as.forM f).exec s).1 = .ok () := by
  induction as generalizing s with
  | nil => rfl
  | cons a as ih =>
    have ha := hf a (.head _) s
    rw [exec_forM_cons]
    rcases hexec : (f a).exec s with ⟨_ | _, t⟩
    · rw [hexec] at ha
      cases ha
    · exact ih (fun b hb => hf b (.tail _ hb)) t

/-! ## The order of the accounts -/

/-- The accounts are listed in preorder. -/
structure IsPreorder (j : Journal) (as : List Account) : Prop where
  root : ∃ root, j.accounts[0]? = some root ∧ root.isRoot ∧ as = j.subtreeOf root
  /-- An account comes first of its subtree, and the subtrees below follow one another. -/
  subtreeOf_eq : ∀ a ∈ j.accounts, j.subtreeOf a = a :: (j.childrenOf a).flatMap j.subtreeOf
  /-- The accounts directly below one come in the order of their names. -/
  increasing : ∀ a ∈ j.accounts, ((j.childrenOf a).map (·.name)).Pairwise (compare · · = .lt)
  nodup : as.Nodup
  perm : as.Perm j.accounts
  /-- An account comes before all whose way up to the root leads past it. -/
  before : ∀ {i k : Nat} {a b : Account}, j.accounts[i]? = some a → j.accounts[k]? = some b →
    j.Within i k → k ≠ i → [a, b].Sublist as

theorem Built.isPreorder (hj : j.Built) : j.IsPreorder j.preorder := by
  have h := hj.isTree
  obtain ⟨root, -, hroot, hisRoot, -⟩ := exists_root h
  rw [preorder_eq h]
  refine ⟨⟨root, hroot, hisRoot, (j.subtreeOf_eq h hroot).symm⟩, fun a => subtreeOf_eq_cons h,
    fun a ha => ?_, nodup_subtree h h.root, subtree_root_perm h, above_before_below h⟩
  obtain ⟨i, hi⟩ := List.mem_iff_getElem?.1 ha
  rw [names_childrenOf hj.isNamed hi]
  exact a.children.increasing

/-- In a journal that has been built the walk from the root comes to an end, whatever the accounts
are handed to.  It ends like the loop over the accounts in preorder, all of which it has handed over
if nothing failed, and those of a beginning if something did. -/
theorem walks_in_preorder (hj : j.Built) (f : Account → Attempt σ ε Unit) (s : σ) :
    j.IsPreorder j.preorder ∧
      (∀ fuel, j.accounts.length ≤ fuel → j.preorderFrom fuel [0] = j.preorder) ∧
      (∃ seen r, j.Walked f [0] s seen r) ∧
      (∀ seen r, j.Walked f [0] s seen r → r = (j.preorder.forM f).exec s ∧
        seen <+: j.preorder ∧ (r.1 = .ok () → seen = j.preorder)) ∧
      ((∀ a ∈ j.accounts, ∀ t, ((f a).exec t).1 = .ok ()) →
        ∃ t, j.Walked f [0] s j.preorder (.ok (), t)) := by
  have h := hj.isTree
  have hpreorder := hj.isPreorder
  have hwaiting : ∀ i ∈ [0], i < j.accounts.length := fun i hi => List.mem_singleton.1 hi ▸ h.root
  have hsubtree : [0].flatMap j.subtree = j.preorder := by
    rw [List.flatMap_singleton, preorder_eq h]
  obtain ⟨seen, hwalked, hprefix, hall⟩ := exists_walked h f [0] s hwaiting
  rw [hsubtree] at hwalked hprefix hall
  refine ⟨hpreorder, fun fuel hfuel => ?_, ⟨seen, _, hwalked⟩, fun seen' r h' => ?_, fun hf => ?_⟩
  · rw [preorderFrom_eq h fuel [0] hwaiting (hsubtree ▸ hpreorder.perm.length_eq ▸ hfuel), hsubtree]
  · obtain ⟨rfl, rfl⟩ := hwalked.unique h'
    exact ⟨rfl, hprefix, hall⟩
  · have hok := exec_forM_ok (fun a ha => hf a (hpreorder.perm.mem_iff.1 ha)) s
    refine ⟨((j.preorder.forM f).exec s).2, ?_⟩
    rw [hall hok] at hwalked
    rwa [← hok]

end

/-- A journal with food below the expenses and cash below the assets. -/
def pantry : Journal := ((({} : Journal).openAccount "Expenses:Food").2.openAccount "Assets:Cash").2

/-- Adds the name of an account to those collected. -/
def collectName (a : Account) : Attempt (List String) Empty Unit := modify (· ++ [a.name])

/-- The walk collects the names, the assets before the expenses. -/
theorem walks_in_preorder_pantry :
    pantry.IsPreorder pantry.preorder ∧
      pantry.Walked collectName [0] [] pantry.preorder
        (.ok (), ["", "Assets", "Cash", "Expenses", "Food"]) := by
  have hbuilt : pantry.Built := (Built.empty.openAccount _).openAccount _
  have hnames : ((pantry.preorder.forM collectName).exec []).2 =
      ["", "Assets", "Cash", "Expenses", "Food"] := by
    decide +kernel
  obtain ⟨hpreorder, -, -, hunique, hwalks⟩ := walks_in_preorder hbuilt collectName []
  obtain ⟨t, ht⟩ := hwalks fun _ _ _ => rfl
  have ht' : t = ((pantry.preorder.forM collectName).exec []).2 :=
    congrArg Prod.snd (hunique _ _ ht).1
  rw [ht', hnames] at ht
  exact ⟨hpreorder, ht⟩

end Journal

end Bookkeeping
