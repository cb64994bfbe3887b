import Bookkeeping.Proofs.Journal.Tree
import Mathlib.Data.List.Infix

/-!
# Accounts and their paths

`Journal.IsNamed` says that every account stands under its own name below the one above it, and that
names are such as paths are made of.  Every journal that is built is named (`Built.isNamed`).  The
names on the way to an account (`namesTo`) lead back to it (`findFrom?_namesTo`), so that an account
is found at its full name (`find?_fullname`).  Opening a path leaves what there was as it was
(`Extends`) and adds an account for each beginning of the path that led nowhere
(`openAccount_spec`).
-/

namespace Bookkeeping

/-! ## Paths and names -/

namespace Path

/-- A name that can stand on a path. -/
def IsName (name : String) : Prop := name ≠ "" ∧ ':' ∉ name.toList

theorem segments_of_not_mem {s : List Char} (h : ':' ∉ s) : segments s = [s] := by
  induction s with
  | nil => rfl
  | cons c s ih =>
    obtain ⟨hc, hs⟩ := not_or.1 (mt List.mem_cons.2 h)
    rw [segments, if_neg (Ne.symm hc), ih hs]

theorem segments_append {s : List Char} (h : ':' ∉ s) (r : List Char) :
    segments (s ++ ':' :: r) = s :: segments r := by
  induction s with
  | nil => rw [List.nil_append, segments, if_pos rfl]
  | cons c s ih =>
    obtain ⟨hc, hs⟩ := not_or.1 (mt List.mem_cons.2 h)
    rw [List.cons_append, segments, if_neg (Ne.symm hc), ih hs]

theorem segments_join {l : List (List Char)} (hne : l ≠ []) (h : ∀ s ∈ l, ':' ∉ s) :
    segments (join l) = l := by
  induction l with
  | nil => exact absurd rfl hne
  | cons s l ih =>
    cases l with
    | nil => exact segments_of_not_mem (h s (.head _))
    | cons t l =>
      rw [join, segments_append (h s (.head _)), ih (by simp) fun u hu => h u (.tail _ hu)]
      simp

theorem not_mem_of_mem_segments {s t : List Char} (h : t ∈ segments s) : ':' ∉ t := by
  induction s generalizing t with
  | nil =>
    cases List.mem_singleton.1 h
    exact List.not_mem_nil
  | cons c s ih =>
    rw [segments] at h
    split at h
    · rcases List.mem_cons.1 h with rfl | h
      · exact List.not_mem_nil
      · exact ih h
    · rename_i hc
      split at h
      · rename_i hs
        exact absurd hs (segments_ne_nil s)
      · rename_i u us hs
        rw [hs] at ih
        rcases List.mem_cons.1 h with rfl | h
        · rw [List.mem_cons, not_or]
          exact ⟨Ne.symm hc, ih (.head _)⟩
        · exact ih (.tail _ h)

/-- The names on a path can stand on one. -/
theorem isName_of_mem_names {path name : String} (h : name ∈ names path) : IsName name := by
  obtain ⟨s, hs, rfl⟩ := List.mem_map.1 h
  obtain ⟨hseg, hne⟩ := List.mem_filter.1 hs
  refine ⟨fun he => ?_, by rw [String.toList_ofList]; exact not_mem_of_mem_segments hseg⟩
  have hnil : s = [] := by simpa using congrArg String.toList he
  rw [hnil] at hne
  cases hne

/-- The names on the path of some names are these names. -/
theorem names_ofNames {l : List String} (h : ∀ name ∈ l, IsName name) : names (ofNames l) = l := by
  cases l with
  | nil => rfl
  | cons name rest =>
    have hsegments : segments (join ((name :: rest).map String.toList)) =
        (name :: rest).map String.toList := segments_join (by simp) fun s hs => by
      obtain ⟨n, hn, rfl⟩ := List.mem_map.1 hs
      exact (h n hn).2
    have hfilter : ((name :: rest).map String.toList).filter (fun s => !s.isEmpty) =
        (name :: rest).map String.toList := List.filter_eq_self.2 fun s hs => by
      obtain ⟨n, hn, rfl⟩ := List.mem_map.1 hs
      have hne := (h n hn).1
      simpa using hne
    rw [names, ofNames, String.toList_ofList, hsegments, hfilter, List.map_map]
    simp

end Path

namespace Journal

/-! ## Journals whose accounts are named -/

/-- The accounts stand under their names below one another, one name deeper each. -/
structure IsNamed (j : Journal) : Prop where
  root : ∀ {a : Account}, j.accounts[0]? = some a → a.name = "" ∧ a.depth = 0
  child : ∀ {i c : Nat} {a : Account} {name : String}, j.accounts[i]? = some a →
    a.children.get? name = some c →
    ∃ b, j.accounts[c]? = some b ∧ b.name = name ∧ b.parent = some i ∧ b.depth = a.depth + 1
  listed : ∀ {i c : Nat} {b : Account}, j.accounts[c]? = some b → b.parent = some i →
    ∃ a, j.accounts[i]? = some a ∧ a.children.get? b.name = some c
  isName : ∀ {i p : Nat} {a : Account}, j.accounts[i]? = some a → a.parent = some p →
    Path.IsName a.name

theorem isNamed_empty : IsNamed {} := by
  have hroot {i : Nat} {a : Account} (h : ({} : Journal).accounts[i]? = some a) : a = .root := by
    cases i with
    | zero => exact (Option.some.inj h).symm
    | succ i => cases h
  refine ⟨fun h => ?_, fun h hc => ?_, fun h hp => ?_, fun h hp => ?_⟩
  all_goals obtain rfl := hroot h
  · exact ⟨rfl, rfl⟩
  · cases hc
  · cases hp
  · cases hp

/-- What there was of a journal is there in a later one, with the same names. -/
def Extends (j j' : Journal) : Prop :=
  ∀ (i : Nat) (a : Account), j.accounts[i]? = some a →
    ∃ a', j'.accounts[i]? = some a' ∧ a'.id = a.id ∧ a'.name = a.name ∧
      a'.parent = a.parent ∧ a'.depth = a.depth

theorem Extends.refl (j : Journal) : j.Extends j := fun _ a h => ⟨a, h, rfl, rfl, rfl, rfl⟩

theorem Extends.trans {j j' j'' : Journal} (h : j.Extends j') (h' : j'.Extends j'') :
    j.Extends j'' := by
  intro i a ha
  obtain ⟨b, hb, hid, hname, hparent, hdepth⟩ := h i a ha
  obtain ⟨c, hc, hid', hname', hparent', hdepth'⟩ := h' i b hb
  exact ⟨c, hc, hid'.trans hid, hname'.trans hname, hparent'.trans hparent, hdepth'.trans hdepth⟩

section

variable {j j' : Journal} {i : Nat} {a : Account} {name : String}

/-! ### A new account -/

theorem extends_addAccount (ha : j.accounts[i]? = some a) (name : String) :
    j.Extends (j.addAccount i name) := by
  intro k b hb
  have hk : k < j.accounts.length := (List.getElem?_eq_some_iff.1 hb).1
  rw [getElem?_addAccount ha, if_neg (by omega)]
  split
  · rename_i hki
    subst hki
    cases ha.symm.trans hb
    exact ⟨_, rfl, rfl, rfl, rfl, rfl⟩
  · exact ⟨b, hb, rfl, rfl, rfl, rfl⟩

theorem getElem?_addAccount_length (ha : j.accounts[i]? = some a) (name : String) :
    (j.addAccount i name).accounts[j.accounts.length]? =
      some { id := .listed j.accounts.length, name, parent := some i, depth := a.depth + 1 } := by
  rw [getElem?_addAccount ha, if_pos rfl]

/-- What an account that is there keeps below it. -/
theorem get?_addAccount (ha : j.accounts[i]? = some a) (hnew : a.children.get? name = none)
    {k c : Nat} {b : Account} {n : String} (hb : j.accounts[k]? = some b)
    (hc : b.children.get? n = some c) :
    ∃ b', (j.addAccount i name).accounts[k]? = some b' ∧ b'.children.get? n = some c := by
  have hk : k < j.accounts.length := (List.getElem?_eq_some_iff.1 hb).1
  rw [getElem?_addAccount ha, if_neg (by omega)]
  split
  · rename_i hki
    subst hki
    cases ha.symm.trans hb
    have hne : n ≠ name := by
      rintro rfl
      cases hnew.symm.trans hc
    refine ⟨_, rfl, ?_⟩
    rw [Index.get?_insert, if_neg hne, hc]
  · exact ⟨b, hb, hc⟩

/-- An account below one in the new journal is the new one or was there. -/
theorem get?_of_addAccount (ha : j.accounts[i]? = some a) {k c : Nat} {b : Account} {n : String}
    (hb : (j.addAccount i name).accounts[k]? = some b) (hc : b.children.get? n = some c) :
    (k = i ∧ n = name ∧ c = j.accounts.length ∧ b.depth = a.depth) ∨
      ∃ b', j.accounts[k]? = some b' ∧ b'.children.get? n = some c ∧ b.depth = b'.depth := by
  rw [getElem?_addAccount ha] at hb
  split at hb
  · cases hb
    cases hc
  · split at hb
    · rename_i hki
      cases hb
      rw [Index.get?_insert] at hc
      split at hc
      · rename_i hn
        exact .inl ⟨hki, hn, (Option.some.inj hc).symm, rfl⟩
      · exact .inr ⟨a, hki ▸ ha, hc, rfl⟩
    · exact .inr ⟨b, hb, hc, rfl⟩

/-- An account of the new journal is the new one, or one that was there with its name. -/
theorem addAccount_name_cases (ha : j.accounts[i]? = some a) {k : Nat} {b : Account}
    (hb : (j.addAccount i name).accounts[k]? = some b) :
    (k = j.accounts.length ∧ b.name = name ∧ b.parent = some i) ∨
      ∃ b', j.accounts[k]? = some b' ∧ b'.name = b.name ∧ b'.parent = b.parent ∧
        b'.depth = b.depth := by
  rw [getElem?_addAccount ha] at hb
  split at hb
  · rename_i hk
    cases hb
    exact .inl ⟨hk, rfl, rfl⟩
  · split at hb
    · rename_i hki
      cases hb
      exact .inr ⟨a, hki ▸ ha, rfl, rfl, rfl⟩
    · exact .inr ⟨b, hb, rfl, rfl, rfl⟩

/-- A new account keeps the accounts named, if its name is new and can stand on a path. -/
theorem IsNamed.addAccount (h : j.IsNamed) (hname : Path.IsName name)
    (hnew : j.child? i name = none) : (j.addAccount i name).IsNamed := by
  cases ha : j.accounts[i]? with
  | none =>
    rw [Journal.addAccount, ha]
    exact h
  | some a =>
    have hnew : a.children.get? name = none := by simpa [child?, ha] using hnew
    have hi : i < j.accounts.length := (List.getElem?_eq_some_iff.1 ha).1
    refine ⟨fun hb => ?_, fun hb hc => ?_, fun hb hp => ?_, fun hb hp => ?_⟩
    · rcases addAccount_name_cases ha hb with ⟨hk, -, -⟩ | ⟨b', hb', hbn, -, hdepth⟩
      · omega
      · rw [← hbn, ← hdepth]
        exact h.root hb'
    · rcases get?_of_addAccount ha hb hc with ⟨rfl, rfl, rfl, hdepth⟩ | ⟨b', hb', hc', hdepth⟩
      · exact ⟨_, getElem?_addAccount_length ha _, rfl, rfl, by rw [hdepth]⟩
      · obtain ⟨d, hd, hdn, hdp, hdd⟩ := h.child hb' hc'
        obtain ⟨d', hd', -, hdn', hdp', hdd'⟩ := extends_addAccount ha name _ _ hd
        exact ⟨d', hd', hdn'.trans hdn, hdp'.trans hdp, by rw [hdd', hdd, hdepth]⟩
    · rcases addAccount_name_cases ha hb with ⟨rfl, hbn, hbp⟩ | ⟨b', hb', hbn, hbp, -⟩
      · cases hbp.symm.trans hp
        refine ⟨_, by rw [getElem?_addAccount ha, if_neg (by omega), if_pos rfl], ?_⟩
        rw [Index.get?_insert, if_pos hbn]
      · obtain ⟨d, hd, hdc⟩ := h.listed hb' (hbp.trans hp)
        rw [← hbn]
        exact get?_addAccount ha hnew hd hdc
    · rcases addAccount_name_cases ha hb with ⟨-, hbn, -⟩ | ⟨b', hb', hbn, hbp, -⟩
      · rw [hbn]
        exact hname
      · rw [← hbn]
        exact h.isName hb' (hbp.trans hp)

theorem isNamed_of_accounts_eq (h : j.IsNamed) (he : j'.accounts = j.accounts) : j'.IsNamed := by
  obtain ⟨h₁, h₂, h₃, h₄⟩ := h
  constructor <;> rw [he] <;> assumption

theorem IsNamed.openFrom (h : j.IsNamed) (i : Nat) {names : List String}
    (hnames : ∀ name ∈ names, Path.IsName name) : (j.openFrom i names).2.IsNamed := by
  induction names generalizing i j with
  | nil => exact h
  | cons name rest ih =>
    have hrest : ∀ n ∈ rest, Path.IsName n := fun n hn => hnames n (.tail _ hn)
    rw [Journal.openFrom]
    split
    · exact ih h _ hrest
    · rename_i hnew
      exact ih (h.addAccount (hnames name (.head _)) hnew) _ hrest

/-- In every journal that can be built the accounts are named. -/
theorem Built.isNamed (h : j.Built) : j.IsNamed := by
  induction h with
  | empty => exact isNamed_empty
  | openAccount path _ ih => exact ih.openFrom 0 fun _ => Path.isName_of_mem_names
  | addSource path _ ih => exact isNamed_of_accounts_eq ih rfl
  | addEntry h _ ih => exact isNamed_of_accounts_eq ih rfl
  | addTransaction p _ _ ih => exact isNamed_of_accounts_eq ih rfl

/-! ## The names on the way to an account -/

/-- The names on the way from the root to the account. -/
def namesTo (j : Journal) (a : Account) : List String :=
  (((j.lineage a).filter fun b => !b.isRoot).map (·.name)).reverse

theorem above_none (bound : Nat) : j.above bound none = [] := by
  rw [above]

theorem above_some (ha : j.accounts[i]? = some a) {bound : Nat} (hi : i < bound) :
    j.above bound (some i) = a :: j.above i a.parent := by
  rw [above, if_pos hi, ha]

theorem lineage_root (hp : a.parent = none) : j.lineage a = [a] := by
  rw [lineage, hp, above_none]

theorem lineage_child (h : j.IsTree) {p : Nat} {b : Account} (hp : a.parent = some p)
    (hb : j.accounts[p]? = some b) : j.lineage a = a :: j.lineage b := by
  have hlt : p < j.accounts.length := (List.getElem?_eq_some_iff.1 hb).1
  rw [lineage, hp, above_some hb hlt, lineage]
  cases hq : b.parent with
  | none => rw [above_none, above_none]
  | some q =>
    obtain ⟨c, hc, -⟩ := h.listed hb hq
    have hqp := parent_lt h hb hq
    rw [above_some hc hqp, above_some hc (by omega)]

theorem namesTo_root (hp : a.parent = none) : j.namesTo a = [] := by
  rw [namesTo, lineage_root hp, List.filter_cons_of_neg (by simp [Account.isRoot, hp])]
  rfl

theorem namesTo_child (h : j.IsTree) {p : Nat} {b : Account} (hp : a.parent = some p)
    (hb : j.accounts[p]? = some b) : j.namesTo a = j.namesTo b ++ [a.name] := by
  rw [namesTo, lineage_child h hp hb, List.filter_cons_of_pos (by simp [Account.isRoot, hp]),
    List.map_cons, List.reverse_cons]
  rfl

/-- The full name of an account is the path of the names on the way to it. -/
theorem fullname_eq (h : j.IsTree) (hn : j.IsNamed) (ha : j.accounts[i]? = some a) :
    j.fullname a = Path.ofNames (j.namesTo a) := by
  rw [fullname, namesTo, lineage]
  cases hp : a.parent with
  | none =>
    -- the root is the only account with an empty name, which is also the path of no names
    obtain rfl := (h.parent_eq_none ha).1 hp
    have hname := (hn.root ha).1
    rw [above_none, List.filter_nil, List.filter_cons_of_neg (by simp [Account.isRoot, hp]),
      List.map_cons, hname]
    rfl
  | some p => rw [List.filter_cons_of_pos (by simp [Account.isRoot, hp])]

theorem isName_of_mem_namesTo (h : j.IsTree) (hn : j.IsNamed) (ha : j.accounts[i]? = some a) :
    ∀ name ∈ j.namesTo a, Path.IsName name := by
  induction i using Nat.strongRecOn generalizing a with
  | ind i ih =>
    cases hp : a.parent with
    | none =>
      rw [namesTo_root hp]
      exact fun _ hmem => absurd hmem List.not_mem_nil
    | some p =>
      obtain ⟨b, hb, -⟩ := h.listed ha hp
      rw [namesTo_child h hp hb]
      intro name hmem
      rcases List.mem_append.1 hmem with hmem | hmem
      · exact ih p (parent_lt h ha hp) hb name hmem
      · rw [List.mem_singleton.1 hmem]
        exact hn.isName ha hp

/-! ### Down and up again -/

theorem child?_eq_some_iff {c : Nat} :
    j.child? i name = some c ↔ ∃ a, j.accounts[i]? = some a ∧ a.children.get? name = some c := by
  rw [child?, Option.bind_eq_some_iff]

theorem findFrom?_append (l m : List String) :
    j.findFrom? i (l ++ m) = (j.findFrom? i l).bind fun c => j.findFrom? c m := by
  induction l generalizing i with
  | nil => rfl
  | cons name rest ih =>
    rw [List.cons_append, findFrom?, findFrom?, Option.bind_assoc]
    exact congrArg _ (funext fun c => ih)

theorem findFrom?_namesTo (h : j.IsTree) (hn : j.IsNamed) (ha : j.accounts[i]? = some a) :
    j.findFrom? 0 (j.namesTo a) = some i := by
  induction i using Nat.strongRecOn generalizing a with
  | ind i ih =>
    cases hp : a.parent with
    | none =>
      rw [namesTo_root hp, (h.parent_eq_none ha).1 hp]
      rfl
    | some p =>
      obtain ⟨b, hb, hc⟩ := hn.listed ha hp
      have hchild : j.child? p a.name = some i := child?_eq_some_iff.2 ⟨b, hb, hc⟩
      rw [namesTo_child h hp hb, findFrom?_append, ih p (parent_lt h ha hp) hb, Option.bind_some,
        findFrom?, hchild]
      rfl

/-- An account is found at its full name. -/
theorem find?_fullname (h : j.IsTree) (hn : j.IsNamed) (ha : j.accounts[i]? = some a) :
    j.find? (j.fullname a) = some i := by
  rw [find?, fullname_eq h hn ha, Path.names_ofNames (isName_of_mem_namesTo h hn ha),
    findFrom?_namesTo h hn ha]

/-! ## Opening a path -/

/-- The names to an account stay as they are. -/
theorem Extends.namesTo (h : j.IsTree) (h' : j'.IsTree) (hext : j.Extends j') {a' : Account}
    (ha : j.accounts[i]? = some a) (ha' : j'.accounts[i]? = some a') :
    j'.namesTo a' = j.namesTo a := by
  induction i using Nat.strongRecOn generalizing a a' with
  | ind i ih =>
    obtain ⟨b, hb, -, hname, hparent, -⟩ := hext i a ha
    cases ha'.symm.trans hb
    cases hp : a.parent with
    | none => rw [namesTo_root hp, namesTo_root (hparent.trans hp)]
    | some p =>
      obtain ⟨c, hc, -⟩ := h.listed ha hp
      obtain ⟨c', hc', -⟩ := hext p c hc
      rw [namesTo_child h hp hc, namesTo_child h' (hparent.trans hp) hc', hname,
        ih p (parent_lt h ha hp) hc hc']

theorem Extends.fullname (h : j.IsTree) (hn : j.IsNamed) (h' : j'.IsTree) (hn' : j'.IsNamed)
    (hext : j.Extends j') {a' : Account} (ha : j.accounts[i]? = some a)
    (ha' : j'.accounts[i]? = some a') : j'.fullname a' = j.fullname a := by
  rw [fullname_eq h hn ha, fullname_eq h' hn' ha', hext.namesTo h h' ha ha']

/-- The beginnings of the names that lead nowhere from the account at `i`. -/
def missing (j : Journal) (i : Nat) (names : List String) : List (List String) :=
  names.inits.filter fun l => (j.findFrom? i l).isNone

theorem missing_cons_of_some {c : Nat} {rest : List String} (hc : j.child? i name = some c) :
    j.missing i (name :: rest) = (j.missing c rest).map (name :: ·) := by
  have hstep (l : List String) : j.findFrom? i (name :: l) = j.findFrom? c l := by
    rw [findFrom?, hc, Option.bind_some]
  rw [missing, List.inits_cons, List.filter_cons_of_neg (by simp [findFrom?]), List.filter_map,
    missing]
  exact congrArg _ (List.filter_congr fun l _ => by rw [Function.comp_apply, hstep])

theorem missing_cons_of_none {rest : List String} (hc : j.child? i name = none) :
    j.missing i (name :: rest) = rest.inits.map (name :: ·) := by
  have hstep (l : List String) : j.findFrom? i (name :: l) = none := by
    rw [findFrom?, hc, Option.bind_none]
  rw [missing, List.inits_cons, List.filter_cons_of_neg (by simp [findFrom?]), List.filter_map]
  exact congrArg _ (List.filter_eq_self.2 fun l _ => by rw [Function.comp_apply, hstep]; rfl)

/-- From an account with nothing below it every name leads nowhere. -/
theorem missing_of_leaf (hleaf : ∀ name, j.child? i name = none) (names : List String) :
    j.missing i names = names.inits.tail := by
  cases names with
  | nil => rfl
  | cons name rest =>
    rw [missing_cons_of_none (hleaf name), List.inits_cons]
    rfl

theorem inits_eq_cons (l : List String) : l.inits = [] :: l.inits.tail := by
  cases l <;> simp

/-- Opening leads to the account with the names, below the one that it begins at, and adds the
accounts that were missing on the way there, in their order. -/
theorem openFrom_spec (h : j.IsTree) (hn : j.IsNamed) {names : List String}
    (hnames : ∀ name ∈ names, Path.IsName name) (ha : j.accounts[i]? = some a) :
    j.Extends (j.openFrom i names).2 ∧
      (∃ b, (j.openFrom i names).2.accounts[(j.openFrom i names).1]? = some b ∧
        (j.openFrom i names).2.namesTo b = j.namesTo a ++ names) ∧
      ((j.openFrom i names).2.accounts.drop j.accounts.length).map (j.openFrom i names).2.namesTo =
        (j.missing i names).map (j.namesTo a ++ ·) := by
  induction names generalizing i j a with
  | nil =>
    refine ⟨.refl j, ⟨a, ha, (List.append_nil _).symm⟩, ?_⟩
    rw [openFrom, List.drop_length]
    rfl
  | cons name rest ih =>
    have hname := hnames name (.head _)
    have hrest : ∀ n ∈ rest, Path.IsName n := fun n hmem => hnames n (.tail _ hmem)
    rw [openFrom]
    cases hc : j.child? i name with
    | some c =>
      obtain ⟨a', ha', hget⟩ := child?_eq_some_iff.1 hc
      cases ha.symm.trans ha'
      obtain ⟨b, hb, rfl, hparent, -⟩ := hn.child ha hget
      obtain ⟨hext, ⟨d, hd, hdnames⟩, hcreated⟩ := ih h hn hrest hb
      have hbnames := namesTo_child h hparent ha
      refine ⟨hext, ⟨d, hd, ?_⟩, ?_⟩
      · rw [hdnames, hbnames, List.append_assoc]
        rfl
      · rw [hcreated, missing_cons_of_some hc, List.map_map, hbnames]
        exact List.map_congr_left fun l _ => by simp
    | none =>
      -- from the new account on everything is missing
      have hext' := extends_addAccount ha name
      have h' := h.addAccount hc
      have hn' := hn.addAccount hname hc
      obtain ⟨b, hb, hbname, hparent, hempty⟩ : ∃ b,
          (j.addAccount i name).accounts[j.accounts.length]? = some b ∧ b.name = name ∧
            b.parent = some i ∧ b.children = .empty :=
        ⟨_, getElem?_addAccount_length ha _, rfl, rfl, rfl⟩
      obtain ⟨a', ha', -⟩ := hext' i a ha
      have hbnames : (j.addAccount i name).namesTo b = j.namesTo a ++ [name] := by
        rw [namesTo_child h' hparent ha', hext'.namesTo h h' ha ha', hbname]
      have hleaf (n : String) : (j.addAccount i name).child? j.accounts.length n = none := by
        rw [child?, hb, Option.bind_some, hempty, Index.get?_empty]
      obtain ⟨hext, ⟨d, hd, hdnames⟩, hcreated⟩ := ih h' hn' hrest hb
      obtain ⟨b', hb', -⟩ := hext _ b hb
      refine ⟨hext'.trans hext, ⟨d, hd, ?_⟩, ?_⟩
      · rw [hdnames, hbnames, List.append_assoc]
        rfl
      · have hfirst := hext.namesTo h' (h'.openFrom _ rest) hb hb'
        rw [length_addAccount ha, missing_of_leaf hleaf, hbnames] at hcreated
        have hcomp : (j.namesTo a ++ ·) ∘ (name :: ·) = (j.namesTo a ++ [name] ++ ·) :=
          funext fun l => by simp
        rw [List.drop_eq_getElem?_toList_append, hb', Option.toList_some, List.singleton_append,
          List.map_cons, hcreated, hfirst, hbnames, missing_cons_of_none hc, List.map_map, hcomp,
          inits_eq_cons rest, List.map_cons, List.append_nil, List.tail_cons]

/-- Opening a path leads to the account with that path for its full name, and adds the accounts that
were missing on the way there, in their order. -/
theorem openAccount_spec (h : j.IsTree) (hn : j.IsNamed) (path : String) :
    j.Extends (j.openAccount path).2 ∧
      (∃ b, (j.openAccount path).2.accounts[(j.openAccount path).1]? = some b ∧
        (j.openAccount path).2.fullname b = Path.ofNames (Path.names path)) ∧
      ((j.openAccount path).2.accounts.drop j.accounts.length).map (j.openAccount path).2.fullname =
        ((Path.names path).inits.filter fun l => (j.find? (Path.ofNames l)).isNone).map
          Path.ofNames := by
  have hnames : ∀ name ∈ Path.names path, Path.IsName name := fun _ => Path.isName_of_mem_names
  obtain ⟨root, -, hroot, -⟩ := exists_root h
  obtain ⟨hext, ⟨b, hb, hbnames⟩, hcreated⟩ := openFrom_spec h hn hnames hroot
  have h' : (j.openAccount path).2.IsTree := h.openFrom 0 _
  have hn' : (j.openAccount path).2.IsNamed := hn.openFrom 0 hnames
  rw [namesTo_root ((h.parent_eq_none hroot).2 rfl)] at hbnames hcreated
  simp only [List.nil_append, List.map_id_fun', id_eq] at hbnames hcreated
  refine ⟨hext, ⟨b, hb, ?_⟩, ?_⟩
  · rw [fullname_eq h' hn' hb]
    exact congrArg Path.ofNames hbnames
  · have hfull : ∀ c ∈ (j.openAccount path).2.accounts.drop j.accounts.length,
        (j.openAccount path).2.fullname c = Path.ofNames ((j.openAccount path).2.namesTo c) := by
      intro c hc
      obtain ⟨k, hk⟩ := List.mem_iff_getElem?.1 (List.mem_of_mem_drop hc)
      exact fullname_eq h' hn' hk
    have hmissing : ((Path.names path).inits.filter fun l => (j.find? (Path.ofNames l)).isNone) =
        j.missing 0 (Path.names path) := List.filter_congr fun l hl => by
      have hl : ∀ name ∈ l, Path.IsName name := fun name hname =>
        hnames name (((List.mem_inits _ _).1 hl).subset hname)
      rw [find?, Path.names_ofNames hl]
    rw [hmissing, ← hcreated, List.map_map]
    exact List.map_congr_left hfull

end

end Journal

end Bookkeeping
