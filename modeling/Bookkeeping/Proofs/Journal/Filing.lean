import Bookkeeping.Proofs.Journal.Paths
import Mathlib.Data.List.Nodup

/-!
# Transactions and their entries

In every journal that is built a transaction is known by its position and listed once, by the entry
it names (`Built.isFiled`); taken together the entries list all transactions (`transactions_perm`).
-/

namespace Bookkeeping

namespace Journal

/-- Every transaction is listed by the entry it names, once, and by no other. -/
structure IsFiled (j : Journal) : Prop where
  id_eq : ∀ {k : Nat} {x : Transaction}, j.transactions[k]? = some x → x.id = k
  entry_lt : ∀ {k : Nat} {x : Transaction}, j.transactions[k]? = some x →
    x.entry < j.entries.length
  count : ∀ {k i : Nat} {x : Transaction} {e : Entry}, j.transactions[k]? = some x →
    j.entries[i]? = some e → e.transactions.count k = if x.entry = i then 1 else 0
  /-- The entries list all transactions, and nothing else. -/
  perm : (j.entries.flatMap (·.transactions)).Perm (List.range j.transactions.length)

theorem isFiled_empty : IsFiled {} :=
  ⟨fun h => (by cases h), fun h => (by cases h), fun h => (by cases h), .nil⟩

variable {j : Journal}

theorem isFiled_of_eq {j' : Journal} (h : j.IsFiled) (he : j'.entries = j.entries)
    (hx : j'.transactions = j.transactions) : j'.IsFiled := by
  obtain ⟨h₁, h₂, h₃, h₄⟩ := h
  constructor <;> rw [hx] <;> (try rw [he]) <;> assumption

theorem addAccount_records (i : Nat) (name : String) :
    (j.addAccount i name).entries = j.entries ∧
      (j.addAccount i name).transactions = j.transactions ∧
      (j.addAccount i name).sources = j.sources := by
  rw [addAccount]
  split <;> exact ⟨rfl, rfl, rfl⟩

/-- Opening accounts leaves everything else alone. -/
theorem openFrom_records (i : Nat) (names : List String) :
    (j.openFrom i names).2.entries = j.entries ∧
      (j.openFrom i names).2.transactions = j.transactions ∧
      (j.openFrom i names).2.sources = j.sources := by
  induction names generalizing i j with
  | nil => exact ⟨rfl, rfl, rfl⟩
  | cons name rest ih =>
    rw [openFrom]
    split
    · exact ih _
    · obtain ⟨he, hx, hs⟩ := addAccount_records (j := j) i name
      obtain ⟨he', hx', hs'⟩ := ih (j := j.addAccount i name) j.accounts.length
      exact ⟨he'.trans he, hx'.trans hx, hs'.trans hs⟩

theorem IsFiled.lt_of_mem (h : j.IsFiled) {i k : Nat} {e : Entry} (he : j.entries[i]? = some e)
    (hk : k ∈ e.transactions) : k < j.transactions.length :=
  List.mem_range.1 (h.perm.mem_iff.1 (List.mem_flatMap.2 ⟨e, List.mem_of_getElem? he, hk⟩))

theorem IsFiled.addEntry (h : j.IsFiled) (heading : Heading) : (j.addEntry heading).IsFiled := by
  refine ⟨h.id_eq, fun hx => ?_, fun {k i x e} hx he => ?_, ?_⟩
  · have hlt := h.entry_lt hx
    simp only [Journal.addEntry, List.length_append, List.length_singleton]
    omega
  · have hlt := h.entry_lt hx
    simp only [Journal.addEntry] at he
    rcases Nat.lt_or_ge i j.entries.length with hi | hi
    · rw [List.getElem?_append_left hi] at he
      exact h.count hx he
    · -- the new entry lists nothing
      rw [List.getElem?_append_right hi] at he
      have hmem := List.mem_of_getElem? he
      rw [List.mem_singleton] at hmem
      rw [hmem, if_neg (by omega)]
      rfl
  · simpa [Journal.addEntry] using h.perm

theorem flatMap_modify_perm {l : List Entry} {i : Nat} (hi : i < l.length) (id : Nat) :
    ((l.modify i fun e => { e with transactions := e.transactions ++ [id] }).flatMap
      (·.transactions)).Perm (l.flatMap (·.transactions) ++ [id]) := by
  induction l generalizing i with
  | nil => cases hi
  | cons e rest ih =>
    cases i with
    | zero =>
      simp only [List.modify_zero_cons, List.flatMap_cons, List.append_assoc]
      exact (List.perm_append_comm).append_left _
    | succ i =>
      simp only [List.modify_succ_cons, List.flatMap_cons, List.append_assoc]
      exact (ih (Nat.lt_of_succ_lt_succ hi)).append_left _

theorem IsFiled.addTransaction (h : j.IsFiled) {entry : Nat} (hentry : entry < j.entries.length)
    (p : Posting) : (j.addTransaction entry p).IsFiled := by
  have hcases {k : Nat} {x : Transaction}
      (hx : (j.addTransaction entry p).transactions[k]? = some x) :
      j.transactions[k]? = some x ∨ (k = j.transactions.length ∧
        x = { toPosting := p, id := j.transactions.length, entry }) := by
    simp only [Journal.addTransaction] at hx
    rcases Nat.lt_or_ge k j.transactions.length with hk | hk
    · rw [List.getElem?_append_left hk] at hx
      exact .inl hx
    · rw [List.getElem?_append_right hk] at hx
      have hlt := (List.getElem?_eq_some_iff.1 hx).1
      have hmem := List.mem_of_getElem? hx
      rw [List.mem_singleton] at hmem
      rw [List.length_singleton] at hlt
      exact .inr ⟨by omega, hmem⟩
  refine ⟨fun hx => ?_, fun hx => ?_, fun {k i x e} hx he => ?_, ?_⟩
  · rcases hcases hx with hx | ⟨rfl, rfl⟩
    · exact h.id_eq hx
    · rfl
  · simp only [Journal.addTransaction, List.length_modify]
    rcases hcases hx with hx | ⟨-, rfl⟩
    · exact h.entry_lt hx
    · exact hentry
  · simp only [Journal.addTransaction, List.getElem?_modify, Option.map_eq_map,
      Option.map_eq_some_iff] at he
    obtain ⟨e₀, he₀, he⟩ := he
    rcases hcases hx with hx | ⟨rfl, rfl⟩
    · -- an earlier transaction is not the one that was added
      have hk : k ≠ j.transactions.length := by
        have := (List.getElem?_eq_some_iff.1 hx).1
        omega
      rw [← h.count hx he₀, ← he]
      split
      · rw [List.count_append, List.count_singleton, if_neg (by simpa using hk.symm), Nat.add_zero]
      · rfl
    · have hnone : e₀.transactions.count j.transactions.length = 0 :=
        List.count_eq_zero_of_not_mem fun hmem => absurd (h.lt_of_mem he₀ hmem) (Nat.lt_irrefl _)
      rw [← he]
      split
      · rw [List.count_append, hnone, List.count_singleton_self]
      · exact hnone
  · simp only [Journal.addTransaction, List.length_append, List.length_singleton, List.range_succ]
    exact (flatMap_modify_perm hentry _).trans (h.perm.append_right _)

/-- In every journal that can be built the transactions are filed. -/
theorem Built.isFiled (h : j.Built) : j.IsFiled := by
  induction h with
  | empty => exact isFiled_empty
  | @openAccount j path _ ih =>
    obtain ⟨he, hx, -⟩ := openFrom_records (j := j) 0 (Path.names path)
    exact isFiled_of_eq ih he hx
  | addSource path _ ih => exact isFiled_of_eq ih rfl rfl
  | addEntry h _ ih => exact ih.addEntry h
  | addTransaction p hentry _ ih => exact ih.addTransaction hentry p

theorem filterMap_getElem?_range {α : Type} (l : List α) :
    (List.range l.length).filterMap (l[·]?) = l := by
  induction l with
  | nil => rfl
  | cons a l ih =>
    rw [List.length_cons, List.range_succ_eq_map, List.filterMap_cons, List.filterMap_map]
    exact congrArg (a :: ·) ih

/-- Going through the entries one meets every transaction of the journal once. -/
theorem IsFiled.transactions_perm (h : j.IsFiled) :
    (j.entries.flatMap j.entryTransactions).Perm j.transactions := by
  have hflat : j.entries.flatMap j.entryTransactions =
      (j.entries.flatMap (·.transactions)).filterMap (j.transactions[·]?) := by
    rw [List.filterMap_flatMap]
    rfl
  have hall := h.perm.filterMap (j.transactions[·]?)
  rwa [filterMap_getElem?_range, ← hflat] at hall

theorem IsFiled.eq_of_id_eq (h : j.IsFiled) {x y : Transaction} (hx : x ∈ j.transactions)
    (hy : y ∈ j.transactions) (heq : x.id = y.id) : x = y := by
  obtain ⟨k, hk⟩ := List.mem_iff_getElem?.1 hx
  obtain ⟨l, hl⟩ := List.mem_iff_getElem?.1 hy
  rw [← h.id_eq hk, heq, h.id_eq hl, hl] at hk
  exact (Option.some.inj hk).symm

theorem IsFiled.entryOf?_isSome (h : j.IsFiled) {x : Transaction} (hx : x ∈ j.transactions) :
    ∃ e, j.entryOf? x = some e := by
  obtain ⟨k, hk⟩ := List.mem_iff_getElem?.1 hx
  exact ⟨_, List.getElem?_eq_getElem (h.entry_lt hk)⟩

/-- The transactions of an entry are those that name it. -/
theorem IsFiled.mem_entryTransactions_iff (h : j.IsFiled) {i : Nat} {e : Entry}
    (he : j.entries[i]? = some e) {x : Transaction} :
    x ∈ j.entryTransactions e ↔ x ∈ j.transactions ∧ x.entry = i := by
  rw [entryTransactions, List.mem_filterMap]
  refine ⟨?_, ?_⟩
  · rintro ⟨k, hk, hx⟩
    refine ⟨List.mem_of_getElem? hx, ?_⟩
    have hcount := h.count hx he
    by_contra hne
    rw [if_neg hne, List.count_eq_zero] at hcount
    exact hcount hk
  · rintro ⟨hx, hi⟩
    obtain ⟨k, hk⟩ := List.mem_iff_getElem?.1 hx
    have hcount := h.count hk he
    rw [if_pos hi] at hcount
    exact ⟨k, List.count_pos_iff.1 (hcount ▸ Nat.one_pos), hk⟩

/-- No transaction is listed twice by an entry. -/
theorem IsFiled.nodup_entryTransactions (h : j.IsFiled) {i : Nat} {e : Entry}
    (he : j.entries[i]? = some e) : (j.entryTransactions e).Nodup := by
  have hids : e.transactions.Nodup := List.nodup_iff_count_eq_one.2 fun k hk => by
    have hcount := h.count (List.getElem?_eq_getElem (h.lt_of_mem he hk)) he
    have hpos := List.count_pos_iff.2 hk
    split at hcount <;> omega
  refine hids.filterMap fun k l x hk hl => ?_
  rw [← h.id_eq hk, ← h.id_eq hl]

end Journal

end Bookkeeping
