/-!
# Indexes

An `Index κ α` holds values under keys, in strictly increasing order of the keys.  `get?` reads it,
`insert` and `erase` write one key, `mapValues` changes every value, and `mapUntil` changes the
values in order up to the first that fails.  What `get?` answers after `insert`, `filter`, `erase`
and `mapValues` is stated in the last section; two indexes that answer alike are equal (`ext_get?`).
-/

namespace Bookkeeping

/-- Values under keys, in strictly increasing order of the keys. -/
structure Index (κ α : Type) [Ord κ] where
  entries : List (κ × α)
  increasing : (entries.map Prod.fst).Pairwise (compare · · = .lt)

namespace Index

variable {κ α β : Type} [Ord κ]

/-- The index without entries. -/
def empty : Index κ α := ⟨[], .nil⟩

instance : Inhabited (Index κ α) := ⟨empty⟩

/-- The keys in increasing order. -/
def keys (m : Index κ α) : List κ := m.entries.map Prod.fst

/-- The values in the order of their keys. -/
def values (m : Index κ α) : List α := m.entries.map Prod.snd

/-- The number of entries. -/
def size (m : Index κ α) : Nat := m.entries.length

/-- The first value under a key of a list. -/
def find? (k : κ) : List (κ × α) → Option α
  | [] => none
  | (k', v) :: rest => if compare k k' = .eq then some v else find? k rest

/-- The value under a key. -/
def get? (m : Index κ α) (k : κ) : Option α := find? k m.entries

/-! ## Writing one key -/

/-- The entries with `v` under `k`. -/
def insertEntry (k : κ) (v : α) : List (κ × α) → List (κ × α)
  | [] => [(k, v)]
  | (k', v') :: rest =>
    match compare k k' with
    | .lt => (k, v) :: (k', v') :: rest
    | .eq => (k, v) :: rest
    | .gt => (k', v') :: insertEntry k v rest

theorem mem_keys_insertEntry {k x : κ} {v : α} {l : List (κ × α)}
    (h : x ∈ (insertEntry k v l).map Prod.fst) : x = k ∨ x ∈ l.map Prod.fst := by
  induction l with
  | nil => simpa [insertEntry] using h
  | cons e rest ih =>
    obtain ⟨k', v'⟩ := e
    simp only [insertEntry] at h
    split at h <;> simp only [List.map_cons, List.mem_cons] at h ⊢
    · exact h
    · exact h.imp_right .inr
    · rcases h with h | h
      · exact .inr (.inl h)
      · exact (ih h).imp_right .inr

variable [Std.TransOrd κ] [Std.LawfulEqOrd κ]

theorem increasing_insertEntry (k : κ) (v : α) {l : List (κ × α)}
    (h : (l.map Prod.fst).Pairwise (compare · · = .lt)) :
    ((insertEntry k v l).map Prod.fst).Pairwise (compare · · = .lt) := by
  induction l with
  | nil => simp [insertEntry]
  | cons e rest ih =>
    obtain ⟨k', v'⟩ := e
    simp only [List.map_cons, List.pairwise_cons] at h
    simp only [insertEntry]
    split <;> rename_i hc <;> simp only [List.map_cons, List.pairwise_cons]
    · refine ⟨fun x hx => ?_, h.1, h.2⟩
      rcases List.mem_cons.1 hx with rfl | hx
      · exact hc
      · exact Std.TransCmp.lt_trans hc (h.1 x hx)
    · obtain rfl := Std.LawfulEqOrd.eq_of_compare hc
      exact ⟨h.1, h.2⟩
    · refine ⟨fun x hx => ?_, ih h.2⟩
      rcases mem_keys_insertEntry hx with rfl | hx
      · exact Std.OrientedCmp.gt_iff_lt.1 hc
      · exact h.1 x hx

/-- The index with `v` under `k`, in place of what was there. -/
def insert (m : Index κ α) (k : κ) (v : α) : Index κ α :=
  ⟨insertEntry k v m.entries, increasing_insertEntry k v m.increasing⟩

omit [Std.TransOrd κ] [Std.LawfulEqOrd κ]

/-- The index with the entries that satisfy `p`. -/
def filter (p : κ → α → Bool) (m : Index κ α) : Index κ α :=
  ⟨m.entries.filter fun e => p e.1 e.2,
    m.increasing.sublist (List.filter_sublist.map Prod.fst)⟩

/-- The index without `k`. -/
def erase (m : Index κ α) (k : κ) : Index κ α := m.filter fun k' _ => compare k k' != .eq

/-! ## Changing the values -/

/-- The index with every value changed. -/
def mapValues (f : α → β) (m : Index κ α) : Index κ β where
  entries := m.entries.map fun e => (e.1, f e.2)
  increasing := by
    rw [List.map_map]
    exact m.increasing

/-- The entries with their values changed in order up to the first that fails, and that
failure. -/
def mapEntries {ε : Type} (f : α → Except ε α) : List (κ × α) → Except ε Unit × List (κ × α)
  | [] => (.ok (), [])
  | (k, v) :: rest =>
    match f v with
    | .ok v' => ((mapEntries f rest).1, (k, v') :: (mapEntries f rest).2)
    | .error e => (.error e, (k, v) :: rest)

omit [Ord κ] in
theorem keys_mapEntries {ε : Type} (f : α → Except ε α) (l : List (κ × α)) :
    (mapEntries f l).2.map Prod.fst = l.map Prod.fst := by
  induction l with
  | nil => rfl
  | cons e rest ih =>
    obtain ⟨k, v⟩ := e
    rw [mapEntries]
    split
    · simp [ih]
    · rfl

/-- The index with its values changed in order up to the first that fails, and that failure. -/
def mapUntil {ε : Type} (f : α → Except ε α) (m : Index κ α) : Except ε Unit × Index κ α :=
  ((mapEntries f m.entries).1,
    ⟨(mapEntries f m.entries).2, by rw [keys_mapEntries]; exact m.increasing⟩)

/-! ## What is read after a write -/

theorem get?_empty (k : κ) : (empty : Index κ α).get? k = none := rfl

theorem find?_map (f : α → β) (k : κ) (l : List (κ × α)) :
    find? k (l.map fun e => (e.1, f e.2)) = (find? k l).map f := by
  induction l with
  | nil => rfl
  | cons e rest ih =>
    simp only [List.map_cons, find?]
    split
    · rfl
    · exact ih

theorem get?_mapValues (f : α → β) (m : Index κ α) (k : κ) :
    (m.mapValues f).get? k = (m.get? k).map f :=
  find?_map f k m.entries

variable [Std.LawfulEqOrd κ]

theorem find?_eq_none_of_not_mem {x : κ} {l : List (κ × α)} (h : x ∉ l.map Prod.fst) :
    find? x l = none := by
  induction l with
  | nil => rfl
  | cons e rest ih =>
    simp only [List.map_cons, List.mem_cons, not_or] at h
    simp [find?, h.1, ih h.2]

theorem find?_insertEntry [DecidableEq κ] (k x : κ) (v : α) (l : List (κ × α)) :
    find? x (insertEntry k v l) = if x = k then some v else find? x l := by
  induction l with
  | nil => simp [insertEntry, find?]
  | cons e rest ih =>
    obtain ⟨k', v'⟩ := e
    simp only [insertEntry]
    split
    · simp [find?]
    · rename_i hc
      obtain rfl := Std.LawfulEqOrd.eq_of_compare hc
      by_cases h : x = k <;> simp [find?, h]
    · rename_i hc
      have hne : k ≠ k' := by
        rintro rfl
        simp [Std.ReflCmp.compare_self] at hc
      by_cases h : x = k
      · subst h
        simp [find?, hne, ih]
      · simp [find?, h, ih]

/-- The first key of an increasing list is not among the others. -/
theorem not_mem_tail {k : κ} {v : α} {l : List (κ × α)}
    (hl : (((k, v) :: l).map Prod.fst).Pairwise (compare · · = .lt)) : k ∉ l.map Prod.fst := by
  intro hk
  have := (List.pairwise_cons.1 hl).1 k hk
  simp [Std.ReflCmp.compare_self] at this

theorem find?_cons_self (key : κ) (v : α) (l : List (κ × α)) :
    find? key ((key, v) :: l) = some v := by
  rw [find?, if_pos Std.ReflCmp.compare_self]

theorem find?_cons_of_ne {k key : κ} (v : α) (l : List (κ × α)) (h : k ≠ key) :
    find? k ((key, v) :: l) = find? k l := by
  rw [find?, if_neg fun heq => h (Std.LawfulEqOrd.eq_of_compare heq)]

theorem find?_head_tail {key : κ} {v : α} {l : List (κ × α)}
    (hl : (((key, v) :: l).map Prod.fst).Pairwise (compare · · = .lt)) : find? key l = none :=
  find?_eq_none_of_not_mem (not_mem_tail hl)

theorem mem_of_find? {k : κ} {v : α} {l : List (κ × α)} (h : find? k l = some v) : (k, v) ∈ l := by
  induction l with
  | nil => cases h
  | cons e l ih =>
    rw [find?] at h
    split at h
    · rename_i hk
      cases h
      rw [Std.LawfulEqOrd.eq_of_compare hk]
      exact .head _
    · exact .tail _ (ih h)

theorem find?_of_mem {k : κ} {v : α} {l : List (κ × α)}
    (hl : (l.map Prod.fst).Pairwise (compare · · = .lt)) (h : (k, v) ∈ l) : find? k l = some v := by
  induction l with
  | nil => cases h
  | cons e l ih =>
    rw [find?]
    rcases List.mem_cons.1 h with rfl | h
    · rw [if_pos Std.ReflCmp.compare_self]
    · have hk : k ∈ l.map Prod.fst := List.mem_map_of_mem h
      rw [if_neg, ih (List.pairwise_cons.1 hl).2 h]
      intro heq
      obtain rfl := Std.LawfulEqOrd.eq_of_compare heq
      exact not_mem_tail hl hk

theorem mem_values_iff {m : Index κ α} {v : α} : v ∈ m.values ↔ ∃ k, m.get? k = some v := by
  rw [values, List.mem_map]
  constructor
  · rintro ⟨⟨k, _⟩, h, rfl⟩
    exact ⟨k, find?_of_mem m.increasing h⟩
  · rintro ⟨k, h⟩
    exact ⟨(k, v), mem_of_find? h, rfl⟩

theorem find?_filter (p : κ → α → Bool) (k : κ) {l : List (κ × α)}
    (hl : (l.map Prod.fst).Pairwise (compare · · = .lt)) :
    find? k (l.filter fun e => p e.1 e.2) = (find? k l).filter (p k) := by
  induction l with
  | nil => rfl
  | cons e rest ih =>
    obtain ⟨k', v⟩ := e
    have hrest := ih (List.pairwise_cons.1 hl).2
    by_cases hk : compare k k' = .eq
    · obtain rfl := Std.LawfulEqOrd.eq_of_compare hk
      by_cases hp : p k v
      · simp [find?, hp, Option.filter]
      · have hnone := find?_eq_none_of_not_mem (not_mem_tail hl)
        simp [find?, hp, hrest, hnone, Option.filter]
    · by_cases hp : p k' v
      · simp [find?, hp, hk, hrest]
      · simp [find?, hp, hk, hrest]

theorem get?_filter (p : κ → α → Bool) (m : Index κ α) (k : κ) :
    (m.filter p).get? k = (m.get? k).filter (p k) :=
  find?_filter p k m.increasing

theorem get?_erase [DecidableEq κ] (m : Index κ α) (k x : κ) :
    (m.erase k).get? x = if x = k then none else m.get? x := by
  rw [erase, get?_filter]
  by_cases h : x = k
  · subst h
    cases m.get? x <;> simp [Option.filter, Std.ReflCmp.compare_self]
  · cases m.get? x <;> simp [Option.filter, h, Ne.symm h]

variable [Std.TransOrd κ]

theorem get?_insert [DecidableEq κ] (m : Index κ α) (k x : κ) (v : α) :
    (m.insert k v).get? x = if x = k then some v else m.get? x :=
  find?_insertEntry k x v m.entries

omit [Std.LawfulEqOrd κ] in
/-- A key before the first is not among the keys. -/
theorem not_mem_of_lt_head {x k : κ} {v : α} {l : List (κ × α)} (h : compare x k = .lt)
    (hl : (((k, v) :: l).map Prod.fst).Pairwise (compare · · = .lt)) :
    x ∉ ((k, v) :: l).map Prod.fst := by
  simp only [List.map_cons, List.pairwise_cons] at hl
  intro hx
  rcases List.mem_cons.1 hx with rfl | hx
  · simp [Std.ReflCmp.compare_self] at h
  · have := Std.TransCmp.lt_trans h (hl.1 x hx)
    simp [Std.ReflCmp.compare_self] at this

theorem entries_eq_of_find? {l₁ l₂ : List (κ × α)}
    (h₁ : (l₁.map Prod.fst).Pairwise (compare · · = .lt))
    (h₂ : (l₂.map Prod.fst).Pairwise (compare · · = .lt))
    (h : ∀ k, find? k l₁ = find? k l₂) : l₁ = l₂ := by
  induction l₁ generalizing l₂ with
  | nil =>
    cases l₂ with
    | nil => rfl
    | cons e rest => simpa [find?, Std.ReflCmp.compare_self] using h e.1
  | cons e r₁ ih =>
    obtain ⟨k, v⟩ := e
    cases l₂ with
    | nil => simpa [find?, Std.ReflCmp.compare_self] using h k
    | cons e' r₂ =>
      obtain ⟨k', v'⟩ := e'
      have hk := h k
      have hk' := h k'
      simp only [find?, Std.ReflCmp.compare_self, if_true] at hk hk'
      cases hc : compare k k' with
      | lt =>
        have := find?_eq_none_of_not_mem (not_mem_of_lt_head hc h₂)
        simp only [find?] at this
        simp [this] at hk
      | gt =>
        have := find?_eq_none_of_not_mem (not_mem_of_lt_head (Std.OrientedCmp.gt_iff_lt.1 hc) h₁)
        simp only [find?] at this
        simp [this] at hk'
      | eq =>
        obtain rfl := Std.LawfulEqOrd.eq_of_compare hc
        simp only [Std.ReflCmp.compare_self, if_true, Option.some.injEq] at hk
        subst hk
        simp only [List.map_cons, List.pairwise_cons] at h₁ h₂
        congr 1
        refine ih h₁.2 h₂.2 fun x => ?_
        by_cases hx : compare x k = .eq
        · obtain rfl := Std.LawfulEqOrd.eq_of_compare hx
          have not_mem {r : List (κ × α)} (hr : ∀ y ∈ r.map Prod.fst, compare x y = .lt) :
              x ∉ r.map Prod.fst := fun hm => by
            simpa [Std.ReflCmp.compare_self] using hr x hm
          rw [find?_eq_none_of_not_mem (not_mem h₁.1), find?_eq_none_of_not_mem (not_mem h₂.1)]
        · simpa [find?, hx] using h x

/-- An index is what it answers. -/
theorem ext_get? {m₁ m₂ : Index κ α} (h : ∀ k, m₁.get? k = m₂.get? k) : m₁ = m₂ := by
  obtain ⟨l₁, h₁⟩ := m₁
  obtain ⟨l₂, h₂⟩ := m₂
  obtain rfl := entries_eq_of_find? h₁ h₂ h
  rfl

end Index

end Bookkeeping
