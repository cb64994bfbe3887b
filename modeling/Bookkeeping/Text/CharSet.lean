/-!
# Sets of characters

A `CharSet` is given by its edges, the code points at which it begins or ends, in increasing order.
All operations on two sets are one walk along the edges of both (`merge`), which keeps an edge where
the answer changes; `insideAt_merge` says that the result has the characters it should have.
-/

namespace Bookkeeping

namespace Text

/-- A set of characters: the code points at which it begins or ends, in increasing order. -/
structure CharSet where
  edges : List Nat
deriving DecidableEq

namespace CharSet

/-! ## Members -/

/-- Whether a code point is inside, where `inside` tells it of those before the first edge. -/
def insideAt (n : Nat) : Bool → List Nat → Bool
  | inside, [] => inside
  | inside, e :: es => if n < e then inside else insideAt n (!inside) es

/-- The character belongs to the set. -/
def has (s : CharSet) (c : Char) : Bool := insideAt c.toNat false s.edges

/-- The ranges that edges enclose: the first and the last code point of each. -/
def rangesOf : List Nat → List (Nat × Nat)
  | first :: next :: es => (first, next - 1) :: rangesOf es
  | _ => []

/-- The first and the last code point of each range of the set, in increasing order. -/
def ranges (s : CharSet) : List (Nat × Nat) := rangesOf s.edges

/-- The set has no character. -/
def isEmpty (s : CharSet) : Bool := s.edges.isEmpty

/-- The set has only characters below a code point. -/
def isBelow (s : CharSet) (n : Nat) : Bool := s.edges.all (· ≤ n)

/-- The only character of the set. -/
def single? (s : CharSet) : Option Char :=
  match s.edges with
  | [first, next] => if next = first + 1 then some (Char.ofNat first) else none
  | _ => none

/-! ## Operations -/

/-- The edge, if something changes at it, before the others. -/
def edgeIf (changes : Bool) (e : Nat) (es : List Nat) : List Nat := if changes then e :: es else es

/-- The edges of what an operation makes of two sets, where `a` and `b` tell whether the sets have
the code points before the first edge. -/
def merge (op : Bool → Bool → Bool) : Bool → Bool → List Nat → List Nat → List Nat
  | _, _, [], [] => []
  | a, b, x :: xs, [] => edgeIf (op a b != op (!a) b) x (merge op (!a) b xs [])
  | a, b, [], y :: ys => edgeIf (op a b != op a (!b)) y (merge op a (!b) [] ys)
  | a, b, x :: xs, y :: ys =>
    if x < y then edgeIf (op a b != op (!a) b) x (merge op (!a) b xs (y :: ys))
    else if y < x then edgeIf (op a b != op a (!b)) y (merge op a (!b) (x :: xs) ys)
    else edgeIf (op a b != op (!a) (!b)) x (merge op (!a) (!b) xs ys)
termination_by _ _ xs ys => xs.length + ys.length

/-- The characters of either set. -/
def union (s t : CharSet) : CharSet := ⟨merge (· || ·) false false s.edges t.edges⟩

/-- The characters of both sets. -/
def inter (s t : CharSet) : CharSet := ⟨merge (· && ·) false false s.edges t.edges⟩

/-- The characters of the first set that the second has not. -/
def diff (s t : CharSet) : CharSet := ⟨merge (fun a b => a && !b) false false s.edges t.edges⟩

/-- The characters of just one of the sets. -/
def symmDiff (s t : CharSet) : CharSet := ⟨merge (· != ·) false false s.edges t.edges⟩

/-! ## Sets -/

/-- No character. -/
def empty : CharSet := ⟨[]⟩

/-- All characters: the code points without the surrogates. -/
def all : CharSet := ⟨[0, 0xD800, 0xE000, 0x110000]⟩

/-- The characters of one byte. -/
def bytes : CharSet := ⟨[0, 0x100]⟩

/-- The characters of ASCII. -/
def ascii : CharSet := ⟨[0, 0x80]⟩

/-- The characters that the set has not. -/
def compl (s : CharSet) : CharSet := all.diff s

/-- The characters from one code point to another. -/
def ofRange (first last : Nat) : CharSet := all.inter ⟨[first, last + 1]⟩

/-- One character. -/
def ofChar (c : Char) : CharSet := ⟨[c.toNat, c.toNat + 1]⟩

/-- The characters of all sets of a list. -/
def unionAll (sets : List CharSet) : CharSet := sets.foldl union empty

/-- The edges of a set of code points, which are listed in increasing order. -/
def edgesOf : List Nat → List Nat
  | [] => []
  | n :: ns =>
    match edgesOf ns with
    | [] => [n, n + 1]
    | e :: es => if e ≤ n then e :: es else if e = n + 1 then n :: es else n :: (n + 1) :: e :: es

/-- The characters of code points in increasing order. -/
def ofCodePoints (ns : List Nat) : CharSet := ⟨edgesOf ns⟩

/-! ## What an operation makes of two sets -/

theorem insideAt_of_lt {n : Nat} {es : List Nat} (h : ∀ e ∈ es, n < e) (a : Bool) :
    insideAt n a es = a := by
  cases es with
  | nil => rfl
  | cons e es => simp [insideAt, h e (by simp)]

theorem insideAt_edgeIf {n e : Nat} {es : List Nat} (h : ∀ x ∈ es, e < x) (a b : Bool) :
    insideAt n a (edgeIf (a != b) e es) = if n < e then a else insideAt n b es := by
  have before (hn : n < e) : insideAt n a es = a :=
    insideAt_of_lt (fun x hx => Nat.lt_trans hn (h x hx)) a
  by_cases hab : a = b
  · subst hab
    by_cases hn : n < e
    · simp [edgeIf, hn, before hn]
    · simp [edgeIf, hn]
  · have : b = !a := by cases a <;> cases b <;> simp_all
    subst this
    simp [edgeIf, insideAt]

theorem mem_edgeIf {x e : Nat} {p : Bool} {es : List Nat} (h : x ∈ edgeIf p e es) :
    x = e ∨ x ∈ es := by
  cases p <;> simp_all [edgeIf]

theorem mem_merge {op : Bool → Bool → Bool} {a b : Bool} {xs ys : List Nat} {e : Nat}
    (h : e ∈ merge op a b xs ys) : e ∈ xs ∨ e ∈ ys := by
  fun_induction merge op a b xs ys <;> grind [mem_edgeIf]

/-- A code point is inside the result as the operation says of the two sets. -/
theorem insideAt_merge (op : Bool → Bool → Bool) (n : Nat) (a b : Bool) (xs ys : List Nat)
    (hx : xs.Pairwise (· < ·)) (hy : ys.Pairwise (· < ·)) :
    insideAt n (op a b) (merge op a b xs ys) = op (insideAt n a xs) (insideAt n b ys) := by
  fun_induction merge op a b xs ys with
  | case1 => simp [insideAt]
  | case2 a b x xs ih =>
    rw [List.pairwise_cons] at hx
    rw [insideAt_edgeIf (fun e he => hx.1 e ((mem_merge he).elim id (by simp))), ih hx.2 hy]
    by_cases hn : n < x <;> simp [insideAt, hn]
  | case3 a b y ys ih =>
    rw [List.pairwise_cons] at hy
    rw [insideAt_edgeIf (fun e he => hy.1 e ((mem_merge he).elim (by simp) id)), ih hx hy.2]
    by_cases hn : n < y <;> simp [insideAt, hn]
  | case4 a b x xs y ys h ih =>
    have hy' := List.pairwise_cons.1 hy
    rw [List.pairwise_cons] at hx
    rw [insideAt_edgeIf ?_, ih hx.2 hy]
    · by_cases hn : n < x
      · simp [insideAt, hn, Nat.lt_trans hn h]
      · simp [insideAt, hn]
    · intro e he
      rcases mem_merge he with he | he
      · exact hx.1 e he
      · rcases List.mem_cons.1 he with rfl | he
        · exact h
        · exact Nat.lt_trans h (hy'.1 e he)
  | case5 a b x xs y ys h h' ih =>
    have hx' := List.pairwise_cons.1 hx
    rw [List.pairwise_cons] at hy
    rw [insideAt_edgeIf ?_, ih hx hy.2]
    · by_cases hn : n < y
      · simp [insideAt, hn, Nat.lt_trans hn h']
      · simp [insideAt, hn]
    · intro e he
      rcases mem_merge he with he | he
      · rcases List.mem_cons.1 he with rfl | he
        · exact h'
        · exact Nat.lt_trans h' (hx'.1 e he)
      · exact hy.1 e he
  | case6 a b x xs y ys h h' ih =>
    obtain rfl : x = y := by omega
    rw [List.pairwise_cons] at hx hy
    rw [insideAt_edgeIf (fun e he => (mem_merge he).elim (hx.1 e) (hy.1 e)), ih hx.2 hy.2]
    by_cases hn : n < x <;> simp [insideAt, hn]

theorem pairwise_edgeIf {e : Nat} {p : Bool} {es : List Nat} (h : ∀ x ∈ es, e < x)
    (hs : es.Pairwise (· < ·)) : (edgeIf p e es).Pairwise (· < ·) := by
  cases p
  · exact hs
  · exact List.pairwise_cons.2 ⟨h, hs⟩

/-- The edges of the result increase. -/
theorem pairwise_merge (op : Bool → Bool → Bool) (a b : Bool) (xs ys : List Nat)
    (hx : xs.Pairwise (· < ·)) (hy : ys.Pairwise (· < ·)) :
    (merge op a b xs ys).Pairwise (· < ·) := by
  fun_induction merge op a b xs ys with
  | case1 => exact .nil
  | case2 a b x xs ih =>
    rw [List.pairwise_cons] at hx
    exact pairwise_edgeIf (fun e he => hx.1 e ((mem_merge he).elim id (by simp))) (ih hx.2 hy)
  | case3 a b y ys ih =>
    rw [List.pairwise_cons] at hy
    exact pairwise_edgeIf (fun e he => hy.1 e ((mem_merge he).elim (by simp) id)) (ih hx hy.2)
  | case4 a b x xs y ys h ih =>
    have hx' := List.pairwise_cons.1 hx
    have hy' := List.pairwise_cons.1 hy
    refine pairwise_edgeIf (fun e he => ?_) (ih hx'.2 hy)
    rcases mem_merge he with he | he
    · exact hx'.1 e he
    · rcases List.mem_cons.1 he with rfl | he
      · exact h
      · exact Nat.lt_trans h (hy'.1 e he)
  | case5 a b x xs y ys h h' ih =>
    have hx' := List.pairwise_cons.1 hx
    have hy' := List.pairwise_cons.1 hy
    refine pairwise_edgeIf (fun e he => ?_) (ih hx hy'.2)
    rcases mem_merge he with he | he
    · rcases List.mem_cons.1 he with rfl | he
      · exact h'
      · exact Nat.lt_trans h' (hx'.1 e he)
    · exact hy'.1 e he
  | case6 a b x xs y ys h h' ih =>
    obtain rfl : x = y := by omega
    rw [List.pairwise_cons] at hx hy
    exact pairwise_edgeIf (fun e he => (mem_merge he).elim (hx.1 e) (hy.1 e)) (ih hx.2 hy.2)

/-- The edges of the set increase. -/
def IsSorted (s : CharSet) : Prop := s.edges.Pairwise (· < ·)

theorem has_union {s t : CharSet} (hs : s.IsSorted) (ht : t.IsSorted) (c : Char) :
    (s.union t).has c = (s.has c || t.has c) :=
  insideAt_merge (· || ·) c.toNat false false s.edges t.edges hs ht

theorem has_inter {s t : CharSet} (hs : s.IsSorted) (ht : t.IsSorted) (c : Char) :
    (s.inter t).has c = (s.has c && t.has c) :=
  insideAt_merge (· && ·) c.toNat false false s.edges t.edges hs ht

theorem has_diff {s t : CharSet} (hs : s.IsSorted) (ht : t.IsSorted) (c : Char) :
    (s.diff t).has c = (s.has c && !t.has c) :=
  insideAt_merge (fun a b => a && !b) c.toNat false false s.edges t.edges hs ht

theorem has_symmDiff {s t : CharSet} (hs : s.IsSorted) (ht : t.IsSorted) (c : Char) :
    (s.symmDiff t).has c = (s.has c != t.has c) :=
  insideAt_merge (· != ·) c.toNat false false s.edges t.edges hs ht

theorem IsSorted.union {s t : CharSet} (hs : s.IsSorted) (ht : t.IsSorted) :
    (s.union t).IsSorted :=
  pairwise_merge (· || ·) false false s.edges t.edges hs ht

theorem IsSorted.diff {s t : CharSet} (hs : s.IsSorted) (ht : t.IsSorted) :
    (s.diff t).IsSorted :=
  pairwise_merge (fun a b => a && !b) false false s.edges t.edges hs ht

end CharSet

end Text

end Bookkeeping
