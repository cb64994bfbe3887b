/-!
# Tables of characters

A class of characters is given by the ranges of code points that belong to it, in increasing order.
-/

namespace Bookkeeping

namespace Text

/-- A class of characters: the first and the last code point of each range that belongs to it. -/
abbrev CharTable := List (Nat × Nat)

/-- The character belongs to the class. -/
def CharTable.has (t : CharTable) (c : Char) : Bool :=
  t.any fun (first, last) => first ≤ c.toNat && c.toNat ≤ last

theorem CharTable.has_of_mem {t : CharTable} {c : Char} {first last : Nat}
    (h : (first, last) ∈ t) (h₁ : first ≤ c.toNat) (h₂ : c.toNat ≤ last) : t.has c :=
  List.any_eq_true.2 ⟨_, h, by simp [h₁, h₂]⟩

end Text

end Bookkeeping
