import Bookkeeping.Proofs.Elision.Abbreviation

/-!
# Bounds of elision

Lists forgive a position that is out of range, and a difference of numbers stops at zero.
`Elision.shorten?` is elision with nothing forgiven: every difference, part and position is checked,
and still it never fails (`shorten?_eq`).  A text that is too long comes to just the width in every
style, but for paths that are abbreviated, which may come to less (`shortens_within_bounds`).
-/

namespace Bookkeeping

namespace Elision

variable {kept width : Nat} {s : List Char}

/-! ## Checked operations -/

/-- The difference of two numbers, unless it would be below zero. -/
def sub? (m n : Nat) : Option Nat := if n ≤ m then some (m - n) else none

/-- The part of a text between two positions, unless they are out of order or out of range. -/
def slice? (s : List Char) (i k : Nat) : Option (List Char) :=
  if i ≤ k ∧ k ≤ s.length then some ((s.take k).drop i) else none

/-- The text with a dot at a position, unless it is out of range. -/
def dot? (s : List Char) (i : Nat) : Option (List Char) :=
  if i < s.length then some (s.set i '.') else none

theorem sub?_eq {m n : Nat} (h : n ≤ m) : sub? m n = some (m - n) := if_pos h

theorem slice?_front {k : Nat} (h : k ≤ s.length) : slice? s 0 k = some (s.take k) :=
  if_pos ⟨Nat.zero_le k, h⟩

theorem slice?_back {i : Nat} (h : i ≤ s.length) : slice? s i s.length = some (s.drop i) := by
  rw [slice?, if_pos ⟨h, Nat.le_refl _⟩, List.take_length]

theorem dot?_eq {i : Nat} (h : i < s.length) : dot? s i = some (s.set i '.') := if_pos h

/-! ## Checked elision -/

/-- The last characters, with dots for the first two of them. -/
def cutLeading? (width : Nat) (s : List Char) : Option (List Char) := do
  let start ← sub? s.length width
  let cut ← slice? s start s.length
  let cut ← dot? cut 0
  dot? cut 1

/-- The first and the last characters, with dots where they meet. -/
def cutMiddle? (width : Nat) (s : List Char) : Option (List Char) := do
  let head := width / 2
  let tail ← sub? width head
  let front ← slice? s 0 head
  let start ← sub? s.length tail
  let back ← slice? s start s.length
  let cut ← dot? (front ++ back) (← sub? head 1)
  dot? cut head

/-- The first characters and two dots. -/
def cutTrailing? (width : Nat) (s : List Char) : Option (List Char) := do
  let cut ← slice? s 0 (← sub? width 2)
  return cut ++ ['.', '.']

/-- The path of the segments from the `i`th on, and the length that the whole path comes to; up to
the last one, they are cut to `kept` characters as long as the length is beyond `width`. -/
def abbreviateFrom? (kept width last : Nat) :
    Nat → Nat → List (List Char) → Option (List Char × Nat)
  | _, length, [] => some ([], length)
  | i, length, s :: rest =>
    if i = last then some (s, length)
    else if width < length then do
      let count := min s.length kept
      let length ← sub? length (← sub? s.length count)
      let (path, length) ← abbreviateFrom? kept width last (i + 1) length rest
      return (s.take count ++ ':' :: path, length)
    else do
      let (path, length) ← abbreviateFrom? kept width last (i + 1) length rest
      return (s ++ ':' :: path, length)

/-- The path with as few of its first segments shortened as needed, and cut in front if that is not
enough. -/
def abbreviatePath? (kept width : Nat) (s : List Char) : Option (List Char) := do
  let segments := Path.segments s
  let last ← sub? segments.length 1
  let (path, length) ← abbreviateFrom? kept width last 0 s.length segments
  if width < length then cutLeading? width path else return path

/-- The text in at most `width` characters; `isPath` tells a path from any other text. -/
def shorten? (e : Elision) (width : Nat) (isPath : Bool) (s : List Char) : Option (List Char) :=
  if s.length ≤ width then some s
  else if width < 2 then some (List.replicate width '.')
  else
    match e.style with
    | .leading => cutLeading? width s
    | .middle => cutMiddle? width s
    | .trailing => cutTrailing? width s
    | .abbreviate => if isPath then abbreviatePath? e.kept width s else cutTrailing? width s

/-! ## Nothing is out of range -/

theorem cutLeading?_eq (hwidth : 2 ≤ width) (h : width ≤ s.length) :
    cutLeading? width s = some (cutLeading width s) := by
  have hlength : (s.drop (s.length - width)).length = width := by
    rw [List.length_drop]
    omega
  have hfirst : 0 < (s.drop (s.length - width)).length := by omega
  have hsecond : 1 < ((s.drop (s.length - width)).set 0 '.').length := by
    rw [List.length_set]
    omega
  simp only [cutLeading?, sub?_eq h, slice?_back (Nat.sub_le ..), dot?_eq hfirst, dot?_eq hsecond,
    Option.bind_eq_bind, Option.bind_some]
  rfl

theorem cutMiddle?_eq (hwidth : 2 ≤ width) (h : width ≤ s.length) :
    cutMiddle? width s = some (cutMiddle width s) := by
  have hhead : 0 < width / 2 := by omega
  have htail : width - width / 2 ≤ s.length := by omega
  have hlength :
      (s.take (width / 2) ++ s.drop (s.length - (width - width / 2))).length = width := by
    rw [List.length_append, List.length_take, List.length_drop]
    omega
  have hfirst : width / 2 - 1 <
      (s.take (width / 2) ++ s.drop (s.length - (width - width / 2))).length := by omega
  have hsecond : width / 2 < ((s.take (width / 2) ++
      s.drop (s.length - (width - width / 2))).set (width / 2 - 1) '.').length := by
    rw [List.length_set]
    omega
  simp only [cutMiddle?, sub?_eq (Nat.div_le_self width 2), sub?_eq htail, sub?_eq hhead,
    slice?_front (show width / 2 ≤ s.length by omega), slice?_back (Nat.sub_le ..), dot?_eq hfirst,
    dot?_eq hsecond, Option.bind_eq_bind, Option.bind_some]
  rw [cutMiddle, mark, Nat.sub_add_cancel hhead]

theorem cutTrailing?_eq (hwidth : 2 ≤ width) (h : width ≤ s.length) :
    cutTrailing? width s = some (cutTrailing width s) := by
  simp only [cutTrailing?, sub?_eq hwidth, slice?_front (show width - 2 ≤ s.length by omega),
    Option.bind_eq_bind, Option.bind_some]
  rfl

theorem abbreviateFrom_ne_nil (kept width length : Nat) {segments : List (List Char)}
    (hne : segments ≠ []) : (abbreviateFrom kept width length segments).1 ≠ [] := by
  cases segments with
  | nil => exact absurd rfl hne
  | cons s segments =>
    by_cases hnil : segments = []
    · subst hnil
      exact List.cons_ne_nil s []
    by_cases hfits : length ≤ width
    · rw [abbreviateFrom_of_le hfits]
      exact hne
    · rw [abbreviateFrom_cons_of_lt (Nat.lt_of_not_le hfits) hnil]
      exact List.cons_ne_nil _ _

/-- With at least the segments themselves in the length, no more is taken off it than there is, and
the loop comes to the path of the segments that are left. -/
theorem abbreviateFrom?_eq (kept width : Nat) {segments : List (List Char)} (hne : segments ≠ [])
    (before i last : Nat) (hlast : i + segments.length = last + 1) :
    let length := before + (Path.join segments).length
    let left := abbreviateFrom kept width length segments
    abbreviateFrom? kept width last i length segments = some (Path.join left.1, left.2) := by
  induction segments generalizing before i with
  | nil => exact absurd rfl hne
  | cons s segments ih =>
    intro length left
    rw [List.length_cons] at hlast
    by_cases hnil : segments = []
    · subst hnil
      have hi : i = last := by simpa using hlast
      rw [abbreviateFrom?, if_pos hi]
      rfl
    have hi : i ≠ last := by
      have := List.length_pos_iff.2 hnil
      omega
    have hlength : length = before + (s.length + 1 + (Path.join segments).length) :=
      congrArg (before + ·) (Path.length_join_cons s hnil)
    rw [abbreviateFrom?, if_neg hi]
    by_cases hfits : length ≤ width
    · have hrest := ih hnil (before + s.length + 1) (i + 1) (by omega)
      rw [show before + s.length + 1 + (Path.join segments).length = length by omega] at hrest
      rw [if_neg (Nat.not_lt.2 hfits), hrest, Option.bind_eq_bind, Option.bind_some,
        show left = _ from abbreviateFrom_of_le hfits _, abbreviateFrom_of_le hfits,
        Path.join_cons s hnil]
      rfl
    · have htoo : width < length := Nat.lt_of_not_le hfits
      have hcount : (s.take kept).length = min s.length kept := by
        rw [List.length_take, Nat.min_comm]
      have htake : s.take (min s.length kept) = s.take kept :=
        List.take_eq_take_iff.2 (by omega)
      have hrest := ih hnil (before + min s.length kept + 1) (i + 1) (by omega)
      rw [show before + min s.length kept + 1 + (Path.join segments).length =
        length - (s.length - min s.length kept) by omega] at hrest
      have hleft : left = _ := abbreviateFrom_cons_of_lt htoo hnil
      rw [hcount] at hleft
      simp only [if_pos htoo, sub?_eq (Nat.min_le_left s.length kept),
        sub?_eq (show s.length - min s.length kept ≤ length by omega), hrest, htake,
        Option.bind_eq_bind, Option.bind_some]
      rw [hleft, Path.join_cons _ (abbreviateFrom_ne_nil _ _ _ hnil)]
      rfl

theorem abbreviatePath?_eq (hwidth : 2 ≤ width) :
    abbreviatePath? kept width s = some (abbreviatePath kept width s) := by
  have hne := Path.segments_ne_nil s
  have hpos := List.length_pos_iff.2 hne
  have hloop := abbreviateFrom?_eq kept width hne 0 0
    ((Path.segments s).length - 1) (by omega)
  obtain ⟨k, -, hspec, -⟩ := abbreviateFrom_spec kept width 0 hne
  simp only [Nat.zero_add, Path.join_segments] at hloop hspec
  rw [abbreviatePath?, abbreviatePath, sub?_eq hpos]
  simp only [Option.bind_eq_bind, Option.bind_some, hloop]
  rw [hspec]
  simp only
  split
  · rename_i htoo
    exact cutLeading?_eq hwidth (Nat.le_of_lt htoo)
  · rfl

/-- No difference, part or position that elision asks for is out of range. -/
theorem shorten?_eq (e : Elision) (width : Nat) (isPath : Bool) (s : List Char) :
    e.shorten? width isPath s = some (e.shortenChars width isPath s) := by
  rw [shorten?, shortenChars]
  by_cases hfits : s.length ≤ width
  · rw [if_pos hfits, if_pos hfits]
  rw [if_neg hfits, if_neg hfits]
  by_cases hnarrow : width < 2
  · rw [if_pos hnarrow, if_pos hnarrow]
  rw [if_neg hnarrow, if_neg hnarrow]
  have hwidth : 2 ≤ width := Nat.le_of_not_lt hnarrow
  have hlong : width ≤ s.length := Nat.le_of_not_le hfits
  cases e.style with
  | leading => exact cutLeading?_eq hwidth hlong
  | middle => exact cutMiddle?_eq hwidth hlong
  | trailing => exact cutTrailing?_eq hwidth hlong
  | abbreviate =>
    cases isPath with
    | false => exact cutTrailing?_eq hwidth hlong
    | true => exact abbreviatePath?_eq hwidth

/-! ## What is left of a text -/

theorem cutMiddle_eq (hwidth : 2 ≤ width) (h : width ≤ s.length) :
    cutMiddle width s = s.take (width / 2 - 1) ++
      '.' :: '.' :: s.drop (s.length - (width - width / 2 - 1)) := by
  have hfront : (s.take (width / 2)).length = width / 2 := by
    rw [List.length_take]
    omega
  have hback : (s.drop (s.length - (width - width / 2))).length = width - width / 2 := by
    rw [List.length_drop]
    omega
  have hposition : width / 2 - 1 + 2 ≤
      (s.take (width / 2) ++ s.drop (s.length - (width - width / 2))).length := by
    rw [List.length_append]
    omega
  have hstart : s.length - (width - width / 2) + (width / 2 - 1 + 2 - width / 2) =
      s.length - (width - width / 2 - 1) := by omega
  rw [cutMiddle, mark_eq hposition, List.take_append_of_le_length (by omega), List.take_take,
    List.drop_append, hfront, List.drop_eq_nil_of_le (by omega), List.drop_drop, hstart,
    Nat.min_eq_left (Nat.sub_le ..)]
  rfl

theorem length_cutLeading (hwidth : 2 ≤ width) (h : width ≤ s.length) :
    (cutLeading width s).length = width := by
  rw [cutLeading_eq hwidth h, List.length_cons, List.length_cons, List.length_drop]
  omega

theorem length_cutMiddle (hwidth : 2 ≤ width) (h : width ≤ s.length) :
    (cutMiddle width s).length = width := by
  rw [cutMiddle_eq hwidth h, List.length_append, List.length_cons, List.length_cons,
    List.length_take, List.length_drop]
  omega

theorem length_cutTrailing (hwidth : 2 ≤ width) (h : width ≤ s.length) :
    (cutTrailing width s).length = width := by
  rw [cutTrailing, List.length_append, List.length_take]
  show min (width - 2) s.length + 2 = width
  omega

theorem length_abbreviatePath_le (hwidth : 2 ≤ width) :
    (abbreviatePath kept width s).length ≤ width := by
  obtain ⟨k, -, hwritten, -⟩ := abbreviatePath_spec kept width s
  rw [hwritten]
  split
  · rename_i htoo
    exact Nat.le_of_eq (length_cutLeading hwidth (Nat.le_of_lt htoo))
  · rename_i hfits
    exact Nat.le_of_not_lt hfits

/-- Text comes to just the width if it is too long. -/
theorem length_shortenChars {e : Elision} {isPath : Bool}
    (h : ¬(e.style = .abbreviate ∧ isPath)) (width : Nat) (s : List Char) :
    (e.shortenChars width isPath s).length = min s.length width := by
  rw [shortenChars]
  by_cases hfits : s.length ≤ width
  · rw [if_pos hfits, Nat.min_eq_left hfits]
  rw [if_neg hfits]
  have hlong : width ≤ s.length := Nat.le_of_not_le hfits
  rw [Nat.min_eq_right hlong]
  by_cases hnarrow : width < 2
  · rw [if_pos hnarrow, List.length_replicate]
  rw [if_neg hnarrow]
  have hwidth : 2 ≤ width := Nat.le_of_not_lt hnarrow
  cases hstyle : e.style with
  | leading => exact length_cutLeading hwidth hlong
  | middle => exact length_cutMiddle hwidth hlong
  | trailing => exact length_cutTrailing hwidth hlong
  | abbreviate =>
    have hother : ¬isPath := fun hpath => h ⟨hstyle, hpath⟩
    simp only
    rw [if_neg hother]
    exact length_cutTrailing hwidth hlong

theorem length_shortenChars_le (e : Elision) (width : Nat) (isPath : Bool) (s : List Char) :
    (e.shortenChars width isPath s).length ≤ min s.length width := by
  by_cases h : e.style = .abbreviate ∧ isPath
  · obtain ⟨hstyle, rfl⟩ := h
    rw [shortenChars, hstyle]
    split
    · rename_i hfits
      rw [Nat.min_eq_left hfits]
    · rename_i hlong
      rw [Nat.min_eq_right (Nat.le_of_not_le hlong)]
      split
      · exact Nat.le_of_eq List.length_replicate
      · exact length_abbreviatePath_le (by omega)
  · exact Nat.le_of_eq (length_shortenChars h width s)

/-- Whatever the style, the width and the text: elision asks for nothing that is out of range.  It
comes to no more characters than the text has or the width allows, and to no less but where it
abbreviates a path.  A text that fits is left as it is; in any other, two dots take the place of
what is missing in front, in the middle or behind. -/
theorem shortens_within_bounds (e : Elision) (width : Nat) (isPath : Bool) (text : String) :
    let s := text.toList
    let written := (e.shorten width isPath text).toList
    e.shorten? width isPath s = some written ∧
    written.length ≤ min s.length width ∧
    (¬(e.style = .abbreviate ∧ isPath) → written.length = min s.length width) ∧
    (s.length ≤ width → written = s) ∧
    (width < s.length → width < 2 → written = List.replicate width '.') ∧
    (width < s.length → 2 ≤ width →
      (e.style = .leading → written = '.' :: '.' :: s.drop (s.length - (width - 2))) ∧
      (e.style = .trailing ∨ e.style = .abbreviate ∧ isPath = false →
        written = s.take (width - 2) ++ ['.', '.']) ∧
      (e.style = .middle → written = s.take (width / 2 - 1) ++
        '.' :: '.' :: s.drop (s.length - (width - width / 2 - 1)))) := by
  intro s written
  have hwritten : written = e.shortenChars width isPath s := String.toList_ofList
  rw [hwritten]
  refine ⟨shorten?_eq e width isPath s, length_shortenChars_le e width isPath s,
    fun h => length_shortenChars h width s, fun hfits => if_pos hfits, fun hlong hnarrow => ?_,
    fun hlong hwidth => ?_⟩
  · rw [shortenChars, if_neg (Nat.not_le.2 hlong), if_pos hnarrow]
  · rw [shortenChars, if_neg (Nat.not_le.2 hlong), if_neg (Nat.not_lt.2 hwidth)]
    refine ⟨fun hstyle => ?_, fun hstyle => ?_, fun hstyle => ?_⟩
    · rw [hstyle]
      exact cutLeading_eq hwidth (Nat.le_of_lt hlong)
    · obtain hstyle | ⟨hstyle, rfl⟩ := hstyle <;> rw [hstyle] <;> rfl
    · rw [hstyle]
      exact cutMiddle_eq hwidth (Nat.le_of_lt hlong)

/-- A text of 11 characters is cut in the middle of 7 columns, and a single column holds a dot. -/
theorem shortens_within_bounds_supermarket :
    let e : Elision := { style := .middle }
    e.shorten? 7 false "Supermarket".toList = some "Su..ket".toList ∧
      (e.shorten 7 false "Supermarket").length = 7 ∧
      (e.shorten 1 false "Supermarket").toList = ['.'] := by
  intro e
  obtain ⟨hchecked, -, hlength, -, -, hcut⟩ := shortens_within_bounds e 7 false "Supermarket"
  obtain ⟨-, -, -, -, hnarrow, -⟩ := shortens_within_bounds e 1 false "Supermarket"
  obtain ⟨-, -, hmiddle⟩ := hcut (by decide) (by decide)
  refine ⟨?_, hlength (by decide), hnarrow (by decide) (by decide)⟩
  rw [hchecked, hmiddle rfl]
  decide

end Elision

end Bookkeeping
