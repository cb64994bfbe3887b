/-!
# Paths

A path names an account by the names on the way to it, with colons between them.  `segments` takes
a path apart at its colons and `join` puts it together again.
-/

namespace Bookkeeping

namespace Path

/-- The pieces between the colons; a path without colons is one piece. -/
def segments : List Char → List (List Char)
  | [] => [[]]
  | c :: rest =>
    if c = ':' then [] :: segments rest
    else
      match segments rest with
      | [] => [[c]]
      | s :: ss => (c :: s) :: ss

/-- The pieces with colons between them. -/
def join : List (List Char) → List Char
  | [] => []
  | [s] => s
  | s :: ss => s ++ ':' :: join ss

theorem segments_ne_nil (s : List Char) : segments s ≠ [] := by
  cases s with
  | nil => simp [segments]
  | cons c rest =>
    rw [segments]
    split
    · simp
    · split <;> simp

theorem join_segments (s : List Char) : join (segments s) = s := by
  induction s with
  | nil => rfl
  | cons c rest ih =>
    rw [segments]
    split
    · rename_i h
      cases hs : segments rest with
      | nil => exact absurd hs (segments_ne_nil rest)
      | cons t ts => rw [hs] at ih; simp [join, ih, h]
    · split
      · rename_i hs
        exact absurd hs (segments_ne_nil rest)
      · rename_i t ts hs
        rw [hs] at ih
        cases ts with
        | nil => simpa [join] using ih
        | cons u us => simpa [join] using ih

end Path

end Bookkeeping
