import Bookkeeping.Elision
import Bookkeeping.Proofs.Journal.Paths
import Mathlib.Order.Bounds.Basic
import Mathlib.Tactic.IntervalCases

/-!
# Abbreviated paths

A path that is too long is abbreviated segment by segment (`Elision.abbreviateFirst`), and only for
as long as it does not fit: `abbreviateFrom` stops at the first number of segments with which the
path fits, or before the last segment (`abbreviateFrom_spec`).  So the number is the least one, and
if there is none the path is cut in front with all segments but the last abbreviated
(`path_keeps_least_abbreviation`).
-/

namespace Bookkeeping

namespace Path

theorem join_cons (s : List Char) {ss : List (List Char)} (h : ss ≠ []) :
    join (s :: ss) = s ++ ':' :: join ss := by
  cases ss with
  | nil => exact absurd rfl h
  | cons t ss => rfl

theorem length_join_cons (s : List Char) {ss : List (List Char)} (h : ss ≠ []) :
    (join (s :: ss)).length = s.length + 1 + (join ss).length := by
  rw [join_cons s h, List.length_append, List.length_cons]
  omega

end Path

namespace Elision

variable {kept width k : Nat} {s : List Char} {segments : List (List Char)}

/-! ## Cuts in front -/

/-- Dots take the place of two characters and leave the others. -/
theorem mark_eq {position : Nat} (h : position + 2 ≤ s.length) :
    mark position s = s.take position ++ '.' :: '.' :: s.drop (position + 2) := by
  have hset : s.set position '.' = s.take position ++ '.' :: s.drop (position + 1) :=
    List.set_eq_take_append_cons_drop.trans (if_pos (by omega))
  have hnext : s.drop (position + 1) = s[position + 1] :: s.drop (position + 2) :=
    List.drop_eq_getElem_cons (by omega)
  have htake : (s.take position).length = position := by
    rw [List.length_take]
    omega
  rw [mark, hset, hnext, List.set_append_right _ _ (by omega), htake, Nat.add_sub_cancel_left]
  rfl

/-- A cut in front leaves two dots and the last characters. -/
theorem cutLeading_eq (hwidth : 2 ≤ width) (h : width ≤ s.length) :
    cutLeading width s = '.' :: '.' :: s.drop (s.length - (width - 2)) := by
  have hlength : 0 + 2 ≤ (s.drop (s.length - width)).length := by
    rw [List.length_drop]
    omega
  rw [cutLeading, mark_eq hlength, List.drop_drop,
    show s.length - width + (0 + 2) = s.length - (width - 2) by omega]
  rfl

/-! ## Abbreviated segments -/

/-- The segments of which the first `k` are cut to their first `kept` characters. -/
def abbreviateFirst (kept k : Nat) (segments : List (List Char)) : List (List Char) :=
  (segments.take k).map (·.take kept) ++ segments.drop k

theorem abbreviateFirst_succ (kept k : Nat) (s : List Char) (segments : List (List Char)) :
    abbreviateFirst kept (k + 1) (s :: segments) =
      s.take kept :: abbreviateFirst kept k segments := rfl

theorem length_abbreviateFirst (kept k : Nat) (segments : List (List Char)) :
    (abbreviateFirst kept k segments).length = segments.length := by
  rw [abbreviateFirst, List.length_append, List.length_map, ← List.length_append,
    List.take_append_drop]

theorem abbreviateFirst_ne_nil (kept k : Nat) (h : segments ≠ []) :
    abbreviateFirst kept k segments ≠ [] := by
  rw [← List.length_pos_iff, length_abbreviateFirst]
  exact List.length_pos_iff.2 h

/-- Segments that are abbreviated are still the segments of a path. -/
theorem segments_join_abbreviateFirst (kept k : Nat) (s : List Char) :
    Path.segments (Path.join (abbreviateFirst kept k (Path.segments s))) =
      abbreviateFirst kept k (Path.segments s) := by
  refine Path.segments_join (abbreviateFirst_ne_nil kept k (Path.segments_ne_nil s)) fun t ht => ?_
  rcases List.mem_append.1 ht with ht | ht
  · obtain ⟨u, hu, rfl⟩ := List.mem_map.1 ht
    exact fun hcolon =>
      Path.not_mem_of_mem_segments (List.mem_of_mem_take hu) (List.mem_of_mem_take hcolon)
  · exact Path.not_mem_of_mem_segments (List.mem_of_mem_drop ht)

/-! ## The loop over the segments -/

theorem abbreviateFrom_cons_of_lt {length : Nat} (h : width < length) (hne : segments ≠ []) :
    abbreviateFrom kept width length (s :: segments) =
      let rest := abbreviateFrom kept width (length - (s.length - (s.take kept).length)) segments
      (s.take kept :: rest.1, rest.2) := by
  cases segments with
  | nil => exact absurd rfl hne
  | cons t segments =>
    rw [abbreviateFrom, if_pos h]
    exact List.cons_ne_nil t segments

/-- Nothing is abbreviated once the path fits. -/
theorem abbreviateFrom_of_le {length : Nat} (h : length ≤ width) (segments : List (List Char)) :
    abbreviateFrom kept width length segments = (segments, length) := by
  induction segments with
  | nil => rfl
  | cons s segments ih =>
    cases segments with
    | nil => rfl
    | cons t segments =>
      rw [abbreviateFrom, if_neg (Nat.not_lt.2 h), ih]
      exact List.cons_ne_nil t segments

/-- Behind `before` characters the first `k` segments are abbreviated, where the path is too long
with less of them and fits with these, unless only the last one is left; and the length is that of
the path. -/
theorem abbreviateFrom_spec (kept width before : Nat) (hne : segments ≠ []) :
    ∃ k < segments.length,
      abbreviateFrom kept width (before + (Path.join segments).length) segments =
        (abbreviateFirst kept k segments,
          before + (Path.join (abbreviateFirst kept k segments)).length) ∧
      (∀ i < k, width < before + (Path.join (abbreviateFirst kept i segments)).length) ∧
      (k + 1 = segments.length ∨
        before + (Path.join (abbreviateFirst kept k segments)).length ≤ width) := by
  induction segments generalizing before with
  | nil => exact absurd rfl hne
  | cons s segments ih =>
    by_cases hlast : segments = []
    · subst hlast
      exact ⟨0, Nat.one_pos, rfl, nofun, .inl rfl⟩
    by_cases hfits : before + (Path.join (s :: segments)).length ≤ width
    · exact ⟨0, Nat.succ_pos _, abbreviateFrom_of_le hfits _, nofun, .inr hfits⟩
    -- the segment is abbreviated, and stands before the others
    have htoo : width < before + (Path.join (s :: segments)).length := Nat.lt_of_not_le hfits
    have hlonger : (s.take kept).length ≤ s.length := List.length_take_le' ..
    obtain ⟨k, hk, hrun, htoolong, hstop⟩ := ih (before + (s.take kept).length + 1) hlast
    have hlength (i : Nat) :
        before + (Path.join (abbreviateFirst kept (i + 1) (s :: segments))).length =
          before + (s.take kept).length + 1 +
            (Path.join (abbreviateFirst kept i segments)).length := by
      rw [abbreviateFirst_succ, Path.length_join_cons _ (abbreviateFirst_ne_nil kept i hlast)]
      omega
    have hnext : before + (Path.join (s :: segments)).length - (s.length - (s.take kept).length) =
        before + (s.take kept).length + 1 + (Path.join segments).length := by
      rw [Path.length_join_cons s hlast]
      omega
    refine ⟨k + 1, Nat.succ_lt_succ hk, ?_, fun i hi => ?_, ?_⟩
    · rw [abbreviateFrom_cons_of_lt htoo hlast, hnext, hrun, hlength]
      rfl
    · cases i with
      | zero => exact htoo
      | succ i =>
        rw [hlength]
        exact htoolong i (Nat.lt_of_succ_lt_succ hi)
    · rw [hlength]
      exact hstop.imp_left (congrArg (· + 1))

/-! ## Whole paths -/

theorem abbreviatePath_spec (kept width : Nat) (s : List Char) :
    ∃ k < (Path.segments s).length,
      let path := Path.join (abbreviateFirst kept k (Path.segments s))
      abbreviatePath kept width s = (if width < path.length then cutLeading width path else path) ∧
      (∀ i < k, width < (Path.join (abbreviateFirst kept i (Path.segments s))).length) ∧
      (k + 1 = (Path.segments s).length ∨ path.length ≤ width) := by
  have hspec := abbreviateFrom_spec kept width 0 (Path.segments_ne_nil s)
  simp only [Nat.zero_add, Path.join_segments] at hspec
  obtain ⟨k, hk, hrun, htoolong, hstop⟩ := hspec
  exact ⟨k, hk, by rw [abbreviatePath, hrun], htoolong, hstop⟩

theorem shorten_path {e : Elision} (hstyle : e.style = .abbreviate) (hwidth : 2 ≤ width)
    {text : String} (hlong : width < text.length) :
    (e.shorten width true text).toList = abbreviatePath e.kept width text.toList := by
  have hlong : ¬text.toList.length ≤ width := by
    rw [String.length_toList]
    omega
  rw [shorten, String.toList_ofList, shortenChars, if_neg hlong, if_neg (by omega), hstyle]
  rfl

/-- A path that is too long is written with its first segments abbreviated: with the least number
of them, the last one not among them, with which it fits.  All other segments are left as they are.
If it fits with none, two dots and the last characters of what it comes to are written. -/
theorem path_keeps_least_abbreviation (e : Elision) (hstyle : e.style = .abbreviate)
    (hwidth : 2 ≤ width) (text : String) (hlong : width < text.length) :
    let segments := Path.segments text.toList
    let path (k : Nat) := Path.join (abbreviateFirst e.kept k segments)
    let fitting := {k | k < segments.length ∧ (path k).length ≤ width}
    let written := (e.shorten width true text).toList
    (∃ k, IsLeast fitting k ∧ written = path k ∧
      Path.segments written = (segments.take k).map (·.take e.kept) ++ segments.drop k) ∨
    (fitting = ∅ ∧
      let shortest := path (segments.length - 1)
      written = '.' :: '.' :: shortest.drop (shortest.length - (width - 2))) := by
  intro segments path fitting written
  obtain ⟨k, hk, hwritten, htoolong, hstop⟩ := abbreviatePath_spec e.kept width text.toList
  rw [← shorten_path hstyle hwidth hlong] at hwritten
  by_cases hfits : (path k).length ≤ width
  · have hpath : written = path k := hwritten.trans (if_neg (Nat.not_lt.2 hfits))
    refine .inl ⟨k, ⟨⟨hk, hfits⟩, fun i hi => ?_⟩, hpath, ?_⟩
    · by_contra hlt
      exact absurd hi.2 (Nat.not_le.2 (htoolong i (Nat.lt_of_not_le hlt)))
    · rw [hpath]
      exact segments_join_abbreviateFirst e.kept k text.toList
  · obtain rfl : k = segments.length - 1 := by
      have hall : k + 1 = segments.length := hstop.resolve_right hfits
      omega
    refine .inr ⟨?_, ?_⟩
    · refine Set.eq_empty_of_forall_notMem fun i ⟨hi, hle⟩ => ?_
      rcases Nat.lt_or_eq_of_le (Nat.le_sub_one_of_lt hi) with hlt | rfl
      · exact absurd hle (Nat.not_le.2 (htoolong i hlt))
      · exact hfits hle
    · have hcut : written = cutLeading width (path (segments.length - 1)) :=
        hwritten.trans (if_pos (Nat.lt_of_not_le hfits))
      rw [hcut, cutLeading_eq hwidth (Nat.le_of_not_le hfits)]

/-- The path to the checking account fits into 19 columns with one segment abbreviated; 10 columns
are too few even with both. -/
theorem path_keeps_least_abbreviation_checking :
    let text := "Assets:Current:Checking"
    let segments := Path.segments text.toList
    IsLeast {k | k < segments.length ∧ (Path.join (abbreviateFirst 2 k segments)).length ≤ 19} 1 ∧
      ({} : Elision).shorten 19 true text = "As:Current:Checking" ∧
      ({} : Elision).shorten 10 true text = "..Checking" := by
  intro text segments
  have hone : 1 < segments.length ∧ (Path.join (abbreviateFirst 2 1 segments)).length ≤ 19 := by
    decide
  have hnarrow : ({} : Elision).shorten 10 true text = "..Checking" := by
    obtain ⟨k, ⟨⟨hk, hfits⟩, -⟩, -⟩ | ⟨-, hcut⟩ :=
      path_keeps_least_abbreviation {} rfl (show 2 ≤ 10 by decide) text (by decide)
    · have hk : k < 3 := hk.trans_le (by decide)
      interval_cases k <;> exact absurd hfits (by decide)
    · exact String.toList_inj.1 (hcut.trans (by decide))
  obtain ⟨k, hleast, hwritten, -⟩ | ⟨hnone, -⟩ :=
    path_keeps_least_abbreviation {} rfl (show 2 ≤ 19 by decide) text (by decide)
  · have hle : k ≤ 1 := hleast.2 hone
    have hne : k ≠ 0 := by
      rintro rfl
      exact absurd hleast.1.2 (by decide)
    obtain rfl : k = 1 := by omega
    exact ⟨hleast, String.toList_inj.1 (hwritten.trans (by decide)), hnarrow⟩
  · exact absurd hone (Set.eq_empty_iff_forall_notMem.1 hnone 1)

end Elision

end Bookkeeping
