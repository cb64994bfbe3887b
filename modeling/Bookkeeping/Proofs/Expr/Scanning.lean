import Bookkeeping.Proofs.Expr.Words

/-!
# Scanning

What `Lexeme.scanFrom` makes of a text, in the terms of the grammar.  `maskText?_iff` says that the
pattern of a mask is read as `MaskBody` has it.  `Scanned` lists the four things that can be found
at the front of a text (its end, a word, a mask, or a fault), and `scanned_scanFrom` finds one of
them; `scanFrom_blank`, `scanFrom_cut` and `scanFrom_mask` are the ways back.
-/

namespace Bookkeeping

namespace Grammar

open Text Token Lexeme

/-! ## Masks -/

theorem maskText?_cons {c : Char} {s : List Char} (hc : c ≠ '/')
    (hs : c = '\\' → s.head? ≠ some '/') :
    maskText? (c :: s) = (maskText? s).map fun (p, r) => (c :: p, r) := by
  rw [maskText?]
  · exact hc
  · rintro u rfl rfl
    exact hs rfl rfl

/-- What is written for a mask does not begin with a slash. -/
theorem MaskBody.head?_ne {w p : List Char} (h : MaskBody w p) : w.head? ≠ some '/' := by
  cases h with
  | nil => simp
  | slash _ => simp
  | char hc _ _ => simpa using hc

theorem maskText?_append {w p r : List Char} (h : MaskBody w p) :
    maskText? (w ++ '/' :: r) = some (p, r) := by
  induction h with
  | nil => rfl
  | slash _ ih =>
    rw [List.cons_append, List.cons_append, maskText?, ih]
    rfl
  | @char c w p hc hw hbody ih =>
    have hback (h : c = '\\') : (w ++ '/' :: r).head? ≠ some '/' := by
      cases w with
      | nil => exact absurd rfl (hw h)
      | cons d w => exact hbody.head?_ne
    rw [List.cons_append, maskText?_cons hc hback, ih]
    rfl

/-- A mask is read up to the first slash without a backslash in front of it. -/
theorem maskText?_iff {s p r : List Char} :
    maskText? s = some (p, r) ↔ ∃ w, MaskBody w p ∧ s = w ++ '/' :: r := by
  constructor
  · intro h
    fun_induction maskText? s generalizing p with
    | case1 => cases h
    | case2 u =>
      cases h
      exact ⟨[], .nil, rfl⟩
    | case3 u ih =>
      obtain ⟨⟨q, v⟩, hq, hp⟩ := Option.map_eq_some_iff.1 h
      cases hp
      obtain ⟨w, hw, rfl⟩ := ih hq
      exact ⟨_, .slash hw, rfl⟩
    | case4 c u hc hback ih =>
      obtain ⟨⟨q, v⟩, hq, hp⟩ := Option.map_eq_some_iff.1 h
      cases hp
      obtain ⟨w, hw, rfl⟩ := ih hq
      refine ⟨c :: w, .char hc ?_ hw, rfl⟩
      rintro rfl rfl
      exact hback r rfl rfl
  · rintro ⟨w, hw, rfl⟩
    exact maskText?_append hw

/-! ## The front of a text -/

section

variable (total : Nat)

theorem scanFrom_blank {s : List Char} (b : Bool) (h : ∀ c ∈ s, isBlank c) :
    scanFrom total b s = [.token .endOfInput total] := by
  have hnext := next_endOfInput_iff (n := total).2 ⟨rfl, h⟩
  rw [scanFrom]
  split
  · rename_i e he
    exact absurd (he.symm.trans hnext) (by simp)
  · rename_i t rest ht
    cases ht.symm.trans hnext
    simp

theorem scanFrom_cut {s w r : List Char} {t : Token} {b : Bool} (hs : Cut s w r)
    (ht : Spells w t) (hb : t = .slash → b = false) :
    scanFrom total b s = .token t (total - r.length) :: scanFrom total (!t.endsOperand) r := by
  have hnext := (next_iff (n := total) ht.ne_endOfInput).2 ⟨w, hs, ht⟩
  rw [scanFrom]
  split
  · rename_i e he
    exact absurd (he.symm.trans hnext) (by simp)
  · rename_i u rest hu
    cases hu.symm.trans hnext
    have hslash : ¬(t = .slash ∧ b) := by
      rintro ⟨hslash, hb'⟩
      rw [hb hslash] at hb'
      cases hb'
    rw [dif_neg ht.ne_endOfInput, if_neg hslash]

theorem cut_slash {blanks s : List Char} (hb : ∀ c ∈ blanks, isBlank c) :
    Cut (blanks ++ '/' :: s) ['/'] s :=
  ⟨blanks, rfl, hb, longest_single (by decide) (by simp [signs])⟩

theorem scanFrom_mask {blanks w p r : List Char} (hb : ∀ c ∈ blanks, isBlank c)
    (hw : MaskBody w p) :
    scanFrom total true (blanks ++ '/' :: (w ++ '/' :: r)) =
      .mask (String.ofList p) (total - r.length) :: scanFrom total false r := by
  have hslash : Spells ['/'] .slash := .sign (by decide)
  have hcut := cut_slash (s := w ++ '/' :: r) hb
  have hnext := (next_iff (n := total) hslash.ne_endOfInput).2 ⟨_, hcut, hslash⟩
  have hmask := maskText?_append (r := r) hw
  rw [scanFrom]
  split
  · rename_i e he
    exact absurd (he.symm.trans hnext) (by simp)
  · rename_i u rest hu
    cases hu.symm.trans hnext
    rw [dif_neg (by simp), if_pos (by simp)]
    split
    · rename_i hm
      exact absurd (hm.symm.trans hmask) (by simp)
    · rename_i q v hm
      cases hm.symm.trans hmask
      rfl

/-- What can be found at the front of a text, where an operand is expected or not. -/
inductive Scanned (b : Bool) (s : List Char) : List Lexeme → Prop where
  | fault (e : SyntaxError) : Scanned b s [.fault e]
  | blank (h : ∀ c ∈ s, isBlank c) : Scanned b s [.token .endOfInput total]
  | word {w r : List Char} {t : Token} (hs : Cut s w r) (ht : Spells w t)
      (hb : t = .slash → b = false) :
      Scanned b s (.token t (total - r.length) :: scanFrom total (!t.endsOperand) r)
  | mask {blanks w p r : List Char} (hb : ∀ c ∈ blanks, isBlank c) (hw : MaskBody w p)
      (hoperand : b = true) (hs : s = blanks ++ '/' :: (w ++ '/' :: r)) :
      Scanned b s (.mask (String.ofList p) (total - r.length) :: scanFrom total false r)

theorem scanned_scanFrom (b : Bool) (s : List Char) :
    Scanned total b s (scanFrom total b s) := by
  generalize hL : scanFrom total b s = L
  rw [scanFrom] at hL
  split at hL
  · subst hL
    exact .fault _
  · rename_i t r hnext
    split at hL
    · rename_i ht
      subst ht
      have hblank := (next_endOfInput_iff.1 hnext).2
      rw [(next_endOfInput_iff.1 hnext).1] at hL
      subst hL
      exact .blank hblank
    · rename_i ht
      obtain ⟨w, hs, hw⟩ := (next_iff ht).1 hnext
      split at hL
      · rename_i hslash
        obtain ⟨rfl, hb⟩ := hslash
        split at hL
        · subst hL
          exact .fault _
        · rename_i p r' hm
          subst hL
          obtain ⟨v, hv, rfl⟩ := maskText?_iff.1 hm
          obtain ⟨blanks, hs, hblanks, hl⟩ := hs
          cases hw with
          | sign h =>
            obtain rfl : w = ['/'] := by simpa [signTokens] using h
            exact .mask hblanks hv hb hs
      · rename_i hslash
        subst hL
        refine .word hs hw fun h => ?_
        simpa [h] using hslash

end

end Grammar

end Bookkeeping
