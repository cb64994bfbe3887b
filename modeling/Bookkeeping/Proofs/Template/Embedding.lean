import Bookkeeping.Proofs.Amount.Reading
import Bookkeeping.Proofs.Expr.Writing
import Bookkeeping.Proofs.Template.Writing

/-!
# Expressions in templates

A template holds an expression in parentheses, and the expression ends where these close, whatever
they stand in.  So it is found again exactly if its own parentheses balance (`read_embed_iff`).
Those of its groups do; only the symbols of its amounts and the patterns of its masks
(`Expr.quoted`) can hold others, and if they balance in each of these, they balance in the whole
(`balanced_of_reads`).
-/

namespace Bookkeeping

open Text

/-- The texts in an expression that are not of its syntax: the symbols of its amounts and the
patterns of its masks. -/
def Expr.quoted : Expr → List String
  | literal (.amount a) => [a.symbol]
  | mask m => [m.source]
  | binary _ l r => l.quoted ++ r.quoted
  | unary _ e => e.quoted
  | _ => []

theorem Mask.source_of_read? {source : String} {m : Mask} (h : Mask.read? source = some m) :
    m.source = source := by
  obtain ⟨p, -, hp⟩ := Option.bind_eq_some_iff.1 h
  split at hp
  · cases hp
    rfl
  · cases hp

namespace Template

/-! ## Balanced texts -/

section

variable {opening closing : Char} {s t : List Char}

theorem balanced_of_not_mem (ho : opening ∉ s) (hc : closing ∉ s) :
    Balanced opening closing s := by
  refine ⟨by rw [List.count_eq_zero.2 ho, List.count_eq_zero.2 hc], fun p hp => ?_⟩
  rw [List.count_eq_zero.2 fun h => hc (hp.subset h)]
  exact Nat.zero_le _

theorem Balanced.append (hs : Balanced opening closing s) (ht : Balanced opening closing t) :
    Balanced opening closing (s ++ t) := by
  refine ⟨by rw [List.count_append, List.count_append, hs.1, ht.1], fun p hp => ?_⟩
  obtain ⟨r, hr⟩ := hp
  rcases List.append_eq_append_iff.1 hr with ⟨u, rfl, -⟩ | ⟨u, rfl, rfl⟩
  · exact hs.2 p (List.prefix_append _ _)
  · have := ht.2 u (List.prefix_append _ _)
    have := hs.1
    simp only [List.count_append]
    omega

theorem Balanced.brackets (hne : closing ≠ opening) (hs : Balanced opening closing s) :
    Balanced opening closing (opening :: (s ++ [closing])) := by
  have hclosing : (s ++ [closing]).count closing = s.count closing + 1 := by simp
  have hopening : (s ++ [closing]).count opening = s.count opening := by
    simp [List.count_eq_zero, hne.symm]
  rw [← balancedFrom_zero, balancedFrom_opening hne]
  have hcount := hs.1
  refine ⟨by omega, fun p hp => ?_⟩
  rcases List.prefix_concat_iff.1 hp with rfl | hp
  · omega
  · have := hs.2 p hp
    omega

theorem balancedFrom_congr (hne : closing ≠ opening) (c : Char)
    (h : ∀ depth, BalancedFrom opening closing depth s ↔ BalancedFrom opening closing depth t)
    (depth : Nat) :
    BalancedFrom opening closing depth (c :: s) ↔ BalancedFrom opening closing depth (c :: t) := by
  by_cases hc : c = closing
  · subst hc
    simp only [balancedFrom_closing hne, h]
  · by_cases ho : c = opening
    · subst ho
      simp only [balancedFrom_opening hne, h]
    · simp only [balancedFrom_other hc ho, h]

/-- The text has no parentheses. -/
def Free (s : List Char) : Prop := '(' ∉ s ∧ ')' ∉ s

theorem Free.balanced (h : Free s) : Balanced '(' ')' s := balanced_of_not_mem h.1 h.2

theorem free_of_forall {p : Char → Bool} (hs : ∀ c ∈ s, p c) (ho : p '(' = false)
    (hc : p ')' = false) : Free s :=
  ⟨fun h => Bool.noConfusion (ho.symm.trans (hs _ h)),
    fun h => Bool.noConfusion (hc.symm.trans (hs _ h))⟩

end

/-! ## Expressions -/

section

open Grammar

variable {s w p r : List Char} {e : Expr}

/-- The parentheses of a mask are those of its pattern. -/
theorem balancedFrom_maskBody (h : MaskBody w p) (depth : Nat) :
    BalancedFrom '(' ')' depth w ↔ BalancedFrom '(' ')' depth p := by
  induction h generalizing depth with
  | nil => rfl
  | slash _ ih =>
    rw [balancedFrom_other (by decide) (by decide)]
    exact balancedFrom_congr (by decide) '/' ih depth
  | char _ _ _ ih => exact balancedFrom_congr (by decide) _ ih depth

theorem balanced_of_surrounds {symbol : List Char} (h : Amount.Surrounds s symbol)
    (hs : Balanced '(' ')' symbol) : Balanced '(' ')' s := by
  obtain ⟨u, v, rfl, hu, hv⟩ := h
  have hu := free_of_forall hu (by decide) (by decide)
  have hv := free_of_forall hv (by decide) (by decide)
  exact hu.balanced.append (hs.append hv.balanced)

/-- All the parentheses of a word stand in the symbol of an amount. -/
theorem balanced_of_leaf (h : Leaf w e) (he : ∀ t ∈ e.quoted, Balanced '(' ')' t.toList) :
    Balanced '(' ')' w := by
  have hdigits {ds : List Char} (hds : ∀ c ∈ ds, c.isDigit) : Free ds :=
    free_of_forall hds (by decide) (by decide)
  obtain ⟨t, ht, hleaf, -⟩ := h.spells
  cases ht with
  | sign hs =>
    rw [leafOf?_eq_none hs] at hleaf
    cases hleaf
  | integer _ hds _ => exact (hdigits hds).balanced
  | decimal _ hds hes _ =>
    rw [← List.singleton_append]
    have hpoint : Free ['.'] := ⟨by decide, by decide⟩
    exact (hdigits hds).balanced.append (hpoint.balanced.append (hdigits hes).balanced)
  | amount hw ha =>
    cases hleaf
    have hbody := balanced_of_surrounds (Amount.surrounds_of_read ha) (he _ (.head _))
    rw [String.toList_ofList] at hbody
    have hopen : Free ['\x7b'] := ⟨by decide, by decide⟩
    have hclose : Free ['\x7d'] := ⟨by decide, by decide⟩
    exact hopen.balanced.append (hbody.append hclose.balanced)
  | @name c cs hc hcs =>
    have hstarts : Free [c] := free_of_forall (p := Token.startsName) (by simpa using hc)
      (by decide +kernel) (by decide +kernel)
    exact hstarts.balanced.append
      (free_of_forall hcs (by decide +kernel) (by decide +kernel)).balanced

theorem balanced_of_blanks {blanks : List Char} (h : ∀ c ∈ blanks, isBlank c) :
    Balanced '(' ')' blanks := (free_of_forall h (by decide) (by decide)).balanced

/-- The part of a text that an expression is read from has balanced parentheses, if what it quotes
has. -/
theorem balanced_of_reads {k : Nat} (h : Reads k s e r)
    (he : ∀ t ∈ e.quoted, Balanced '(' ')' t.toList) :
    ∃ w, s = w ++ r ∧ Balanced '(' ')' w := by
  induction h with
  | leaf hs hleaf =>
    obtain ⟨blanks, rfl, hblanks, -⟩ := hs
    exact ⟨_, (List.append_assoc _ _ _).symm,
      (balanced_of_blanks hblanks).append (balanced_of_leaf hleaf he)⟩
  | @mask blanks w p r m hblanks hw hm =>
    have hsource : m.source = String.ofList p := Mask.source_of_read? hm
    have hpattern := he m.source (.head _)
    rw [hsource, String.toList_ofList, ← balancedFrom_zero, ← balancedFrom_maskBody hw,
      balancedFrom_zero] at hpattern
    have hslash : Free ['/'] := ⟨by decide, by decide⟩
    exact ⟨blanks ++ (['/'] ++ (w ++ ['/'])), by simp, (balanced_of_blanks hblanks).append
      (hslash.balanced.append (hpattern.append hslash.balanced))⟩
  | group hopen _ hclose ih =>
    obtain ⟨blanks, rfl, hblanks, -⟩ := hopen
    obtain ⟨w, rfl, hw⟩ := ih he
    obtain ⟨blanks', rfl, hblanks', -⟩ := hclose
    exact ⟨blanks ++ '(' :: (w ++ blanks' ++ [')']), by simp, (balanced_of_blanks hblanks).append
      ((hw.append (balanced_of_blanks hblanks')).brackets (by decide))⟩
  | unary op hs _ ih =>
    obtain ⟨blanks, rfl, hblanks, -⟩ := hs
    obtain ⟨w, rfl, hw⟩ := ih he
    have hsign : Free (signOf op) := by cases op <;> exact ⟨by decide, by decide⟩
    exact ⟨blanks ++ (signOf op ++ w), by simp,
      (balanced_of_blanks hblanks).append (hsign.balanced.append hw)⟩
  | tighter _ _ ih => exact ih he
  | binary op _ hs _ ih₁ ih₂ =>
    obtain ⟨he₁, he₂⟩ := List.forall_mem_append.1 he
    obtain ⟨w₁, rfl, hw₁⟩ := ih₁ he₁
    obtain ⟨blanks, rfl, hblanks, -⟩ := hs
    obtain ⟨w₂, rfl, hw₂⟩ := ih₂ he₂
    have hsign : Free op.text.toList := by cases op <;> exact ⟨by decide, by decide⟩
    exact ⟨w₁ ++ (blanks ++ (op.text.toList ++ w₂)), by simp,
      hw₁.append ((balanced_of_blanks hblanks).append (hsign.balanced.append hw₂))⟩

/-- A formula whose amounts and masks have balanced parentheses has them altogether. -/
theorem balanced_of_read {text : String} {f : Formula} (h : Formula.read text = .ok f)
    (hf : ∀ t ∈ f.expr.quoted, Balanced '(' ')' t.toList) : Balanced '(' ')' text.toList := by
  rw [Formula.read] at h
  split at h
  · rename_i hblank
    exact balanced_of_blanks (List.all_eq_true.1 hblank)
  · obtain ⟨e, he, rfl⟩ := exists_of_map_eq_ok h
    obtain ⟨r, hreads, hr⟩ := derives_of_read he
    obtain ⟨w, hw, hbalanced⟩ := balanced_of_reads hreads hf
    rw [hw]
    exact hbalanced.append (balanced_of_blanks hr)

end

/-! ## The template of an expression -/

/-- The text of a template that is the expression of this text. -/
def embed (text : String) : String := "%(" ++ text ++ ")"

/-- The expression is the whole template exactly if its parentheses balance. -/
theorem read_embed_iff (text : String) :
    read (embed text) = .ok ⟨[{ field := .expression text }], embed text⟩ ↔
      Balanced '(' ')' text.toList := by
  constructor
  · intro h
    rcases canonical_of_read h _ (.head _) with ⟨s, -, -, -, hs⟩ | hdirected
    · cases hs
    · exact hdirected.field
  · intro h
    have hfield := readField_selector (f := .expression text) h []
    have hdirective : readDirective ('(' :: (text.toList ++ [')'])) =
        .ok (some ({ field := .expression text }, [])) := by
      rw [List.append_nil] at hfield
      change (readField ('(' :: (text.toList ++ [')']))).bind _ = _
      rw [show readField ('(' :: (text.toList ++ [')'])) = _ from hfield]
      rfl
    have htext : (embed text).toList = '%' :: '(' :: (text.toList ++ [')']) := by simp [embed]
    rw [read, htext, readFrom_of_readDirective hdirective, readFrom]
    rfl

/-- An expression that is put into a template is its only element exactly if the parentheses of its
text balance, and they do, however its groups are nested, if they balance in the symbol of each of
its amounts and in the pattern of each of its masks. -/
theorem embeds_iff {text : String} {f : Formula} (h : Formula.read text = .ok f) :
    (read (embed text) = .ok ⟨[{ field := .expression text }], embed text⟩ ↔
      Balanced '(' ')' text.toList) ∧
    ((∀ t ∈ f.expr.quoted, Balanced '(' ')' t.toList) → Balanced '(' ')' text.toList) :=
  ⟨read_embed_iff text, balanced_of_read h⟩

section

open Grammar (Atom MaskBody Spelled plainAtom)

theorem maskBody_plain {w : List Char} (h : ∀ c ∈ w, c ≠ '/' ∧ c ≠ '\\') : MaskBody w w := by
  induction w with
  | nil => exact .nil
  | cons c w ih =>
    obtain ⟨hslash, hescape⟩ := h c (.head _)
    exact .char hslash (fun hc => absurd hc hescape) (ih fun d hd => h d (.tail _ hd))

/-- Masks, one amount, whole numbers and variables as they are written. -/
def atomWith (amount : String) : Expr → List Char
  | .mask m => '/' :: (m.source.toList ++ ['/'])
  | .literal (.amount _) => '\x7b' :: (amount.toList ++ ['\x7d'])
  | e => plainAtom e

theorem exists_mask (source : String) (hread : (Mask.read? source).isSome)
    (h : ∀ c ∈ source.toList, c ≠ '/' ∧ c ≠ '\\') (amount : String) :
    ∃ m, m.source = source ∧ Spelled (atomWith amount) (.mask m) := by
  obtain ⟨m, hm⟩ := Option.isSome_iff_exists.1 hread
  have hsource := Mask.source_of_read? hm
  refine ⟨m, hsource, .mask (maskBody_plain (hsource ▸ h)) ?_⟩
  rwa [String.ofList_toList, hsource]

theorem read_formula {text amount : String} {e : Expr} (h : Spelled (atomWith amount) e)
    (hwrite : Grammar.write (atomWith amount) 0 e = text.toList) (hne : isBlankText text = false) :
    Formula.read text = .ok { expr := e, source := text } := by
  have hread := Grammar.read_write h
  rw [hwrite, String.ofList_toList] at hread
  rw [Formula.read, hne, hread]
  rfl

/-- A group, an amount of a commodity in parentheses, and a mask with a group. -/
theorem embeds_group :
    let text := "(amount + total) * 2 == {5 (d)} && /(^|$)/"
    ∃ f, Formula.read text = .ok f ∧ f.expr.quoted = ["(d)", "(^|$)"] ∧
      (∀ t ∈ f.expr.quoted, Balanced '(' ')' t.toList) ∧
      read (embed text) = .ok ⟨[{ field := .expression text }], embed text⟩ := by
  intro text
  let a : Amount := { quantity := .whole false 5 (by decide)
                      commodity := some { symbol := "(d)", suffixed := true, separated := true } }
  have ha : Amount.read (String.ofList "5 (d)".toList) = .ok a := by decide +kernel
  obtain ⟨m, hsource, hm⟩ := exists_mask "(^|$)" (by decide +kernel) (by simp) "5 (d)"
  let e : Expr := .binary .and
    (.binary .eq (.binary .mul (.binary .add (.known .amount) (.known .total))
      (.literal (.integer (.ofCount 2)))) (.literal (.amount a))) (.mask m)
  have htwo : Grammar.Leaf ['2'] (.literal (.integer (.ofCount 2))) :=
    .integer (by decide) (List.all_eq_true.1 (by decide)) rfl
  have hspelled : Spelled (atomWith "5 (d)") e :=
    ⟨⟨⟨⟨.leaf (.known rfl), .leaf (.known rfl)⟩, .leaf htwo⟩, .leaf (.amount (by decide) ha)⟩, hm⟩
  have hwrite : Grammar.write (atomWith "5 (d)") 0 e = text.toList := by
    simp only [e, Grammar.write, atomWith, hsource]
    decide
  have hread := read_formula hspelled hwrite (by decide)
  have hquoted : e.quoted = ["(d)", "(^|$)"] := by
    simp only [e, Expr.quoted, hsource]
    rfl
  have hbalanced : ∀ t ∈ e.quoted, Balanced '(' ')' t.toList := by
    have hbrackets {s : List Char} (ho : '(' ∉ s) (hc : ')' ∉ s) :
        Balanced '(' ')' ('(' :: (s ++ [')'])) :=
      (balanced_of_not_mem ho hc).brackets (by decide)
    rw [hquoted]
    simp only [List.forall_mem_cons]
    exact ⟨hbrackets (s := ['d']) (by decide) (by decide),
      hbrackets (s := ['^', '|', '$']) (by decide) (by decide), fun _ h => (by cases h)⟩
  obtain ⟨hiff, hall⟩ := embeds_iff hread
  exact ⟨_, hread, hquoted, hbalanced, hiff.2 (hall hbalanced)⟩

/-- An amount of a commodity with one parenthesis, and a mask with one in a comment, are read as
formulas, but there is no end to the expressions of their templates. -/
theorem parenthesis_is_unclosed :
    (∃ f, Formula.read "{5 (}" = .ok f ∧ f.expr.quoted = ["("]) ∧
      read (embed "{5 (}") = .error (.unclosed ')') ∧
    (∃ f, Formula.read "/(?x)#(/" = .ok f ∧ f.expr.quoted = ["(?x)#("]) ∧
      read (embed "/(?x)#(/") = .error (.unclosed ')') := by
  refine ⟨?_, by decide +kernel, ?_, by decide +kernel⟩
  · let a : Amount := { quantity := .whole false 5 (by decide)
                        commodity := some { symbol := "(", suffixed := true, separated := true } }
    have ha : Amount.read (String.ofList "5 (".toList) = .ok a := by decide +kernel
    have hspelled : Spelled (atomWith "5 (") (.literal (.amount a)) :=
      .leaf (.amount (by decide) ha)
    exact ⟨_, read_formula hspelled rfl (by decide), rfl⟩
  · obtain ⟨m, hsource, hm⟩ := exists_mask "(?x)#(" (by decide +kernel) (by simp) ""
    refine ⟨_, read_formula hm ?_ (by decide), congrArg ([·]) hsource⟩
    simp only [Grammar.write, atomWith, hsource]
    rfl

end

end Template

end Bookkeeping
