import Bookkeeping.Proofs.Expr.Parsing

/-!
# Writing expressions

`write` is the way to write an expression with parentheses only where the grammar needs them: around
an operation that is looser than its place allows.  `reads_write` derives the expression from what
is written, on any level, so that it is read back (`read_write`).
-/

namespace Bookkeeping

namespace Grammar

open Text Token

/-! ## What is written -/

/-- The text is a way to write the literal, the variable or the mask. -/
inductive Atom : List Char → Expr → Prop where
  | leaf {w : List Char} {e : Expr} (h : Leaf w e) : Atom w e
  | mask {w p : List Char} {m : Mask} (hw : MaskBody w p)
      (hm : Mask.read? (String.ofList p) = some m) : Atom ('/' :: (w ++ ['/'])) (.mask m)

/-- Every literal, variable and mask of the expression is written by `atom`. -/
def Spelled (atom : Expr → List Char) : Expr → Prop
  | .binary _ l r => Spelled atom l ∧ Spelled atom r
  | .unary _ e => Spelled atom e
  | e => Atom (atom e) e

/-- The text in parentheses. -/
def parens (s : List Char) : List Char := '(' :: (s ++ [')'])

/-- The expression as it is written on a level. -/
def write (atom : Expr → List Char) : Nat → Expr → List Char
  | k, .binary op l r =>
    let s := write atom (level op) l ++ ' ' :: (op.text.toList ++
      ' ' :: write atom (level op + 1) r)
    if level op < k then parens s else s
  | _, .unary op e => signOf op ++ write atom operandLevel e
  | _, e => atom e

/-! ## Words in what is written -/

/-- The text ends here, or goes on with a space or a closing parenthesis. -/
def Ends (r : List Char) : Prop := ∀ c ∈ r.head?, c = ' ' ∨ c = ')'

theorem ends_nil : Ends [] := by simp [Ends]

theorem ends_space (r : List Char) : Ends (' ' :: r) := by simp [Ends]

theorem ends_closing (r : List Char) : Ends (')' :: r) := by simp [Ends]

/-- A class without the space and the closing parenthesis stops where the text ends. -/
theorem Ends.stops {p : Char → Bool} {r : List Char} (h : Ends r) (hspace : p ' ' = false)
    (hclosing : p ')' = false) : Stops p r := by
  intro c hc
  rcases h c hc with rfl | rfl
  · exact hspace
  · exact hclosing

theorem Leaf.longest {w r : List Char} {e : Expr} (h : Leaf w e) (hr : Ends r) :
    Longest w r := by
  have hdigit : Stops Char.isDigit r := hr.stops (by decide) (by decide)
  obtain ⟨t, ht, hleaf, -⟩ := h.spells
  cases ht with
  | sign hs =>
    rw [leafOf?_eq_none hs] at hleaf
    cases hleaf
  | integer hne hds _ => exact longest_integer hne hds hdigit (hr.stops (by decide) (by decide))
  | decimal hne hds hes _ => exact longest_decimal hne hds hes hdigit
  | amount hw _ => exact longest_amount hw
  | name hc hcs =>
    exact longest_name hc hcs (hr.stops (by decide +kernel) (by decide +kernel))

/-- No leaf begins with an equals sign, since only signs do. -/
theorem Leaf.head?_ne {w : List Char} {e : Expr} (h : Leaf w e) : w.head? ≠ some '=' := by
  intro hhead
  cases w with
  | nil => cases hhead
  | cons c w =>
    cases hhead
    have hsign : headOf '=' = .sign := headOf_of_mem_signs (w := ['=']) (by decide)
    have hmem := (h.longest ends_nil).1.mem_signs hsign
    rw [signs_eq] at hmem
    obtain ⟨⟨v, t₀⟩, hmem, rfl⟩ := List.mem_map.1 hmem
    obtain ⟨t, ht, hleaf, -⟩ := h.spells
    rw [(spells_sign_iff hmem).1 ht, leafOf?_eq_none hmem] at hleaf
    cases hleaf

/-- An operator between spaces is a word. -/
theorem longest_text (op : BinaryOp) (r : List Char) : Longest op.text.toList (' ' :: r) := by
  cases op <;> first
    | exact longest_single (by decide) (by simp [signs])
    | exact longest_pair (by decide)

theorem cut_self {w r : List Char} (h : Longest w r) : Cut (w ++ r) w r := ⟨[], rfl, by simp, h⟩

theorem cut_opening (r : List Char) : Cut ('(' :: r) ['('] r :=
  cut_self (longest_single (by decide) (by simp [signs]))

theorem cut_closing (r : List Char) : Cut (')' :: r) [')'] r :=
  cut_self (longest_single (by decide) (by simp [signs]))

/-- No operand is written with an equals sign in front, which an exclamation mark would take for
its own. -/
theorem head?_write {atom : Expr → List Char} {e : Expr} (h : Spelled atom e) (r : List Char) :
    (write atom operandLevel e ++ r).head? ≠ some '=' := by
  have hatom {w : List Char} {e : Expr} (h : Atom w e) : (w ++ r).head? ≠ some '=' := by
    cases h with
    | mask _ _ => simp
    | leaf h =>
      cases w with
      | nil => exact absurd rfl (h.longest ends_nil).1.ne_nil
      | cons c w => exact h.head?_ne
  cases e with
  | binary op l r => simp [write, level_lt, parens]
  | unary op e => cases op <;> simp [write, signOf]
  | literal v | known x | mask m => exact hatom h

theorem cut_signOf {op : UnaryOp} {r : List Char} (h : r.head? ≠ some '=') :
    Cut (signOf op ++ r) (signOf op) r := by
  refine cut_self ?_
  cases op with
  | neg => exact longest_single (by decide) (by simp [signs])
  | not =>
    refine longest_single (by decide) fun d hd hmem => h ?_
    obtain rfl : d = '=' := by simpa [signs] using hmem
    exact hd

/-! ## What is written is derived -/

/-- Blanks in front of an expression do not matter. -/
theorem Reads.blanks {k : Nat} {s r : List Char} {e : Expr} (h : Reads k s e r)
    {blanks : List Char} (hb : ∀ c ∈ blanks, isBlank c) : Reads k (blanks ++ s) e r := by
  have hcut {s w r : List Char} (h : Cut s w r) : Cut (blanks ++ s) w r := by
    obtain ⟨blanks', rfl, hb', hl⟩ := h
    refine ⟨blanks ++ blanks', by simp, fun c hc => ?_, hl⟩
    rcases List.mem_append.1 hc with hc | hc
    · exact hb c hc
    · exact hb' c hc
  induction h with
  | leaf hs hleaf => exact .leaf (hcut hs) hleaf
  | @mask blanks' w p r m hb' hw hm =>
    rw [← List.append_assoc]
    refine .mask (fun c hc => ?_) hw hm
    rcases List.mem_append.1 hc with hc | hc
    · exact hb c hc
    · exact hb' c hc
  | group hopen he hclose _ => exact .group (hcut hopen) he hclose
  | unary op hs he _ => exact .unary op (hcut hs) he
  | tighter hk _ ih => exact .tighter hk ih
  | binary op _ hs h₂ ih₁ _ => exact .binary op ih₁ hs h₂

theorem reads_atom {w r : List Char} {e : Expr} (h : Atom w e) (hr : Ends r) :
    Reads operandLevel (w ++ r) e r := by
  cases h with
  | leaf h => exact .leaf (cut_self (h.longest hr)) h
  | @mask v p m hw hm =>
    have hblank : ∀ c ∈ ([] : List Char), isBlank c := by simp
    simpa using Reads.mask (r := r) hblank hw hm

/-- What is written on a level is derived on that level. -/
theorem reads_write {atom : Expr → List Char} {e : Expr} (h : Spelled atom e) {k : Nat}
    (hk : k ≤ operandLevel) {r : List Char} (hr : Ends r) :
    Reads k (write atom k e ++ r) e r := by
  induction e generalizing k r with
  | literal v | known x | mask m => exact (reads_atom h hr).mono hk
  | unary op e ih =>
    have he : Spelled atom e := h
    rw [write, List.append_assoc]
    exact (Reads.unary op (cut_signOf (head?_write he r)) (ih he (Nat.le_refl _) hr)).mono hk
  | binary op l r' ihl ihr =>
    have hbody {r : List Char} (hr : Ends r) : Reads (level op)
        ((write atom (level op) l ++ ' ' :: (op.text.toList ++
          ' ' :: write atom (level op + 1) r')) ++ r) (.binary op l r') r := by
      have hspace : ∀ c ∈ [' '], isBlank c := List.all_eq_true.1 (by decide)
      have hlevel := level_lt op
      have hright := (ihr h.2 (k := level op + 1) (by omega) hr).blanks hspace
      have hcut : Cut (' ' :: (op.text.toList ++ ' ' :: (write atom (level op + 1) r' ++ r)))
          op.text.toList (' ' :: (write atom (level op + 1) r' ++ r)) :=
        ⟨[' '], rfl, hspace, longest_text op _⟩
      have hleft := ihl h.1 (Nat.le_of_lt hlevel) (ends_space (op.text.toList ++
        ' ' :: (write atom (level op + 1) r' ++ r)))
      simpa using Reads.binary op hleft hcut hright
    rw [write]
    split
    · rw [parens, List.cons_append, List.append_assoc]
      exact (Reads.group (cut_opening _) ((hbody (ends_closing r)).mono (Nat.zero_le _))
        (cut_closing r)).mono hk
    · exact (hbody hr).mono (by omega)

/-- An expression is read back from what is written for it. -/
theorem read_write {atom : Expr → List Char} {e : Expr} (h : Spelled atom e) :
    Expr.read (String.ofList (write atom 0 e)) = .ok e := by
  refine read_of_derives ⟨[], ?_, by simp⟩
  rw [String.toList_ofList]
  simpa using reads_write h (Nat.zero_le _) ends_nil

/-! ## The parser and the grammar -/

/-- The parser reads exactly what the grammar derives, which is never more than one expression from
one text; and it reads back every expression that is written with parentheses only where the grammar
needs them. -/
theorem parser_meets_grammar :
    (∀ text e, Expr.read text = .ok e ↔ Derives text e) ∧
    (∀ text e₁ e₂, Derives text e₁ → Derives text e₂ → e₁ = e₂) ∧
    ∀ atom e, Spelled atom e → Expr.read (String.ofList (write atom 0 e)) = .ok e := by
  refine ⟨fun _ _ => read_eq_ok_iff, fun text e₁ e₂ h₁ h₂ => ?_, fun _ _ => read_write⟩
  have h := (read_of_derives h₁).symm.trans (read_of_derives h₂)
  exact Except.ok.inj h

/-- Whole numbers and variables as they are written. -/
def plainAtom : Expr → List Char
  | .literal (.integer n) => Nat.toDigits 10 n.val.toNat
  | .known x => x.name.toList
  | _ => []

/-- A difference as the factor of a product keeps its parentheses. -/
theorem parser_meets_grammar_product :
    let e : Expr := .binary .mul
      (.binary .sub (.known .amount) (.literal (.integer (.ofCount 1))))
      (.literal (.integer (.ofCount 20)))
    Spelled plainAtom e ∧ write plainAtom 0 e = "(amount - 1) * 20".toList ∧
      Expr.read "(amount - 1) * 20" = .ok e := by
  intro e
  have hspelled : Spelled plainAtom e :=
    ⟨⟨.leaf (.known rfl), .leaf (.integer (by decide) (List.all_eq_true.1 (by decide)) rfl)⟩,
      .leaf (.integer (by decide) (List.all_eq_true.1 (by decide)) rfl)⟩
  have hwrite : write plainAtom 0 e = "(amount - 1) * 20".toList := by decide
  refine ⟨hspelled, hwrite, ?_⟩
  have hread := parser_meets_grammar.2.2 plainAtom e hspelled
  rwa [hwrite, String.ofList_toList] at hread

end Grammar

end Bookkeeping
