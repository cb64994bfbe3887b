import Bookkeeping.Expr.Formula
import Bookkeeping.Proofs.Expr.Scanning

/-!
# Parsing

The parser reads exactly the expressions of the grammar.  `operandAt`, `exprAt` and `operatorsAt`
are what the parser reads without the bounds on what is left over; each has its equations and a lemma
that says all it can have done.  A text that is read is derived (`derives_of_read`), by an induction
on the text that carries the level of the expression read so far; a text that is derived is read
(`read_of_derives`), by an induction on the derivation.  The names of variables are the simplest
formulas (`read_name`).
-/

namespace Bookkeeping

namespace Grammar

open Text Token Lexeme Bookkeeping.Expr

/-! ## What the parser reads -/

/-- What has been read, without the bound on what is left over. -/
def plain {p : List Lexeme → Prop} (x : Except SyntaxError (Expr × { rest // p rest })) :
    Except SyntaxError (Expr × List Lexeme) :=
  x.map fun (e, rest) => (e, rest.1)

theorem plain_ok_iff {p : List Lexeme → Prop} {x : Except SyntaxError (Expr × { rest // p rest })}
    {e : Expr} {L : List Lexeme} : plain x = .ok (e, L) ↔ ∃ h, x = .ok (e, ⟨L, h⟩) := by
  constructor
  · intro h
    cases x with
    | error _ => cases h
    | ok q =>
      obtain ⟨e', L', hL⟩ := q
      cases h
      exact ⟨hL, rfl⟩
  · rintro ⟨h, rfl⟩
    rfl

/-- The operand at the front of the steps. -/
def operandAt (s : List Lexeme) : Except SyntaxError (Expr × List Lexeme) := plain (readOperand s)

/-- The operand at the front of the steps with the operators of at least the given precedence. -/
def exprAt (least : Nat) (s : List Lexeme) : Except SyntaxError (Expr × List Lexeme) :=
  plain (readExpr least s)

/-- The operators of at least the given precedence behind an expression. -/
def operatorsAt (least : Nat) (left : Expr) (s : List Lexeme) :
    Except SyntaxError (Expr × List Lexeme) :=
  plain (readOperators least left s)

/-- The expression that a token stands for on its own. -/
def leafOf? : Token → Option Expr
  | .integer n => some (literal (.integer n))
  | .decimal d => some (literal (.amount { quantity := d }))
  | .amount a => some (literal (.amount a))
  | .name s => (ofName s).toOption
  | _ => none

/-- The operator between operands at the front of the steps. -/
def opAt? : List Lexeme → Option BinaryOp
  | .token t _ :: _ => t.binaryOp?
  | _ => none

/-! ### Operands -/

theorem operandAt_leaf {t : Token} {e : Expr} {c : Nat} {rest : List Lexeme}
    (h : leafOf? t = some e) (hf : faultAt? rest = none) :
    operandAt (.token t c :: rest) = .ok (e, rest) := by
  unfold operandAt
  cases t with
  | name s =>
    rw [readOperand, hf]
    simp only [leafOf?] at h
    cases hs : ofName s with
    | error e => simp [hs, Except.toOption] at h
    | ok e' =>
      simp only [hs, Except.toOption, Option.some.injEq] at h
      subst h
      rfl
  | integer n | decimal d | amount a =>
    cases h
    rw [readOperand]
    rfl
  | _ => simp [leafOf?] at h

theorem operandAt_mask {source : String} {m : Mask} {c : Nat} {rest : List Lexeme}
    (h : Mask.read? source = some m) (hf : faultAt? rest = none) :
    operandAt (.mask source c :: rest) = .ok (.mask m, rest) := by
  rw [operandAt, readOperand, hf]
  simp only [ofMask, h]
  rfl

theorem operandAt_group {e : Expr} {c c' : Nat} {rest rest' : List Lexeme}
    (h : exprAt 0 rest = .ok (e, .token .rightParen c' :: rest')) :
    operandAt (.token .leftParen c :: rest) = .ok (e, rest') := by
  obtain ⟨hlt, hx⟩ := plain_ok_iff.1 h
  rw [operandAt, readOperand, hx]
  rfl

theorem operandAt_unary {t : Token} {op : UnaryOp} {e : Expr} {c : Nat}
    {rest rest' : List Lexeme} (ht : t.unaryOp? = some op)
    (h : operandAt rest = .ok (e, rest')) :
    operandAt (.token t c :: rest) = .ok (.unary op e, rest') := by
  obtain ⟨hlt, hx⟩ := plain_ok_iff.1 h
  cases t with
  | minus | not =>
    cases ht
    rw [operandAt, readOperand]
    · simp only [unaryOp?, hx]
      rfl
    all_goals simp
  | _ => cases ht

theorem operandAt_mask_ok {source : String} {e : Expr} {c : Nat} {rest L : List Lexeme}
    (h : operandAt (.mask source c :: rest) = .ok (e, L)) :
    L = rest ∧ ∃ m, Mask.read? source = some m ∧ e = .mask m := by
  rw [operandAt, readOperand] at h
  split at h
  · cases h
  · unfold ofMask at h
    split at h
    · rename_i m hm
      cases h
      exact ⟨rfl, m, hm, rfl⟩
    · cases h

theorem readClosing_ok {s : List Lexeme} {q : { rest : List Lexeme // rest.length ≤ s.length }}
    (h : readClosing s = .ok q) : ∃ c, s = .token .rightParen c :: q.1 := by
  unfold readClosing at h
  split at h
  · cases h
    exact ⟨_, rfl⟩
  · cases h
  · cases h

/-- All that the reading of an operand that begins with a token can be. -/
theorem operandAt_token_ok {t : Token} {e : Expr} {c : Nat} {rest L : List Lexeme}
    (h : operandAt (.token t c :: rest) = .ok (e, L)) :
    (leafOf? t = some e ∧ L = rest) ∨
      (t = .leftParen ∧ ∃ c', exprAt 0 rest = .ok (e, .token .rightParen c' :: L)) ∨
      ∃ op e', t.unaryOp? = some op ∧ operandAt rest = .ok (e', L) ∧ e = .unary op e' := by
  cases t with
  | integer n | decimal d | amount a =>
    rw [operandAt, readOperand] at h
    cases h
    exact .inl ⟨rfl, rfl⟩
  | name s =>
    rw [operandAt, readOperand] at h
    split at h
    · cases h
    · cases hs : ofName s with
      | error x => simp [hs, Except.map, plain] at h
      | ok e' =>
        simp only [hs, Except.map, plain, Except.ok.injEq, Prod.mk.injEq] at h
        obtain ⟨rfl, rfl⟩ := h
        exact .inl ⟨by simp [leafOf?, hs, Except.toOption], rfl⟩
  | leftParen =>
    rw [operandAt, readOperand] at h
    cases hx : readExpr 0 rest with
    | error x => simp [hx, Except.map, plain] at h
    | ok p =>
      obtain ⟨e', rest', hlt⟩ := p
      rw [hx] at h
      simp only at h
      cases hc : readClosing rest' with
      | error x => simp [hc, Except.map, plain] at h
      | ok q =>
        simp only [hc, Except.map, plain, Except.ok.injEq, Prod.mk.injEq] at h
        obtain ⟨rfl, rfl⟩ := h
        obtain ⟨c', hc⟩ := readClosing_ok hc
        refine .inr (.inl ⟨rfl, c', ?_⟩)
        rw [← hc]
        exact plain_ok_iff.2 ⟨hlt, hx⟩
  | minus | not =>
    rw [operandAt, readOperand] at h
    · simp only [unaryOp?] at h
      cases hx : readOperand rest with
      | error x => simp [hx, Except.map, plain] at h
      | ok p =>
        obtain ⟨e', rest', hlt⟩ := p
        simp only [hx, Except.map, plain, Except.ok.injEq, Prod.mk.injEq] at h
        obtain ⟨rfl, rfl⟩ := h
        exact .inr (.inr ⟨_, e', rfl, plain_ok_iff.2 ⟨hlt, hx⟩, rfl⟩)
    all_goals simp
  | _ =>
    rw [operandAt, readOperand] at h
    · cases h
    all_goals simp

theorem exprAt_eq (least : Nat) (s : List Lexeme) :
    exprAt least s = (operandAt s).bind fun (left, rest) => operatorsAt least left rest := by
  rw [exprAt, readExpr, operandAt]
  cases readOperand s with
  | error _ => rfl
  | ok p =>
    obtain ⟨left, rest, hlt⟩ := p
    simp only [plain, Except.map, Except.bind, operatorsAt]
    cases readOperators least left rest with
    | error _ => rfl
    | ok q => rfl

theorem operatorsAt_stop {least : Nat} {left : Expr} {s : List Lexeme} (hf : faultAt? s = none)
    (h : ∀ op, opAt? s = some op → op.precedence < least) :
    operatorsAt least left s = .ok (left, s) := by
  cases s with
  | nil => rw [operatorsAt, readOperators] <;> simp [plain, Except.map]
  | cons l rest =>
    cases l with
    | fault x => cases hf
    | mask source c => rw [operatorsAt, readOperators] <;> simp [plain, Except.map]
    | token t c =>
      rw [operatorsAt, readOperators]
      split
      · rfl
      · rename_i op hop
        rw [if_pos (h op hop)]
        rfl

theorem operatorsAt_step {least : Nat} {left : Expr} {t : Token} {op : BinaryOp} {c : Nat}
    {rest : List Lexeme} (ht : t.binaryOp? = some op) (h : least ≤ op.precedence) :
    operatorsAt least left (.token t c :: rest) =
      (exprAt (op.precedence + 1) rest).bind fun (right, rest') =>
        operatorsAt least (.binary op left right) rest' := by
  rw [operatorsAt, readOperators]
  simp only [ht, Nat.not_lt.2 h, if_false]
  rw [exprAt]
  cases readExpr (op.precedence + 1) rest with
  | error _ => rfl
  | ok p =>
    obtain ⟨right, rest', hlt⟩ := p
    simp only [plain, Except.map, Except.bind, operatorsAt]
    cases readOperators least (.binary op left right) rest' with
    | error _ => rfl
    | ok q => rfl

/-- All that the reading of operators can be. -/
theorem operatorsAt_ok {least : Nat} {left e : Expr} {s L : List Lexeme}
    (h : operatorsAt least left s = .ok (e, L)) :
    (e = left ∧ L = s ∧ ∀ op, opAt? s = some op → op.precedence < least) ∨
      ∃ t c rest op right L', s = .token t c :: rest ∧ t.binaryOp? = some op ∧
        least ≤ op.precedence ∧ exprAt (op.precedence + 1) rest = .ok (right, L') ∧
        operatorsAt least (.binary op left right) L' = .ok (e, L) := by
  have hstop (hf : faultAt? s = none) (hlt : ∀ op, opAt? s = some op → op.precedence < least) :
      e = left ∧ L = s ∧ ∀ op, opAt? s = some op → op.precedence < least := by
    cases h.symm.trans (operatorsAt_stop hf hlt)
    exact ⟨rfl, rfl, hlt⟩
  cases s with
  | nil => exact .inl (hstop rfl (by simp [opAt?]))
  | cons l rest =>
    cases l with
    | fault x =>
      rw [operatorsAt, readOperators] at h
      cases h
    | mask source c => exact .inl (hstop rfl (by simp [opAt?]))
    | token t c =>
      cases ht : t.binaryOp? with
      | none => exact .inl (hstop rfl (by simp [opAt?, ht]))
      | some op =>
        by_cases hlt : op.precedence < least
        · exact .inl (hstop rfl (by simpa [opAt?, ht] using hlt))
        · have hle := Nat.not_lt.1 hlt
          rw [operatorsAt_step ht hle] at h
          cases hx : exprAt (op.precedence + 1) rest with
          | error x =>
            rw [hx] at h
            cases h
          | ok p =>
            rw [hx] at h
            exact .inr ⟨t, c, rest, op, p.1, p.2, rfl, ht, hle, hx, h⟩

/-! ## Words and what the parser takes them for -/

/-- The names of the variables are names. -/
theorem isName_of_ofName? {s : String} {x : Variable} (h : Variable.ofName? s = some x) :
    s.toList.head?.any startsName && s.toList.all inName := by
  unfold Variable.ofName? at h
  split at h
  case h_21 => cases h
  all_goals decide +kernel

theorem ofName_of_ofName? {s : String} {x : Variable} (h : Variable.ofName? s = some x) :
    ofName s = .ok (known x) := by
  unfold ofName
  split
  · cases h
  · cases h
  · rw [h]

/-- No sign is an operand. -/
theorem leafOf?_eq_none {w : List Char} {t : Token} (h : (w, t) ∈ signTokens) :
    leafOf? t = none := by
  have hall : signTokens.all fun p => (leafOf? p.2).isNone := by decide
  simpa using List.all_eq_true.1 hall _ h

theorem leaf_of_spells {w : List Char} {t : Token} {e : Expr} (h : Spells w t)
    (ht : leafOf? t = some e) : Leaf w e ∧ t.endsOperand := by
  cases h with
  | sign h =>
    rw [leafOf?_eq_none h] at ht
    cases ht
  | integer hne hds hn =>
    cases ht
    exact ⟨.integer hne hds hn, rfl⟩
  | decimal hne hds hes hd =>
    cases ht
    exact ⟨.decimal hne hds hes hd, rfl⟩
  | amount hw ha =>
    cases ht
    exact ⟨.amount hw ha, rfl⟩
  | @name c cs hc hcs =>
    refine ⟨?_, rfl⟩
    generalize c :: cs = w at ht
    rw [leafOf?] at ht
    unfold ofName at ht
    have hw : w = (String.ofList w).toList := String.toList_ofList.symm
    generalize String.ofList w = name at ht hw
    subst hw
    split at ht
    · cases ht
      exact .yes
    · cases ht
      exact .no
    · split at ht
      · rename_i x hx
        cases ht
        exact .known (by rwa [String.ofList_toList])
      · cases ht

theorem Leaf.spells {w : List Char} {e : Expr} (h : Leaf w e) :
    ∃ t, Spells w t ∧ leafOf? t = some e ∧ t.endsOperand := by
  cases h with
  | integer hne hds hn => exact ⟨_, .integer hne hds hn, rfl, rfl⟩
  | decimal hne hds hes hd => exact ⟨_, .decimal hne hds hes hd, rfl, rfl⟩
  | amount hw ha => exact ⟨_, .amount hw ha, rfl, rfl⟩
  | yes | no =>
    refine ⟨_, .name (by decide +kernel) ?_, rfl, rfl⟩
    exact List.all_eq_true.1 (by decide +kernel)
  | known hx =>
    have hname := isName_of_ofName? hx
    rw [String.toList_ofList] at hname
    cases w with
    | nil => cases hname
    | cons c cs =>
      simp only [List.head?_cons, Option.any_some, List.all_cons, Bool.and_eq_true,
        List.all_eq_true] at hname
      refine ⟨_, .name hname.1 hname.2.2, ?_, rfl⟩
      rw [leafOf?, ofName_of_ofName? hx]
      rfl

theorem precedence_eq (op : BinaryOp) : op.precedence = level op + 1 := by
  cases op <;> rfl

theorem level_lt (op : BinaryOp) : level op < operandLevel := by
  cases op <;> decide

theorem spells_text (op : BinaryOp) :
    ∃ t, Spells op.text.toList t ∧ t.binaryOp? = some op := by
  have h : ∃ p ∈ signTokens, p.1 = op.text.toList ∧ p.2.binaryOp? = some op := by
    cases op <;> decide
  obtain ⟨⟨w, t⟩, hmem, rfl, ht⟩ := h
  exact ⟨t, .sign hmem, ht⟩

theorem spells_signOf (op : UnaryOp) :
    ∃ t, Spells (signOf op) t ∧ t.unaryOp? = some op := by
  have h : ∃ p ∈ signTokens, p.1 = signOf op ∧ p.2.unaryOp? = some op := by
    cases op <;> decide
  obtain ⟨⟨w, t⟩, hmem, rfl, ht⟩ := h
  exact ⟨t, .sign hmem, ht⟩

theorem text_of_spells {w : List Char} {t : Token} {op : BinaryOp} (h : Spells w t)
    (ht : t.binaryOp? = some op) : w = op.text.toList := by
  cases h with
  | sign h =>
    have hall : signTokens.all fun p => p.2.binaryOp?.all fun op => p.1 == op.text.toList := by
      decide
    simpa [ht] using List.all_eq_true.1 hall _ h
  | _ => cases ht

theorem signOf_of_spells {w : List Char} {t : Token} {op : UnaryOp} (h : Spells w t)
    (ht : t.unaryOp? = some op) : w = signOf op := by
  cases h with
  | sign h =>
    have hall : signTokens.all fun p => p.2.unaryOp?.all fun op => p.1 == signOf op := by decide
    simpa [ht] using List.all_eq_true.1 hall _ h
  | _ => cases ht

/-- What may stand for an operator does not end an operand. -/
theorem endsOperand_of_binaryOp? {t : Token} {op : BinaryOp} (h : t.binaryOp? = some op) :
    t.endsOperand = false := by
  cases t <;> first | rfl | cases h

theorem endsOperand_of_unaryOp? {t : Token} {op : UnaryOp} (h : t.unaryOp? = some op) :
    t.endsOperand = false := by
  cases t <;> first | rfl | cases h

/-! ## Levels -/

theorem Reads.level_le {k : Nat} {s r : List Char} {e : Expr} (h : Reads k s e r) :
    k ≤ operandLevel := by
  cases h with
  | tighter hk _ => exact Nat.le_of_lt hk
  | binary op _ _ _ => exact Nat.le_of_lt (level_lt op)
  | _ => exact Nat.le_refl _

/-- What is on a level is on every looser one. -/
theorem Reads.mono {j k : Nat} {s r : List Char} {e : Expr} (h : Reads j s e r) (hkj : k ≤ j) :
    Reads k s e r := by
  obtain ⟨d, rfl⟩ := Nat.exists_eq_add_of_le hkj
  clear hkj
  induction d with
  | zero => exact h
  | succ d ih =>
    have hle := h.level_le
    exact ih (.tighter (by omega) h)

theorem Cut.length_lt {s w r : List Char} (h : Cut s w r) : r.length < s.length := by
  obtain ⟨blanks, rfl, -, hl⟩ := h
  have := List.length_pos_iff.2 hl.1.ne_nil
  simp only [List.length_append]
  omega

/-! ## What is read is derived -/

section

variable (total : Nat)

/-- An operand read from the text is derived, and the steps that are left over are those of the rest
of the text. -/
def OperandSound (s : List Char) : Prop :=
  ∀ e L, operandAt (scanFrom total true s) = .ok (e, L) →
    ∃ r, L = scanFrom total false r ∧ r.length < s.length ∧ Reads operandLevel s e r

/-- An expression read from the text is derived, and the reading stops in front of an operator that
binds too loosely. -/
def ExprSound (s : List Char) : Prop :=
  ∀ least e L, least ≤ operandLevel + 1 → exprAt least (scanFrom total true s) = .ok (e, L) →
    ∃ r, L = scanFrom total false r ∧ r.length < s.length ∧ Reads (least - 1) s e r ∧
      ∀ op, opAt? L = some op → op.precedence < least

/-- What is read behind an expression on level `j` is derived, if no operator there binds tighter
than that level. -/
def OperatorsSound (s₁ : List Char) : Prop :=
  ∀ s j left least e L, least ≤ operandLevel + 1 → least - 1 ≤ j → Reads j s left s₁ →
    (∀ op, opAt? (scanFrom total false s₁) = some op → least ≤ op.precedence → level op ≤ j) →
    operatorsAt least left (scanFrom total false s₁) = .ok (e, L) →
    ∃ r, L = scanFrom total false r ∧ r.length ≤ s₁.length ∧ Reads (least - 1) s e r ∧
      ∀ op, opAt? L = some op → op.precedence < least

/-- A token in front of the steps is a word in front of the text. -/
theorem scanFrom_eq_token {b : Bool} {s : List Char} {t : Token} {c : Nat} {L : List Lexeme}
    (ht : t ≠ .endOfInput) (h : scanFrom total b s = .token t c :: L) :
    ∃ w r, Cut s w r ∧ Spells w t ∧ L = scanFrom total (!t.endsOperand) r := by
  have hs := scanned_scanFrom total b s
  rw [h] at hs
  cases hs with
  | blank _ => exact absurd rfl ht
  | word hs ht _ => exact ⟨_, _, hs, ht, rfl⟩

variable {total}

theorem operandSound {s : List Char} (ih : ∀ r, r.length < s.length →
    OperandSound total r ∧ ExprSound total r) : OperandSound total s := by
  intro e L h
  have hs := scanned_scanFrom total true s
  generalize scanFrom total true s = steps at h hs
  cases hs with
  | fault x =>
    rw [operandAt, readOperand] at h
    cases h
  | blank _ =>
    rcases operandAt_token_ok h with ⟨h, -⟩ | ⟨h, -⟩ | ⟨_, _, h, -⟩ <;> cases h
  | @word w r t hs ht _ =>
    have hlt := hs.length_lt
    rcases operandAt_token_ok h with ⟨hleaf, rfl⟩ | ⟨rfl, c, hx⟩ | ⟨op, e', hop, hx, rfl⟩
    · obtain ⟨hleaf, hends⟩ := leaf_of_spells ht hleaf
      rw [hends]
      exact ⟨r, rfl, hlt, .leaf hs hleaf⟩
    · obtain ⟨r₁, hr₁, hlt₁, hreads, -⟩ := (ih r hlt).2 0 e _ (Nat.zero_le _) hx
      obtain ⟨w', r₂, hcut, hw', rfl⟩ := scanFrom_eq_token total (by simp) hr₁.symm
      have hlt₂ := hcut.length_lt
      cases ht with
      | sign ht =>
        cases hw' with
        | sign hw' =>
          obtain rfl : w = ['('] := by simpa [signTokens] using ht
          obtain rfl : w' = [')'] := by simpa [signTokens] using hw'
          exact ⟨r₂, rfl, by omega, .group hs hreads hcut⟩
    · rw [endsOperand_of_unaryOp? hop] at hx
      obtain ⟨r₁, rfl, hlt₁, hreads⟩ := (ih r hlt).1 e' L hx
      obtain rfl := signOf_of_spells ht hop
      exact ⟨r₁, rfl, by omega, .unary op hs hreads⟩
  | @mask blanks w p r hb hw _ hs =>
    subst hs
    obtain ⟨rfl, m, hm, rfl⟩ := operandAt_mask_ok h
    refine ⟨r, rfl, ?_, .mask hb hw hm⟩
    simp only [List.length_append, List.length_cons]
    omega

theorem operatorsSound {s₁ : List Char} (ih : ∀ r, r.length < s₁.length →
    ExprSound total r ∧ OperatorsSound total r) : OperatorsSound total s₁ := by
  intro s j left least e L hleast hj hleft hnext h
  rcases operatorsAt_ok h with ⟨rfl, rfl, hstop⟩ |
    ⟨t, c, rest, op, right, L', hs₁, hop, hle, hright, hrest⟩
  · exact ⟨s₁, rfl, Nat.le_refl _, hleft.mono hj, hstop⟩
  · have htok : t ≠ .endOfInput := by
      rintro rfl
      cases hop
    obtain ⟨w, r, hcut, hw, rfl⟩ := scanFrom_eq_token total htok hs₁
    rw [endsOperand_of_binaryOp? hop] at hright
    obtain rfl := text_of_spells hw hop
    have hlevel := level_lt op
    have hprec := precedence_eq op
    have hlt := hcut.length_lt
    obtain ⟨r₁, rfl, hlt₁, hreads, hstop⟩ := (ih r hlt).1 _ right L' (by omega) hright
    -- the new left side is on the level of its operator, and what follows binds no tighter
    have hleft' : Reads (level op) s (.binary op left right) r₁ := by
      refine .binary op (hleft.mono (hnext op ?_ hle)) hcut ?_
      · simp only [hs₁, opAt?, hop]
      · rw [← hprec]
        exact hreads
    have hnext' : ∀ op', opAt? (scanFrom total false r₁) = some op' → least ≤ op'.precedence →
        level op' ≤ level op := by
      intro op' hop' _
      have hlt' := hstop op' hop'
      rw [precedence_eq, precedence_eq] at hlt'
      omega
    obtain ⟨r₂, hL, hlt₂, hreads₂, hstop₂⟩ :=
      (ih r₁ (by omega)).2 s (level op) _ least e L hleast (by omega) hleft' hnext' hrest
    exact ⟨r₂, hL, by omega, hreads₂, hstop₂⟩

theorem exprSound {s : List Char} (hoperand : OperandSound total s)
    (ih : ∀ r, r.length < s.length → OperatorsSound total r) : ExprSound total s := by
  intro least e L hleast h
  rw [exprAt_eq] at h
  cases hx : operandAt (scanFrom total true s) with
  | error x =>
    rw [hx] at h
    cases h
  | ok p =>
    rw [hx] at h
    obtain ⟨left, L₁⟩ := p
    obtain ⟨r, rfl, hlt, hreads⟩ := hoperand left L₁ hx
    obtain ⟨r₁, hL, hle, hreads₁, hstop⟩ := ih r hlt s operandLevel left least e L hleast
      (by omega) hreads (fun op _ _ => Nat.le_of_lt (level_lt op)) h
    exact ⟨r₁, hL, by omega, hreads₁, hstop⟩

variable (total) in
/-- What holds of all shorter texts holds of the next ones. -/
theorem allSound (n : Nat) : ∀ s : List Char, s.length < n →
    OperandSound total s ∧ ExprSound total s ∧ OperatorsSound total s := by
  induction n with
  | zero =>
    intro s h
    omega
  | succ n ih =>
    intro s hs
    have hoperand : OperandSound total s := operandSound fun r hr =>
      ⟨(ih r (by omega)).1, (ih r (by omega)).2.1⟩
    refine ⟨hoperand, exprSound hoperand fun r hr => (ih r (by omega)).2.2, ?_⟩
    exact operatorsSound fun r hr => (ih r (by omega)).2

end

theorem ofLexemes_eq (s : List Lexeme) :
    ofLexemes s = (exprAt 0 s).bind fun (e, rest) => (readEnd rest).map fun _ => e := by
  rw [ofLexemes, exprAt]
  cases readExpr 0 s with
  | error _ => rfl
  | ok p =>
    obtain ⟨e, rest, hlt⟩ := p
    change ((readEnd rest).bind fun _ => .ok e) = (readEnd rest).map fun _ => e
    cases readEnd rest with
    | error _ => rfl
    | ok _ => rfl

theorem readEnd_token {t : Token} {c : Nat} {L : List Lexeme} (ht : t ≠ .endOfInput) :
    readEnd (.token t c :: L) = .error (.trailing t c) := by
  rw [readEnd]
  rintro rfl
  exact ht rfl

/-- The text ends behind an expression if only blanks are left over. -/
theorem blank_of_readEnd {total : Nat} {s : List Char} {u : Unit}
    (h : readEnd (scanFrom total false s) = .ok u) : ∀ c ∈ s, isBlank c := by
  have hs := scanned_scanFrom total false s
  generalize scanFrom total false s = L at hs h
  cases hs with
  | fault _ => cases h
  | blank hblank => exact hblank
  | word _ ht _ =>
    rw [readEnd_token ht.ne_endOfInput] at h
    cases h
  | mask _ _ hfalse _ => cases hfalse

theorem derives_of_read {text : String} {e : Expr} (h : Expr.read text = .ok e) :
    Derives text e := by
  rw [Expr.read, scan, ofLexemes_eq] at h
  cases hx : exprAt 0 (scanFrom text.length true text.toList) with
  | error x =>
    rw [hx] at h
    cases h
  | ok p =>
    rw [hx] at h
    obtain ⟨e', L⟩ := p
    have hsound := (allSound text.length _ text.toList (Nat.lt_succ_self _)).2.1
    obtain ⟨r, rfl, -, hreads, -⟩ := hsound 0 e' L (Nat.zero_le _) hx
    simp only [Except.bind] at h
    cases hend : readEnd (scanFrom text.length false r) with
    | error x =>
      rw [hend] at h
      cases h
    | ok _ =>
      rw [hend] at h
      cases h
      exact ⟨r, hreads, blank_of_readEnd hend⟩

/-! ## What is derived is read -/

theorem exprAt_of_operandAt {least : Nat} {s L : List Lexeme} {e : Expr}
    (h : operandAt s = .ok (e, L)) : exprAt least s = operatorsAt least e L := by
  rw [exprAt_eq, h]
  rfl

/-- Nothing wrong stands where a word stands. -/
theorem faultAt?_cut (total : Nat) {s w r : List Char} {t : Token} (hs : Cut s w r)
    (ht : Spells w t) : faultAt? (scanFrom total false s) = none := by
  rw [scanFrom_cut total hs ht fun _ => rfl]
  rfl

theorem opAt?_cut (total : Nat) {s w r : List Char} {t : Token} (hs : Cut s w r)
    (ht : Spells w t) : opAt? (scanFrom total false s) = t.binaryOp? := by
  rw [scanFrom_cut total hs ht fun _ => rfl]
  rfl

/-- The parser follows the derivation of an expression in front of `r`: an operand it reads as it is,
and an expression on level `k` is what the reading of looser operators goes on with. -/
def Follows (total k : Nat) (s : List Char) (e : Expr) (r : List Char) : Prop :=
  (k = operandLevel → operandAt (scanFrom total true s) = .ok (e, scanFrom total false r)) ∧
    ∀ least, least ≤ k + 1 →
      (∀ op, opAt? (scanFrom total false r) = some op → op.precedence ≤ k + 1) →
      exprAt least (scanFrom total true s) = operatorsAt least e (scanFrom total false r)

theorem Follows.of_operandAt {total k : Nat} {s r : List Char} {e : Expr}
    (h : operandAt (scanFrom total true s) = .ok (e, scanFrom total false r)) :
    Follows total k s e r :=
  ⟨fun _ => h, fun _ _ _ => exprAt_of_operandAt h⟩

theorem Follows.group {total : Nat} {s s₁ s₂ r : List Char} {e : Expr} (hopen : Cut s ['('] s₁)
    (hclose : Cut s₂ [')'] r) (h : Follows total 0 s₁ e s₂) :
    operandAt (scanFrom total true s) = .ok (e, scanFrom total false r) := by
  have hleft : Spells ['('] .leftParen := .sign (by decide)
  have hright : Spells [')'] .rightParen := .sign (by decide)
  have hop := opAt?_cut total hclose hright
  have hno (op : BinaryOp) : opAt? (scanFrom total false s₂) ≠ some op := by
    rw [hop]
    intro h
    cases h
  have hexpr := h.2 0 (Nat.zero_le _) fun op h => absurd h (hno op)
  rw [operatorsAt_stop (faultAt?_cut total hclose hright) fun op h => absurd h (hno op),
    scanFrom_cut total hclose hright fun _ => rfl] at hexpr
  rw [scanFrom_cut total hopen hleft fun h => by cases h]
  exact operandAt_group hexpr

theorem Follows.binary {total : Nat} {s s₁ s₂ r : List Char} {e₁ e₂ : Expr} (op : BinaryOp)
    (hs : Cut s₁ op.text.toList s₂) (hf : faultAt? (scanFrom total false r) = none)
    (h₁ : Follows total (level op) s e₁ s₁) (h₂ : Follows total (level op + 1) s₂ e₂ r) :
    Follows total (level op) s (.binary op e₁ e₂) r := by
  refine ⟨fun h => absurd h (Nat.ne_of_lt (level_lt op)), fun least hleast hstop => ?_⟩
  obtain ⟨t, ht, hop⟩ := spells_text op
  have hprec := precedence_eq op
  rw [h₁.2 least hleast]
  · rw [scanFrom_cut total hs ht fun _ => rfl, operatorsAt_step hop (by omega),
      endsOperand_of_binaryOp? hop]
    -- the right side ends where the next operator binds no tighter than this one
    rw [show !false from rfl, h₂.2 (op.precedence + 1) (by omega), operatorsAt_stop hf]
    · rfl
    · intro op' hop'
      have := hstop op' hop'
      omega
    · intro op' hop'
      exact Nat.le_succ_of_le (hstop op' hop')
  · intro op' hop'
    rw [opAt?_cut total hs ht, hop] at hop'
    cases hop'
    omega

theorem Reads.follows (total : Nat) {k : Nat} {s r : List Char} {e : Expr} (h : Reads k s e r)
    (hf : faultAt? (scanFrom total false r) = none) : Follows total k s e r := by
  induction h with
  | leaf hs hleaf =>
    obtain ⟨t, ht, hleaf, hends⟩ := hleaf.spells
    have hslash : t ≠ .slash := by
      rintro rfl
      cases hleaf
    refine .of_operandAt ?_
    rw [scanFrom_cut total hs ht fun h => absurd h hslash, hends]
    exact operandAt_leaf hleaf hf
  | mask hb hw hm =>
    refine .of_operandAt ?_
    rw [scanFrom_mask total hb hw]
    exact operandAt_mask hm hf
  | group hopen _ hclose ih =>
    have hright : Spells [')'] .rightParen := .sign (by decide)
    exact .of_operandAt (Follows.group hopen hclose (ih (faultAt?_cut total hclose hright)))
  | unary op hs _ ih =>
    obtain ⟨t, ht, hop⟩ := spells_signOf op
    have hslash : t ≠ .slash := by
      rintro rfl
      cases hop
    refine .of_operandAt ?_
    rw [scanFrom_cut total hs ht fun h => absurd h hslash, endsOperand_of_unaryOp? hop]
    exact operandAt_unary hop ((ih hf).1 rfl)
  | tighter hk _ ih =>
    refine ⟨fun h => absurd h (Nat.ne_of_lt hk), fun least hleast hstop => ?_⟩
    exact (ih hf).2 least (by omega) fun op hop => Nat.le_succ_of_le (hstop op hop)
  | binary op _ hs _ ih₁ ih₂ =>
    obtain ⟨t, ht, -⟩ := spells_text op
    exact .binary op hs hf (ih₁ (faultAt?_cut total hs ht)) (ih₂ hf)

theorem read_of_derives {text : String} {e : Expr} (h : Derives text e) :
    Expr.read text = .ok e := by
  obtain ⟨r, hreads, hr⟩ := h
  have hblank := scanFrom_blank text.length false hr
  have hparses := (hreads.follows text.length (by rw [hblank]; rfl)).2 0 (Nat.zero_le _)
    (by rw [hblank]; intro op hop; cases hop)
  rw [Expr.read, scan, ofLexemes_eq, hparses, hblank, operatorsAt_stop rfl]
  · rfl
  · intro op hop
    cases hop

/-- A text is read as an expression exactly if the grammar derives the expression from it. -/
theorem read_eq_ok_iff {text : String} {e : Expr} : Expr.read text = .ok e ↔ Derives text e :=
  ⟨derives_of_read, read_of_derives⟩

/-- The name of a variable is read as the variable. -/
theorem read_name (x : Variable) :
    Formula.read x.name = .ok { expr := .known x, source := x.name } := by
  obtain ⟨c, cs, hname, hc, hcs⟩ : ∃ c cs, x.name.toList = c :: cs ∧ startsName c ∧
      ∀ d ∈ cs, inName d := by
    cases x <;> exact ⟨_, _, rfl, by decide, List.all_eq_true.1 (by decide)⟩
  have hlongest : Longest (c :: cs) [] := longest_name hc hcs (stops_nil _)
  have hleaf : Leaf (c :: cs) (.known x) :=
    .known (by rw [← hname, String.ofList_toList, Variable.ofName?_name])
  have hcut : Cut (c :: cs) (c :: cs) [] :=
    ⟨[], by rw [List.nil_append, List.append_nil], fun _ h => (by cases h), hlongest⟩
  have hderives : Derives x.name (.known x) :=
    ⟨[], hname ▸ (Reads.leaf hcut hleaf).mono (Nat.zero_le _), fun _ h => (by cases h)⟩
  have hblank : isBlankText x.name = false := by
    rw [isBlankText, hname, List.all_cons, hlongest.1.isBlank_head, Bool.false_and]
  rw [Formula.read, hblank, read_eq_ok_iff.2 hderives]
  rfl

end Grammar

end Bookkeeping
