import Bookkeeping.Proofs.Expr.Grammar

/-!
# Cutting words

`Token.next` cuts off exactly the longest word.  `Spells w t` relates the words to the tokens that
stand for them.  The first character of a word says which of four kinds it is (`headOf`), and so how
it goes on (`Word.continues`) and what stands for it (`Spells.stands`).  The kinds are read apart:
signs (`single_iff`, `orWith_iff`, `pairWith_iff`), numbers (`number_iff`), amounts
(`amountLiteral_iff`) and names (`startingWith_iff`); `next_iff` adds the blanks in front.
-/

namespace Bookkeeping

namespace Grammar

open Text Token

/-! ## Runs of characters -/

/-- The text does not go on with a character of the class. -/
def Stops (p : Char → Bool) (r : List Char) : Prop := ∀ c ∈ r.head?, p c = false

theorem stops_nil (p : Char → Bool) : Stops p [] := by simp [Stops]

theorem stops_cons {p : Char → Bool} {c : Char} {r : List Char} :
    Stops p (c :: r) ↔ p c = false := by
  simp [Stops]

theorem stops_dropWhile (p : Char → Bool) (s : List Char) : Stops p (s.dropWhile p) := by
  intro c hc
  have h := List.head?_dropWhile_not p s
  rw [Option.mem_def.1 hc] at h
  exact h

theorem takeWhile_append_stops {p : Char → Bool} {w r : List Char} (hw : ∀ c ∈ w, p c)
    (hr : Stops p r) : (w ++ r).takeWhile p = w := by
  rw [List.takeWhile_append_of_pos hw]
  cases r with
  | nil => simp
  | cons c r => simp [stops_cons.1 hr]

theorem dropWhile_append_stops {p : Char → Bool} {w r : List Char} (hw : ∀ c ∈ w, p c)
    (hr : Stops p r) : (w ++ r).dropWhile p = r := by
  rw [List.dropWhile_append_of_pos hw]
  cases r with
  | nil => rfl
  | cons c r => simp [stops_cons.1 hr]

/-- A run cannot reach beyond the place where the class stops. -/
theorem length_le_of_prefix {p : Char → Bool} {v w r : List Char} (h : v <+: w ++ r)
    (hv : ∀ c ∈ v, p c) (hr : Stops p r) : v.length ≤ w.length := by
  obtain ⟨t, ht⟩ := h
  rcases List.append_eq_append_iff.1 ht with ⟨a, rfl, -⟩ | ⟨a, rfl, ha⟩
  · simp
  · cases a with
    | nil => simp
    | cons c a =>
      have hc := hv c (by simp)
      rw [ha, List.cons_append, stops_cons, hc] at hr
      cases hr

/-- Two runs up to the same sign are the same run. -/
theorem run_unique {p : Char → Bool} {v w s t : List Char} {c : Char} (hv : ∀ d ∈ v, p d)
    (hw : ∀ d ∈ w, p d) (hc : p c = false) (h : v ++ c :: s = w ++ c :: t) : v = w ∧ s = t := by
  have hs (u : List Char) : Stops p (c :: u) := stops_cons.2 hc
  have hvw := congrArg (·.takeWhile p) h
  simp only [takeWhile_append_stops hv (hs s), takeWhile_append_stops hw (hs t)] at hvw
  subst hvw
  exact ⟨rfl, List.cons.inj (List.append_cancel_left h) |>.2⟩

/-! ## First characters -/

/-- Every letter lies behind the digits and the signs before them. -/
theorem isLetter_eq_false_of_lt {c : Char} (h : c.toNat < 65) : isLetter c = false := by
  have hall : letters.all fun r => 65 ≤ r.1 := by decide +kernel
  rw [isLetter, CharTable.has, List.any_eq_false]
  intro r hr hc
  have := List.all_eq_true.1 hall r hr
  simp only [Bool.and_eq_true, decide_eq_true_eq] at this hc
  omega

theorem startsName_eq_false_of_isDigit {c : Char} (h : c.isDigit) : startsName c = false := by
  have hc : c.toNat < 65 := by
    simp only [Char.isDigit, Bool.and_eq_true, decide_eq_true_eq, UInt32.le_iff_toNat_le] at h
    have : c.val.toNat ≤ 57 := h.2
    exact Nat.lt_of_le_of_lt this (by decide)
  have hne : c ≠ '_' := by
    rintro rfl
    exact absurd hc (by decide)
  simp [startsName, isLetter_eq_false_of_lt hc, hne]

/-- The white-space characters behind the space. -/
def highBlanks : List Nat :=
  [0x85, 0xA0, 0x1680, 0x2000, 0x2001, 0x2002, 0x2003, 0x2004, 0x2005, 0x2006, 0x2007, 0x2008,
   0x2009, 0x200A, 0x2028, 0x2029, 0x202F, 0x205F, 0x3000]

theorem toNat_of_isBlank {c : Char} (h : isBlank c) : c.toNat ≤ 32 ∨ c.toNat ∈ highBlanks := by
  simp only [isBlank, Bool.or_eq_true, Bool.and_eq_true, decide_eq_true_eq, beq_iff_eq] at h
  simp only [highBlanks, List.mem_cons, List.not_mem_nil, or_false]
  omega

theorem isLetter_eq_false_of_mem {l : List Nat}
    (hl : l.all fun n => letters.all fun r => !(r.1.ble n && n.ble r.2)) {c : Char}
    (h : c.toNat ∈ l) : isLetter c = false := by
  rw [isLetter, CharTable.has, List.any_eq_false]
  intro r hr hcr
  have hgap := List.all_eq_true.1 (List.all_eq_true.1 hl _ h) r hr
  simp only [Bool.and_eq_true, decide_eq_true_eq] at hcr
  rw [Nat.ble_eq_true_of_le hcr.1, Nat.ble_eq_true_of_le hcr.2] at hgap
  cases hgap

theorem isLetter_eq_false_of_isBlank {c : Char} (h : isBlank c) : isLetter c = false := by
  rcases toNat_of_isBlank h with hc | hc
  · exact isLetter_eq_false_of_lt (by omega)
  · exact isLetter_eq_false_of_mem (by decide +kernel) hc

theorem startsName_brace : startsName '\x7b' = false := by
  have hletter : isLetter '\x7b' = false :=
    isLetter_eq_false_of_mem (l := [0x7B]) (by decide +kernel) (by decide)
  rw [startsName, hletter]
  decide

/-- The four ways in which a word can begin. -/
inductive Head where
  | sign
  | digit
  | brace
  | letter
deriving DecidableEq

/-- The way in which a word with this first character begins. -/
def headOf (c : Char) : Head :=
  if c.isDigit then .digit
  else if c = '\x7b' then .brace
  else if startsName c then .letter
  else .sign

theorem headOf_of_isDigit {c : Char} (h : c.isDigit) : headOf c = .digit := if_pos h

theorem headOf_brace : headOf '\x7b' = .brace := by decide

theorem headOf_of_startsName {c : Char} (h : startsName c) : headOf c = .letter := by
  have hdigit : ¬c.isDigit := by
    intro hc
    rw [startsName_eq_false_of_isDigit hc] at h
    cases h
  have hbrace : c ≠ '\x7b' := by
    rintro rfl
    rw [startsName_brace] at h
    cases h
  rw [headOf, if_neg hdigit, if_neg hbrace, if_pos h]

theorem headOf_of_mem_signs {c : Char} {w : List Char} (h : c :: w ∈ signs) : headOf c = .sign := by
  have hall : signs.all fun w => w.head?.all fun c =>
      !c.isDigit && c != '\x7b' && c != '_' && (c.toNat < 65 || c.toNat ∈ [0x7C]) := by decide
  have hc := List.all_eq_true.1 hall _ h
  simp only [List.head?_cons, Option.all_some, Bool.and_eq_true, Bool.or_eq_true, bne_iff_ne,
    Bool.not_eq_true', decide_eq_true_eq] at hc
  obtain ⟨⟨⟨hdigit, hbrace⟩, hline⟩, hlow | hbar⟩ := hc
  · have hletter := isLetter_eq_false_of_lt hlow
    simp [headOf, hdigit, hbrace, startsName, hletter, hline]
  · have hletter := isLetter_eq_false_of_mem (by decide +kernel) hbar
    simp [headOf, hdigit, hbrace, startsName, hletter, hline]

/-- No digit, brace or letter is blank. -/
theorem headOf_of_isBlank {c : Char} (h : isBlank c) : headOf c = .sign := by
  have hdigit : ¬c.isDigit := by
    intro hc
    simp only [Char.isDigit, Bool.and_eq_true, decide_eq_true_eq, UInt32.le_iff_toNat_le] at hc
    have h₁ : 48 ≤ c.toNat := hc.1
    have h₂ : c.toNat ≤ 57 := hc.2
    have hhigh : highBlanks.all (57 < ·) := by decide
    rcases toNat_of_isBlank h with hc | hc
    · omega
    · have := List.all_eq_true.1 hhigh _ hc
      simp only [decide_eq_true_eq] at this
      omega
  have hbrace : c ≠ '\x7b' := by
    rintro rfl
    exact absurd h (by decide)
  have hname : ¬startsName c := by
    intro hc
    simp only [startsName, isLetter_eq_false_of_isBlank h, Bool.false_or, beq_iff_eq] at hc
    subst hc
    exact absurd h (by decide)
  rw [headOf, if_neg hdigit, if_neg hbrace, if_neg hname]

theorem length_of_mem_signs {w : List Char} (h : w ∈ signs) : 1 ≤ w.length ∧ w.length ≤ 2 := by
  have hall : signs.all fun w => 1 ≤ w.length && w.length ≤ 2 := by decide
  simpa using List.all_eq_true.1 hall _ h

theorem Word.ne_nil {w : List Char} (h : Word w) : w ≠ [] := by
  cases h with
  | sign h =>
    rintro rfl
    simpa using length_of_mem_signs h
  | integer hne _ => exact hne
  | decimal _ _ _ => simp
  | amount _ => simp
  | name _ _ => simp

/-! ## Longest words -/

/-- How a word goes on that begins with `c`, in each of the four ways. -/
def Continues (c : Char) (w : List Char) : Head → Prop
  | .sign => c :: w ∈ signs
  | .digit => (∀ d ∈ c :: w, d.isDigit) ∨
      ∃ ds es, (∀ d ∈ ds, d.isDigit) ∧ (∀ d ∈ es, d.isDigit) ∧ c :: w = ds ++ '.' :: es
  | .brace => ∃ v, '\x7d' ∉ v ∧ w = v ++ ['\x7d']
  | .letter => ∀ d ∈ w, inName d

theorem Word.continues {c : Char} {w : List Char} (h : Word (c :: w)) :
    Continues c w (headOf c) := by
  generalize hs : c :: w = s at h
  cases h with
  | sign h =>
    subst hs
    rw [headOf_of_mem_signs h]
    exact h
  | integer _ hds =>
    subst hs
    rw [headOf_of_isDigit (hds c (.head _))]
    exact .inl hds
  | @decimal ds es hne hds hes =>
    cases ds with
    | nil => exact absurd rfl hne
    | cons d ds =>
      obtain ⟨rfl, rfl⟩ := List.cons.inj hs
      rw [headOf_of_isDigit (hds c (.head _))]
      exact .inr ⟨c :: ds, es, hds, hes, rfl⟩
  | amount hw =>
    obtain ⟨rfl, rfl⟩ := List.cons.inj hs
    rw [headOf_brace]
    exact ⟨_, hw, rfl⟩
  | name hc hcs =>
    obtain ⟨rfl, rfl⟩ := List.cons.inj hs
    rw [headOf_of_startsName hc]
    exact hcs

/-- A word that begins with a digit is a whole number or a decimal. -/
theorem Word.digits {c : Char} {w : List Char} (h : Word (c :: w)) (hc : c.isDigit) :
    (∀ d ∈ c :: w, d.isDigit) ∨
      ∃ ds es, (∀ d ∈ ds, d.isDigit) ∧ (∀ d ∈ es, d.isDigit) ∧ c :: w = ds ++ '.' :: es := by
  have hw := h.continues
  rwa [headOf_of_isDigit hc] at hw

/-- A word that begins with a sign is one of the signs. -/
theorem Word.mem_signs {c : Char} {w : List Char} (h : Word (c :: w)) (hc : headOf c = .sign) :
    c :: w ∈ signs := by
  have hw := h.continues
  rwa [hc] at hw

/-- A word does not begin with a blank. -/
theorem Word.isBlank_head {c : Char} {w : List Char} (h : Word (c :: w)) : isBlank c = false := by
  rw [Bool.eq_false_iff]
  intro hb
  have hmem := h.mem_signs (headOf_of_isBlank hb)
  have hall : signs.all fun w => w.head?.all fun c => !isBlank c := by decide
  simpa [hb] using List.all_eq_true.1 hall _ hmem

/-- A word that begins with a brace is an amount. -/
theorem Word.braces {w : List Char} (h : Word ('\x7b' :: w)) :
    ∃ v, '\x7d' ∉ v ∧ w = v ++ ['\x7d'] := by
  have hw := h.continues
  rwa [headOf_brace] at hw

/-- A word that begins like a name is one. -/
theorem Word.letters {c : Char} {w : List Char} (h : Word (c :: w)) (hc : startsName c) :
    ∀ d ∈ w, inName d := by
  have hw := h.continues
  rwa [headOf_of_startsName hc] at hw

/-- A word is the longest one if no word with its first character reaches further. -/
theorem longest_of_cons {c : Char} {w r : List Char} (h : Word (c :: w))
    (hmax : ∀ v, Word (c :: v) → v <+: w ++ r → v.length ≤ w.length) : Longest (c :: w) r := by
  refine ⟨h, fun v hv hvw => ?_⟩
  cases v with
  | nil => exact Nat.zero_le _
  | cons d v =>
    rw [List.cons_append, List.cons_prefix_cons] at hvw
    obtain ⟨rfl, hvw⟩ := hvw
    exact Nat.succ_le_succ (hmax v hv hvw)

theorem longest_sign {w r : List Char} (hw : w ∈ signs)
    (h : ∀ v ∈ signs, v <+: w ++ r → v.length ≤ w.length) : Longest w r := by
  cases w with
  | nil => simpa using length_of_mem_signs hw
  | cons c w =>
    refine longest_of_cons (.sign hw) fun v hv hvw => ?_
    have hmem := hv.mem_signs (headOf_of_mem_signs hw)
    have hle := h _ hmem (by simpa [List.cons_prefix_cons] using hvw)
    simpa using hle

theorem longest_integer {ds r : List Char} (hne : ds ≠ []) (hds : ∀ c ∈ ds, c.isDigit)
    (hr : Stops Char.isDigit r) (hpoint : Stops (· == '.') r) : Longest ds r := by
  cases ds with
  | nil => exact absurd rfl hne
  | cons c ds =>
    refine longest_of_cons (.integer hne hds) fun v hv hvr => ?_
    rcases hv.digits (hds c (by simp)) with hd | ⟨es, fs, hes, -, he⟩
    · exact length_le_of_prefix hvr (fun d h => hd d (by simp [h])) hr
    · -- a decimal would have its point behind all of `ds`, where `r` has none
      obtain ⟨t, ht⟩ := hvr
      have hall : es ++ '.' :: (fs ++ t) = (c :: ds) ++ r := by
        calc es ++ '.' :: (fs ++ t) = (es ++ '.' :: fs) ++ t := by simp
          _ = (c :: v) ++ t := by rw [he]
          _ = (c :: ds) ++ r := by rw [List.cons_append, ht, List.cons_append]
      have hes' : es = c :: ds := by
        have h := congrArg (·.takeWhile Char.isDigit) hall
        have hpoint' : Stops Char.isDigit ('.' :: (fs ++ t)) := stops_cons.2 (by decide)
        simpa only [takeWhile_append_stops hes hpoint', takeWhile_append_stops hds hr] using h
      subst hes'
      rw [← List.append_cancel_left hall, stops_cons] at hpoint
      exact absurd hpoint (by decide)

theorem longest_decimal {ds es r : List Char} (hne : ds ≠ []) (hds : ∀ c ∈ ds, c.isDigit)
    (hes : ∀ c ∈ es, c.isDigit) (hr : Stops Char.isDigit r) : Longest (ds ++ '.' :: es) r := by
  cases ds with
  | nil => exact absurd rfl hne
  | cons c ds =>
    change Longest (c :: (ds ++ '.' :: es)) r
    refine longest_of_cons (.decimal hne hds hes) fun v hv hvr => ?_
    rcases hv.digits (hds c (by simp)) with hd | ⟨es', fs, hes', hfs, he⟩
    · have hle := length_le_of_prefix (r := '.' :: (es ++ r)) (by simpa using hvr)
        (fun d h => hd d (by simp [h])) (stops_cons.2 (by decide))
      simp only [List.length_append]
      omega
    · obtain ⟨t, ht⟩ := hvr
      have hall : es' ++ '.' :: (fs ++ t) = (c :: ds) ++ '.' :: (es ++ r) := by
        calc es' ++ '.' :: (fs ++ t) = (es' ++ '.' :: fs) ++ t := by simp
          _ = (c :: v) ++ t := by rw [he]
          _ = (c :: ds) ++ '.' :: (es ++ r) := by rw [List.cons_append, ht]; simp
      obtain ⟨rfl, htail⟩ := run_unique hes' hds (by decide) hall
      have hle := length_le_of_prefix ⟨t, htail⟩ hfs hr
      have hlen := congrArg List.length he
      simp only [List.length_cons, List.length_append] at hlen ⊢
      omega

theorem longest_amount {w r : List Char} (hw : '\x7d' ∉ w) :
    Longest ('\x7b' :: (w ++ ['\x7d'])) r := by
  refine longest_of_cons (.amount hw) fun v hv hvr => ?_
  obtain ⟨u, hu, rfl⟩ := hv.braces
  obtain ⟨t, ht⟩ := hvr
  have hne {s : List Char} (hs : '\x7d' ∉ s) : ∀ c ∈ s, (c != '\x7d') = true := by
    intro c hc
    simp only [bne_iff_ne]
    rintro rfl
    exact hs hc
  obtain ⟨rfl, -⟩ := run_unique (p := (· != '\x7d')) (c := '\x7d') (s := t) (t := r) (hne hu)
    (hne hw) (by simp) (by simpa using ht)
  exact Nat.le_refl _

theorem longest_name {c : Char} {w r : List Char} (hc : startsName c) (hw : ∀ d ∈ w, inName d)
    (hr : Stops inName r) : Longest (c :: w) r :=
  longest_of_cons (.name hc hw) fun _ hv hvr => length_le_of_prefix hvr (hv.letters hc) hr

/-- No sign is longer than two characters. -/
theorem longest_pair {c d : Char} {r : List Char} (hw : [c, d] ∈ signs) : Longest [c, d] r :=
  longest_sign hw fun _ hv _ => (length_of_mem_signs hv).2

theorem longest_single {c : Char} {r : List Char} (hw : [c] ∈ signs)
    (h : ∀ d ∈ r.head?, [c, d] ∉ signs) : Longest [c] r := by
  refine longest_sign hw fun v hv hvr => ?_
  match v with
  | [] => exact Nat.zero_le _
  | [_] => exact Nat.le_refl _
  | x :: y :: v =>
    obtain ⟨u, hu⟩ := hvr
    obtain ⟨rfl, hr⟩ := List.cons.inj hu
    have hlen := (length_of_mem_signs hv).2
    cases v with
    | nil => exact absurd hv (h y (by subst hr; rfl))
    | cons _ _ => simp only [List.length_cons] at hlen; omega

/-- There is only one way to cut off a longest word. -/
theorem Longest.unique {w r w' r' : List Char} (h : Longest w r) (h' : Longest w' r')
    (heq : w ++ r = w' ++ r') : w = w' ∧ r = r' := by
  have hle := h'.2 w h.1 ⟨r, heq⟩
  have hge := h.2 w' h'.1 ⟨r', heq.symm⟩
  exact List.append_inj heq (Nat.le_antisymm hle hge)

/-! ## Tokens -/

/-- The signs with their tokens. -/
def signTokens : List (List Char × Token) :=
  [(['+'], .plus), (['-'], .minus), (['*'], .star), (['/'], .slash), (['=', '='], .equal),
   (['!', '='], .notEqual), (['<'], .less), (['>'], .greater), (['<', '='], .lessEqual),
   (['>', '='], .greaterEqual), (['&', '&'], .and), (['|', '|'], .or), (['!'], .not),
   (['('], .leftParen), ([')'], .rightParen)]

theorem signs_eq : signs = signTokens.map Prod.fst := rfl

/-- The token stands for the word. -/
inductive Spells : List Char → Token → Prop where
  | sign {w : List Char} {t : Token} (h : (w, t) ∈ signTokens) : Spells w t
  | integer {ds : List Char} {n : Whole} (hne : ds ≠ []) (hds : ∀ c ∈ ds, c.isDigit)
      (h : n.val = Nat.ofDigitChars 10 ds 0) : Spells ds (.integer n)
  | decimal {ds es : List Char} {d : Decimal} (hne : ds ≠ []) (hds : ∀ c ∈ ds, c.isDigit)
      (hes : ∀ c ∈ es, c.isDigit) (h : Decimal.ofDigits? (ds ++ '.' :: es) = some d) :
      Spells (ds ++ '.' :: es) (.decimal d)
  | amount {w : List Char} {a : Amount} (hw : '\x7d' ∉ w)
      (h : Amount.read (String.ofList w) = .ok a) :
      Spells ('\x7b' :: (w ++ ['\x7d'])) (.amount a)
  | name {c : Char} {cs : List Char} (hc : startsName c) (hcs : ∀ d ∈ cs, inName d) :
      Spells (c :: cs) (.name (String.ofList (c :: cs)))

theorem mem_signs_of_mem_signTokens {w : List Char} {t : Token} (h : (w, t) ∈ signTokens) :
    w ∈ signs := by
  rw [signs_eq]
  exact List.mem_map_of_mem h

theorem Spells.word {w : List Char} {t : Token} (h : Spells w t) : Word w := by
  cases h with
  | sign h => exact .sign (mem_signs_of_mem_signTokens h)
  | integer hne hds _ => exact .integer hne hds
  | decimal hne hds hes _ => exact .decimal hne hds hes
  | amount hw _ => exact .amount hw
  | name hc hcs => exact .name hc hcs

theorem Spells.ne_endOfInput {w : List Char} {t : Token} (h : Spells w t) :
    t ≠ .endOfInput := by
  rintro rfl
  cases h with
  | sign h => simp [signTokens] at h

/-- What the token is of a word that begins with `c`, in each of the four ways. -/
def Stands (c : Char) (w : List Char) (t : Token) : Head → Prop
  | .sign => (c :: w, t) ∈ signTokens
  | .digit => ((∀ d ∈ c :: w, d.isDigit) ∧ ofIntegerDigits (c :: w) = .ok t) ∨
      ('.' ∈ c :: w ∧ ofDecimalDigits (c :: w) = .ok t)
  | .brace => ∃ v a, w = v ++ ['\x7d'] ∧ Amount.read (String.ofList v) = .ok a ∧ t = .amount a
  | .letter => t = .name (String.ofList (c :: w))

theorem Spells.stands {c : Char} {w : List Char} {t : Token} (h : Spells (c :: w) t) :
    Stands c w t (headOf c) := by
  generalize hs : c :: w = s at h
  cases h with
  | sign h =>
    subst hs
    rw [headOf_of_mem_signs (mem_signs_of_mem_signTokens h)]
    exact h
  | integer _ hds h =>
    subst hs
    rw [headOf_of_isDigit (hds c (.head _))]
    exact .inl ⟨hds, by rw [ofIntegerDigits, Whole.ofInt?_eq_some_iff.2 h]⟩
  | @decimal ds es x hne hds _ h =>
    cases ds with
    | nil => exact absurd rfl hne
    | cons d ds =>
      obtain ⟨rfl, rfl⟩ := List.cons.inj hs
      rw [headOf_of_isDigit (hds c (.head _))]
      have hok : ofDecimalDigits (c :: ds ++ '.' :: es) = .ok (.decimal x) := by
        rw [ofDecimalDigits, h]
      exact .inr ⟨by simp, hok⟩
  | amount _ h =>
    obtain ⟨rfl, rfl⟩ := List.cons.inj hs
    rw [headOf_brace]
    exact ⟨_, _, rfl, h, rfl⟩
  | name hc _ =>
    obtain ⟨rfl, rfl⟩ := List.cons.inj hs
    rw [headOf_of_startsName hc]
    rfl

/-- Where a longest word is known, a token can only stand for that word. -/
theorem exists_longest_iff {s w₀ r₀ r : List Char} {t : Token} (hs : s = w₀ ++ r₀)
    (h₀ : Longest w₀ r₀) :
    (∃ w, s = w ++ r ∧ Longest w r ∧ Spells w t) ↔ r = r₀ ∧ Spells w₀ t := by
  constructor
  · rintro ⟨w, hw, hl, ht⟩
    obtain ⟨rfl, rfl⟩ := hl.unique h₀ (hw.symm.trans hs)
    exact ⟨rfl, ht⟩
  · rintro ⟨rfl, ht⟩
    exact ⟨w₀, hs, h₀, ht⟩

theorem spells_integer_iff {ds : List Char} {t : Token} (hne : ds ≠ [])
    (hds : ∀ c ∈ ds, c.isDigit) : Spells ds t ↔ ofIntegerDigits ds = .ok t := by
  constructor
  · intro h
    obtain ⟨c, cs, rfl⟩ := List.exists_cons_of_ne_nil hne
    have hstands := h.stands
    rw [headOf_of_isDigit (hds c (.head _))] at hstands
    rcases hstands with ⟨-, h⟩ | ⟨hpoint, -⟩
    · exact h
    · exact absurd (hds '.' hpoint) (by decide)
  · intro h
    unfold ofIntegerDigits at h
    split at h
    · rename_i n hn
      cases h
      exact .integer hne hds (Whole.ofInt?_eq_some_iff.1 hn)
    · cases h

theorem spells_decimal_iff {ds es : List Char} {t : Token} (hne : ds ≠ [])
    (hds : ∀ c ∈ ds, c.isDigit) (hes : ∀ c ∈ es, c.isDigit) :
    Spells (ds ++ '.' :: es) t ↔ ofDecimalDigits (ds ++ '.' :: es) = .ok t := by
  constructor
  · intro h
    obtain ⟨c, cs, rfl⟩ := List.exists_cons_of_ne_nil hne
    have hstands := h.stands
    rw [headOf_of_isDigit (hds c (.head _))] at hstands
    rcases hstands with ⟨hall, -⟩ | ⟨-, h⟩
    · exact absurd (hall '.' (by simp)) (by decide)
    · exact h
  · intro h
    unfold ofDecimalDigits at h
    split at h
    · rename_i d hd
      cases h
      exact .decimal hne hds hes hd
    · cases h

/-- The pair is an outcome with a given rest if the token is one and the rest is that rest. -/
theorem map_rest_eq_ok_iff {x : Except SyntaxError Token} {r₀ r : List Char} {t : Token} :
    (x.map fun t => (t, r₀)) = .ok (t, r) ↔ r = r₀ ∧ x = .ok t := by
  cases x with
  | error e => simp [Except.map]
  | ok u =>
    simp only [Except.map, Except.ok.injEq, Prod.mk.injEq]
    exact ⟨fun h => ⟨h.2.symm, h.1⟩, fun h => ⟨h.2, h.1.symm⟩⟩

/-- What `Token.number` reads are the whole numbers and the decimals. -/
theorem number_iff {c : Char} {s r : List Char} {t : Token} (hc : c.isDigit) :
    number (c :: s) = .ok (t, r) ↔ ∃ w, c :: s = w ++ r ∧ Longest w r ∧ Spells w t := by
  have hne : (c :: s).takeWhile Char.isDigit ≠ [] := by simp [hc]
  have hds : ∀ d ∈ (c :: s).takeWhile Char.isDigit, d.isDigit := fun d hd =>
    List.all_eq_true.1 List.all_takeWhile d hd
  have hstop := stops_dropWhile Char.isDigit (c :: s)
  have hsplit := (List.takeWhile_append_dropWhile (p := Char.isDigit) (l := c :: s)).symm
  simp only [number]
  generalize (c :: s).takeWhile Char.isDigit = ds at hne hds hsplit ⊢
  split
  · rename_i u hu
    have hes : ∀ d ∈ u.takeWhile Char.isDigit, d.isDigit := fun d hd =>
      List.all_eq_true.1 List.all_takeWhile d hd
    have hs : c :: s = (ds ++ '.' :: u.takeWhile Char.isDigit) ++ u.dropWhile Char.isDigit := by
      rw [hsplit, hu, List.append_assoc, List.cons_append, List.takeWhile_append_dropWhile]
    rw [exists_longest_iff hs (longest_decimal hne hds hes (stops_dropWhile _ u)),
      spells_decimal_iff hne hds hes, map_rest_eq_ok_iff]
  · rename_i hpoint
    generalize (c :: s).dropWhile Char.isDigit = rest at hstop hsplit hpoint ⊢
    have hpoint' : Stops (· == '.') rest := by
      cases rest with
      | nil => exact stops_nil _
      | cons d rest =>
        rw [stops_cons, beq_eq_false_iff_ne]
        rintro rfl
        exact hpoint rest rfl
    rw [exists_longest_iff hsplit (longest_integer hne hds hstop hpoint'),
      spells_integer_iff hne hds, map_rest_eq_ok_iff]

theorem spells_amount_iff {w : List Char} {t : Token} (hw : '\x7d' ∉ w) :
    Spells ('\x7b' :: (w ++ ['\x7d'])) t ↔
      ∃ a, Amount.read (String.ofList w) = .ok a ∧ t = .amount a := by
  constructor
  · intro h
    have hstands := h.stands
    rw [headOf_brace] at hstands
    obtain ⟨v, a, hv, ha, rfl⟩ := hstands
    obtain rfl := List.append_cancel_right hv
    exact ⟨a, ha, rfl⟩
  · rintro ⟨a, ha, rfl⟩
    exact .amount hw ha

/-- What `Token.amountLiteral` reads are the amounts in braces. -/
theorem amountLiteral_iff {s r : List Char} {t : Token} :
    amountLiteral s = .ok (t, r) ↔
      ∃ w, '\x7b' :: s = w ++ r ∧ Longest w r ∧ Spells w t := by
  have hv : '\x7d' ∉ s.takeWhile (· != '\x7d') := by
    intro h
    have := List.all_eq_true.1 List.all_takeWhile _ h
    simp at this
  have hstop := stops_dropWhile (· != '\x7d') s
  have hsplit := (List.takeWhile_append_dropWhile (p := (· != '\x7d')) (l := s)).symm
  unfold amountLiteral
  generalize s.takeWhile (· != '\x7d') = v at hv hsplit ⊢
  split
  · rename_i hrest
    rw [hrest, List.append_nil] at hsplit
    subst hsplit
    refine ⟨fun h => (by cases h), ?_⟩
    rintro ⟨w, hs, hl, -⟩
    -- the closing brace of the word would have to be in `s`
    cases w with
    | nil => exact absurd rfl hl.1.ne_nil
    | cons c w =>
      obtain ⟨rfl, rfl⟩ := List.cons.inj hs
      obtain ⟨u, -, rfl⟩ := hl.1.braces
      exact absurd (by simp) hv
  · rename_i c rest hrest
    rw [hrest, stops_cons] at hstop
    obtain rfl : c = '\x7d' := by simpa using hstop
    have hs : '\x7b' :: s = '\x7b' :: (v ++ ['\x7d']) ++ rest := by
      rw [hsplit, hrest]
      simp
    rw [exists_longest_iff hs (longest_amount hv), spells_amount_iff hv]
    split
    · rename_i a ha
      simp only [ha, Except.ok.injEq, Prod.mk.injEq, exists_eq_left']
      exact ⟨fun h => ⟨h.2.symm, h.1.symm⟩, fun h => ⟨h.2.symm, h.1.symm⟩⟩
    · rename_i e he
      simp [he]

theorem spells_sign_iff {w : List Char} {t t₀ : Token} (h₀ : (w, t₀) ∈ signTokens) :
    Spells w t ↔ t = t₀ := by
  constructor
  · intro h
    obtain ⟨c, cs, rfl⟩ := List.exists_cons_of_ne_nil h.word.ne_nil
    have hstands := h.stands
    rw [headOf_of_mem_signs (mem_signs_of_mem_signTokens h₀)] at hstands
    have hall : signTokens.all fun p => signTokens.all fun q => p.1 != q.1 || p.2 == q.2 := by
      decide
    simpa using List.all_eq_true.1 (List.all_eq_true.1 hall _ hstands) _ h₀
  · rintro rfl
    exact .sign h₀

/-- A token that is read where its sign is the longest word. -/
theorem ok_sign_iff {s w₀ r₀ r : List Char} {t t₀ : Token} (h₀ : (w₀, t₀) ∈ signTokens)
    (hs : s = w₀ ++ r₀) (hl : Longest w₀ r₀) :
    (Except.ok (t₀, r₀) : Except SyntaxError (Token × List Char)) = .ok (t, r) ↔
      ∃ w, s = w ++ r ∧ Longest w r ∧ Spells w t := by
  rw [exists_longest_iff hs hl, spells_sign_iff h₀, Except.ok.injEq, Prod.mk.injEq]
  exact ⟨fun h => ⟨h.2.symm, h.1.symm⟩, fun h => ⟨h.2.symm, h.1.symm⟩⟩

theorem single_iff {c : Char} {s r : List Char} {t t₀ : Token} (h₀ : ([c], t₀) ∈ signTokens)
    (honly : ∀ d, [c, d] ∉ signs) :
    (Except.ok (t₀, s) : Except SyntaxError (Token × List Char)) = .ok (t, r) ↔
      ∃ w, c :: s = w ++ r ∧ Longest w r ∧ Spells w t :=
  ok_sign_iff h₀ rfl (longest_single (mem_signs_of_mem_signTokens h₀) fun d _ => honly d)

theorem orWith_iff {c d : Char} {s r : List Char} {t t₀ t₁ : Token}
    (h₁ : ([c, d], t₁) ∈ signTokens) (h₀ : ([c], t₀) ∈ signTokens)
    (honly : ∀ x, [c, x] ∈ signs → x = d) :
    (Except.ok (orWith d t₁ t₀ s) : Except SyntaxError (Token × List Char)) = .ok (t, r) ↔
      ∃ w, c :: s = w ++ r ∧ Longest w r ∧ Spells w t := by
  have hsingle := mem_signs_of_mem_signTokens h₀
  cases s with
  | nil => exact ok_sign_iff h₀ rfl (longest_single hsingle (by simp))
  | cons x s =>
    rw [orWith]
    split
    · rename_i hx
      subst hx
      exact ok_sign_iff h₁ rfl (longest_pair (mem_signs_of_mem_signTokens h₁))
    · rename_i hx
      refine ok_sign_iff h₀ rfl (longest_single hsingle fun y hy hmem => hx ?_)
      obtain rfl : x = y := by simpa using hy
      exact honly _ hmem

theorem pairWith_iff {c d : Char} {s r : List Char} {t t₀ : Token} {n : Nat}
    (h₀ : ([c, d], t₀) ∈ signTokens) (honly : ∀ v, c :: v ∈ signs → v = [d]) :
    pairWith d t₀ n s = .ok (t, r) ↔ ∃ w, c :: s = w ++ r ∧ Longest w r ∧ Spells w t := by
  have hc : headOf c = .sign := headOf_of_mem_signs (mem_signs_of_mem_signTokens h₀)
  -- the second character is needed, since no shorter sign begins with `c`
  have hneed (h : ∃ w, c :: s = w ++ r ∧ Longest w r ∧ Spells w t) : d ∈ s.head? := by
    obtain ⟨w, hw, hl, -⟩ := h
    cases w with
    | nil => exact absurd rfl hl.1.ne_nil
    | cons x v =>
      obtain ⟨rfl, rfl⟩ := List.cons.inj hw
      obtain rfl := honly v (hl.1.mem_signs hc)
      rfl
  cases s with
  | nil => exact ⟨fun h => (by cases h), fun h => (by simpa using hneed h)⟩
  | cons x s =>
    rw [pairWith]
    split
    · rename_i hx
      subst hx
      exact ok_sign_iff h₀ rfl (longest_pair (mem_signs_of_mem_signTokens h₀))
    · rename_i hx
      exact ⟨fun h => (by cases h), fun h => absurd (by simpa using hneed h) hx⟩

theorem spells_name_iff {c : Char} {cs : List Char} {t : Token} (hc : startsName c)
    (hcs : ∀ d ∈ cs, inName d) : Spells (c :: cs) t ↔ t = .name (String.ofList (c :: cs)) := by
  constructor
  · intro h
    have hstands := h.stands
    rwa [headOf_of_startsName hc] at hstands
  · rintro rfl
    exact .name hc hcs

/-- `Token.startingWith` reads exactly the longest word, if it stands for a token. -/
theorem startingWith_iff {n : Nat} {c : Char} {s r : List Char} {t : Token} :
    startingWith n c s = .ok (t, r) ↔ ∃ w, c :: s = w ++ r ∧ Longest w r ∧ Spells w t := by
  unfold startingWith
  split
  case h_1 | h_2 | h_3 | h_4 | h_5 | h_6 =>
    exact single_iff (by decide) (by simp [signs])
  case h_7 => exact amountLiteral_iff
  case h_8 | h_9 | h_10 =>
    exact orWith_iff (by decide) (by decide) (by simp [signs])
  case h_11 | h_12 | h_13 =>
    exact pairWith_iff (by decide) (by simp [signs])
  case h_14 =>
    split
    · rename_i hc
      exact number_iff hc
    · rename_i hdigit
      split
      · rename_i hc
        have hcs : ∀ d ∈ s.takeWhile inName, inName d := fun d hd =>
          List.all_eq_true.1 List.all_takeWhile d hd
        have hs : c :: s = (c :: s.takeWhile inName) ++ s.dropWhile inName := by
          rw [List.cons_append, List.takeWhile_append_dropWhile]
        rw [exists_longest_iff hs (longest_name hc hcs (stops_dropWhile _ s)),
          spells_name_iff hc hcs, Except.ok.injEq, Prod.mk.injEq]
        exact ⟨fun h => ⟨h.2.symm, h.1.symm⟩, fun h => ⟨h.2.symm, h.1.symm⟩⟩
      · rename_i hname
        refine ⟨fun h => (by cases h), ?_⟩
        rintro ⟨w, hw, hl, -⟩
        cases w with
        | nil => exact absurd rfl hl.1.ne_nil
        | cons x v =>
          obtain ⟨rfl, -⟩ := List.cons.inj hw
          have hsign : headOf c = .sign := by
            rw [headOf, if_neg hdigit, if_neg (by assumption), if_neg hname]
          have hmem := hl.1.mem_signs hsign
          simp_all [signs]

/-! ## Blanks -/

theorem trimStart_append {blanks s : List Char} (hb : ∀ c ∈ blanks, isBlank c) :
    trimStart (blanks ++ s) = trimStart s := by
  rw [trimStart, List.dropWhile_append_of_pos hb]
  rfl

theorem trimStart_eq_nil_iff {s : List Char} : trimStart s = [] ↔ ∀ c ∈ s, isBlank c := by
  have hs := List.takeWhile_append_dropWhile (p := isBlank) (l := s)
  constructor
  · intro h c hc
    rw [trimStart] at h
    rw [h, List.append_nil] at hs
    rw [← hs] at hc
    exact List.all_eq_true.1 List.all_takeWhile c hc
  · intro h
    simpa [trimStart] using dropWhile_append_stops h (stops_nil isBlank)

theorem cut_iff {s w r : List Char} : Cut s w r ↔ trimStart s = w ++ r ∧ Longest w r := by
  constructor
  · rintro ⟨blanks, rfl, hb, hl⟩
    refine ⟨?_, hl⟩
    rw [trimStart_append hb]
    refine trimStart_eq_self ?_
    cases w with
    | nil => exact absurd rfl hl.1.ne_nil
    | cons c w =>
      intro d hd
      obtain rfl : c = d := by simpa using hd
      exact hl.1.isBlank_head
  · rintro ⟨hs, hl⟩
    refine ⟨s.takeWhile isBlank, ?_, fun c hc => List.all_eq_true.1 List.all_takeWhile c hc, hl⟩
    rw [← hs, trimStart, List.takeWhile_append_dropWhile]

/-- `Token.next` reads exactly the longest word behind the blanks. -/
theorem next_iff {n : Nat} {s r : List Char} {t : Token} (ht : t ≠ .endOfInput) :
    next n s = .ok (t, r) ↔ ∃ w, Cut s w r ∧ Spells w t := by
  unfold next
  simp only [cut_iff]
  split
  · rename_i hs
    rw [hs]
    constructor
    · intro h
      exact absurd (congrArg Prod.fst (Except.ok.inj h)).symm ht
    · rintro ⟨w, ⟨hw, hl⟩, -⟩
      exact absurd (List.append_eq_nil_iff.1 hw.symm).1 hl.1.ne_nil
  · rename_i c rest hs
    rw [hs, startingWith_iff]
    simp only [and_assoc]

/-- `Token.next` finds the end of the text exactly behind nothing but blanks. -/
theorem next_endOfInput_iff {n : Nat} {s r : List Char} :
    next n s = .ok (.endOfInput, r) ↔ r = [] ∧ ∀ c ∈ s, isBlank c := by
  rw [← trimStart_eq_nil_iff]
  unfold next
  split
  · rename_i hs
    simp [hs, eq_comm]
  · rename_i c rest hs
    rw [startingWith_iff]
    constructor
    · rintro ⟨w, -, -, hw⟩
      exact absurd rfl hw.ne_endOfInput
    · rintro ⟨-, h⟩
      exact absurd (hs.symm.trans h) (by simp)

end Grammar

end Bookkeeping
