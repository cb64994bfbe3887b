import Bookkeeping.Amount.Reader
import Bookkeeping.Proofs.Decimal.Reading
import Bookkeeping.Proofs.Expr.Words
import Mathlib.Data.List.TakeWhile

/-!
# Reading amounts back

`Amount.written` gives the parts of which the text of an amount is made (`toList_text`).  If its
symbol is `Placed`, the parts are found again (`split?_chars`), so that the amount is read back
(`read_text`).  Whatever is read has a symbol that is placed (`placed_of_split?`), and around that
symbol stands nothing but blanks, signs and the number (`surrounds_of_read`).
-/

namespace Bookkeeping

open Grammar (Stops stops_nil stops_cons stops_dropWhile takeWhile_append_stops
  dropWhile_append_stops trimStart_append)
open Text
open Decimal (IsNumeral)

namespace Amount

/-- The sign of a number, if it has one. -/
def signChars (negative : Bool) : List Char := if negative then ['-'] else []

/-- The space between a symbol and its number, if there is one. -/
def gapChars (separated : Bool) : List Char := if separated then [' '] else []

/-- The parts in the order in which they are written. -/
def Written.chars (w : Written) : List Char :=
  if w.suffixed then signChars w.negative ++ (w.number ++ (gapChars w.separated ++ w.symbol))
  else w.symbol ++ (gapChars w.separated ++ (signChars w.negative ++ w.number))

/-- A symbol can be told from the number that it stands behind or in front of. -/
structure Placed (symbol : List Char) (suffixed separated : Bool) : Prop where
  bare : symbol = [] → suffixed = true ∧ separated = false
  solid : ∀ c ∈ symbol, isBlank c = false
  behind : suffixed = true → separated = false → Stops isNumberChar symbol
  before : suffixed = false → ∀ c ∈ symbol, endsSymbol c = false

/-! ## Finding the parts -/

section

variable {c : Char} {s : List Char} {w : Written}

theorem isBlank_of_isNumberChar (h : isNumberChar c) : isBlank c = false := by
  rw [Bool.eq_false_iff]
  intro hb
  have hdigit : ¬c.isDigit := fun hdigit => by
    cases (Grammar.headOf_of_isBlank hb).symm.trans (Grammar.headOf_of_isDigit hdigit)
  simp only [isNumberChar, hdigit, Bool.false_or, Bool.or_eq_true, beq_iff_eq] at h
  rcases h with rfl | rfl <;> exact absurd hb (by decide)

theorem isNumberChar_of_mem (h : IsNumeral s) : ∀ c ∈ s, isNumberChar c := by
  intro c hc
  rcases h.chars c hc with hdigit | rfl
  · simp [isNumberChar, hdigit]
  · rfl

/-- A number has no commas that would be left out. -/
theorem filter_numeral (h : IsNumeral s) : s.filter (· != ',') = s := by
  refine List.filter_eq_self.2 fun c hc => bne_iff_ne.2 ?_
  rintro rfl
  rcases h.chars _ hc with hdigit | hpoint
  · exact absurd hdigit (by decide)
  · cases hpoint

/-- A number without a sign begins with a digit. -/
theorem exists_digit (h : IsNumeral s) : ∃ c t, s = c :: t ∧ c.isDigit := by
  obtain ⟨c, hc, hdigit⟩ := h.head
  cases s with
  | nil => cases hc
  | cons d t =>
    cases hc
    exact ⟨_, t, rfl, hdigit⟩

theorem ne_sign_of_isDigit (h : c.isDigit) : c ≠ '-' := by
  rintro rfl
  exact absurd h (by decide)

theorem trimStart_numeral (h : IsNumeral s) (r : List Char) : trimStart (s ++ r) = s ++ r := by
  obtain ⟨c, t, rfl, hdigit⟩ := exists_digit h
  refine trimStart_eq_self fun d hd => ?_
  cases hd
  exact isBlank_of_isNumberChar (isNumberChar_of_mem h c (.head _))

theorem trimEnd_numeral (h : IsNumeral s) : trimEnd s = s :=
  trimEnd_eq_self fun c hc =>
    isBlank_of_isNumberChar (isNumberChar_of_mem h c (List.mem_of_mem_getLast? hc))

theorem takeSign_cons (h : c ≠ '-') : takeSign (c :: s) = (false, c :: s) := by
  rw [takeSign]
  rintro rest ⟨⟩
  exact h rfl

/-- The sign in front of a number is found, or that there is none. -/
theorem takeSign_numeral (h : IsNumeral s) (negative : Bool) (r : List Char) :
    takeSign (signChars negative ++ (s ++ r)) = (negative, s ++ r) := by
  cases negative with
  | true => exact congrArg (true, ·) (trimStart_numeral h r)
  | false =>
    obtain ⟨c, t, rfl, hdigit⟩ := exists_digit h
    exact takeSign_cons (ne_sign_of_isDigit hdigit)

theorem startsBlank_of_solid (h : ∀ c ∈ s, isBlank c = false) : startsBlank s = false := by
  cases s with
  | nil => rfl
  | cons c s => exact h c (.head _)

theorem trimStart_gap (separated : Bool) (h : ∀ c ∈ s, isBlank c = false) :
    trimStart (gapChars separated ++ s) = s := by
  have hs := trimStart_eq_self fun c hc => h c (List.mem_of_mem_head? hc)
  have hspace : ∀ c ∈ [' '], isBlank c := List.all_eq_true.1 (by decide)
  cases separated with
  | true => exact (trimStart_append hspace).trans hs
  | false => exact hs

theorem startsBlank_gap (separated : Bool) (h : ∀ c ∈ s, isBlank c = false) :
    startsBlank (gapChars separated ++ s) = separated := by
  cases separated with
  | true => rfl
  | false => exact startsBlank_of_solid h

theorem solid_signed (h : IsNumeral s) (negative : Bool) :
    ∀ c ∈ signChars negative ++ s, isBlank c = false := by
  intro c hc
  rcases List.mem_append.1 hc with hc | hc
  · cases negative with
    | true =>
      rw [List.mem_singleton.1 hc]
      decide
    | false => cases hc
  · exact isBlank_of_isNumberChar (isNumberChar_of_mem h c hc)

theorem split?_suffixed {negative separated : Bool} {symbol number : List Char}
    (h : Placed symbol true separated) (hn : IsNumeral number) :
    split? (signChars negative ++ (number ++ (gapChars separated ++ symbol))) =
      some ⟨negative, symbol, number, true, separated⟩ := by
  have hstops : Stops isNumberChar (gapChars separated ++ symbol) := by
    cases separated with
    | true => exact stops_cons.2 (by decide)
    | false => exact h.behind rfl rfl
  have htrim : trim (gapChars separated ++ symbol) = symbol := by
    rw [trim, trimStart_gap separated h.solid]
    exact trimEnd_eq_self fun c hc => h.solid c (List.mem_of_mem_getLast? hc)
  have hseparated : (!symbol.isEmpty && separated) = separated := by
    cases symbol with
    | nil => exact (h.bare rfl).2.symm
    | cons c t => rfl
  have hhead : (number ++ (gapChars separated ++ symbol)).head?.any startsNumber := by
    obtain ⟨c, t, rfl, hdigit⟩ := exists_digit hn
    simp [startsNumber, hdigit]
  have hnumber := isNumberChar_of_mem hn
  simp only [split?, takeSign_numeral hn, if_pos hhead, splitSuffixed,
    takeWhile_append_stops hnumber hstops, dropWhile_append_stops hnumber hstops, htrim,
    startsBlank_gap separated h.solid, hseparated]

theorem split?_prefixed {negative separated : Bool} {symbol number : List Char}
    (h : Placed symbol false separated) (hn : IsNumeral number) :
    split? (symbol ++ (gapChars separated ++ (signChars negative ++ number))) =
      some ⟨negative, symbol, number, false, separated⟩ := by
  obtain ⟨d, t, hd, hdigit⟩ := exists_digit hn
  have hsolid := solid_signed hn negative
  -- the symbol goes up to the space, the sign or the first digit
  have hstops : Stops (!endsSymbol ·) (gapChars separated ++ (signChars negative ++ number)) := by
    cases separated with
    | true => exact stops_cons.2 (by decide)
    | false =>
      cases negative with
      | true => exact stops_cons.2 (by decide)
      | false => rw [hd]; exact stops_cons.2 (by simp [endsSymbol, hdigit])
  have hsymbol : ∀ c ∈ symbol, !endsSymbol c := fun c hc => by
    rw [h.before rfl c hc, Bool.not_false]
  have hprefixed : splitPrefixed false
      (symbol ++ (gapChars separated ++ (signChars negative ++ number))) =
        ⟨negative, symbol, number, false, separated⟩ := by
    rw [splitPrefixed, takeWhile_append_stops hsymbol hstops, dropWhile_append_stops hsymbol hstops,
      startsBlank_gap separated hsolid, trimStart_gap separated hsolid]
    cases negative with
    | true =>
      show (⟨true, symbol, trimEnd number, false, separated⟩ : Written) = _
      rw [trimEnd_numeral hn]
    | false =>
      rw [show signChars false ++ number = number from rfl]
      split
      · exact absurd (List.cons.inj hd).1.symm (ne_sign_of_isDigit hdigit)
      · rw [trimEnd_numeral hn]
  cases symbol with
  | nil => exact absurd (h.bare rfl).1 (by decide)
  | cons c s =>
    have hc := h.before rfl c (.head _)
    simp only [endsSymbol, Bool.or_eq_false_iff, beq_eq_false_iff_ne] at hc
    have hhead : startsNumber c = false := by simp [startsNumber, hc]
    rw [List.cons_append] at hprefixed ⊢
    simp only [split?, takeSign_cons hc.1.1.2, hprefixed, List.head?_cons, Option.any_some, hhead,
      Bool.false_eq_true, if_false, List.isEmpty_cons]

/-- Parts of which the symbol is placed are found again. -/
theorem split?_chars (h : Placed w.symbol w.suffixed w.separated) (hn : IsNumeral w.number) :
    split? w.chars = some w := by
  obtain ⟨negative, symbol, number, suffixed, separated⟩ := w
  cases suffixed with
  | true => exact split?_suffixed h hn
  | false => exact split?_prefixed h hn

/-- Blanks in the middle of a text are not at its ends. -/
theorem trim_between {u v : List Char} (hu : u ≠ []) (hv : v ≠ [])
    (hu' : ∀ c ∈ u, isBlank c = false) (hv' : ∀ c ∈ v, isBlank c = false) (m : List Char) :
    trim (u ++ (m ++ v)) = u ++ (m ++ v) := by
  refine trim_eq_self (fun c hc => hu' c ?_) fun c hc => hv' c ?_
  · rw [List.head?_append_of_ne_nil _ hu] at hc
    exact List.mem_of_mem_head? hc
  · rw [← List.append_assoc, List.getLast?_append_of_ne_nil _ hv] at hc
    exact List.mem_of_mem_getLast? hc

theorem trim_chars (h : Placed w.symbol w.suffixed w.separated) (hn : IsNumeral w.number) :
    trim w.chars = w.chars := by
  obtain ⟨negative, symbol, number, suffixed, separated⟩ := w
  have hsigned : signChars negative ++ number ≠ [] := by
    obtain ⟨c, t, rfl, -⟩ : ∃ c t, number = c :: t ∧ c.isDigit := exists_digit hn
    simp
  have hsolid := solid_signed hn negative
  rw [Written.chars]
  cases suffixed with
  | false =>
    have hsymbol : symbol ≠ [] := fun hnil => Bool.noConfusion (h.bare hnil).1
    exact trim_between hsymbol hsigned h.solid hsolid _
  | true =>
    simp only [if_true, ← List.append_assoc (signChars negative)]
    by_cases hsymbol : symbol = []
    · obtain rfl : separated = false := (h.bare hsymbol).2
      subst hsymbol
      rw [show gapChars false ++ ([] : List Char) = [] from rfl, List.append_nil]
      exact trim_eq_self (fun c hc => hsolid c (List.mem_of_mem_head? hc))
        fun c hc => hsolid c (List.mem_of_mem_getLast? hc)
    · exact trim_between hsigned hsymbol hsolid h.solid _

theorem writtenPlaces_charsTo {d : Decimal} (h : d.negative = false) (p : Nat) :
    writtenPlaces (d.charsTo p) = p := by
  have hwhole : ∀ c ∈ d.wholeDigits, (c != '.') = true := fun c hc =>
    bne_iff_ne.2 (Decimal.ne_point_of_isDigit (d.isDigit_of_mem_wholeDigits c hc))
  rw [writtenPlaces, d.charsTo_eq h]
  split
  · rename_i hp
    rw [dropWhile_append_stops hwhole (stops_nil _), hp]
    rfl
  · rw [dropWhile_append_stops hwhole (stops_cons.2 (by decide)), List.length_cons,
      d.length_shownDigits, Nat.add_sub_cancel]

/-- The commodity that the parts name, with the places that are written. -/
def Written.commodity (w : Written) : Option Commodity :=
  if w.symbol.isEmpty then none
  else some
    { symbol := String.ofList w.symbol
      precision := min (writtenPlaces (w.number.filter (· != ','))) Commodity.maxPrecision
      suffixed := w.suffixed
      separated := w.separated }

theorem Written.symbol_commodity (w : Written) :
    ((w.commodity.map Commodity.symbol).getD "").toList = w.symbol := by
  rw [Written.commodity]
  split
  · rename_i hempty
    rw [List.isEmpty_iff.1 hempty]
    rfl
  · exact String.toList_ofList

/-- What the parts of an amount are. -/
theorem ofWritten?_eq_some_iff {a : Amount} : ofWritten? w = some a ↔
    w.number ≠ [] ∧ (∀ c ∈ w.number, isNumberChar c) ∧ (∀ c ∈ w.symbol, isBlank c = false) ∧
      ∃ q, Decimal.ofDigits? (w.number.filter (· != ',')) = some q ∧
        a = { quantity := if w.negative then q.neg else q, commodity := w.commodity } := by
  rw [ofWritten?]
  split
  · rename_i hbad
    refine iff_of_false (by simp) ?_
    rintro ⟨hne, hnumber, hsolid, -⟩
    simp only [Bool.or_eq_true, List.isEmpty_iff, Bool.not_eq_true', List.any_eq_true] at hbad
    rcases hbad with (hnil | hall) | ⟨c, hc, hblank⟩
    · exact hne hnil
    · rw [List.all_eq_true.2 hnumber] at hall
      cases hall
    · rw [hsolid c hc] at hblank
      cases hblank
  · rename_i hgood
    simp only [Bool.or_eq_true, List.isEmpty_iff, Bool.not_eq_true', not_or, Bool.not_eq_false,
      List.all_eq_true, List.any_eq_true, not_exists, not_and, Bool.not_eq_true] at hgood
    obtain ⟨⟨hne, hnumber⟩, hsolid⟩ := hgood
    rw [Option.map_eq_some_iff]
    exact ⟨fun ⟨q, hq, ha⟩ => ⟨hne, hnumber, hsolid, q, hq, ha.symm⟩,
      fun ⟨_, _, _, q, hq, ha⟩ => ⟨q, hq, ha.symm⟩⟩

theorem read_eq_ok_iff {text : String} {a : Amount} :
    read text = .ok a ↔ ∃ w, split? (trim text.toList) = some w ∧ ofWritten? w = some a := by
  rw [read, ← Option.bind_eq_some_iff]
  split
  · rename_i b hb
    rw [hb, Except.ok.injEq, Option.some.injEq]
  · rename_i hnone
    rw [hnone]
    exact iff_of_false (by simp) (by simp)

/-! ## What is found -/

theorem prefix_trimEnd (s : List Char) : trimEnd s <+: s := by
  have h := List.reverse_prefix.2 (List.dropWhile_suffix isBlank (l := s.reverse))
  rwa [List.reverse_reverse] at h

theorem stops_of_prefix {p : Char → Bool} {u : List Char} (h : u <+: s) (hs : Stops p s) :
    Stops p u := by
  obtain ⟨v, rfl⟩ := h
  cases u with
  | nil => exact stops_nil p
  | cons c u => exact stops_cons.2 (stops_cons.1 hs)

theorem placed_splitSuffixed (negative : Bool) (s : List Char)
    (h : ∀ c ∈ (splitSuffixed negative s).symbol, isBlank c = false) :
    Placed (splitSuffixed negative s).symbol true (splitSuffixed negative s).separated where
  bare hnil := ⟨rfl, by
    have hempty : (trim (s.dropWhile isNumberChar)).isEmpty := List.isEmpty_iff.2 hnil
    rw [splitSuffixed, hempty, Bool.not_true, Bool.false_and]⟩
  solid := h
  behind _ hgap := by
    have hstops := stops_dropWhile isNumberChar s
    simp only [splitSuffixed] at hgap ⊢
    generalize s.dropWhile isNumberChar = tail at hgap hstops ⊢
    rcases Bool.and_eq_false_iff.1 hgap with hempty | hblank
    · have hnil : trim tail = [] := by simpa using hempty
      rw [hnil]
      exact stops_nil _
    · have htrim : trimStart tail = tail := trimStart_eq_self fun c hc => by
        simpa [startsBlank, Option.mem_def.1 hc] using hblank
      rw [trim, htrim]
      exact stops_of_prefix (prefix_trimEnd tail) hstops
  before hfalse := Bool.noConfusion hfalse

theorem splitPrefixed_spec (negative : Bool) (s : List Char) :
    (splitPrefixed negative s).symbol = s.takeWhile (!endsSymbol ·) ∧
      (splitPrefixed negative s).suffixed = false := by
  rw [splitPrefixed]
  split <;> exact ⟨rfl, rfl⟩

/-- A symbol that is found has its place. -/
theorem placed_of_split? (h : split? s = some w) (hsolid : ∀ c ∈ w.symbol, isBlank c = false) :
    Placed w.symbol w.suffixed w.separated := by
  simp only [split?] at h
  split at h
  · cases h
    exact placed_splitSuffixed _ _ hsolid
  · split at h
    · cases h
    · rename_i hne
      cases h
      obtain ⟨hsymbol, hfalse⟩ := splitPrefixed_spec (takeSign s).1 (takeSign s).2
      rw [hfalse]
      refine ⟨fun hnil => absurd (List.isEmpty_iff.2 hnil) hne, hsolid,
        fun htrue => Bool.noConfusion htrue, fun _ c hc => ?_⟩
      rw [hsymbol] at hc
      simpa using List.mem_takeWhile_imp hc

/-- The character is a blank, a sign or a part of a number. -/
def isFiller (c : Char) : Bool := isBlank c || c == '-' || isNumberChar c

/-- In the text stands the symbol, and around it nothing but blanks, signs and numbers. -/
def Surrounds (s symbol : List Char) : Prop :=
  ∃ u v, s = u ++ (symbol ++ v) ∧ (∀ c ∈ u, isFiller c) ∧ ∀ c ∈ v, isFiller c

theorem surrounds_self (s : List Char) : Surrounds s s :=
  ⟨[], [], by simp, by simp, by simp⟩

theorem surrounds_nil_iff : Surrounds s [] ↔ ∀ c ∈ s, isFiller c := by
  constructor
  · rintro ⟨u, v, rfl, hu, hv⟩
    exact List.forall_mem_append.2 ⟨hu, by simpa using hv⟩
  · exact fun h => ⟨s, [], by simp, h, by simp⟩

theorem Surrounds.append_left {symbol u : List Char} (h : Surrounds s symbol)
    (hu : ∀ c ∈ u, isFiller c) : Surrounds (u ++ s) symbol := by
  obtain ⟨u', v, rfl, hu', hv⟩ := h
  exact ⟨u ++ u', v, by simp, List.forall_mem_append.2 ⟨hu, hu'⟩, hv⟩

theorem Surrounds.append_right {symbol v : List Char} (h : Surrounds s symbol)
    (hv : ∀ c ∈ v, isFiller c) : Surrounds (s ++ v) symbol := by
  obtain ⟨u, v', rfl, hu, hv'⟩ := h
  exact ⟨u, v' ++ v, by simp, hu, List.forall_mem_append.2 ⟨hv', hv⟩⟩

theorem isFiller_of_isBlank (h : isBlank c) : isFiller c := by simp [isFiller, h]

theorem Surrounds.of_trimStart {symbol : List Char} (h : Surrounds (trimStart s) symbol) :
    Surrounds s symbol := by
  rw [← List.takeWhile_append_dropWhile (p := isBlank) (l := s)]
  exact h.append_left fun c hc => isFiller_of_isBlank (List.mem_takeWhile_imp hc)

theorem Surrounds.of_trimEnd {symbol : List Char} (h : Surrounds (trimEnd s) symbol) :
    Surrounds s symbol := by
  have hs := congrArg List.reverse
    (List.takeWhile_append_dropWhile (p := isBlank) (l := s.reverse))
  rw [List.reverse_append, List.reverse_reverse] at hs
  rw [← hs]
  refine h.append_right fun c hc => isFiller_of_isBlank ?_
  exact List.mem_takeWhile_imp (List.mem_reverse.1 hc)

theorem Surrounds.of_takeSign {symbol : List Char} (h : Surrounds (takeSign s).2 symbol) :
    Surrounds s symbol := by
  unfold takeSign at h
  split at h
  · exact h.of_trimStart.append_left (u := ['-']) (by simp [isFiller])
  · exact h

theorem surrounds_splitSuffixed (negative : Bool) (s : List Char) :
    Surrounds s (splitSuffixed negative s).symbol := by
  have htail : Surrounds (s.dropWhile isNumberChar) (trim (s.dropWhile isNumberChar)) :=
    (surrounds_self _).of_trimEnd.of_trimStart
  have h := htail.append_left (u := s.takeWhile isNumberChar) fun c hc => by
    simp [isFiller, List.mem_takeWhile_imp hc]
  rwa [List.takeWhile_append_dropWhile] at h

theorem surrounds_splitPrefixed {negative : Bool}
    (h : ∀ c ∈ (splitPrefixed negative s).number, isNumberChar c) :
    Surrounds s (splitPrefixed negative s).symbol := by
  have hfiller {u : List Char} (h : ∀ c ∈ trimEnd u, isNumberChar c) : Surrounds u [] :=
    (surrounds_nil_iff.2 fun c hc => by simp [isFiller, h c hc]).of_trimEnd
  have htail : Surrounds (s.dropWhile (!endsSymbol ·)) [] := by
    refine Surrounds.of_trimStart ?_
    rw [splitPrefixed] at h
    split at h
    · rename_i number heq
      rw [heq]
      exact (hfiller h).append_left (u := ['-']) (by simp [isFiller])
    · exact hfiller h
  rw [(splitPrefixed_spec negative s).1]
  have hs := (surrounds_self (s.takeWhile (!endsSymbol ·))).append_right
    (surrounds_nil_iff.1 htail)
  rwa [List.takeWhile_append_dropWhile] at hs

/-- Around the symbol of an amount that is read stands nothing but blanks, signs and numbers. -/
theorem surrounds_of_read {text : String} {a : Amount} (h : read text = .ok a) :
    Surrounds text.toList a.symbol.toList := by
  obtain ⟨w, hw, ha⟩ := read_eq_ok_iff.1 h
  obtain ⟨-, hnumber, -, q, -, rfl⟩ := ofWritten?_eq_some_iff.1 ha
  rw [symbol, w.symbol_commodity]
  refine Surrounds.of_trimStart (.of_trimEnd (.of_takeSign ?_))
  simp only [split?] at hw
  split at hw
  · cases hw
    exact surrounds_splitSuffixed _ _
  · split at hw
    · cases hw
    · cases hw
      exact surrounds_splitPrefixed hnumber

theorem places_le_of_roundLast? {m p digit : Nat} {q : Decimal}
    (h : Decimal.roundLast? m p digit = some q) : q.places ≤ p := by
  rw [Decimal.roundLast?] at h
  generalize (if 5 ≤ digit then m + 1 else m) = m at h
  split at h
  · exact (Decimal.fit?_eq_some_iff.1 h).2.2.le
  · split at h
    · cases h
    · exact (Decimal.fit?_eq_some_iff.1 h).2.2.le.trans (Nat.sub_le _ _)

theorem writtenPlaces_cons (h : c ≠ '.') : writtenPlaces (c :: s) = writtenPlaces s := by
  simp [writtenPlaces, h]

/-- A decimal that is read has no more places than are written. -/
theorem places_le_of_readFrom {p : Decimal.Partial} {q : Decimal}
    (h : Decimal.readFrom p s = some q) :
    q.places ≤ p.places + if p.pointed then s.length else writtenPlaces s := by
  fun_induction Decimal.readFrom p s with
  | case1 p =>
    rw [(Decimal.fit?_eq_some_iff.1 h).2.2]
    exact Nat.le_add_right _ _
  | case2 p rest ih =>
    refine (ih h).trans (Nat.add_le_add_left ?_ _)
    rw [if_pos rfl]
    split
    · exact Nat.le_succ _
    · exact Nat.le_refl _
  | case3 p c rest hc digit m hp hfits ih =>
    have hle := ih h
    simp only [hp, if_true, List.length_cons] at hle ⊢
    omega
  | case4 p c rest hc digit m hp hfull =>
    exact (places_le_of_roundLast? h).trans (Nat.le_add_right _ _)
  | case5 p c rest hc digit m hp hfits ih =>
    have hle := ih h
    simp only [hp, Bool.false_eq_true, if_false] at hle ⊢
    rwa [writtenPlaces_cons hc]
  | case6 => cases h

theorem places_le_of_ofDigits? {q : Decimal} (h : Decimal.ofDigits? s = some q) :
    q.places ≤ writtenPlaces s := by
  rw [Decimal.ofDigits?] at h
  split at h
  · have hle := places_le_of_readFrom h
    rwa [if_neg (by decide), Nat.zero_add] at hle
  · cases h

end

/-! ## The text of an amount -/

/-- The places that the text of an amount shows. -/
def shownPlaces (a : Amount) : Nat :=
  match a.commodity with
  | none => a.quantity.places
  | some c => if a.unrounded then max c.precision a.quantity.normalize.places else c.precision

/-- The quantity without the sign that a zero may have. -/
def cleared (a : Amount) : Decimal := if a.isZero then a.quantity.abs else a.quantity

/-- The parts of the text of an amount; a zero has no sign. -/
def written (a : Amount) : Written where
  negative := a.quantity.negative && !a.isZero
  symbol := a.symbol.toList
  number := a.quantity.abs.charsTo a.shownPlaces
  suffixed := (a.commodity.map Commodity.suffixed).getD true
  separated := (a.commodity.map Commodity.separated).getD false

section

variable (a : Amount)

theorem isNumeral_written : IsNumeral a.written.number := a.quantity.abs.isNumeral_charsTo rfl _

theorem quantityText_eq : a.quantityText = a.cleared.textTo a.shownPlaces := by
  unfold quantityText cleared shownPlaces
  by_cases hz : a.isZero <;> simp only [hz, if_true, Bool.false_eq_true, if_false] <;>
    cases a.commodity <;> rfl

theorem toList_quantityText :
    a.quantityText.toList = signChars a.written.negative ++ a.written.number := by
  rw [quantityText_eq, Decimal.textTo, String.toList_ofList, cleared]
  by_cases hz : a.isZero
  · simp [written, hz, signChars]
  · rw [if_neg hz, Decimal.charsTo_eq_append]
    simp [written, hz, signChars]

theorem toList_text : a.text.toList = a.written.chars := by
  have hgap (b : Bool) : (if b then " " else "").toList = gapChars b := by cases b <;> rfl
  rw [text, Written.chars]
  cases hc : a.commodity with
  | none => simp [toList_quantityText, written, symbol, hc, gapChars]
  | some c =>
    simp only [Commodity.decorate, written, symbol, hc, Option.map_some, Option.getD_some]
    cases c.suffixed <;>
      simp [toList_quantityText, hgap, written, symbol, hc]

/-- The sign in front of the number gives it back its value. -/
theorem toRat_signed {q : Decimal} (h : q.toRat = a.quantity.abs.toRat) :
    (if a.written.negative then q.neg else q).toRat = a.quantity.toRat := by
  have hsign : a.written.negative = (a.quantity.negative && !a.isZero) := rfl
  by_cases hz : a.isZero
  · have habs : a.quantity.abs.isZero := hz
    rw [if_neg (by simp [hsign, hz]), h, Decimal.isZero_iff_toRat.1 habs,
      Decimal.isZero_iff_toRat.1 hz]
  · have hnegative : a.written.negative = a.quantity.negative := by simp [hsign, hz]
    cases hs : a.quantity.negative with
    | true =>
      rw [if_pos (hnegative.trans hs), Decimal.toRat_neg, h, ← Decimal.toRat_neg, Decimal.neg,
        Decimal.abs, Bool.not_false, ← hs]
    | false =>
      rw [if_neg (by simp [hnegative, hs]), h, Decimal.abs, ← hs]

/-- An amount whose symbol is placed is read back from its text if that shows all its places. -/
theorem read_text (h : Placed a.written.symbol a.written.suffixed a.written.separated)
    (hp : a.quantity.normalize.places ≤ a.shownPlaces) :
    ∃ b, read a.text = .ok b ∧ b.quantity.same a.quantity ∧ b.commodity = a.written.commodity := by
  have hn := a.isNumeral_written
  obtain ⟨q, hq, hvalue⟩ := a.quantity.abs.ofDigits?_charsTo rfl hp
  have hq : Decimal.ofDigits? (a.written.number.filter (· != ',')) = some q :=
    (congrArg _ (filter_numeral hn)).trans hq
  obtain ⟨c, t, hhead, -⟩ := exists_digit hn
  refine ⟨_, read_eq_ok_iff.2 ⟨a.written, ?_, ofWritten?_eq_some_iff.2
    ⟨by simp [hhead], isNumberChar_of_mem hn, h.solid, q, hq, rfl⟩⟩, ?_, rfl⟩
  · rw [toList_text, trim_chars h hn, split?_chars h hn]
  · rw [Decimal.same_iff]
    exact a.toRat_signed hvalue

end

end Amount

/-! ## Commodities that are read -/

/-- Amounts of the commodity can be read back. -/
structure Commodity.Legible (c : Commodity) : Prop where
  ne_nil : c.symbol.toList ≠ []
  placed : Amount.Placed c.symbol.toList c.suffixed c.separated
  precision_le : c.precision ≤ maxPrecision

namespace Amount

section

variable {a b : Amount} {c : Commodity} {text : String}

/-- What an amount that is read knows of its commodity, and of its places. -/
theorem spec_of_read (h : read text = .ok a) :
    a.unrounded = false ∧
      ∀ c, a.commodity = some c → c.Legible ∧ a.quantity.places ≤ c.precision := by
  obtain ⟨w, hw, ha⟩ := read_eq_ok_iff.1 h
  obtain ⟨-, -, hsolid, q, hq, rfl⟩ := ofWritten?_eq_some_iff.1 ha
  refine ⟨rfl, fun c hc => ?_⟩
  simp only [Written.commodity] at hc
  split at hc
  · cases hc
  · rename_i hne
    cases hc
    have hplaces : q.places ≤ min (writtenPlaces (w.number.filter (· != ',')))
        Commodity.maxPrecision :=
      Nat.le_min.2 ⟨places_le_of_ofDigits? hq, q.places_le.trans (by decide)⟩
    refine ⟨⟨?_, ?_, Nat.min_le_right _ _⟩, ?_⟩
    · simpa using hne
    · simpa using placed_of_split? hw hsolid
    · show (if w.negative then q.neg else q).places ≤ _
      split <;> exact hplaces

theorem commodity_written (hc : ∀ c, a.commodity = some c → c.Legible) :
    a.written.commodity = a.commodity.map
      fun c => { c with precision := min a.shownPlaces Commodity.maxPrecision } := by
  have hplaces : writtenPlaces (a.written.number.filter (· != ',')) = a.shownPlaces := by
    rw [filter_numeral a.isNumeral_written]
    exact writtenPlaces_charsTo rfl _
  rw [Written.commodity, hplaces]
  cases hcommodity : a.commodity with
  | none => simp [written, symbol, hcommodity]
  | some c => simpa [written, symbol, hcommodity] using (hc c hcommodity).ne_nil

/-- An amount of a commodity that can be read is read back, with the places that are shown. -/
theorem read_text_of_legible (hc : ∀ c, a.commodity = some c → c.Legible)
    (hp : a.quantity.normalize.places ≤ a.shownPlaces) :
    ∃ b, read a.text = .ok b ∧ b.quantity.same a.quantity ∧ b.commodity = a.commodity.map
      fun c => { c with precision := min a.shownPlaces Commodity.maxPrecision } := by
  rw [← commodity_written hc]
  refine a.read_text ?_ hp
  cases hcommodity : a.commodity with
  | none =>
    have hbare : Placed [] true false :=
      ⟨fun _ => ⟨rfl, rfl⟩, fun _ h => (by cases h), fun _ _ => stops_nil _, fun h => (by cases h)⟩
    simpa [written, symbol, hcommodity] using hbare
  | some c => simpa [written, symbol, hcommodity] using (hc c hcommodity).placed

/-! ## Both ways -/

/-- The places that an amount of a commodity shows are enough, since as many were read. -/
theorem read_text_of_read (h : read text = .ok a) :
    ∃ b, read a.text = .ok b ∧ b.quantity.same a.quantity ∧ b.commodity = a.commodity := by
  obtain ⟨hrounded, hcommodity⟩ := spec_of_read h
  have hlegible c (hc : a.commodity = some c) := (hcommodity c hc).1
  have hdrop : a.quantity.normalize.places ≤ a.quantity.places := Decimal.dropZeros_snd_le _ _
  cases hc : a.commodity with
  | none =>
    have hshown : a.shownPlaces = a.quantity.places := by simp only [shownPlaces, hc]
    obtain ⟨b, hb, hsame, hbc⟩ := read_text_of_legible hlegible (hshown ▸ hdrop)
    exact ⟨b, hb, hsame, by rw [hbc, hc, Option.map_none]⟩
  | some c =>
    obtain ⟨hc', hplaces⟩ := hcommodity c hc
    have hshown : a.shownPlaces = c.precision := by simp [shownPlaces, hc, hrounded]
    obtain ⟨b, hb, hsame, hbc⟩ := read_text_of_legible hlegible (hshown ▸ hdrop.trans hplaces)
    refine ⟨b, hb, hsame, ?_⟩
    rw [hbc, hc, Option.map_some, hshown, Nat.min_eq_left hc'.precision_le]

/-- An amount that shows all its places is read back whatever its quantity is. -/
theorem read_text_showAll (q : Decimal) {c : Option Commodity}
    (hlegible : ∀ k, c = some k → k.Legible) :
    ∃ b, read (showAll { quantity := q, commodity := c }).text = .ok b ∧ b.quantity.same q ∧
      b.commodity = c.map fun k =>
        { k with precision := max k.precision q.normalize.places } := by
  have hdrop : q.normalize.places ≤ q.places := Decimal.dropZeros_snd_le _ _
  cases c with
  | none => exact read_text_of_legible (a := showAll { quantity := q }) hlegible hdrop
  | some k =>
    have hp : max k.precision q.normalize.places ≤ Commodity.maxPrecision :=
      Nat.max_le.2 ⟨(hlegible k rfl).precision_le, q.normalize.places_le.trans (by decide)⟩
    obtain ⟨b, hb, hsame, hbc⟩ := read_text_of_legible
      (a := showAll { quantity := q, commodity := some k }) hlegible (Nat.le_max_right _ _)
    refine ⟨b, hb, hsame, hbc.trans ?_⟩
    have hshown : (showAll { quantity := q, commodity := some k }).shownPlaces =
        max k.precision q.normalize.places := rfl
    rw [hshown, Nat.min_eq_left hp]
    rfl

/-- An amount that is read is read back from its text, and so is any quantity of a commodity that
is read, or of none, from the text with all its places: the quantity is equal, and the commodity the
same and written alike. -/
theorem reading_undoes_text :
    (∀ text a, read text = .ok a →
      ∃ b, read a.text = .ok b ∧ b.quantity.same a.quantity ∧ b.commodity = a.commodity) ∧
    ∀ (q : Decimal) (c : Option Commodity),
      (∀ k, c = some k → ∃ text a, read text = .ok a ∧ a.commodity = some k) →
      ∃ b, read (showAll { quantity := q, commodity := c }).text = .ok b ∧ b.quantity.same q ∧
        b.commodity = c.map fun k =>
          { k with precision := max k.precision q.normalize.places } := by
  refine ⟨fun text a => read_text_of_read, fun q c h => read_text_showAll q fun k hk => ?_⟩
  obtain ⟨text, a, ha, hak⟩ := h k hk
  exact ((spec_of_read ha).2 k hak).1

end

/-- Dollars with a sign and a comma in front, and an eighth of a euro, which is read without any
places. -/
theorem reading_undoes_text_dollars :
    let a : Amount := { quantity := ⟨true, 12345, 1, by decide, by decide⟩
                        commodity := some { symbol := "$", precision := 1 } }
    let euro : Commodity := { symbol := "EUR", suffixed := true, separated := true }
    let q : Decimal := ⟨true, 1250, 4, by decide, by decide⟩
    (read "-$1,234.5" = .ok a ∧ a.text = "$-1234.5" ∧
      ∃ b, read a.text = .ok b ∧ b.quantity.same a.quantity ∧ b.commodity = a.commodity) ∧
    (∃ b, read "20 EUR" = .ok b ∧ b.commodity = some euro) ∧
      (showAll { quantity := q, commodity := some euro }).text = "-0.125 EUR" ∧
      ∃ b, read (showAll { quantity := q, commodity := some euro }).text = .ok b ∧
        b.quantity.same q ∧ b.commodity = some { euro with precision := 3 } := by
  intro a euro q
  have ha : read "-$1,234.5" = .ok a := by decide +kernel
  have heuro : ∃ b, read "20 EUR" = .ok b ∧ b.commodity = some euro :=
    ⟨{ quantity := ⟨false, 20, 0, by decide, by decide⟩, commodity := some euro },
      by decide +kernel, rfl⟩
  refine ⟨⟨ha, by decide +kernel, reading_undoes_text.1 _ a ha⟩, heuro, by decide +kernel, ?_⟩
  have hread k (hk : some euro = some k) : ∃ text b, read text = .ok b ∧ b.commodity = some k := by
    cases hk
    exact ⟨_, heuro⟩
  obtain ⟨b, hb, hsame, hbc⟩ := reading_undoes_text.2 q (some euro) hread
  exact ⟨b, hb, hsame, hbc.trans (by decide)⟩

end Amount

end Bookkeeping
