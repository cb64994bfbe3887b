import Bookkeeping.Attempt
import Bookkeeping.Proofs.Expr.Words
import Bookkeeping.Template.Reader
import Mathlib.Data.List.Basic

/-!
# Writing templates

`Template.write` puts a list of elements into the text of a template: a directive with its flags,
both widths and its selector, fixed text as it is, and a dropped escape between two fixed texts,
which would else be read as one.  `Element.Canonical` says which elements there is a way to write.
What is written is read back (`readFrom_write`, `read_ofList_write`), and only canonical elements
are ever read (`canonical_of_readFrom`, `canonical_of_read`).
-/

namespace Bookkeeping

open Grammar (Stops stops_nil stops_cons stops_dropWhile takeWhile_append_stops
  dropWhile_append_stops)

namespace Template

/-! ## Balanced brackets -/

/-- With `depth` brackets open in front of it, the text closes all of them and its own, and at no
place more than are open. -/
def BalancedFrom (opening closing : Char) (depth : Nat) (s : List Char) : Prop :=
  depth + s.count opening = s.count closing ∧
    ∀ p, p <+: s → p.count closing ≤ depth + p.count opening

/-- The brackets in the text balance, and no beginning of it closes more than it opened. -/
def Balanced (opening closing : Char) (s : List Char) : Prop :=
  s.count opening = s.count closing ∧ ∀ p, p <+: s → p.count closing ≤ p.count opening

end Template

namespace Field

/-- There is a way to write the field. -/
def Canonical : Field → Prop
  | literal text => text = "%"
  | expression text => Template.Balanced '(' ')' text.toList
  | date (some pattern) => Template.Balanced '[' ']' pattern.toList
  | unknown c => Template.field? c = none ∧ c ≠ '%' ∧ c ≠ '(' ∧ c ≠ '[' ∧ c.isDigit = false
  | _ => True

/-- The letter of a position. -/
def letter : PositionMark → Char
  | .startOffset => 'B'
  | .startLine => 'b'
  | .endOffset => 'E'
  | .endLine => 'e'

/-- The field as a directive ends with it. -/
def selector : Field → List Char
  | literal _ => ['%']
  | expression text => '(' :: (text.toList ++ [')'])
  | date (some pattern) => '[' :: (pattern.toList ++ [']'])
  | date none => ['D']
  | bothDates => ['d']
  | source => ['S']
  | position .entry mark => [letter mark]
  | position .transaction mark => ['x', letter mark]
  | state => ['X']
  | entryState => ['Y']
  | code => ['C']
  | payee => ['P']
  | accountWithState => ['W']
  | accountName => ['a']
  | accountPath => ['A']
  | amount => ['t']
  | amountWithPrice => ['o']
  | total => ['T']
  | note => ['N']
  | markedNote => ['n']
  | space => ['|']
  | indent => ['_']
  | unknown c => if c = 'x' then ['x', 'Z'] else [c]

end Field

namespace Element

/-- The element is fixed text, and not the sign that a directive stands for. -/
def isFixed (e : Element) : Bool :=
  match e.field with
  | .literal text => text != "%"
  | _ => false

/-- Fixed text that is no directive: there is some, it has no control characters, and no layout. -/
def Plain (e : Element) : Prop :=
  ∃ s : List Char, s ≠ [] ∧ '%' ∉ s ∧ '\\' ∉ s ∧ e = Template.plain s

/-- What a directive says: widths in range, of which the greatest is none if the least is. -/
structure Directed (e : Element) : Prop where
  field : e.field.Canonical
  min_lt : e.min < Template.widthBound
  max_lt : e.max < Template.widthBound
  max_eq_zero : e.min = 0 → e.max = 0

/-- There is a way to write the element. -/
def Canonical (e : Element) : Prop := e.Plain ∨ e.Directed

/-- The flags of the element. -/
def flags (e : Element) : List Char :=
  (if e.left then ['-'] else []) ++ (if e.highlight then ['!'] else [])

/-- The element as a directive behind its `%`. -/
def directive (e : Element) : List Char :=
  e.flags ++ (Nat.toDigits 10 e.min ++ '.' :: (Nat.toDigits 10 e.max ++ e.field.selector))

/-- The text of the element. -/
def write (e : Element) : List Char :=
  match e.field with
  | .literal text => if text = "%" then '%' :: e.directive else text.toList
  | _ => '%' :: e.directive

end Element

namespace Template

/-- The text of a template with these elements; a dropped escape keeps fixed texts apart. -/
def write : List Element → List Char
  | [] => []
  | [e] => e.write
  | e :: e' :: es =>
    e.write ++ ((if e.isFixed && e'.isFixed then ['\\', 'q'] else []) ++ write (e' :: es))

/-! ## Nested brackets -/

section

variable {opening closing c : Char} {depth : Nat} {s inner rest : List Char}

theorem balancedFrom_zero : BalancedFrom opening closing 0 s ↔ Balanced opening closing s := by
  simp only [BalancedFrom, Balanced, Nat.zero_add]

theorem balancedFrom_nil : BalancedFrom opening closing depth [] ↔ depth = 0 := by
  simp only [BalancedFrom, List.prefix_nil, forall_eq, List.count_nil]
  omega

/-- The condition on beginnings, one character later. -/
theorem balancedFrom_cons :
    BalancedFrom opening closing depth (c :: s) ↔
      depth + (c :: s).count opening = (c :: s).count closing ∧
        ∀ p, p <+: s → (c :: p).count closing ≤ depth + (c :: p).count opening := by
  rw [BalancedFrom]
  refine and_congr_right fun _ => ⟨fun h p hp => h (c :: p) (by simpa using hp), fun h p hp => ?_⟩
  rcases List.prefix_cons_iff.1 hp with rfl | ⟨t, rfl, ht⟩
  · simp
  · exact h t ht

theorem balancedFrom_closing (hne : closing ≠ opening) :
    BalancedFrom opening closing depth (closing :: s) ↔
      ∃ d, depth = d + 1 ∧ BalancedFrom opening closing d s := by
  rw [balancedFrom_cons]
  simp only [List.count_cons_self, List.count_cons_of_ne hne]
  constructor
  · rintro ⟨hcount, hall⟩
    have hone := hall [] (List.nil_prefix)
    simp only [List.count_nil] at hone
    refine ⟨depth - 1, by omega, by omega, fun p hp => ?_⟩
    have := hall p hp
    omega
  · rintro ⟨d, rfl, hcount, hall⟩
    refine ⟨by omega, fun p hp => ?_⟩
    have := hall p hp
    omega

theorem balancedFrom_opening (hne : closing ≠ opening) :
    BalancedFrom opening closing depth (opening :: s) ↔
      BalancedFrom opening closing (depth + 1) s := by
  rw [balancedFrom_cons, BalancedFrom]
  simp only [List.count_cons_self, List.count_cons_of_ne hne.symm]
  refine and_congr (by omega) (forall₂_congr fun p _ => by omega)

theorem balancedFrom_other (hclosing : c ≠ closing) (hopening : c ≠ opening) :
    BalancedFrom opening closing depth (c :: s) ↔ BalancedFrom opening closing depth s := by
  rw [balancedFrom_cons, BalancedFrom]
  simp only [List.count_cons_of_ne hclosing, List.count_cons_of_ne hopening]

/-- One more character in front of a text that is read up to its closing bracket. -/
theorem readNested?_cons_iff {d : Nat} (hc : ¬(c = closing ∧ depth = 0))
    (hd : ∀ i, BalancedFrom opening closing depth (c :: i) ↔ BalancedFrom opening closing d i)
    (ih : ∀ i, readNested? opening closing d s = some (i, rest) ↔
      s = i ++ closing :: rest ∧ BalancedFrom opening closing d i) :
    ((readNested? opening closing d s).map fun p => (c :: p.1, p.2)) = some (inner, rest) ↔
      c :: s = inner ++ closing :: rest ∧ BalancedFrom opening closing depth inner := by
  simp only [Option.map_eq_some_iff, Prod.exists, Prod.mk.injEq]
  cases inner with
  | nil =>
    refine iff_of_false (by simp) ?_
    rintro ⟨hs, hdepth⟩
    exact hc ⟨(List.cons.inj hs).1, balancedFrom_nil.1 hdepth⟩
  | cons c' inner =>
    constructor
    · rintro ⟨i, r, h, hi, rfl⟩
      cases hi
      obtain ⟨rfl, hbal⟩ := (ih _).1 h
      exact ⟨rfl, (hd _).2 hbal⟩
    · rintro ⟨hs, hbal⟩
      cases hs
      exact ⟨inner, rest, (ih _).2 ⟨rfl, (hd _).1 hbal⟩, rfl, rfl⟩

/-- A text is read up to the bracket that closes the one in front of it. -/
theorem readNested?_iff (hne : closing ≠ opening) :
    readNested? opening closing depth s = some (inner, rest) ↔
      s = inner ++ closing :: rest ∧ BalancedFrom opening closing depth inner := by
  induction s generalizing depth inner with
  | nil => simp [readNested?]
  | cons c s ih =>
    simp only [readNested?]
    by_cases hc : c = closing
    · subst hc
      rw [if_pos rfl]
      cases depth with
      | zero =>
        -- nothing closes more than this bracket does
        cases inner with
        | nil => simp [balancedFrom_nil, eq_comm]
        | cons c' inner =>
          refine iff_of_false (by simp) ?_
          rintro ⟨hs, hbal⟩
          cases hs
          obtain ⟨d, hd, -⟩ := (balancedFrom_closing hne).1 hbal
          cases hd
      | succ d =>
        refine readNested?_cons_iff (by simp) (fun i => ?_) fun i => ih
        rw [balancedFrom_closing hne]
        simp
    · rw [if_neg hc]
      by_cases ho : c = opening
      · subst ho
        rw [if_pos rfl]
        exact readNested?_cons_iff (by simp [hc]) (fun i => balancedFrom_opening hne) fun i => ih
      · rw [if_neg ho]
        exact readNested?_cons_iff (by simp [hc]) (fun i => balancedFrom_other hc ho) fun i => ih

end

/-! ## Widths -/

theorem readWidth_toDigits {n : Nat} {r : List Char} (hn : n < widthBound)
    (hr : Stops Char.isDigit r) : readWidth (Nat.toDigits 10 n ++ r) = .ok (n, r) := by
  have hdigits : ∀ c ∈ Nat.toDigits 10 n, c.isDigit := fun c hc =>
    Nat.isDigit_of_mem_toDigits (by decide) (by decide) hc
  have hvalue : Nat.ofDigitChars 10 (Nat.toDigits 10 n) 0 = n :=
    Nat.ofDigitChars_toDigits (by decide) (by decide)
  rw [readWidth, takeWhile_append_stops hdigits hr, dropWhile_append_stops hdigits hr]
  simp only [hvalue, if_pos hn]

theorem readWidth_spec {s r : List Char} {n : Nat} (h : readWidth s = .ok (n, r)) :
    n < widthBound ∧ Stops Char.isDigit r := by
  simp only [readWidth] at h
  split at h
  · rename_i hn
    cases h
    exact ⟨hn, stops_dropWhile _ _⟩
  · cases h

/-- Both widths are read back; a greatest width alone would be read as the least too. -/
theorem readWidths_toDigits {m n : Nat} {r : List Char} (hm : m < widthBound) (hn : n < widthBound)
    (hzero : m = 0 → n = 0) (hr : Stops Char.isDigit r) :
    readWidths (Nat.toDigits 10 m ++ '.' :: (Nat.toDigits 10 n ++ r)) = .ok (m, n, r) := by
  have hpoint : Stops Char.isDigit ('.' :: (Nat.toDigits 10 n ++ r)) := stops_cons.2 (by decide)
  simp only [readWidths, readWidth_toDigits hm hpoint, readWidth_toDigits hn hr, bind, Except.bind,
    pure, Except.pure]
  by_cases h : m = 0
  · rw [if_pos h, hzero h, h]
  · rw [if_neg h]

theorem readWidths_spec {s r : List Char} {m n : Nat} (h : readWidths s = .ok (m, n, r)) :
    m < widthBound ∧ n < widthBound ∧ (m = 0 → n = 0) ∧ Stops Char.isDigit r := by
  unfold readWidths at h
  cases h₁ : readWidth s with
  | error e => simp [h₁, bind, Except.bind] at h
  | ok p =>
    obtain ⟨least, t⟩ := p
    obtain ⟨hleast, hstops⟩ := readWidth_spec h₁
    simp only [h₁, bind, Except.bind] at h
    split at h
    · rename_i t'
      cases h₂ : readWidth t' with
      | error e => simp [h₂] at h
      | ok q =>
        obtain ⟨greatest, u⟩ := q
        obtain ⟨hgreatest, hstops'⟩ := readWidth_spec h₂
        simp only [h₂, pure, Except.pure] at h
        cases h
        by_cases hzero : least = 0
        · rw [if_pos hzero]
          exact ⟨hgreatest, hgreatest, id, hstops'⟩
        · rw [if_neg hzero]
          exact ⟨hleast, hgreatest, fun h => absurd h hzero, hstops'⟩
    · simp only [pure, Except.pure] at h
      cases h
      exact ⟨hleast, by decide, fun _ => rfl, hstops⟩

/-! ## Fields -/

theorem field?_x : field? 'x' = none := rfl

/-- A character without a meaning of its own behind the widths is looked up among the letters. -/
theorem readField_letter {c : Char} {r : List Char} (hpercent : c ≠ '%') (hparen : c ≠ '(')
    (hbracket : c ≠ '[') (hx : c ≠ 'x') :
    readField (c :: r) = .ok (some ((field? c).getD (.unknown c), r)) := by
  unfold readField
  split <;> simp_all

theorem readField_selector {f : Field} (h : f.Canonical) (r : List Char) :
    readField (f.selector ++ r) = .ok (some (f, r)) := by
  cases f with
  | literal text =>
    rw [show text = "%" from h]
    rfl
  | expression text =>
    have hread := (readNested?_iff (s := text.toList ++ ')' :: r) (by decide)).2
      ⟨rfl, balancedFrom_zero.2 h⟩
    simp only [Field.selector, List.cons_append, List.append_assoc, List.nil_append, readField,
      hread, String.ofList_toList]
  | date pattern =>
    cases pattern with
    | none => rfl
    | some pattern =>
      have hread := (readNested?_iff (s := pattern.toList ++ ']' :: r) (by decide)).2
        ⟨rfl, balancedFrom_zero.2 h⟩
      simp only [Field.selector, List.cons_append, List.append_assoc, List.nil_append, readField,
        hread, String.ofList_toList]
  | position record mark => cases record <;> cases mark <;> rfl
  | unknown c =>
    obtain ⟨hnone, hpercent, hparen, hbracket, -⟩ := h
    by_cases hx : c = 'x'
    · subst hx
      rfl
    · rw [Field.selector, if_neg hx]
      simp only [List.cons_append, List.nil_append]
      rw [readField_letter hpercent hparen hbracket hx, hnone]
      rfl
  | _ => rfl

/-- No selector goes on with a digit, so that it cannot be taken for a part of the widths. -/
theorem stops_selector {f : Field} (h : f.Canonical) (r : List Char) :
    Stops Char.isDigit (f.selector ++ r) := by
  cases f with
  | date pattern => cases pattern <;> exact stops_cons.2 (by decide)
  | position record mark => cases record <;> cases mark <;> exact stops_cons.2 (by decide)
  | unknown c =>
    obtain ⟨-, -, -, -, hdigit⟩ := h
    by_cases hx : c = 'x'
    · rw [Field.selector, if_pos hx]
      exact stops_cons.2 (by decide)
    · rw [Field.selector, if_neg hx]
      exact stops_cons.2 hdigit
  | _ => exact stops_cons.2 (by decide)

theorem canonical_of_field? {c : Char} {f : Field} (h : field? c = some f) : f.Canonical := by
  unfold field? at h
  split at h <;> cases h <;> trivial

theorem canonical_transactionField (c : Char) : (transactionField c).Canonical := by
  unfold transactionField
  split
  case h_5 => exact ⟨field?_x, by decide, by decide, by decide, by decide⟩
  all_goals trivial

theorem canonical_of_readField {s r : List Char} {f : Field} (hs : Stops Char.isDigit s)
    (h : readField s = .ok (some (f, r))) : f.Canonical := by
  unfold readField at h
  split at h
  · cases h
  · cases h
    rfl
  · split at h
    · rename_i inner _ hread
      cases h
      have hbal := balancedFrom_zero.1 ((readNested?_iff (by decide)).1 hread).2
      simpa only [Field.Canonical, String.toList_ofList] using hbal
    · cases h
  · split at h
    · rename_i inner _ hread
      cases h
      have hbal := balancedFrom_zero.1 ((readNested?_iff (by decide)).1 hread).2
      simpa only [Field.Canonical, String.toList_ofList] using hbal
    · cases h
  · cases h
  · cases h
    exact canonical_transactionField _
  · rename_i c rest hpercent hparen hbracket _ _
    cases h
    cases hf : field? c with
    | some g => exact canonical_of_field? hf
    | none => exact ⟨hf, hpercent, hparen, hbracket, stops_cons.1 hs⟩

/-! ## Directives -/

theorem isFlag_of_mem_flags {e : Element} {c : Char} (h : c ∈ e.flags) : isFlag c := by
  rw [Element.flags] at h
  cases e.left <;> cases e.highlight <;> simp at h <;> grind [isFlag]

theorem contains_flags (e : Element) :
    e.flags.contains '-' = e.left ∧ e.flags.contains '!' = e.highlight := by
  rw [Element.flags]
  cases e.left <;> cases e.highlight <;> decide

theorem stops_isFlag_toDigits (n : Nat) (r : List Char) :
    Stops isFlag (Nat.toDigits 10 n ++ r) := by
  cases hd : Nat.toDigits 10 n with
  | nil => exact absurd hd Nat.toDigits_ne_nil
  | cons c ds =>
    have hc : c.isDigit := Nat.isDigit_of_mem_toDigits (b := 10) (n := n) (by decide) (by decide)
      (by rw [hd]; exact .head _)
    refine stops_cons.2 ?_
    rw [isFlag, Bool.or_eq_false_iff]
    constructor <;> refine beq_eq_false_iff_ne.2 fun h => ?_ <;> subst h <;>
      exact absurd hc (by decide)

theorem readDirective_directive {e : Element} (h : e.Directed) (r : List Char) :
    readDirective (e.directive ++ r) = .ok (some (e, r)) := by
  have hstops := stops_isFlag_toDigits e.min
    ('.' :: (Nat.toDigits 10 e.max ++ (e.field.selector ++ r)))
  have hwidths := readWidths_toDigits h.min_lt h.max_lt h.max_eq_zero (stops_selector h.field r)
  have hfield := readField_selector h.field r
  simp only [Element.directive, List.append_assoc, List.cons_append, readDirective,
    takeWhile_append_stops (fun c => isFlag_of_mem_flags) hstops,
    dropWhile_append_stops (fun c => isFlag_of_mem_flags) hstops, hwidths, hfield, bind,
    Except.bind, pure, Except.pure, Option.map_some, contains_flags]

theorem directed_of_readDirective {s r : List Char} {e : Element}
    (h : readDirective s = .ok (some (e, r))) : e.Directed := by
  unfold readDirective at h
  cases h₁ : readWidths (s.dropWhile isFlag) with
  | error e => simp [h₁, bind, Except.bind] at h
  | ok p =>
    obtain ⟨m, n, t⟩ := p
    obtain ⟨hm, hn, hzero, hstops⟩ := readWidths_spec h₁
    simp only [h₁, bind, Except.bind] at h
    cases h₂ : readField t with
    | error e => simp [h₂] at h
    | ok q =>
      simp only [h₂, pure, Except.pure, Except.ok.injEq, Option.map_eq_some_iff] at h
      obtain ⟨⟨f, u⟩, rfl, h⟩ := h
      cases h
      exact ⟨canonical_of_readField hstops h₂, hm, hn, hzero⟩

/-! ## Fixed text -/

theorem isFixed_of_plain {e : Element} (h : e.Plain) : e.isFixed := by
  obtain ⟨s, -, hpercent, -, rfl⟩ := h
  simp only [Element.isFixed, plain, bne_iff_ne, ne_eq]
  intro hs
  have hchars := congrArg String.toList hs
  rw [String.toList_ofList] at hchars
  exact hpercent (hchars ▸ .head _)

theorem isFixed_of_directed {e : Element} (h : e.Directed) : e.isFixed = false := by
  have hfield := h.field
  rw [Element.isFixed]
  split
  · rename_i text htext
    rw [htext] at hfield
    exact bne_eq_false_iff_eq.2 hfield
  · rfl

theorem write_plain {s : List Char} (hpercent : '%' ∉ s) : (plain s).write = s := by
  have hne : String.ofList s ≠ "%" := fun h => by
    have hchars := congrArg String.toList h
    rw [String.toList_ofList] at hchars
    exact hpercent (hchars ▸ .head _)
  simp only [Element.write, plain, if_neg hne, String.toList_ofList]

theorem write_directed {e : Element} (h : e.Directed) : e.write = '%' :: e.directive := by
  have hfield := h.field
  rw [Element.write]
  split
  · rename_i text htext
    rw [htext] at hfield
    rw [if_pos (show text = "%" from hfield)]
  · rfl

/-- Text without control characters is put behind what has been read. -/
theorem readFrom_append {s : List Char} (hpercent : '%' ∉ s) (hescape : '\\' ∉ s)
    (seen r : List Char) : readFrom seen (s ++ r) = readFrom (s.reverse ++ seen) r := by
  induction s generalizing seen with
  | nil => rfl
  | cons c s ih =>
    obtain ⟨hc, hs⟩ := not_or.1 (mt List.mem_cons.2 hpercent)
    obtain ⟨hc', hs'⟩ := not_or.1 (mt List.mem_cons.2 hescape)
    rw [List.cons_append, readFrom.eq_def]
    split
    · simp_all
    · simp_all
    · simp_all
    · simp_all
    · rename_i heq
      cases heq
      rw [ih hs hs', List.reverse_cons, List.append_assoc]
      rfl

theorem readFrom_dropped (seen r : List Char) :
    readFrom seen ('\\' :: 'q' :: r) = (readFrom [] r).map (pending seen ++ ·) := by
  have hq : escape? 'q' = none := rfl
  simp only [readFrom, hq, Option.map_none, Option.toList_none, List.append_nil]

theorem readFrom_of_readDirective {seen s r : List Char} {e : Element}
    (h : readDirective s = .ok (some (e, r))) :
    readFrom seen ('%' :: s) = (readFrom [] r).map fun es => pending seen ++ e :: es := by
  rw [readFrom.eq_def]
  simp only
  split
  · rename_i h'
    cases h'.symm.trans h
  · rename_i h'
    cases h'.symm.trans h
  · rename_i h'
    cases h'.symm.trans h
    rfl

theorem readFrom_directive {e : Element} (h : e.Directed) (seen r : List Char) :
    readFrom seen ('%' :: (e.directive ++ r)) =
      (readFrom [] r).map fun es => pending seen ++ e :: es :=
  readFrom_of_readDirective (readDirective_directive h r)

/-! ## Reading what is written -/

theorem write_cons {e : Element} {es : List Element}
    (h : ∀ e' ∈ es.head?, ¬(e.isFixed ∧ e'.isFixed)) : write (e :: es) = e.write ++ write es := by
  cases es with
  | nil => simp [write]
  | cons e' es =>
    have hsep : ¬(e.isFixed && e'.isFixed) := by simpa using h e' rfl
    rw [write, if_neg hsep, List.nil_append]

/-- Behind text that has been read, elements are read back, unless the first of them would go on
with that text. -/
theorem readFrom_write {es : List Element} (h : ∀ e ∈ es, e.Canonical) (seen : List Char)
    (hread : seen = [] ∨ ∀ e ∈ es.head?, e.isFixed = false) :
    readFrom seen (write es) = .ok (pending seen ++ es) := by
  induction es generalizing seen with
  | nil =>
    rw [write, readFrom, List.append_nil]
  | cons e es ih =>
    have ih := ih fun e he => h e (.tail _ he)
    rcases h e (.head _) with hplain | hdirected
    · have hfixed := isFixed_of_plain hplain
      have hnil : seen = [] := hread.resolve_right fun hall => by
        rw [hall e rfl] at hfixed
        cases hfixed
      subst hnil
      obtain ⟨s, hne, hpercent, hescape, rfl⟩ := hplain
      have hpending : pending s.reverse = [plain s] := by
        rw [pending, if_neg (by simpa using hne), List.reverse_reverse]
      by_cases hnext : ∃ e' ∈ es.head?, e'.isFixed
      · -- two fixed texts, with the dropped escape in between
        obtain ⟨e', he', hfixed'⟩ := hnext
        obtain ⟨es', rfl⟩ : ∃ es', es = e' :: es' := by
          cases es with
          | nil => cases he'
          | cons x xs =>
            cases he'
            exact ⟨xs, rfl⟩
        rw [write, hfixed, hfixed', Bool.and_self, if_pos rfl, write_plain hpercent,
          readFrom_append hpercent hescape, List.append_nil, List.cons_append, List.cons_append,
          List.nil_append, readFrom_dropped, ih [] (.inl rfl), hpending]
        rfl
      · have hfree : ∀ e' ∈ es.head?, e'.isFixed = false := fun e' he' => by
          simpa using fun hf => hnext ⟨e', he', hf⟩
        rw [write_cons fun e' he' hf => hnext ⟨e', he', hf.2⟩, write_plain hpercent,
          readFrom_append hpercent hescape, List.append_nil, ih _ (.inr hfree), hpending]
        rfl
    · have hfixed := isFixed_of_directed hdirected
      have hsep : ∀ e' ∈ es.head?, ¬(e.isFixed ∧ e'.isFixed) := fun e' _ hf => by
        rw [hfixed] at hf
        cases hf.1
      rw [write_cons hsep, write_directed hdirected, List.cons_append,
        readFrom_directive hdirected, ih [] (.inl rfl)]
      rfl

/-! ## Only canonical elements are seen -/

theorem canonical_of_mem_pending {seen : List Char} (hpercent : '%' ∉ seen)
    (hescape : '\\' ∉ seen) {e : Element} (h : e ∈ pending seen) : e.Canonical := by
  rw [pending] at h
  split at h
  · cases h
  · rename_i hne
    rw [List.mem_singleton] at h
    exact .inl ⟨seen.reverse, by simpa using hne, by simpa using hpercent,
      by simpa using hescape, h⟩

theorem canonical_of_escape? {c d : Char} (h : escape? c = some d) : (plain [d]).Canonical := by
  have hd : d ≠ '%' ∧ d ≠ '\\' := by
    unfold escape? at h
    split at h <;> cases h <;> decide
  exact .inl ⟨[d], by simp, by simpa using hd.1.symm, by simpa using hd.2.symm, rfl⟩

theorem canonical_of_readFrom {seen s : List Char} (hpercent : '%' ∉ seen) (hescape : '\\' ∉ seen)
    {es : List Element} (h : readFrom seen s = .ok es) : ∀ e ∈ es, e.Canonical := by
  fun_induction readFrom seen s generalizing es with
  | case1 seen =>
    cases h
    exact fun e => canonical_of_mem_pending hpercent hescape
  | case2 seen =>
    cases h
    exact fun e => canonical_of_mem_pending hpercent hescape
  | case3 seen c rest ih =>
    obtain ⟨fs, hfs, rfl⟩ := exists_of_map_eq_ok h
    simp only [List.forall_mem_append]
    refine ⟨⟨fun e => canonical_of_mem_pending hpercent hescape, fun e he => ?_⟩,
      ih (List.not_mem_nil) (List.not_mem_nil) hfs⟩
    obtain ⟨d, hd, rfl⟩ := Option.map_eq_some_iff.1 (Option.mem_toList.1 he)
    exact canonical_of_escape? hd
  | case4 seen rest e' he' => cases h
  | case5 seen rest hd =>
    cases h
    exact fun e => canonical_of_mem_pending hpercent hescape
  | case6 seen rest e rest' hd hlt ih =>
    obtain ⟨fs, hfs, rfl⟩ := exists_of_map_eq_ok h
    simp only [List.forall_mem_append, List.forall_mem_cons]
    exact ⟨fun e => canonical_of_mem_pending hpercent hescape, .inr (directed_of_readDirective hd),
      ih (List.not_mem_nil) (List.not_mem_nil) hfs⟩
  | case7 seen c rest hlast hescaped hdirective ih =>
    have hc : c ≠ '\\' := fun hc => by
      cases rest with
      | nil => exact hlast hc rfl
      | cons c' rest => exact hescaped c' rest hc rfl
    refine ih (fun hmem => ?_) (fun hmem => ?_) h
    · rcases List.mem_cons.1 hmem with hmem | hmem
      · exact hdirective hmem.symm
      · exact hpercent hmem
    · rcases List.mem_cons.1 hmem with hmem | hmem
      · exact hc hmem.symm
      · exact hescape hmem

/-! ## Both ways -/

theorem read_ofList_write {es : List Element} (h : ∀ e ∈ es, e.Canonical) :
    read (String.ofList (write es)) = .ok ⟨es, String.ofList (write es)⟩ := by
  rw [read, String.toList_ofList, readFrom_write h [] (.inl rfl)]
  rfl

theorem canonical_of_read {text : String} {t : Template} (h : read text = .ok t) :
    ∀ e ∈ t.elements, e.Canonical := by
  obtain ⟨es, hes, rfl⟩ := exists_of_map_eq_ok h
  exact canonical_of_readFrom List.not_mem_nil List.not_mem_nil hes

/-- Canonical elements that are written are read back, and whatever is read is canonical, so that it
can be written and read again. -/
theorem reading_undoes_writing (es : List Element) (text : String) (t : Template) :
    ((∀ e ∈ es, e.Canonical) →
      read (String.ofList (write es)) = .ok ⟨es, String.ofList (write es)⟩) ∧
    (read text = .ok t →
      (∀ e ∈ t.elements, e.Canonical) ∧
        read (String.ofList (write t.elements)) =
          .ok ⟨t.elements, String.ofList (write t.elements)⟩) :=
  ⟨read_ofList_write, fun h => ⟨canonical_of_read h, read_ofList_write (canonical_of_read h)⟩⟩

/-- Two fixed texts, a path in a layout, an expression, the sign of a directive and an unknown
letter, written and read; and a text with an escape, a dropped one and a letter of no record, read
and written. -/
theorem reading_undoes_writing_path :
    let es : List Element := [plain ['a'], plain ['b'],
      { field := .accountPath, left := true, min := 10, max := 8 },
      { field := .expression "(a)+1", highlight := true }, { field := .literal "%" },
      { field := .unknown '!' }]
    let text := "a\\tb\\qc%.8A%xQ"
    let fs : List Element := [plain ['a'], plain ['\t'], plain ['b'], plain ['c'],
      { field := .accountPath, min := 8, max := 8 }, { field := .unknown 'x' }]
    (∀ e ∈ es, e.Canonical) ∧ String.ofList (write es) = "a\\qb%-10.8A%!0.0((a)+1)%0.0%%0.0!" ∧
      read (String.ofList (write es)) = .ok ⟨es, String.ofList (write es)⟩ ∧
      read text = .ok ⟨fs, text⟩ ∧ (∀ e ∈ fs, e.Canonical) ∧
      read (String.ofList (write fs)) = .ok ⟨fs, String.ofList (write fs)⟩ := by
  intro es text fs
  have hbalanced : Balanced '(' ')' ['(', 'a', ')', '+', '1'] :=
    balancedFrom_zero.1 ((readNested?_iff (by decide)).1
      (show readNested? '(' ')' 0 ['(', 'a', ')', '+', '1', ')'] = some (_, []) by decide)).2
  have hunknown : Field.Canonical (.unknown '!') :=
    ⟨rfl, by decide, by decide, by decide, by decide⟩
  have hes : ∀ e ∈ es, e.Canonical := by
    simp only [es, List.forall_mem_cons]
    exact ⟨.inl ⟨['a'], by decide, by decide, by decide, rfl⟩,
      .inl ⟨['b'], by decide, by decide, by decide, rfl⟩,
      .inr ⟨trivial, by decide, by decide, by decide⟩,
      .inr ⟨hbalanced, by decide, by decide, by decide⟩,
      .inr ⟨rfl, by decide, by decide, by decide⟩,
      .inr ⟨hunknown, by decide, by decide, by decide⟩, fun _ h => by cases h⟩
  have htext : read text = .ok ⟨fs, text⟩ := by decide +kernel
  obtain ⟨hwritten, hread⟩ := reading_undoes_writing es text ⟨fs, text⟩
  exact ⟨hes, by decide +kernel, hwritten hes, htext, hread htext⟩

end Template

end Bookkeeping
