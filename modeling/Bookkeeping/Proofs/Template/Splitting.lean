import Bookkeeping.Proofs.Template.Writing
import Mathlib.Data.List.TakeWhile

/-!
# Splitting templates

A marker is a directive that is written as `%/` and nothing more.  `Template.readLine` reads a text
up to its first marker, and `readFrom_eq` says how the elements of the whole text follow from that.
`Template.split` looks for the characters `%/` instead.  A directive is read whatever comes behind
it (`readDirective_append`), so a marker splits its text well as long as no `%/` that is none stands
in front of it; else the first half ends too early (`length_lt_of_splitLine`).  Taken together, the
splitting is right exactly for the texts of which the first `%/` is a marker
(`splits_at_marker_iff`).
-/

namespace Bookkeeping

open Grammar (Stops stops_cons stops_dropWhile takeWhile_append_stops dropWhile_append_stops)

namespace Template

/-- The element of a marker. -/
def marker : Element := { field := .unknown '/' }

/-- Reads a text up to its first marker, behind literal text that has been read, last character
first: the elements in front of the marker, and the text behind it if there is one. -/
def readLine (literal : List Char) (s : List Char) :
    Except TemplateError (List Element × Option (List Char)) :=
  match s with
  | [] => .ok (pending literal, none)
  | '\\' :: [] => .ok (pending literal, none)
  | '\\' :: c :: rest =>
    (readLine [] rest).map fun (es, behind) =>
      (pending literal ++ ((escape? c).map fun c => plain [c]).toList ++ es, behind)
  | '%' :: '/' :: rest => .ok (pending literal, some rest)
  | '%' :: rest =>
    match h : readDirective rest with
    | .error e => .error e
    | .ok none => .ok (pending literal, none)
    | .ok (some (e, rest')) =>
      have : rest'.length < rest.length + 1 := Nat.lt_succ_of_lt (length_of_readDirective h)
      (readLine [] rest').map fun (es, behind) => (pending literal ++ e :: es, behind)
  | c :: rest => readLine (c :: literal) rest
termination_by s.length

/-- The elements of a text that has been read up to its first marker. -/
def readOn : List Element × Option (List Char) → Except TemplateError (List Element)
  | (es, none) => .ok es
  | (es, some behind) => (readFrom [] behind).map fun fs => es ++ marker :: fs

/-- The text is split at its first marker, in front of which it has the elements `es`; without a
marker the template stands for both lines. -/
def SplitsAtMarker (text : String) (t : Template) (es : List Element) :
    Option (List Char) → Prop
  | some _ => ∃ first next, split text = .ok (first, next) ∧ first.elements = es ∧
      t.elements = es ++ marker :: next.elements
  | none => split text = .ok (t, t)

/-! ## A directive is read whatever comes behind it -/

section

variable {s r : List Char}

theorem readField_append {f : Field} (h : readField s = .ok (some (f, r))) :
    ∃ c d, s = c :: d ++ r ∧ ∀ r', readField (c :: d ++ r') = .ok (some (f, r')) := by
  unfold readField at h
  split at h
  case h_1 => cases h
  case h_2 rest =>
    cases h
    exact ⟨'%', [], rfl, fun _ => rfl⟩
  case h_3 rest =>
    split at h
    · rename_i inner rest' hn
      cases h
      obtain ⟨rfl, hbal⟩ := (readNested?_iff (by decide)).1 hn
      refine ⟨'(', inner ++ [')'], by simp, fun r' => ?_⟩
      have hn' := (readNested?_iff (s := inner ++ ')' :: r') (by decide)).2 ⟨rfl, hbal⟩
      simp [readField, hn']
    · cases h
  case h_4 rest =>
    split at h
    · rename_i inner rest' hn
      cases h
      obtain ⟨rfl, hbal⟩ := (readNested?_iff (by decide)).1 hn
      refine ⟨'[', inner ++ [']'], by simp, fun r' => ?_⟩
      have hn' := (readNested?_iff (s := inner ++ ']' :: r') (by decide)).2 ⟨rfl, hbal⟩
      simp [readField, hn']
    · cases h
  case h_5 => cases h
  case h_6 c rest =>
    cases h
    exact ⟨'x', [c], rfl, fun _ => rfl⟩
  case h_7 c rest hpercent hparen hbracket hlast hx =>
    cases h
    have hne : c ≠ 'x' := by
      rintro rfl
      cases r with
      | nil => exact hlast rfl rfl
      | cons c' r => exact hx c' r rfl rfl
    exact ⟨c, [], rfl, fun r' => readField_letter hpercent hparen hbracket hne⟩

theorem readWidth_append {c : Char} {n : Nat} (h : readWidth s = .ok (n, c :: r)) :
    ∃ w, s = w ++ c :: r ∧ ∀ r', readWidth (w ++ c :: r') = .ok (n, c :: r') := by
  have hstops : Stops Char.isDigit (c :: r) := (readWidth_spec h).2
  have hdigits : ∀ d ∈ s.takeWhile Char.isDigit, d.isDigit := fun _ => List.mem_takeWhile_imp
  simp only [readWidth] at h
  split at h
  · rename_i hn
    simp only [Except.ok.injEq, Prod.mk.injEq] at h
    obtain ⟨rfl, hdrop⟩ := h
    refine ⟨s.takeWhile Char.isDigit, ?_, fun r' => ?_⟩
    · rw [← hdrop, List.takeWhile_append_dropWhile]
    · have hstops' : Stops Char.isDigit (c :: r') := stops_cons.2 (stops_cons.1 hstops)
      rw [readWidth, takeWhile_append_stops hdigits hstops',
        dropWhile_append_stops hdigits hstops']
      exact if_pos hn
  · cases h

theorem readWidths_append {c : Char} {m n : Nat} (h : readWidths s = .ok (m, n, c :: r)) :
    ∃ w, s = w ++ c :: r ∧ ∀ r', readWidths (w ++ c :: r') = .ok (m, n, c :: r') := by
  unfold readWidths at h
  cases h₁ : readWidth s with
  | error e => simp [h₁, bind, Except.bind] at h
  | ok p =>
    obtain ⟨least, t⟩ := p
    simp only [h₁, bind, Except.bind] at h
    split at h
    · rename_i t'
      cases h₂ : readWidth t' with
      | error e => simp [h₂] at h
      | ok q =>
        obtain ⟨greatest, u⟩ := q
        simp only [h₂, pure, Except.pure, Except.ok.injEq, Prod.mk.injEq] at h
        obtain ⟨rfl, rfl, rfl⟩ := h
        obtain ⟨w₁, rfl, hw₁⟩ := readWidth_append h₁
        obtain ⟨w₂, rfl, hw₂⟩ := readWidth_append h₂
        refine ⟨w₁ ++ '.' :: w₂, by simp, fun r' => ?_⟩
        rw [List.append_assoc, List.cons_append]
        simp only [readWidths, hw₁, hw₂, bind, Except.bind, pure, Except.pure]
    · rename_i hpoint
      simp only [pure, Except.pure, Except.ok.injEq, Prod.mk.injEq] at h
      obtain ⟨rfl, rfl, rfl⟩ := h
      obtain ⟨w, rfl, hw⟩ := readWidth_append h₁
      have hc : c ≠ '.' := fun hc => hpoint r (by rw [hc])
      refine ⟨w, rfl, fun r' => ?_⟩
      simp only [readWidths, hw, bind, Except.bind]
      split
      · rename_i heq
        exact absurd (List.cons.inj heq).1 hc
      · rfl

/-- What a directive is made of. -/
theorem readDirective_ok {o : Option (Element × List Char)} (h : readDirective s = .ok o) :
    ∃ m n t p, readWidths (s.dropWhile isFlag) = .ok (m, n, t) ∧ readField t = .ok p ∧
      o = p.map fun (field, r) =>
        ({ field, left := (s.takeWhile isFlag).contains '-'
           highlight := (s.takeWhile isFlag).contains '!', min := m, max := n }, r) := by
  unfold readDirective at h
  cases h₁ : readWidths (s.dropWhile isFlag) with
  | error e => simp [h₁, bind, Except.bind] at h
  | ok q =>
    obtain ⟨m, n, t⟩ := q
    simp only [h₁, bind, Except.bind] at h
    cases h₂ : readField t with
    | error e => simp [h₂] at h
    | ok p =>
      simp only [h₂, pure, Except.pure, Except.ok.injEq] at h
      exact ⟨m, n, t, p, rfl, h₂, h.symm⟩

theorem head?_append_cons (w : List Char) (c : Char) (u v : List Char) :
    (w ++ c :: u).head? = (w ++ c :: v).head? := by
  cases w <;> rfl

theorem readDirective_append {e : Element} (h : readDirective s = .ok (some (e, r))) :
    ∃ d, s = d ++ r ∧ ∀ r', readDirective (d ++ r') = .ok (some (e, r')) := by
  obtain ⟨m, n, t, p, hwidths, hfield, hp⟩ := readDirective_ok h
  obtain ⟨⟨f, r₁⟩, rfl, hp⟩ := Option.map_eq_some_iff.1 hp.symm
  cases hp
  obtain ⟨c, d, rfl, hd⟩ := readField_append hfield
  rw [List.cons_append] at hwidths
  obtain ⟨w, hw, hwidths'⟩ := readWidths_append hwidths
  have hflags : ∀ x ∈ s.takeWhile isFlag, isFlag x := fun _ => List.mem_takeWhile_imp
  refine ⟨s.takeWhile isFlag ++ (w ++ c :: d), ?_, fun r' => ?_⟩
  · rw [List.append_assoc, List.append_assoc, List.cons_append, ← hw,
      List.takeWhile_append_dropWhile]
  · have hstops : Stops isFlag (w ++ c :: (d ++ r')) := fun x hx =>
      stops_dropWhile isFlag s x (by rw [hw, head?_append_cons w c _ (d ++ r')]; exact hx)
    have hread := hd r'
    rw [List.cons_append] at hread
    rw [show s.takeWhile isFlag ++ (w ++ c :: d) ++ r' =
      s.takeWhile isFlag ++ (w ++ c :: (d ++ r')) by simp]
    simp only [readDirective, takeWhile_append_stops hflags hstops,
      dropWhile_append_stops hflags hstops, hwidths', hread, bind, Except.bind, pure, Except.pure,
      Option.map_some]

/-- A beginning of a directive is none yet. -/
theorem readDirective_beginning {e : Element} {d t : List Char}
    (hd : ∀ r', readDirective (d ++ t ++ r') = .ok (some (e, r'))) (ht : t ≠ []) (e' : Element)
    (r' : List Char) : readDirective d ≠ .ok (some (e', r')) := by
  intro h
  obtain ⟨d', rfl, hd'⟩ := readDirective_append h
  have hlonger := hd' (r' ++ t)
  rw [← List.append_assoc, ← List.append_nil (d' ++ r' ++ t), hd []] at hlonger
  have hnil := congrArg List.length (Prod.mk.inj (Option.some.inj (Except.ok.inj hlonger))).2
  rw [List.length_nil, List.length_append] at hnil
  exact ht (List.length_eq_zero_iff.1 (by omega))

/-! ## A text that ends inside a directive -/

theorem mem_of_readWidth {n : Nat} (h : readWidth s = .ok (n, r)) {c : Char} (hc : c ∈ s) :
    c.isDigit ∨ c ∈ r := by
  simp only [readWidth] at h
  split at h
  · cases h
    rw [← List.takeWhile_append_dropWhile (p := Char.isDigit) (l := s), List.mem_append] at hc
    exact hc.imp_left List.mem_takeWhile_imp
  · cases h

theorem slash_mem_of_readWidths {m n : Nat} (h : readWidths s = .ok (m, n, r)) (hs : '/' ∈ s) :
    '/' ∈ r := by
  have hslash : ¬('/' : Char).isDigit := by decide
  unfold readWidths at h
  cases h₁ : readWidth s with
  | error e => simp [h₁, bind, Except.bind] at h
  | ok p =>
    obtain ⟨least, t⟩ := p
    have ht := (mem_of_readWidth h₁ hs).resolve_left hslash
    simp only [h₁, bind, Except.bind] at h
    split at h
    · rename_i t'
      cases h₂ : readWidth t' with
      | error e => simp [h₂] at h
      | ok q =>
        simp only [h₂, pure, Except.pure, Except.ok.injEq, Prod.mk.injEq] at h
        obtain ⟨-, -, rfl⟩ := h
        have ht' : '/' ∈ t' := (List.mem_cons.1 ht).resolve_left (by decide)
        exact (mem_of_readWidth h₂ ht').resolve_left hslash
    · simp only [pure, Except.pure, Except.ok.injEq, Prod.mk.injEq] at h
      obtain ⟨-, -, rfl⟩ := h
      exact ht

theorem readField_eq_none (h : readField s = .ok none) : s = [] ∨ s = ['x'] := by
  unfold readField at h
  split at h
  case h_1 => exact .inl rfl
  case h_3 | h_4 => split at h <;> cases h
  case h_5 => exact .inr rfl
  all_goals cases h

theorem slash_not_mem_of_readDirective (h : readDirective s = .ok none) : '/' ∉ s := by
  obtain ⟨m, n, t, p, hwidths, hfield, hp⟩ := readDirective_ok h
  obtain rfl := Option.map_eq_none_iff.1 hp.symm
  intro hs
  rw [← List.takeWhile_append_dropWhile (p := isFlag) (l := s), List.mem_append] at hs
  rcases hs with hs | hs
  · exact absurd (List.mem_takeWhile_imp hs) (by decide)
  · have ht := slash_mem_of_readWidths hwidths hs
    rcases readField_eq_none hfield with rfl | rfl <;> exact absurd ht (by decide)

end

/-! ## Reading up to the first marker -/

section

variable {seen s r : List Char}

/-- A text that ends inside a directive has no elements but for the text in front of it. -/
theorem readFrom_of_no_directive (h : ∀ e r, readDirective s ≠ .ok (some (e, r)))
    {es : List Element} (hes : readFrom seen ('%' :: s) = .ok es) : es = pending seen := by
  rw [readFrom.eq_def] at hes
  simp only at hes
  split at hes
  · cases hes
  · cases hes
    rfl
  · rename_i h'
    exact absurd h' (h _ _)

theorem readFrom_char {c : Char} (hpercent : c ≠ '%') (hescape : c ≠ '\\') :
    readFrom seen (c :: s) = readFrom (c :: seen) s := by
  rw [readFrom.eq_def]
  split <;> simp_all

theorem readDirective_slash : readDirective ('/' :: s) = .ok (some (marker, s)) := rfl

theorem readOn_append (fs : List Element) (p : List Element × Option (List Char)) :
    readOn (fs ++ p.1, p.2) = (readOn p).map (fs ++ ·) := by
  obtain ⟨es, behind⟩ := p
  cases behind with
  | none => rfl
  | some rest =>
    simp only [readOn]
    cases readFrom [] rest with
    | error e => rfl
    | ok gs => simp only [Except.map, List.append_assoc]

theorem bind_readOn_append (fs : List Element)
    (x : Except TemplateError (List Element × Option (List Char))) :
    (x.map fun p => (fs ++ p.1, p.2)).bind readOn = (x.bind readOn).map (fs ++ ·) := by
  cases x with
  | error e => rfl
  | ok p => exact readOn_append fs p

theorem ne_escape {c : Char} (hlast : c = '\\' → s = [] → False)
    (hescaped : ∀ (c' : Char) (r : List Char), c = '\\' → s = c' :: r → False) : c ≠ '\\' := by
  intro hc
  cases s with
  | nil => exact hlast hc rfl
  | cons c' r => exact hescaped c' r hc rfl

/-- The elements of a text are those in front of its first marker, the marker, and those behind. -/
theorem readFrom_eq : readFrom seen s = (readLine seen s).bind readOn := by
  fun_induction readLine seen s with
  | case1 => rw [readFrom]; rfl
  | case2 => rw [readFrom]; rfl
  | case3 seen c rest ih =>
    rw [readFrom, ih]
    exact (bind_readOn_append _ _).symm
  | case4 seen rest => exact readFrom_of_readDirective readDirective_slash
  | case5 seen rest _ e he =>
    rw [readFrom.eq_def]
    simp only
    split <;> simp_all [Except.bind]
  | case6 seen rest _ hd =>
    rw [readFrom.eq_def]
    simp only
    split <;> simp_all [Except.bind, readOn]
  | case7 seen rest _ e rest' hd hlt ih =>
    rw [readFrom_of_readDirective hd, ih]
    have := (bind_readOn_append (pending seen ++ [e]) (readLine [] rest')).symm
    simpa using this
  | case8 seen c rest hlast hescaped _ hdirective ih =>
    rw [← ih]
    exact readFrom_char hdirective (ne_escape hlast hescaped)

/-- The text in front of the first marker is a template of its own. -/
theorem exists_of_readLine {es : List Element} (h : readLine seen s = .ok (es, some r)) :
    ∃ u, s = u ++ '%' :: '/' :: r ∧ readFrom seen u = .ok es := by
  fun_induction readLine seen s generalizing es with
  | case1 | case2 | case5 | case6 => cases h
  | case3 seen c rest ih =>
    obtain ⟨⟨fs, behind⟩, hfs, heq⟩ := exists_of_map_eq_ok h
    cases heq
    obtain ⟨u, rfl, hu⟩ := ih hfs
    refine ⟨'\\' :: c :: u, rfl, ?_⟩
    rw [readFrom, hu]
    rfl
  | case4 seen rest =>
    cases h
    refine ⟨[], rfl, ?_⟩
    rw [readFrom]
  | case7 seen rest _ e rest' hd hlt ih =>
    obtain ⟨⟨fs, behind⟩, hfs, heq⟩ := exists_of_map_eq_ok h
    cases heq
    obtain ⟨u, rfl, hu⟩ := ih hfs
    obtain ⟨d, rfl, hd'⟩ := readDirective_append hd
    refine ⟨'%' :: (d ++ u), by simp, ?_⟩
    rw [readFrom_of_readDirective (hd' u), hu]
    rfl
  | case8 seen c rest hlast hescaped _ hdirective ih =>
    obtain ⟨u, rfl, hu⟩ := ih h
    refine ⟨c :: u, rfl, ?_⟩
    rw [readFrom_char hdirective (ne_escape hlast hescaped), hu]

/-- Literal text that has been read makes an element. -/
theorem ne_nil_of_readLine (hseen : seen ≠ []) {es : List Element} {behind : Option (List Char)}
    (h : readLine seen s = .ok (es, behind)) : es ≠ [] := by
  have hpending {seen : List Char} (hseen : seen ≠ []) : pending seen ≠ [] := by
    simp [pending, hseen]
  fun_induction readLine seen s with
  | case1 | case2 | case4 | case6 =>
    cases h
    exact hpending hseen
  | case3 | case7 =>
    obtain ⟨p, -, heq⟩ := exists_of_map_eq_ok h
    cases heq
    simp [hpending hseen]
  | case5 => cases h
  | case8 seen c rest _ _ _ _ ih => exact ih (by simp) h

end

/-! ## Where the characters of a marker first occur -/

section

variable {s u v : List Char}

theorem splitLine_cons (c : Char) (s : List Char) :
    (∃ r, c = '%' ∧ s = '/' :: r ∧ splitLine (c :: s) = some ([], r)) ∨
      splitLine (c :: s) = (splitLine s).map fun p => (c :: p.1, p.2) := by
  generalize ht : c :: s = t
  fun_cases splitLine t with
  | case1 => cases ht
  | case2 r =>
    cases ht
    exact .inl ⟨r, rfl, rfl, rfl⟩
  | case3 =>
    cases ht
    exact .inr rfl

theorem eq_of_splitLine (h : splitLine s = some (u, v)) : s = u ++ '%' :: '/' :: v := by
  induction s generalizing u with
  | nil => cases h
  | cons c s ih =>
    rcases splitLine_cons c s with ⟨r, rfl, rfl, hsplit⟩ | hsplit
    · cases h.symm.trans hsplit
      rfl
    · obtain ⟨⟨u', v'⟩, hs, heq⟩ := Option.map_eq_some_iff.1 (hsplit.symm.trans h)
      cases heq
      rw [ih hs, List.cons_append]

theorem isSome_splitLine (u v : List Char) : (splitLine (u ++ '%' :: '/' :: v)).isSome := by
  induction u with
  | nil => rfl
  | cons c u ih =>
    rcases splitLine_cons c (u ++ '%' :: '/' :: v) with ⟨r, -, -, hsplit⟩ | hsplit
    · rw [List.cons_append, hsplit, Option.isSome_some]
    · rw [List.cons_append, hsplit, Option.isSome_map, ih]

/-- The characters first occur behind the text `a`, or begin inside it. -/
theorem splitLine_append {a b : List Char} (h : splitLine (a ++ b) = some (u, v)) :
    (∃ u', u = a ++ u' ∧ splitLine b = some (u', v)) ∨ ∃ t, t ≠ [] ∧ a = u ++ t := by
  induction a generalizing u with
  | nil => exact .inl ⟨u, rfl, h⟩
  | cons c a ih =>
    rw [List.cons_append] at h
    rcases splitLine_cons c (a ++ b) with ⟨r, -, -, hsplit⟩ | hsplit
    · cases h.symm.trans hsplit
      exact .inr ⟨c :: a, by simp, rfl⟩
    · obtain ⟨⟨u', v'⟩, hs, heq⟩ := Option.map_eq_some_iff.1 (hsplit.symm.trans h)
      cases heq
      rcases ih hs with ⟨w, rfl, hb⟩ | ⟨t, ht, rfl⟩
      · exact .inl ⟨w, rfl, hb⟩
      · exact .inr ⟨t, ht, rfl⟩

/-- Unless the first `%/` of a text is its first marker, the text in front of it ends inside a
directive or behind a backslash, and has fewer elements than stand in front of the marker. -/
theorem length_lt_of_splitLine {seen : List Char} {es : List Element} {behind : Option (List Char)}
    (h : readLine seen s = .ok (es, behind)) (hs : splitLine s = some (u, v)) :
    behind = some v ∨ ∀ fs, readFrom seen u = .ok fs → fs.length < es.length := by
  fun_induction readLine seen s generalizing es u with
  | case1 | case2 => cases hs
  | case3 seen c rest ih =>
    obtain ⟨⟨gs, behind⟩, hgs, heq⟩ := exists_of_map_eq_ok h
    cases heq
    rcases splitLine_append (a := ['\\', c]) hs with ⟨u', rfl, hrest⟩ | ⟨t, ht, hu⟩
    · refine (ih hgs hrest).imp_right fun hlt fs hfs => ?_
      rw [List.cons_append, List.cons_append, List.nil_append, readFrom] at hfs
      obtain ⟨fs', hfs', rfl⟩ := exists_of_map_eq_ok hfs
      have := hlt fs' hfs'
      simp only [List.length_append]
      omega
    · -- the escape takes the sign of the characters, and leaves the slash as literal text
      have heq := eq_of_splitLine hs
      rcases List.cons_eq_append_iff.1 hu with ⟨rfl, -⟩ | ⟨u', rfl, hu'⟩
      · cases heq
      rcases List.cons_eq_append_iff.1 hu' with ⟨rfl, -⟩ | ⟨u'', rfl, hu''⟩
      · cases heq
        have hgs : readLine ['/'] v = .ok (gs, behind) := by
          rw [← hgs, readLine] <;> simp
        refine .inr fun fs hfs => ?_
        rw [readFrom] at hfs
        cases hfs
        have := List.length_pos_iff.2 (ne_nil_of_readLine (by simp) hgs)
        simp only [List.length_append]
        omega
      · exact absurd (List.append_eq_nil_iff.1 hu''.symm).2 ht
  | case4 seen rest =>
    cases h
    cases hs
    exact .inl rfl
  | case5 => cases h
  | case6 seen rest _ hd =>
    have heq := eq_of_splitLine hs
    have hmem : '/' ∈ '%' :: rest := by simp [heq]
    exact absurd ((List.mem_cons.1 hmem).resolve_left (by decide))
      (slash_not_mem_of_readDirective hd)
  | case7 seen rest hslash e rest' hd hlt ih =>
    obtain ⟨⟨gs, behind⟩, hgs, heq⟩ := exists_of_map_eq_ok h
    cases heq
    obtain ⟨d, rfl, hd'⟩ := readDirective_append hd
    rcases splitLine_append (a := '%' :: d) hs with ⟨u', rfl, hrest⟩ | ⟨t, ht, hu⟩
    · refine (ih hgs hrest).imp_right fun hlt fs hfs => ?_
      rw [List.cons_append, readFrom_of_readDirective (hd' u')] at hfs
      obtain ⟨fs', hfs', rfl⟩ := exists_of_map_eq_ok hfs
      have := hlt fs' hfs'
      simp only [List.length_append, List.length_cons]
      omega
    · have heq := eq_of_splitLine hs
      rcases List.cons_eq_append_iff.1 hu with ⟨rfl, -⟩ | ⟨d', rfl, rfl⟩
      · exact absurd (List.cons.inj heq).2 (hslash v)
      · refine .inr fun fs hfs => ?_
        rw [readFrom_of_no_directive (readDirective_beginning hd' ht) hfs]
        simp only [List.length_append, List.length_cons]
        omega
  | case8 seen c rest hlast hescaped _ hdirective ih =>
    rcases splitLine_append (a := [c]) hs with ⟨u', rfl, hrest⟩ | ⟨t, ht, hu⟩
    · refine (ih h hrest).imp_right fun hlt fs hfs => hlt fs ?_
      rwa [List.singleton_append,
        readFrom_char hdirective (ne_escape hlast hescaped)] at hfs
    · have heq := eq_of_splitLine hs
      rcases List.cons_eq_append_iff.1 hu with ⟨rfl, -⟩ | ⟨u', rfl, hu'⟩
      · exact absurd (List.cons.inj heq).1 hdirective
      · exact absurd (List.append_eq_nil_iff.1 hu'.symm).2 ht

end

/-! ## Both ways of splitting -/

theorem split_eq_ok_iff {text : String} {u v : List Char} {first next : Template}
    (hs : splitLine text.toList = some (u, v)) :
    split text = .ok (first, next) ↔
      read (String.ofList u) = .ok first ∧ read (String.ofList v) = .ok next := by
  rw [split, hs]
  simp only [bind, Except.bind, pure, Except.pure]
  cases hu : read (String.ofList u) with
  | error e => simp
  | ok f =>
    cases hv : read (String.ofList v) with
    | error e => simp
    | ok n => simp

theorem read_ofList_iff {s : List Char} {t : Template} :
    read (String.ofList s) = .ok t ↔
      readFrom [] s = .ok t.elements ∧ t.source = String.ofList s := by
  rw [read, String.toList_ofList]
  cases readFrom [] s with
  | error e => simp [Except.map]
  | ok es =>
    obtain ⟨es', source⟩ := t
    simp only [Except.map, Except.ok.injEq, Template.mk.injEq, eq_comm]

theorem exists_readLine {text : String} {t : Template} (h : read text = .ok t) :
    ∃ es behind, readLine [] text.toList = .ok (es, behind) ∧ readOn (es, behind) = .ok t.elements
    := by
  obtain ⟨es, hes, rfl⟩ := exists_of_map_eq_ok h
  rw [readFrom_eq] at hes
  cases hline : readLine [] text.toList with
  | error e =>
    rw [hline] at hes
    cases hes
  | ok p =>
    rw [hline] at hes
    exact ⟨p.1, p.2, rfl, hes⟩

/-- If the first `%/` of a text is its first marker, the text is split there. -/
theorem splits_of_first {text : String} {t : Template} {es : List Element}
    {behind : Option (List Char)} (h : read text = .ok t)
    (hline : readLine [] text.toList = .ok (es, behind))
    (hon : readOn (es, behind) = .ok t.elements)
    (hfirst : behind = (splitLine text.toList).map Prod.snd) : SplitsAtMarker text t es behind := by
  cases hs : splitLine text.toList with
  | none =>
    rw [hfirst, hs, Option.map_none, SplitsAtMarker, split, hs, h]
    rfl
  | some p =>
    obtain ⟨u, v⟩ := p
    rw [hs, Option.map_some] at hfirst
    subst hfirst
    obtain ⟨fs, hfs, helements⟩ := exists_of_map_eq_ok hon
    obtain ⟨u', hu', hes⟩ := exists_of_readLine hline
    obtain rfl : u' = u := List.append_cancel_right (hu'.symm.trans (eq_of_splitLine hs))
    exact ⟨⟨es, String.ofList u'⟩, ⟨fs, String.ofList v⟩,
      (split_eq_ok_iff hs).2 ⟨read_ofList_iff.2 ⟨hes, rfl⟩, read_ofList_iff.2 ⟨hfs, rfl⟩⟩, rfl,
      helements⟩

/-- A text that is split at its first marker has no other `%/` in front of it. -/
theorem first_of_splits {text : String} {t : Template} {es : List Element}
    {behind : Option (List Char)} (hline : readLine [] text.toList = .ok (es, behind))
    (hon : readOn (es, behind) = .ok t.elements) (h : SplitsAtMarker text t es behind) :
    behind = (splitLine text.toList).map Prod.snd := by
  cases hs : splitLine text.toList with
  | none =>
    cases behind with
    | none => rfl
    | some rest =>
      obtain ⟨u, hu, -⟩ := exists_of_readLine hline
      have hsome := isSome_splitLine u rest
      rw [← hu, hs] at hsome
      cases hsome
  | some p =>
    obtain ⟨u, v⟩ := p
    -- the first half has all the elements in front of the marker
    refine (length_lt_of_splitLine hline hs).resolve_right fun hlt => ?_
    cases behind with
    | none =>
      cases hon
      have hfirst := ((split_eq_ok_iff hs).1 h).1
      exact absurd (hlt _ (read_ofList_iff.1 hfirst).1) (Nat.lt_irrefl _)
    | some rest =>
      obtain ⟨first, next, hsplit, rfl, -⟩ := h
      have hfirst := ((split_eq_ok_iff hs).1 hsplit).1
      exact absurd (hlt _ (read_ofList_iff.1 hfirst).1) (Nat.lt_irrefl _)

/-- A text that is a template is split at its first marker, or stands as a whole for both lines if
it has none, exactly if its first `%/` is its first marker. -/
theorem splits_at_marker_iff {text : String} {t : Template} (h : read text = .ok t) :
    ∃ es behind, readLine [] text.toList = .ok (es, behind) ∧ readOn (es, behind) = .ok t.elements ∧
      (SplitsAtMarker text t es behind ↔
        behind = (splitLine text.toList).map Prod.snd) := by
  obtain ⟨es, behind, hline, hon⟩ := exists_readLine h
  exact ⟨es, behind, hline, hon, first_of_splits hline hon, splits_of_first h hline hon⟩

/-- The sign of a percentage and a payee in front of the marker, an account in a layout behind. -/
theorem splits_at_marker_payee :
    let text := "%%%P\n%/ %-20A\n"
    let es := [{ field := .literal "%" }, { field := .payee }, plain ['\n']]
    let t : Template := ⟨es ++ marker ::
      [plain [' '], { field := .accountPath, left := true, min := 20 }, plain ['\n']], text⟩
    read text = .ok t ∧ readLine [] text.toList = .ok (es, some " %-20A\n".toList) ∧
      SplitsAtMarker text t es (some " %-20A\n".toList) := by
  intro text es t
  have ht : read text = .ok t := by decide +kernel
  have hline : readLine [] text.toList = .ok (es, some " %-20A\n".toList) := by decide +kernel
  obtain ⟨es', behind, hline', -, hiff⟩ := splits_at_marker_iff ht
  cases hline'.symm.trans hline
  exact ⟨ht, hline, hiff.2 (by decide +kernel)⟩

/-- Neither the slash behind the sign of a percentage nor that of a mask makes a marker, but there
the one text is split, and the other is cut into an expression that does not end. -/
theorem percentage_is_split :
    let text := "100%%/x"
    let t : Template := ⟨[plain ['1', '0', '0'], { field := .literal "%" }, plain ['/', 'x']], text⟩
    let text' := "%(/a%/)"
    let t' : Template := ⟨[{ field := .expression "/a%/" }], text'⟩
    (read text = .ok t ∧ readLine [] text.toList = .ok (t.elements, none) ∧
      split text = .ok (⟨[plain ['1', '0', '0']], "100%"⟩, ⟨[plain ['x']], "x"⟩) ∧
      ¬SplitsAtMarker text t t.elements none) ∧
    read text' = .ok t' ∧ readLine [] text'.toList = .ok (t'.elements, none) ∧
      split text' = .error (.unclosed ')') ∧ ¬SplitsAtMarker text' t' t'.elements none := by
  intro text t text' t'
  have hsplit : split text = .ok (⟨[plain ['1', '0', '0']], "100%"⟩, ⟨[plain ['x']], "x"⟩) := by
    decide +kernel
  have hsplit' : split text' = .error (.unclosed ')') := by decide +kernel
  refine ⟨⟨by decide +kernel, by decide +kernel, hsplit, fun h => ?_⟩, by decide +kernel,
    by decide +kernel, hsplit', fun h => ?_⟩
  · have hfirst := (Prod.mk.inj (Except.ok.inj (hsplit.symm.trans h))).1
    exact absurd (congrArg (·.elements.length) hfirst) (by decide)
  · cases hsplit'.symm.trans h

end Template

end Bookkeeping
