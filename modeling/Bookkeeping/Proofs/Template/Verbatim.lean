import Bookkeeping.Proofs.Template.Splitting
import Mathlib.Algebra.GroupWithZero.Nat

/-!
# Text that stands for itself

A text stands for itself in a template exactly if it has neither `%` nor `\`
(`Template.reads_as_itself_iff`): directives and escapes use up more characters than the fixed text
they stand for (`fixedLength_of_readFrom`).  A text without `%` does not change where another one
behind it is split (`splitLine_of_not_mem`).
-/

namespace Bookkeeping

namespace Template

/-- The number of characters that the fixed texts of elements have together. -/
def fixedLength (es : List Element) : Nat :=
  (es.map fun e => match e.field with
    | .literal text => text.length
    | _ => 0).sum

variable {seen s r a : List Char} {e : Element} {es : List Element}

theorem fixedLength_append (es fs : List Element) :
    fixedLength (es ++ fs) = fixedLength es + fixedLength fs := by
  rw [fixedLength, List.map_append, List.sum_append]
  rfl

theorem fixedLength_cons (e : Element) (es : List Element) :
    fixedLength (e :: es) = fixedLength [e] + fixedLength es :=
  fixedLength_append [e] es

theorem fixedLength_pending (seen : List Char) : fixedLength (pending seen) = seen.length := by
  cases seen with
  | nil => rfl
  | cons c seen => simp [pending, fixedLength, plain]

/-- A directive that stands for fixed text stands for one character. -/
theorem fixedLength_of_readDirective (h : readDirective s = .ok (some (e, r))) :
    fixedLength [e] ≤ 1 := by
  obtain ⟨m, n, t, p, -, hfield, hp⟩ := readDirective_ok h
  obtain ⟨⟨f, r⟩, rfl, hp⟩ := Option.map_eq_some_iff.1 hp.symm
  cases hp
  rw [fixedLength, List.map_singleton, List.sum_singleton]
  unfold readField at hfield
  split at hfield
  case h_1 | h_5 => cases hfield
  case h_2 =>
    cases hfield
    exact Nat.le_refl 1
  case h_3 | h_4 =>
    split at hfield <;> cases hfield
    exact Nat.zero_le 1
  case h_6 c rest =>
    cases hfield
    split
    · rename_i heq
      rw [transactionField.eq_def] at heq
      split at heq <;> cases heq
    · exact Nat.zero_le 1
  case h_7 c rest _ _ _ _ _ =>
    cases hfield
    split
    · rename_i heq
      rw [field?.eq_def] at heq
      split at heq <;> cases heq
    · exact Nat.zero_le 1

/-- Of the characters of a text, those of directives and escapes are not all fixed. -/
theorem fixedLength_of_readFrom (h : readFrom seen s = .ok es) :
    fixedLength es ≤ seen.length + s.length ∧
      (fixedLength es = seen.length + s.length → '%' ∉ s ∧ '\\' ∉ s) := by
  -- once a character is lost, the whole text cannot be fixed any more
  have hlost {n m : Nat} {p : Prop} (hlt : n < m) : n ≤ m ∧ (n = m → p) :=
    ⟨hlt.le, fun heq => absurd heq hlt.ne⟩
  fun_induction readFrom seen s generalizing es with
  | case1 seen =>
    cases h
    rw [fixedLength_pending]
    exact ⟨Nat.le_refl _, fun _ => ⟨List.not_mem_nil, List.not_mem_nil⟩⟩
  | case2 seen =>
    cases h
    rw [fixedLength_pending]
    exact hlost (Nat.lt_succ_self _)
  | case3 seen c rest ih =>
    obtain ⟨fs, hfs, rfl⟩ := exists_of_map_eq_ok h
    have hrest := (ih hfs).1
    have hone : fixedLength ((escape? c).map fun d => plain [d]).toList ≤ 1 := by
      cases escape? c with
      | none => exact Nat.zero_le 1
      | some d => exact (fixedLength_pending [d]).le
    refine hlost ?_
    rw [fixedLength_append, fixedLength_append, fixedLength_pending, List.length_cons,
      List.length_cons]
    rw [List.length_nil] at hrest
    omega
  | case4 => cases h
  | case5 seen rest hd =>
    cases h
    rw [fixedLength_pending]
    refine hlost ?_
    rw [List.length_cons]
    omega
  | case6 seen rest e rest' hd hlt ih =>
    obtain ⟨fs, hfs, rfl⟩ := exists_of_map_eq_ok h
    have hrest := (ih hfs).1
    have hone := fixedLength_of_readDirective hd
    have hshorter := length_of_readDirective hd
    refine hlost ?_
    rw [fixedLength_append, fixedLength_cons, fixedLength_pending, List.length_cons]
    rw [List.length_nil] at hrest
    omega
  | case7 seen c rest hlast hescaped hdirective ih =>
    have hc := ne_escape hlast hescaped
    obtain ⟨hle, hall⟩ := ih h
    rw [List.length_cons] at hle hall ⊢
    refine ⟨by omega, fun heq => ?_⟩
    obtain ⟨hpercent, hescape⟩ := hall (by omega)
    exact ⟨fun hmem => (List.mem_cons.1 hmem).elim (fun h => hdirective h.symm) hpercent,
      fun hmem => (List.mem_cons.1 hmem).elim (fun h => hc h.symm) hescape⟩

/-- A text stands for itself in a template if it has neither directives nor escapes. -/
theorem reads_as_itself_iff (text : String) :
    (read text).map (·.elements) = .ok (pending text.toList.reverse) ↔
      '%' ∉ text.toList ∧ '\\' ∉ text.toList := by
  have hread : (read text).map (·.elements) = readFrom [] text.toList := by
    rw [read]
    cases readFrom [] text.toList <;> rfl
  rw [hread]
  constructor
  · intro h
    refine (fixedLength_of_readFrom h).2 ?_
    rw [fixedLength_pending, List.length_reverse, List.length_nil, Nat.zero_add]
  · rintro ⟨hpercent, hescape⟩
    have h := readFrom_append hpercent hescape [] []
    rw [List.append_nil, List.append_nil] at h
    rw [h, readFrom]

theorem splitLine_of_not_mem (ha : '%' ∉ a) (s : List Char) :
    splitLine (a ++ s) = (splitLine s).map fun p => (a ++ p.1, p.2) := by
  induction a with
  | nil =>
    rw [List.nil_append]
    cases splitLine s <;> rfl
  | cons c a ih =>
    obtain ⟨hc, ha⟩ := not_or.1 (mt List.mem_cons.2 ha)
    rcases splitLine_cons c (a ++ s) with ⟨r, rfl, -⟩ | hsplit
    · exact absurd rfl hc
    · rw [List.cons_append, hsplit, ih ha]
      cases splitLine s <;> rfl

end Template

end Bookkeeping
