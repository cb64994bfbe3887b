import Bookkeeping.Proofs.Report.Marks
import Bookkeeping.Report.Pass
import Mathlib.Data.List.Basic

/-!
# Outlines of passes

What a step of a report does to the outside does not depend on the sink, up to the first piece that
the sink refuses: it is a list of acts, pieces that are written and records that are marked as
displayed (`Outlined`).  Outlines are put together like the steps that they describe
(`Outlined.bind`), and what `render` does is outlined by the texts of the elements
(`outlined_render`).
-/

namespace Bookkeeping

open Attempt

/-- An element behind the beginning of two lists is one of the second list or of the first. -/
theorem exists_of_append_eq {α : Type} {as bs before after : List α} {x : α}
    (h : as ++ bs = before ++ x :: after) :
    (∃ cs, before = as ++ cs ∧ bs = cs ++ x :: after) ∨
      ∃ cs, as = before ++ x :: cs ∧ after = cs ++ bs := by
  rcases List.append_eq_append_iff.1 h with ⟨cs, hbefore, hbs⟩ | ⟨cs, has, hcs⟩
  · exact .inl ⟨cs, hbefore, hbs⟩
  · cases cs with
    | nil => exact .inl ⟨[], by rw [has, List.append_nil, List.append_nil], hcs.symm⟩
    | cons c cs =>
      obtain ⟨rfl, hafter⟩ := List.cons.inj hcs
      exact .inr ⟨cs, has, hafter⟩

/-- What a report can mark as displayed. -/
inductive RecordId where
  | account (id : AccountId)
  | transaction (i : Nat)

namespace ReportState

/-- The record is marked as displayed. -/
def isDone (s : ReportState) : RecordId → Bool
  | .account id => s.accountHas id .done
  | .transaction i => s.transactionHas i .done

/-- The state with a record marked as displayed. -/
def markDone (s : ReportState) : RecordId → ReportState
  | .account id => s.markAccount id .done
  | .transaction i => s.markTransaction i .done

end ReportState

/-- What a step does that can be seen from outside. -/
inductive Act where
  | piece (text : String)
  | done (id : RecordId)

namespace Act

/-- The pieces among the acts. -/
def pieces (acts : List Act) : List String :=
  acts.filterMap fun
    | piece text => some text
    | done _ => none

theorem pieces_append (as bs : List Act) : pieces (as ++ bs) = pieces as ++ pieces bs :=
  List.filterMap_append

theorem pieces_map_piece (ts : List String) : pieces (ts.map piece) = ts := by
  rw [pieces, List.filterMap_map]
  exact List.filterMap_some

/-- A piece among the pieces of acts is that of an act. -/
theorem exists_of_pieces_eq {as : List Act} {before later : List String} {t : String}
    (h : pieces as = before ++ t :: later) :
    ∃ cs ds, as = cs ++ piece t :: ds ∧ pieces cs = before := by
  obtain ⟨bs, cs, rfl, hbefore, hcs⟩ := List.filterMap_eq_append_iff.1 h
  obtain ⟨skipped, a, ds, rfl, hskipped, ha, -⟩ := List.filterMap_eq_cons_iff.1 hcs
  cases a with
  | done id => cases ha
  | piece u =>
    obtain rfl := Option.some.inj ha
    refine ⟨bs ++ skipped, ds, (List.append_assoc ..).symm, ?_⟩
    rw [pieces_append, show pieces skipped = [] from List.filterMap_eq_nil_iff.2 hskipped,
      List.append_nil]
    exact hbefore

end Act

namespace Sink

/-- The sink after it has taken these pieces. -/
def after (k : Sink) (ts : List String) : Sink := { k with pieces := k.pieces ++ ts }

/-- The sink takes these pieces if they are offered one after the other. -/
def TakesAll (k : Sink) : List String → Prop
  | [] => True
  | t :: ts => k.takes k.pieces t ∧ (k.after [t]).TakesAll ts

theorem after_nil (k : Sink) : k.after [] = k := by
  rw [after, List.append_nil]

theorem after_after (k : Sink) (ts us : List String) :
    (k.after ts).after us = k.after (ts ++ us) := by
  rw [after, after, after, List.append_assoc]

theorem takesAll_append {k : Sink} {ts us : List String} :
    k.TakesAll (ts ++ us) ↔ k.TakesAll ts ∧ (k.after ts).TakesAll us := by
  induction ts generalizing k with
  | nil => rw [List.nil_append, after_nil, TakesAll, true_and]
  | cons t ts ih =>
    rw [List.cons_append, TakesAll, TakesAll, ih, after_after, List.singleton_append, and_assoc]

/-- A sink that does not take all pieces refuses a first one. -/
theorem exists_refused {k : Sink} {ts : List String} (h : ¬k.TakesAll ts) :
    ∃ before t later, ts = before ++ t :: later ∧ k.TakesAll before ∧
      k.takes (k.pieces ++ before) t = false := by
  induction ts generalizing k with
  | nil => exact absurd trivial h
  | cons t ts ih =>
    cases ht : k.takes k.pieces t with
    | false => exact ⟨[], t, ts, rfl, trivial, by rwa [List.append_nil]⟩
    | true =>
      obtain ⟨before, u, later, rfl, hbefore, hu⟩ := ih fun hts => h ⟨ht, hts⟩
      rw [after, List.append_assoc] at hu
      exact ⟨t :: before, u, later, rfl, ⟨ht, hbefore⟩, hu⟩

theorem exec_write_of_takes {k : Sink} {t : String} (h : k.takes k.pieces t) :
    (write t).exec k = (.ok (), k.after [t]) := by
  rw [write, exec_update, if_pos h]
  rfl

theorem exec_write_of_refuses {k : Sink} {t : String} (h : k.takes k.pieces t = false) :
    (write t).exec k = (.error .write, k) := by
  rw [write, exec_update, if_neg (Bool.eq_false_iff.1 h)]

theorem text_after (k : Sink) (ts : List String) : (k.after ts).text = k.text ++ String.join ts :=
  String.join_append

theorem exec_forM_write {k : Sink} {ts : List String} (hk : k.TakesAll ts) :
    (ts.forM Sink.write).exec k = (.ok (), k.after ts) := by
  induction ts generalizing k with
  | nil => rw [exec_forM_nil, after_nil]
  | cons t ts ih =>
    rw [exec_forM_cons, exec_write_of_takes hk.1]
    exact (ih hk.2).trans (by rw [after_after, List.singleton_append])

theorem takesAll_of_exec_forM_write {k k' : Sink} {ts : List String}
    (h : (ts.forM Sink.write).exec k = (.ok (), k')) : k.TakesAll ts := by
  induction ts generalizing k with
  | nil => trivial
  | cons t ts ih =>
    obtain ⟨k₁, ht, hts⟩ := exec_forM_cons_ok h
    cases htakes : k.takes k.pieces t with
    | false =>
      rw [exec_write_of_refuses htakes] at ht
      cases ht
    | true =>
      rw [exec_write_of_takes htakes] at ht
      cases ht
      exact ⟨htakes, ih hts⟩

end Sink

/-! ## Marks -/

namespace ReportState

variable {s s₁ s₂ : ReportState} {as bs : List Act}

/-- Besides the records displayed before, those of the acts are marked as displayed, and no
others. -/
def MarkedBy (s' s : ReportState) (as : List Act) : Prop :=
  ∀ id, s'.isDone id ↔ s.isDone id ∨ Act.done id ∈ as

theorem markedBy_nil (h : ∀ id, s₁.isDone id = s.isDone id) : s₁.MarkedBy s [] := fun id => by
  rw [h, or_iff_left List.not_mem_nil]

theorem markedBy_map_piece (h : ∀ id, s₁.isDone id = s.isDone id) (ts : List String) :
    s₁.MarkedBy s (ts.map .piece) := fun id => by
  have hnone : Act.done id ∉ ts.map .piece := fun hmem => by
    obtain ⟨_, -, he⟩ := List.mem_map.1 hmem
    cases he
  rw [h, or_iff_left hnone]

theorem MarkedBy.append (h₁ : s₁.MarkedBy s as) (h₂ : s₂.MarkedBy s₁ bs) :
    s₂.MarkedBy s (as ++ bs) := fun id => by
  rw [h₂, h₁, List.mem_append, or_assoc]

theorem isDone_markAccount_waiting (s : ReportState) (id : AccountId) (record : RecordId) :
    (s.markAccount id .waiting).isDone record = s.isDone record := by
  cases record with
  | account id' => exact accountHas_markAccount_waiting s id id'
  | transaction i => exact transactionHas_markAccount s id i _ _

theorem isDone_markTransaction_waiting (s : ReportState) (i : Nat) (record : RecordId) :
    (s.markTransaction i .waiting).isDone record = s.isDone record := by
  cases record with
  | account id => exact accountHas_markTransaction s id i _ _
  | transaction i' => exact transactionHas_markTransaction_waiting s i i'

theorem isDone_unmarkTransaction_waiting (s : ReportState) (i : Nat) (record : RecordId) :
    (s.unmarkTransaction i .waiting).isDone record = s.isDone record := by
  cases record with
  | account id => exact accountHas_unmarkTransaction s id i _ _
  | transaction i' => exact transactionHas_unmarkTransaction_waiting s i i'

theorem markedBy_markDone (s : ReportState) (id : RecordId) :
    (s.markDone id).MarkedBy s [.done id] := by
  intro id'
  rw [List.mem_singleton, Act.done.injEq]
  cases id <;> cases id'
  case account.account | transaction.transaction =>
    simp only [markDone, isDone, accountHas_markAccount_done, transactionHas_markTransaction_done,
      Bool.or_eq_true, decide_eq_true_eq, RecordId.account.injEq, RecordId.transaction.injEq]
    exact or_comm
  all_goals simp only [markDone, isDone, transactionHas_markAccount, accountHas_markTransaction,
    reduceCtorEq, or_false]

end ReportState

/-! ## Outlines -/

section

variable {μ α β : Type} {s s₁ s₂ : ReportState} {m m₁ m₂ : μ} {as bs : List Act}
  {x : PassStep μ α} {r : Except ReportError β}

/-- In a state, with this memory, the step does these acts and ends with a result, a state and a
memory, in a sink that takes all pieces; a piece that is refused fails the step right there. -/
structure Outlined (x : PassStep μ α) (s : ReportState) (m : μ) (as : List Act)
    (r : Except ReportError α) (s' : ReportState) (m' : μ) : Prop where
  full : ∀ k : Sink, k.TakesAll (Act.pieces as) →
    x.exec { state := s, sink := k, memory := m } =
      (r, { state := s', sink := k.after (Act.pieces as), memory := m' })
  marks : s'.MarkedBy s as
  cut : ∀ (k : Sink) (before : List Act) (t : String) (later : List Act),
    as = before ++ .piece t :: later → k.TakesAll (Act.pieces before) →
    k.takes (k.pieces ++ Act.pieces before) t = false →
    ∃ s'' m'', x.exec { state := s, sink := k, memory := m } =
        (.error .write, { state := s'', sink := k.after (Act.pieces before), memory := m'' }) ∧
      s''.MarkedBy s before

/-- A step that does nothing to be seen. -/
theorem outlined_of_silent {r : Except ReportError α}
    (h : ∀ k, x.exec { state := s, sink := k, memory := m } =
      (r, { state := s₁, sink := k, memory := m₁ }))
    (hmarks : ∀ id, s₁.isDone id = s.isDone id) : Outlined x s m [] r s₁ m₁ where
  full k _ := by
    rw [h, Act.pieces, List.filterMap_nil, Sink.after_nil]
  marks := ReportState.markedBy_nil hmarks
  cut k before t later heq := by
    cases before <;> cases heq

theorem outlined_ofExcept (r : Except ReportError α) (s : ReportState) (m : μ) :
    Outlined (Attempt.ofExcept r) s m [] r s m :=
  outlined_of_silent (fun _ => rfl) fun _ => rfl

theorem outlined_change {f : ReportState → ReportState} (hf : ∀ id, (f s).isDone id = s.isDone id)
    (m : μ) : Outlined (Pass.change f) s m [] (.ok ()) (f s) m :=
  outlined_of_silent (fun _ => rfl) hf

theorem outlined_remember (s : ReportState) (m m' : μ) :
    Outlined (Pass.remember m') s m [] (.ok ()) s m' :=
  outlined_of_silent (fun _ => rfl) fun _ => rfl

theorem outlined_markDone (id : RecordId) (s : ReportState) (m : μ) :
    Outlined (Pass.change (·.markDone id)) s m [.done id] (.ok ()) (s.markDone id) m where
  full k _ := by
    rw [show Act.pieces [.done id] = [] from rfl, Sink.after_nil]
    rfl
  marks := ReportState.markedBy_markDone s id
  cut k before t later heq := by
    rcases List.singleton_eq_append_iff.1 heq with ⟨-, h⟩ | ⟨-, h⟩ <;> cases h

/-- One step after the other does the acts of both. -/
theorem Outlined.bind {f : α → PassStep μ β} {v : α} (hx : Outlined x s m as (.ok v) s₁ m₁)
    (hf : Outlined (f v) s₁ m₁ bs r s₂ m₂) : Outlined (x >>= f) s m (as ++ bs) r s₂ m₂ where
  full k hk := by
    rw [Act.pieces_append, Sink.takesAll_append] at hk
    rw [exec_bind, hx.full k hk.1]
    simp only
    rw [hf.full _ hk.2, Sink.after_after, Act.pieces_append]
  marks := hx.marks.append hf.marks
  cut k before t later heq hk ht := by
    rcases exists_of_append_eq heq with ⟨cs, hbefore, hbs⟩ | ⟨cs, has, -⟩
    · rw [hbefore, Act.pieces_append, Sink.takesAll_append] at hk
      rw [hbefore, Act.pieces_append, ← List.append_assoc] at ht
      obtain ⟨s', m', hrun, hmarks⟩ := hf.cut (k.after (Act.pieces as)) cs t later hbs hk.2 ht
      refine ⟨s', m', ?_, hbefore ▸ hx.marks.append hmarks⟩
      rw [exec_bind, hx.full k hk.1]
      simp only
      rw [hrun, hbefore, Sink.after_after, Act.pieces_append]
    · obtain ⟨s', m', hrun, hmarks⟩ := hx.cut k before t cs has hk ht
      refine ⟨s', m', ?_, hmarks⟩
      rw [exec_bind, hrun]

theorem Outlined.bind_error {f : α → PassStep μ β} {e : ReportError}
    (hx : Outlined x s m as (.error e) s₁ m₁) : Outlined (x >>= f) s m as (.error e) s₁ m₁ where
  full k hk := by
    rw [exec_bind, hx.full k hk]
  marks := hx.marks
  cut k before t later heq hk ht := by
    obtain ⟨s', m', hrun, hmarks⟩ := hx.cut k before t later heq hk ht
    refine ⟨s', m', ?_, hmarks⟩
    rw [exec_bind, hrun]

/-- The step succeeds if all its texts are found and the sink takes all pieces, and only then. -/
theorem Outlined.exec_eq_ok_iff {r : Except ReportError α} (h : Outlined x s m as r s₁ m₁)
    {k : Sink} {v : α} {p : Pass μ} :
    x.exec { state := s, sink := k, memory := m } = (.ok v, p) ↔
      r = .ok v ∧ k.TakesAll (Act.pieces as) ∧
        p = { state := s₁, sink := k.after (Act.pieces as), memory := m₁ } := by
  by_cases hk : k.TakesAll (Act.pieces as)
  · rw [h.full k hk, Prod.mk.injEq]
    exact ⟨fun ⟨hr, hp⟩ => ⟨hr, hk, hp.symm⟩, fun ⟨hr, _, hp⟩ => ⟨hr, hp.symm⟩⟩
  · obtain ⟨before, t, later, hpieces, hbefore, ht⟩ := Sink.exists_refused hk
    obtain ⟨cs, ds, rfl, rfl⟩ := Act.exists_of_pieces_eq hpieces
    obtain ⟨s', m', hrun, -⟩ := h.cut k cs t ds rfl hbefore ht
    rw [hrun]
    exact ⟨nofun, fun ⟨_, hall, _⟩ => absurd hall hk⟩

theorem outlined_get_bind {f : Pass μ → PassStep μ β} {g : PassStep μ β}
    (hf : ∀ k, f { state := s, sink := k, memory := m } = g) (hg : Outlined g s m as r s₁ m₁) :
    Outlined (get >>= f) s m as r s₁ m₁ where
  full k hk := by
    rw [exec_bind, exec_get]
    simp only
    rw [hf, hg.full k hk]
  marks := hg.marks
  cut k before t later heq hk ht := by
    rw [exec_bind, exec_get]
    simp only
    rw [hf]
    exact hg.cut k before t later heq hk ht

/-! ## Templates -/

/-- The texts of elements up to the first that has none, and what comes of it. -/
def Renderer.texts (r : Renderer) (sc : Scope) :
    List Element → List String × Except ReportError Unit
  | [] => ([], .ok ())
  | e :: es =>
    match r.elementText sc e with
    | .ok text => (text :: (r.texts sc es).1, (r.texts sc es).2)
    | .error error => ([], .error error)

/-- Writes the text of an element. -/
def Renderer.writeElement (r : Renderer) (sc : Scope) (e : Element) :
    Attempt Sink ReportError Unit := do
  Sink.write (← Attempt.ofExcept (r.elementText sc e))

theorem exec_writeElement (r : Renderer) (sc : Scope) (e : Element) (k : Sink) :
    (r.writeElement sc e).exec k =
      match r.elementText sc e with
      | .ok text => (Sink.write text).exec k
      | .error error => (.error error, k) := by
  rw [Renderer.writeElement, exec_bind, exec_ofExcept]
  cases r.elementText sc e <;> rfl

theorem exec_forM_writeElement (r : Renderer) (sc : Scope) {es : List Element} {k : Sink}
    (hk : k.TakesAll (r.texts sc es).1) :
    (es.forM (r.writeElement sc)).exec k = ((r.texts sc es).2, k.after (r.texts sc es).1) := by
  induction es generalizing k with
  | nil =>
    rw [Renderer.texts, Sink.after_nil]
    rfl
  | cons e es ih =>
    rw [exec_forM_cons, exec_writeElement]
    rw [Renderer.texts] at hk ⊢
    cases he : r.elementText sc e with
    | error _ =>
      simp only
      rw [Sink.after_nil]
    | ok text =>
      rw [he] at hk
      simp only
      rw [Sink.exec_write_of_takes hk.1]
      simp only
      rw [ih hk.2, Sink.after_after, List.singleton_append]

theorem exec_forM_writeElement_cut (r : Renderer) (sc : Scope) {es : List Element} {k : Sink}
    {before later : List String} {t : String} (heq : (r.texts sc es).1 = before ++ t :: later)
    (hk : k.TakesAll before) (ht : k.takes (k.pieces ++ before) t = false) :
    (es.forM (r.writeElement sc)).exec k = (.error .write, k.after before) := by
  induction es generalizing k before with
  | nil => cases before <;> cases heq
  | cons e es ih =>
    rw [exec_forM_cons, exec_writeElement]
    rw [Renderer.texts] at heq
    cases he : r.elementText sc e with
    | error _ =>
      rw [he] at heq
      cases before <;> cases heq
    | ok text =>
      rw [he] at heq
      simp only at heq ⊢
      cases before with
      | nil =>
        obtain ⟨rfl, -⟩ := List.cons.inj heq
        rw [List.append_nil] at ht
        rw [Sink.exec_write_of_refuses ht, Sink.after_nil]
      | cons b before =>
        obtain ⟨rfl, hrest⟩ := List.cons.inj heq
        rw [Sink.exec_write_of_takes hk.1]
        simp only
        rw [ih hrest hk.2 (by rwa [Sink.after, List.append_assoc]), Sink.after_after,
          List.singleton_append]

/-- A template is written text by text. -/
theorem outlined_render (r : Renderer) (t : Template) (sc : Scope) (s : ReportState) (m : μ) :
    Outlined (Pass.onSink (r.render t sc)) s m ((r.texts sc t.elements).1.map .piece)
      (r.texts sc t.elements).2 s m where
  full k hk := by
    rw [Act.pieces_map_piece] at hk ⊢
    have hrun : (r.render t sc).exec k = _ := exec_forM_writeElement r sc hk
    rw [Pass.onSink, exec_onPart, hrun]
  marks := ReportState.markedBy_map_piece (fun _ => rfl) _
  cut k before text later heq hk ht := by
    obtain ⟨ts, us, htexts, rfl, hus⟩ := List.map_eq_append_iff.1 heq
    obtain ⟨u, us, rfl, hu, -⟩ := List.map_eq_cons_iff.1 hus
    obtain rfl := Act.piece.inj hu
    rw [Act.pieces_map_piece] at hk ht ⊢
    have hrun : (r.render t sc).exec k = _ := exec_forM_writeElement_cut r sc htexts hk ht
    refine ⟨s, m, ?_, ReportState.markedBy_map_piece (fun _ => rfl) _⟩
    rw [Pass.onSink, exec_onPart, hrun]

end

/-! ### Failures of texts -/

/-- A failing evaluation is told apart from a sink that refuses. -/
theorem mapError_value_ne_write {α : Type} (x : Except ValueError α) :
    x.mapError ReportError.value ≠ .error .write := by
  cases x <;> nofun

namespace Renderer

variable {r : Renderer} {sc : Scope}

theorem formulaCell_ne_write (e : Element) (f : Formula) :
    r.formulaCell e sc f ≠ .error .write := by
  rw [formulaCell]
  cases f.eval sc <;> nofun

theorem amountWithPriceText_ne_write : amountWithPriceText sc ≠ .error .write := by
  rw [amountWithPriceText]
  split
  · nofun
  · split
    · split <;> nofun
    · nofun

theorem cellOf_ne_write (e : Element) : r.cellOf sc e ≠ .error .write := by
  rw [cellOf]
  cases hfield : e.field with
  | expression text =>
    simp only
    cases Formula.read text with
    | error _ => nofun
    | ok f => exact formulaCell_ne_write e f.fold
  | amount | total => exact formulaCell_ne_write e _
  | amountWithPrice =>
    intro h
    have hne : amountWithPriceText sc ≠ .error .write := amountWithPriceText_ne_write
    cases htext : amountWithPriceText sc with
    | error error =>
      rw [htext] at h hne
      cases h
      exact hne rfl
    | ok _ =>
      rw [htext] at h
      cases h
  | _ => nofun

/-- No text of an element fails the way that a sink does. -/
theorem texts_ne_write (es : List Element) : (r.texts sc es).2 ≠ .error .write := by
  induction es with
  | nil => nofun
  | cons e es ih =>
    rw [texts]
    cases h : r.elementText sc e with
    | ok text => exact ih
    | error error =>
      rintro ⟨⟩
      rw [elementText] at h
      cases hcell : r.cellOf sc e with
      | error error =>
        rw [hcell] at h
        cases h
        exact cellOf_ne_write e hcell
      | ok _ =>
        rw [hcell] at h
        cases h

end Renderer

end Bookkeeping
