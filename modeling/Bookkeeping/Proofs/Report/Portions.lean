import Bookkeeping.Proofs.Report.Display
import Bookkeeping.Proofs.Report.Outline

/-!
# Reports in portions

A report is written in portions: the whole text of a record, and then its mark.  A `Course` says of
a report where it stands once some portions are written, and what the next one has to be.  A step
that keeps to the course wherever it starts (`Course.Tells`) is outlined by portions, and steps that
do so can be put together (`Course.Tells.bind`, `Course.tells_forM`).  So what is left of them by a
sink that refuses a piece is honest (`Honest`, `Course.ToldBy.honest`): the portions before stand
written and are marked, and of one more portion the beginning is written.
-/

namespace Bookkeeping

open Attempt

/-- Pieces that belong together, and the record that is marked once they are written. -/
structure Portion where
  pieces : List String
  record : Option RecordId

namespace Portion

/-- The pieces of a text that is not whole. -/
def unfinished (pieces : List String) : Portion := ⟨pieces, none⟩

/-- What is done to write a portion. -/
def acts (q : Portion) : List Act := q.pieces.map .piece ++ q.record.toList.map .done

theorem pieces_acts (q : Portion) : Act.pieces q.acts = q.pieces := by
  obtain ⟨pieces, record⟩ := q
  rw [acts, Act.pieces_append, Act.pieces_map_piece]
  cases record <;> exact List.append_nil _

theorem pieces_flatMap_acts (qs : List Portion) :
    Act.pieces (qs.flatMap acts) = qs.flatMap pieces := by
  induction qs with
  | nil => rfl
  | cons q qs ih =>
    rw [List.flatMap_cons, List.flatMap_cons, Act.pieces_append, pieces_acts, ih]

theorem done_mem_acts {q : Portion} {id : RecordId} :
    Act.done id ∈ q.acts ↔ q.record = some id := by
  obtain ⟨pieces, record⟩ := q
  cases record <;> simp [acts, eq_comm]

theorem pieces_outline (qs : List Portion) (ts : List String) :
    Act.pieces (qs.flatMap acts ++ ts.map .piece) = qs.flatMap pieces ++ ts := by
  rw [Act.pieces_append, pieces_flatMap_acts, Act.pieces_map_piece]

theorem done_mem_outline {qs : List Portion} {ts : List String} {id : RecordId} :
    Act.done id ∈ qs.flatMap acts ++ ts.map .piece ↔ ∃ q ∈ qs, q.record = some id := by
  have hnone : Act.done id ∉ ts.map .piece := fun h => by
    obtain ⟨_, -, he⟩ := List.mem_map.1 h
    cases he
  rw [List.mem_append, or_iff_left hnone]
  simp only [List.mem_flatMap, done_mem_acts]

theorem flatMap_acts_append (qs : List Portion) (rest : List String) :
    (qs ++ [unfinished rest]).flatMap acts = qs.flatMap acts ++ rest.map .piece := by
  rw [List.flatMap_append, List.flatMap_singleton, acts, unfinished, Option.toList_none,
    List.map_nil, List.append_nil]

/-- The first piece that is not written is one of a portion. -/
theorem exists_portion {ps : List Portion} {written later : List String} {t : String}
    (h : ps.flatMap pieces = written ++ t :: later) :
    ∃ before q after start more, ps = before ++ q :: after ∧ q.pieces = start ++ t :: more ∧
      written = before.flatMap pieces ++ start := by
  induction ps generalizing written with
  | nil => cases written <;> cases h
  | cons q ps ih =>
    rw [List.flatMap_cons] at h
    rcases exists_of_append_eq h with ⟨cs, hwritten, hps⟩ | ⟨more, hq, -⟩
    · obtain ⟨before, q', after, start, more, rfl, hq', rfl⟩ := ih hps
      refine ⟨q :: before, q', after, start, more, rfl, hq', ?_⟩
      rw [hwritten, List.flatMap_cons, List.append_assoc]
    · exact ⟨[], q, ps, written, more, rfl, hq, rfl⟩

end Portion

namespace ReportState

/-- The state with the records of portions marked as displayed. -/
def displaying (s : ReportState) (qs : List Portion) : ReportState :=
  qs.foldl (fun s q => q.record.elim s s.markDone) s

theorem displaying_append (s : ReportState) (qs : List Portion) (q : Portion) :
    s.displaying (qs ++ [q]) = q.record.elim (s.displaying qs) (s.displaying qs).markDone := by
  rw [displaying, List.foldl_append]
  rfl

theorem marksApart_markDone (s : ReportState) (id : RecordId) : (s.markDone id).MarksApart s := by
  cases id with
  | account id => exact marksApart_changeAccount s id (·.union .done)
  | transaction i => exact marksApart_changeTransaction s i (·.union .done)

/-- Portions that are displayed leave their marks and nothing else. -/
theorem marksApart_displaying (s : ReportState) (qs : List Portion) :
    (s.displaying qs).MarksApart s := by
  induction qs generalizing s with
  | nil => exact .refl s
  | cons q qs ih =>
    obtain ⟨pieces, _ | id⟩ := q
    · exact ih s
    · exact (ih (s.markDone id)).trans (marksApart_markDone s id)

end ReportState

/-! ## Honesty -/

section

variable {μ α β : Type}

/-- However the step is run on this state with this memory, it writes these portions, each of which
is what has to come after those before it, and then the rest of one that has no whole text; and it
stops at the first piece that is refused. -/
structure Honest (whole : List Portion → Portion → Prop) (x : PassStep μ Unit) (s : ReportState)
    (m : μ) (portions : List Portion) (rest : List String) : Prop where
  /-- What is written before a mark is the whole text. -/
  whole : ∀ before q after, portions = before ++ q :: after → whole before q
  /-- A sink that takes all pieces is sent them all, and the records of all portions are marked; a
  rest is only left by a failure. -/
  full : ∀ k : Sink, k.TakesAll (portions.flatMap Portion.pieces ++ rest) → ∃ r s' m',
    x.exec { state := s, sink := k, memory := m } =
      (r, { state := s', sink := k.after (portions.flatMap Portion.pieces ++ rest),
            memory := m' }) ∧
    r ≠ .error .write ∧ (r = .ok () → rest = []) ∧
    ∀ id, s'.isDone id ↔ s.isDone id ∨ ∃ q ∈ portions, q.record = some id
  /-- A sink that refuses a piece has been sent those before it.  The piece is one of a portion, or
  of the rest, and just the records of the portions before this one are marked. -/
  cut : ∀ (k : Sink) (written : List String) (t : String) (later : List String),
    portions.flatMap Portion.pieces ++ rest = written ++ t :: later → k.TakesAll written →
    k.takes (k.pieces ++ written) t = false → ∃ s' m',
      x.exec { state := s, sink := k, memory := m } =
        (.error .write, { state := s', sink := k.after written, memory := m' }) ∧
      ∃ before q after start more, portions ++ [Portion.unfinished rest] = before ++ q :: after ∧
        q.pieces = start ++ t :: more ∧ written = before.flatMap Portion.pieces ++ start ∧
        ∀ id, s'.isDone id ↔ s.isDone id ∨ ∃ q ∈ before, q.record = some id

/-- What is known of a report while it is written. -/
structure Course (μ : Type) where
  /-- Where the report stands once these portions are written. -/
  stands : List Portion → ReportState → μ → Prop
  /-- What the portion after these has to be. -/
  whole : List Portion → Portion → Prop

namespace Course

/-- After some portions, the step is outlined by further ones and a rest, as the course has it; and
if the step succeeds, the report stands where it should once they are written. -/
structure ToldBy (c : Course μ) (before : List Portion) (x : PassStep μ α) (s : ReportState)
    (m : μ) (portions : List Portion) (rest : List String) (r : Except ReportError α)
    (s' : ReportState) (m' : μ) : Prop where
  outlined : Outlined x s m (portions.flatMap Portion.acts ++ rest.map .piece) r s' m'
  whole : ∀ earlier q later, portions = earlier ++ q :: later → c.whole (before ++ earlier) q
  stands : ∀ v, r = .ok v → c.stands (before ++ portions) s' m'
  rest_of_ok : ∀ v, r = .ok v → rest = []
  ne_write : r ≠ .error .write

/-- After some portions, the step is outlined by further ones. -/
def TellsAt (c : Course μ) (before : List Portion) (x : PassStep μ α) (s : ReportState) (m : μ) :
    Prop :=
  ∃ portions rest r s' m', c.ToldBy before x s m portions rest r s' m'

/-- Wherever the report stands, the step keeps to the course. -/
def Tells (c : Course μ) (x : PassStep μ α) : Prop :=
  ∀ before s m, c.stands before s m → c.TellsAt before x s m

/-- The course as long as this holds of the state. -/
def within (c : Course μ) (inv : ReportState → Prop) : Course μ where
  stands before s m := c.stands before s m ∧ inv s
  whole := c.whole

variable {c : Course μ} {before : List Portion} {s s₁ s' : ReportState} {m m₁ m' : μ}
  {x : PassStep μ α} {ts : List String}

theorem TellsAt.outlined (h : c.TellsAt before x s m) :
    ∃ as r s' m', Outlined x s m as r s' m' := by
  obtain ⟨_, _, r, s', m', h⟩ := h
  exact ⟨_, r, s', m', h.outlined⟩

theorem TellsAt.of_within {inv : ReportState → Prop} (h : (c.within inv).TellsAt before x s m) :
    c.TellsAt before x s m := by
  obtain ⟨portions, rest, r, s', m', h⟩ := h
  exact ⟨portions, rest, r, s', m', h.outlined, h.whole, fun v hv => (h.stands v hv).1,
    h.rest_of_ok, h.ne_write⟩

/-- A step that is outlined by portions leaves an honest record. -/
theorem ToldBy.honest {x : PassStep μ Unit} {portions : List Portion} {rest : List String}
    {r : Except ReportError Unit} (h : c.ToldBy [] x s m portions rest r s' m') :
    Honest c.whole x s m portions rest where
  whole := h.whole
  full k hk := by
    have hpieces := Portion.pieces_outline portions rest
    refine ⟨r, s', m', ?_, h.ne_write, h.rest_of_ok (), fun id => ?_⟩
    · rw [h.outlined.full k (hpieces ▸ hk), hpieces]
    · rw [h.outlined.marks id, Portion.done_mem_outline]
  cut k written t later heq hk ht := by
    have hall : (portions ++ [Portion.unfinished rest]).flatMap Portion.pieces =
        written ++ t :: later := by
      rw [← heq, List.flatMap_append, List.flatMap_singleton]
      rfl
    obtain ⟨before, q, after, start, more, hps, hq, rfl⟩ := Portion.exists_portion hall
    have hacts : portions.flatMap Portion.acts ++ rest.map .piece =
        (before.flatMap Portion.acts ++ start.map .piece) ++
          .piece t :: (more.map .piece ++ q.record.toList.map .done ++
            after.flatMap Portion.acts) := by
      rw [← Portion.flatMap_acts_append, hps, List.flatMap_append, List.flatMap_cons,
        Portion.acts.eq_def q, hq, List.map_append, List.map_cons]
      simp only [List.append_assoc, List.cons_append]
    have hpieces := Portion.pieces_outline before start
    obtain ⟨s'', m'', hrun, hmarks⟩ :=
      h.outlined.cut k _ t _ hacts (hpieces ▸ hk) (hpieces ▸ ht)
    refine ⟨s'', m'', hpieces ▸ hrun, before, q, after, start, more, hps, hq, rfl, fun id => ?_⟩
    rw [hmarks id, Portion.done_mem_outline]

theorem TellsAt.honest {x : PassStep μ Unit} (h : c.TellsAt [] x s m) :
    ∃ portions rest, Honest c.whole x s m portions rest := by
  obtain ⟨portions, rest, _, _, _, h⟩ := h
  exact ⟨portions, rest, h.honest⟩

/-! ## Rules for steps -/

theorem TellsAt.bind {f : α → PassStep μ β} (hx : c.TellsAt before x s m)
    (hf : ∀ v, c.Tells (f v)) : c.TellsAt before (x >>= f) s m := by
  obtain ⟨portions, rest, r, s₁, m₁, hx⟩ := hx
  cases r with
  | error e =>
    have hne : (.error e : Except ReportError β) ≠ .error .write := by
      rintro ⟨⟩
      exact hx.ne_write rfl
    exact ⟨portions, rest, .error e, s₁, m₁, hx.outlined.bind_error, hx.whole, nofun, nofun, hne⟩
  | ok v =>
    obtain ⟨portions', rest', r, s₂, m₂, hv⟩ := hf v _ s₁ m₁ (hx.stands v rfl)
    obtain rfl := hx.rest_of_ok v rfl
    refine ⟨portions ++ portions', rest', r, s₂, m₂, ?_, fun earlier q later hq => ?_,
      fun w hw => ?_, hv.rest_of_ok, hv.ne_write⟩
    · have houtlined := hx.outlined.bind hv.outlined
      rwa [List.map_nil, List.append_nil, ← List.append_assoc, ← List.flatMap_append] at houtlined
    · rcases exists_of_append_eq hq with ⟨cs, rfl, hcs⟩ | ⟨cs, hcs, -⟩
      · rw [← List.append_assoc]
        exact hv.whole cs q later hcs
      · exact hx.whole earlier q cs hcs
    · rw [← List.append_assoc]
      exact hv.stands w hw

theorem Tells.bind {f : α → PassStep μ β} (hx : c.Tells x) (hf : ∀ v, c.Tells (f v)) :
    c.Tells (x >>= f) := fun before s m h => (hx before s m h).bind hf

theorem tellsAt_get_bind {f : Pass μ → PassStep μ β} {g : PassStep μ β}
    (hf : ∀ k, f { state := s, sink := k, memory := m } = g) (hg : c.TellsAt before g s m) :
    c.TellsAt before (get >>= f) s m := by
  obtain ⟨portions, rest, r, s', m', hg⟩ := hg
  exact ⟨portions, rest, r, s', m', outlined_get_bind hf hg.outlined, hg.whole, hg.stands,
    hg.rest_of_ok, hg.ne_write⟩

theorem tellsAt_of_silent {r : Except ReportError α} (h : Outlined x s m [] r s' m')
    (hr : r ≠ .error .write) (hstands : ∀ v, r = .ok v → c.stands before s' m') :
    c.TellsAt before x s m := by
  refine ⟨[], [], r, s', m', h, fun earlier q later hq => ?_, fun v hv => ?_, fun _ _ => rfl, hr⟩
  · cases earlier <;> cases hq
  · rw [List.append_nil]
    exact hstands v hv

theorem tells_ofExcept {r : Except ReportError α} (hr : r ≠ .error .write) :
    c.Tells (Attempt.ofExcept r : PassStep μ α) := fun _ s m h =>
  tellsAt_of_silent (outlined_ofExcept r s m) hr fun _ _ => h

theorem tells_pure (v : α) : c.Tells (pure v : PassStep μ α) :=
  tells_ofExcept (r := .ok v) nofun

theorem tells_change {f : ReportState → ReportState}
    (hf : ∀ s id, (f s).isDone id = s.isDone id)
    (hstands : ∀ before s m, c.stands before s m → c.stands before (f s) m) :
    c.Tells (Pass.change f : PassStep μ Unit) := fun before s m h =>
  tellsAt_of_silent (outlined_change (hf s) m) nofun fun _ _ => hstands before s m h

theorem tells_remember {m : μ}
    (hstands : ∀ before s m', c.stands before s m' → c.stands before s m) :
    c.Tells (Pass.remember m) := fun before s m' h =>
  tellsAt_of_silent (outlined_remember s m' m) nofun fun _ _ => hstands before s m' h

theorem tells_forM {f : β → PassStep μ Unit} {l : List β} (hf : ∀ b ∈ l, c.Tells (f b)) :
    c.Tells (l.forM f) := by
  induction l with
  | nil => exact tells_pure ()
  | cons b l ih => exact (hf b (.head _)).bind fun _ => ih fun b' hb' => hf b' (.tail _ hb')

/-- Texts that are written, and a step that marks their record, are a portion. -/
theorem tellsAt_written (ts : List String) (record : Option RecordId) {x y : PassStep μ Unit}
    {r : Except ReportError Unit} (hx : Outlined x s m (ts.map .piece) r s₁ m₁)
    (hr : r ≠ .error .write)
    (hy : r = .ok () → Outlined y s₁ m₁ (record.toList.map .done) (.ok ()) s' m')
    (hwhole : r = .ok () → c.whole before ⟨ts, record⟩)
    (hstands : r = .ok () → c.stands (before ++ [⟨ts, record⟩]) s' m') :
    c.TellsAt before (do x; y) s m := by
  cases r with
  | error e =>
    refine ⟨[], ts, .error e, s₁, m₁, hx.bind_error, fun earlier q later hq => ?_, nofun, nofun, hr⟩
    cases earlier <;> cases hq
  | ok _ =>
    refine ⟨[⟨ts, record⟩], [], .ok (), s', m', ?_, fun earlier q later hq => ?_,
      fun _ _ => hstands rfl, fun _ _ => rfl, nofun⟩
    · have houtlined := hx.bind (f := fun _ => y) (hy rfl)
      simpa [Portion.acts] using houtlined
    · rcases List.singleton_eq_append_iff.1 hq with ⟨rfl, h⟩ | ⟨rfl, h⟩
      · cases h
        rw [List.append_nil]
        exact hwhole rfl
      · cases h

/-- Texts that are written without a mark are a portion as well. -/
theorem tellsAt_lines {x : PassStep μ Unit} {r : Except ReportError Unit}
    (hx : Outlined x s m (ts.map .piece) r s' m') (hr : r ≠ .error .write)
    (hwhole : r = .ok () → c.whole before ⟨ts, none⟩)
    (hstands : r = .ok () → c.stands (before ++ [⟨ts, none⟩]) s' m') :
    c.TellsAt before x s m := by
  rw [← bind_pure_unit (x := x)]
  exact tellsAt_written ts none hx hr (fun _ => outlined_ofExcept (.ok ()) s' m') hwhole hstands

end Course

end

end Bookkeeping
