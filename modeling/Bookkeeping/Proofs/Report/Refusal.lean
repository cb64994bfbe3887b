import Bookkeeping.Proofs.Report.Opening
import Bookkeeping.Proofs.Report.Portions
import Bookkeeping.Proofs.Report.Rendering
import Bookkeeping.Report.Balances
import Bookkeeping.Report.Blocks
import Bookkeeping.Report.Register

/-!
# Refused pieces

What comes next in a report, after the portions that stand written: for a register one of the
transactions that it is fed (`Register.Whole`), for a report in blocks one of those that wait
(`Blocks.Whole`), for balances an account (`Balances.Whole`), and for opening balances an account or
what balances the accounts before (`Opening.Whole`).  Each time it is the whole text, in the state
of that moment.  All kinds of reports keep to this, whatever they are fed, so that a refused piece
leaves an honest record (`refusal_leaves_honest_record`).
-/

namespace Bookkeeping

open Attempt

/-- The texts of a scope are found in states that look alike. -/
theorem Renderer.texts_congr {r : Renderer} {sc : Scope} {t : ReportState} (h : sc.LooksAlike t)
    (es : List Element) : r.texts sc es = r.texts (sc.seenIn t sc.now) es := by
  induction es with
  | nil => rfl
  | cons e es ih => rw [texts, texts, elementText_congr h sc.now (.inr rfl), ih]

/-- A template is written for a transaction text by text. -/
theorem Report.outlined_writeTransaction {μ : Type} (r : Report) (t : Template) (x : Transaction)
    (s : ReportState) (m : μ) : Outlined (r.writeTransaction t x) s m
      ((r.renderer.texts (.forTransaction r.journal s r.now x) t.elements).1.map .piece)
      (r.renderer.texts (.forTransaction r.journal s r.now x) t.elements).2 s m :=
  outlined_get_bind (fun _ => rfl) (outlined_render _ _ _ s m)

/-! ## Registers -/

namespace Register

/-- The template of a transaction that comes after the one remembered. -/
def templateOf (r : Register) (m : Memory) (x : Transaction) : Template :=
  if m = some (r.groupOf x) then r.next else r.first

/-- What is remembered once these portions are written: the last transaction of them, and until
there is one, what was remembered at the start. -/
def Remembers (r : Register) (m : Memory) (xs : List Transaction) (before : List Portion)
    (last : Memory) : Prop :=
  match before.getLast? with
  | none => last = m
  | some q => ∃ x ∈ xs, q.record = some (.transaction x.id) ∧ last = some (r.groupOf x)

/-- The portion is the whole text of a transaction that is fed, in the state in which those before
have been displayed. -/
def Whole (r : Register) (s : ReportState) (m : Memory) (xs : List Transaction)
    (before : List Portion) (q : Portion) : Prop :=
  ∃ x ∈ xs, ∃ last, r.Remembers m xs before last ∧ q.record = some (.transaction x.id) ∧
    r.renderer.texts (.forTransaction r.journal (s.displaying before) r.now x)
      (r.templateOf last x).elements = (q.pieces, .ok ())

/-- The course of a register. -/
def course (r : Register) (s : ReportState) (m : Memory) (xs : List Transaction) :
    Course Memory where
  stands before cur last := cur = s.displaying before ∧ r.Remembers m xs before last
  whole := r.Whole s m xs

variable {r : Register} {s : ReportState} {m : Memory} {x : Transaction} {xs : List Transaction}

theorem tells_feed (hx : x ∈ xs) : (r.course s m xs).Tells (r.feed x) := by
  rintro before _ last ⟨rfl, hlast⟩
  refine Course.tellsAt_get_bind
    (g := if (s.displaying before).transactionHas x.id .done then pure () else do
      r.writeTransaction (r.templateOf last x) x
      Pass.change (·.markDone (.transaction x.id))
      Pass.remember (some (r.groupOf x))) (fun _ => rfl) ?_
  by_cases hdone : (s.displaying before).transactionHas x.id .done
  · rw [if_pos hdone]
    exact Course.tells_pure () before _ last ⟨rfl, hlast⟩
  · rw [if_neg hdone]
    refine Course.tellsAt_written _ (some (.transaction x.id))
      (r.outlined_writeTransaction _ x _ last) (Renderer.texts_ne_write _)
      (fun _ => (outlined_markDone _ _ last).bind (outlined_remember _ last _))
      (fun hok => ⟨x, hx, last, hlast, rfl, Prod.ext rfl hok⟩) fun _ => ⟨?_, ?_⟩
    · rw [ReportState.displaying_append]
      rfl
    · rw [Remembers, List.getLast?_append_of_ne_nil _ (List.cons_ne_nil _ _)]
      exact ⟨x, hx, rfl, rfl⟩

theorem tells_feedAll (r : Register) (s : ReportState) (m : Memory) (xs : List Transaction) :
    (r.course s m xs).TellsAt [] (r.feedAll xs) s m :=
  Course.tells_forM (fun _ hx => tells_feed hx) [] s m ⟨rfl, rfl⟩

end Register

/-! ## Blocks -/

namespace Blocks

/-- What a report in blocks can be asked for. -/
inductive Call where
  | transaction (x : Transaction)
  | entry (e : Entry)
  | finish

/-- Does what is asked for. -/
def call (b : Blocks) : Call → PassStep Memory Unit
  | .transaction x => b.feed x
  | .entry e => b.feedEntry e
  | .finish => b.finish

/-- What a call feeds. -/
def fed (b : Blocks) : Call → List Transaction
  | .transaction x => [x]
  | .entry e => b.journal.entryTransactions e
  | .finish => []

/-- A state in which the report may be once these portions are written.  From that at the start it
differs in marks alone: the records of the portions are displayed besides, and what waits besides
has been fed. -/
structure Reaches (s : ReportState) (xs : List Transaction) (before : List Portion)
    (cur : ReportState) : Prop where
  apart : cur.MarksApart s
  done : ∀ id, cur.isDone id ↔ s.isDone id ∨ ∃ q ∈ before, q.record = some id
  waiting : ∀ i, cur.transactionHas i .waiting → s.transactionHas i .waiting ∨ ∃ x ∈ xs, x.id = i

/-- The entry is that of a transaction that is fed, or the one remembered at the start. -/
def Collects (m : Memory) (xs : List Transaction) (entry : Nat) : Prop :=
  m = some entry ∨ ∃ x ∈ xs, x.entry = entry

/-- The portion is the whole text of a transaction that waits with others of its entry, in a state
of that moment; the first of them has the first template. -/
def Whole (b : Blocks) (s : ReportState) (m : Memory) (xs : List Transaction)
    (before : List Portion) (q : Portion) : Prop :=
  ∃ cur entry, Reaches s xs before cur ∧ Collects m xs entry ∧
    ∃ earlier x later, b.waiting cur entry = earlier ++ x :: later ∧
      q.record = some (.transaction x.id) ∧
      b.renderer.texts (.forTransaction b.journal cur b.now x)
        (if earlier = [] then b.first else b.next).elements = (q.pieces, .ok ())

/-- The course of a report in blocks. -/
def course (b : Blocks) (s : ReportState) (m : Memory) (xs : List Transaction) :
    Course Memory where
  stands before cur last := Reaches s xs before cur ∧ ∀ entry ∈ last, Collects m xs entry
  whole := b.Whole s m xs

variable {b : Blocks} {s cur : ReportState} {m : Memory} {x : Transaction}
  {xs block : List Transaction} {before : List Portion} {entry : Nat}

theorem Reaches.markDone (h : Reaches s xs before cur) (i : Nat) (ts : List String) :
    Reaches s xs (before ++ [⟨ts, some (.transaction i)⟩]) (cur.markTransaction i .done) where
  apart := (cur.marksApart_markDone (.transaction i)).trans h.apart
  done id := by
    rw [show cur.markTransaction i .done = cur.markDone (.transaction i) from rfl,
      cur.markedBy_markDone, h.done, or_assoc]
    simp only [List.mem_append, List.mem_singleton, or_and_right, exists_or, exists_eq_left,
      Act.done.injEq, Option.some.injEq, eq_comm (a := id)]
  waiting j hj := by
    rw [ReportState.waiting_markTransaction_done] at hj
    exact h.waiting j hj

theorem Reaches.markWaiting (h : Reaches s xs before cur) (hx : x ∈ xs) :
    Reaches s xs before (cur.markTransaction x.id .waiting) where
  apart := (ReportState.marksApart_changeTransaction cur x.id (·.union .waiting)).trans h.apart
  done id := by rw [ReportState.isDone_markTransaction_waiting, h.done]
  waiting i hi := by
    rw [ReportState.waiting_markTransaction_waiting, Bool.or_eq_true, decide_eq_true_iff] at hi
    rcases hi with rfl | hi
    · exact .inr ⟨x, hx, rfl⟩
    · exact h.waiting i hi

theorem Reaches.unmark (h : Reaches s xs before cur) (i : Nat) :
    Reaches s xs before (cur.unmarkTransaction i .waiting) where
  apart := (cur.marksApart_unmarkTransaction i .waiting).trans h.apart
  done id := by rw [ReportState.isDone_unmarkTransaction_waiting, h.done]
  waiting j hj := by
    rw [ReportState.waiting_unmarkTransaction_waiting, Bool.and_eq_true] at hj
    exact h.waiting j hj.2

theorem waiting_markDone (b : Blocks) (s : ReportState) (i entry : Nat) :
    b.waiting (s.markTransaction i .done) entry = b.waiting s entry := by
  simp only [waiting, ReportState.waiting_markTransaction_done]

/-- While a block is written, what waits of its entry stays as it was. -/
theorem tells_writeOne (hentry : Collects m xs entry) (earlier later : List Transaction)
    (hblock : block = earlier ++ x :: later) :
    ((b.course s m xs).within (b.waiting · entry = block)).Tells
      (b.writeOne (if earlier = [] then b.first else b.next) x) := by
  rintro before cur last ⟨⟨hreaches, hlast⟩, hwaiting⟩
  refine Course.tellsAt_written _ (some (.transaction x.id))
    (b.outlined_writeTransaction _ x cur last) (Renderer.texts_ne_write _)
    (fun _ => outlined_markDone (.transaction x.id) cur last) (fun hok => ?_)
    fun _ => ⟨⟨?_, hlast⟩, ?_⟩
  · exact ⟨cur, entry, hreaches, hentry, earlier, x, later, hwaiting.trans hblock, rfl,
      Prod.ext rfl hok⟩
  · exact hreaches.markDone x.id _
  · exact (b.waiting_markDone cur x.id entry).trans hwaiting

theorem tells_writeBlock (hentry : Collects m xs entry) (block : List Transaction) :
    ((b.course s m xs).within (b.waiting · entry = block)).Tells (b.writeBlock block) := by
  cases block with
  | nil => exact Course.tells_pure ()
  | cons x rest =>
    refine (tells_writeOne hentry [] rest rfl).bind fun _ =>
      Course.tells_forM fun y hy => ?_
    obtain ⟨earlier, later, rfl⟩ := List.append_of_mem hy
    exact tells_writeOne hentry (x :: earlier) later rfl

theorem tells_writeEntry (hentry : Collects m xs entry) :
    (b.course s m xs).Tells (b.writeEntry entry) := by
  intro before cur last hstands
  refine Course.tellsAt_get_bind (g := do
    b.writeBlock (b.waiting cur entry)
    (b.waiting cur entry).forM fun x => Pass.change (·.unmarkTransaction x.id .waiting))
    (fun _ => rfl) ?_
  refine (tells_writeBlock hentry _ before cur last ⟨hstands, rfl⟩).of_within.bind fun _ => ?_
  exact Course.tells_forM fun x _ => Course.tells_change
    (fun s => s.isDone_unmarkTransaction_waiting x.id) fun _ _ _ h => ⟨h.1.unmark x.id, h.2⟩

theorem tells_remember_entry (hx : x ∈ xs) :
    (b.course s m xs).Tells (Pass.remember (some x.entry)) :=
  Course.tells_remember fun _ _ _ h => ⟨h.1, fun entry hentry => by
    cases hentry
    exact .inr ⟨x, hx, rfl⟩⟩

theorem tells_feed (hx : x ∈ xs) : (b.course s m xs).Tells (b.feed x) := by
  have hmark : (b.course s m xs).Tells (Pass.change (·.markTransaction x.id .waiting)) :=
    Course.tells_change (fun s => s.isDone_markTransaction_waiting x.id)
      fun _ _ _ h => ⟨h.1.markWaiting hx, h.2⟩
  refine hmark.bind fun _ before cur last h => ?_
  cases last with
  | none => exact Course.tellsAt_get_bind (fun _ => rfl) (tells_remember_entry hx before cur none h)
  | some entry =>
    refine Course.tellsAt_get_bind (g := if entry ≠ x.entry then do
        b.writeEntry entry
        Pass.remember (some x.entry)
      else Pass.remember (some x.entry)) (fun _ => rfl) ?_
    split
    · exact (tells_writeEntry (h.2 entry rfl) before cur _ h).bind fun _ => tells_remember_entry hx
    · exact tells_remember_entry hx before cur _ h

theorem tells_finish : (b.course s m xs).Tells b.finish := by
  intro before cur last h
  cases last with
  | none => exact Course.tellsAt_get_bind (fun _ => rfl) (Course.tells_pure () before cur none h)
  | some entry =>
    have hforget : (b.course s m xs).Tells (Pass.remember none) :=
      Course.tells_remember fun _ _ _ h => ⟨h.1, nofun⟩
    exact Course.tellsAt_get_bind (fun _ => rfl)
      ((hforget before cur _ h).bind fun _ => tells_writeEntry (h.2 entry rfl))

theorem tells_call {c : Call} (hc : ∀ x ∈ b.fed c, x ∈ xs) : (b.course s m xs).Tells (b.call c) := by
  cases c with
  | transaction x => exact tells_feed (hc x (.head _))
  | entry e => exact Course.tells_forM fun x hx => tells_feed (hc x hx)
  | finish => exact tells_finish

theorem tells_calls (b : Blocks) (calls : List Call) (s : ReportState) (m : Memory) :
    (b.course s m (calls.flatMap b.fed)).TellsAt [] (calls.forM b.call) s m := by
  refine Course.tells_forM (fun c hc => tells_call fun x hx => ?_) [] s m
    ⟨⟨.refl s, fun id => by simp, fun _ => .inl⟩, fun _ => .inl⟩
  exact List.mem_flatMap.2 ⟨c, hc, hx⟩

end Blocks

/-! ## Balances -/

namespace Balances

/-- What a line of an account is about. -/
def lineScope (b : Balances) (s : ReportState) (a : Account) : Scope :=
  { journal := b.journal, state := s, now := b.now, account := some a }

/-- The portion is the whole line of an account that is fed, in the state in which those before have
been displayed. -/
def Whole (b : Balances) (s : ReportState) (accounts : List Account) (before : List Portion)
    (q : Portion) : Prop :=
  ∃ a ∈ accounts, q.record = some (.account a.id) ∧
    b.renderer.texts (b.lineScope (s.displaying before) a) b.line.elements = (q.pieces, .ok ())

/-- The course of a report of balances, in which the root may wait besides. -/
def course (b : Balances) (s : ReportState) (accounts : List Account) : Course Unit where
  stands before cur _ := cur.LooksAlike (s.displaying before)
  whole := b.Whole s accounts

variable {b : Balances} {s : ReportState} {a : Account} {accounts : List Account}

theorem tells_feed (ha : a ∈ accounts) : (b.course s accounts).Tells (b.feed a) := by
  intro before cur _ hcur
  refine Course.tellsAt_get_bind (g := do
    if ← Attempt.ofExcept ((b.selector.selects cur a).mapError .value) then
      if a.isRoot then Pass.change (·.markAccount a.id .waiting)
      else
        b.writeAccount b.line a none
        Pass.change (·.markDone (.account a.id))) (fun _ => rfl) ?_
  have hne := mapError_value_ne_write (b.selector.selects cur a)
  refine ((Course.tells_ofExcept hne).bind fun chosen => ?_) before cur () hcur
  cases chosen with
  | false => exact Course.tells_pure ()
  | true =>
    rw [if_pos rfl]
    split
    · refine Course.tells_change (fun s => s.isDone_markAccount_waiting a.id) fun _ cur _ h => ?_
      exact ⟨(cur.marksApart_markAccount a.id .waiting).trans h.apart, fun id =>
        (cur.accountHas_markAccount_waiting a.id id).trans (h.displayed id)⟩
    · intro before cur _ hcur
      have hline : Outlined (b.writeAccount b.line a none) cur ()
          ((b.renderer.texts (b.lineScope cur a) b.line.elements).1.map .piece)
          (b.renderer.texts (b.lineScope cur a) b.line.elements).2 cur () :=
        outlined_get_bind (fun _ => rfl)
          (outlined_render b.renderer b.line (b.lineScope cur a) cur ())
      have halike : (b.lineScope cur a).LooksAlike (s.displaying before) :=
        Scope.looksAlike_of_no_transaction hcur rfl
      refine Course.tellsAt_written _ (some (.account a.id)) hline
        (Renderer.texts_ne_write _) (fun _ => outlined_markDone (.account a.id) cur ())
        (fun hok => ⟨a, ha, rfl, ?_⟩) fun _ => ?_
      · exact (Renderer.texts_congr halike _).symm.trans (Prod.ext rfl hok)
      · show (cur.markAccount a.id .done).LooksAlike _
        rw [ReportState.displaying_append]
        exact hcur.markAccount_done a.id

theorem tells_feedAll (b : Balances) (accounts : List Account) (s : ReportState) :
    (b.course s accounts).TellsAt [] (accounts.forM b.feed) s () :=
  Course.tells_forM (fun _ ha => tells_feed ha) [] s () (.refl s)

end Balances

/-! ## Opening balances -/

namespace Opening

/-- The texts of the lines of values up to the first without a text, and what comes of it. -/
def texts (o : Opening) (s : ReportState) (a : Account) :
    List Value → List String × Except ReportError Unit
  | [] => ([], .ok ())
  | v :: vs =>
    match o.renderer.texts (o.lineScope s a v) o.line.elements with
    | (ts, .ok _) => (ts ++ (o.texts s a vs).1, (o.texts s a vs).2)
    | (ts, .error e) => (ts, .error e)

/-- What a report of opening balances can be asked for. -/
inductive Call where
  | account (a : Account)
  | finish

/-- Does what is asked for. -/
def call (o : Opening) : Call → PassStep Memory Unit
  | .account a => o.feed a
  | .finish => o.finish

/-- The value of the account that the portion is about. -/
def valueOf (s : ReportState) (q : Portion) : Option Value :=
  match q.record with
  | some (.account id) => some (s.accountOf id).value
  | _ => none

/-- The portion is the whole text of the lines of an account that is fed, or of those that balance
the accounts before, in the state in which these have been displayed. -/
def Whole (o : Opening) (s : ReportState) (m : Memory) (calls : List Call) (before : List Portion)
    (q : Portion) : Prop :=
  (∃ a, .account a ∈ calls ∧ q.record = some (.account a.id) ∧
    o.texts (s.displaying before) a (ownLines s a) = (q.pieces, .ok ())) ∨
  .finish ∈ calls ∧ ∃ sum balancing, m.addUp (before.filterMap (valueOf s)) = .ok sum ∧
    sum.neg = .ok balancing ∧ q.record = none ∧
    o.texts (s.displaying before) equity (linesOf balancing) = (q.pieces, .ok ())

/-- The course of a report of opening balances. -/
def course (o : Opening) (s : ReportState) (m : Memory) (calls : List Call) : Course Memory where
  stands before cur sum :=
    cur = s.displaying before ∧ m.addUp (before.filterMap (valueOf s)) = .ok sum
  whole := o.Whole s m calls

variable {o : Opening} {s : ReportState} {m : Memory} {a : Account} {calls : List Call}

theorem texts_ne_write (s : ReportState) (a : Account) (vs : List Value) :
    (o.texts s a vs).2 ≠ .error .write := by
  induction vs with
  | nil => nofun
  | cons v vs ih =>
    have hne : (o.renderer.texts (o.lineScope s a v) o.line.elements).2 ≠ .error .write :=
      Renderer.texts_ne_write o.line.elements
    rw [texts]
    split
    · exact ih
    · rename_i ts e h
      rw [h] at hne
      rintro ⟨⟩
      exact hne rfl

theorem outlined_lines (s : ReportState) (m : Memory) (a : Account) (vs : List Value) :
    Outlined (vs.forM fun v => o.writeAccount o.line a (some v)) s m
      ((o.texts s a vs).1.map .piece) (o.texts s a vs).2 s m := by
  induction vs with
  | nil => exact outlined_ofExcept (.ok ()) s m
  | cons v vs ih =>
    have hline := outlined_get_bind (f := fun p => Pass.onSink (o.renderer.render o.line
      (o.lineScope p.state a v))) (fun _ => rfl)
      (outlined_render o.renderer o.line (o.lineScope s a v) s m)
    rw [texts]
    split
    · rename_i ts _ h
      rw [h] at hline
      rw [List.map_append]
      exact hline.bind ih
    · rename_i ts e h
      rw [h] at hline
      exact hline.bind_error

theorem outlined_addUp (s : ReportState) (m v : Value) :
    ∃ r m', Outlined (addUp v) s m [] r s m' ∧ r ≠ .error .write ∧
      (r = .ok () → m.add v = .ok m') := by
  cases h : m.add v with
  | ok sum =>
    exact ⟨.ok (), sum, outlined_of_silent (fun k => exec_addUp h) fun _ => rfl, nofun,
      fun _ => rfl⟩
  | error e =>
    refine ⟨.error (.value e), m, outlined_of_silent (fun k => ?_) fun _ => rfl, nofun, nofun⟩
    rw [addUp, exec_update, h]
    rfl

/-- The lines of a value are written, and the value is added to the sum. -/
theorem outlined_writeLines (s : ReportState) (m : Memory) (a : Account) (v : Value) :
    ∃ r m', Outlined (do o.writeLines a v; addUp v) s m
        ((o.texts s a (linesOf v)).1.map .piece) r s m' ∧ r ≠ .error .write ∧
      (r = .ok () → (o.texts s a (linesOf v)).2 = .ok () ∧ m.add v = .ok m') := by
  have hlines : Outlined (o.writeLines a v) s m _ _ s m := outlined_lines s m a (linesOf v)
  have hne := texts_ne_write (o := o) s a (linesOf v)
  cases hok : (o.texts s a (linesOf v)).2 with
  | error e =>
    rw [hok] at hlines hne
    exact ⟨.error e, m, hlines.bind_error, hne, nofun⟩
  | ok _ =>
    rw [hok] at hlines
    obtain ⟨r, m', hadd, hr, hsum⟩ := outlined_addUp s m v
    have hboth := hlines.bind (f := fun _ => addUp v) hadd
    rw [List.append_nil] at hboth
    exact ⟨r, m', hboth, hr, fun h => ⟨rfl, hsum h⟩⟩

/-- Portions leave their marks, and the values of their accounts are in the sum. -/
theorem stands_append {before : List Portion} {sum sum' : Value} (ts : List String)
    (h : (o.course s m calls).stands before (s.displaying before) sum)
    (hsum : sum.add (s.accountOf a.id).value = .ok sum') :
    (o.course s m calls).stands (before ++ [⟨ts, some (.account a.id)⟩])
      ((s.displaying before).markDone (.account a.id)) sum' := by
  refine ⟨?_, ?_⟩
  · rw [ReportState.displaying_append]
    rfl
  · rw [List.filterMap_append]
    exact Value.addUp_append_singleton h.2 hsum

theorem tells_feed (ha : .account a ∈ calls) : (o.course s m calls).Tells (o.feed a) := by
  rintro before _ sum ⟨rfl, hsum⟩
  refine Course.tellsAt_get_bind (g := do
    if ← Attempt.ofExcept ((o.selector.selects (s.displaying before) a).mapError .value) then
      let v := ((← get).state.accountOf a.id).value
      unless v.isNull do
        o.writeLines a v
        addUp v
      Pass.change (·.markDone (.account a.id))) (fun _ => rfl) ?_
  have hne := mapError_value_ne_write (o.selector.selects (s.displaying before) a)
  refine ((Course.tells_ofExcept hne).bind fun chosen => ?_) before _ sum ⟨rfl, hsum⟩
  cases chosen with
  | false => exact Course.tells_pure ()
  | true =>
    rw [if_pos rfl]
    rintro before _ sum ⟨rfl, hsum⟩
    have hvalue : ((s.displaying before).accountOf a.id).value = (s.accountOf a.id).value :=
      ((s.marksApart_displaying before).accounts.fields a.id).1
    refine Course.tellsAt_get_bind (g := if (s.accountOf a.id).value.isNull then do
        pure ()
        Pass.change (·.markDone (.account a.id))
      else do
        o.writeLines a (s.accountOf a.id).value
        addUp (s.accountOf a.id).value
        Pass.change (·.markDone (.account a.id))) (fun _ => by rw [← hvalue]) ?_
    split
    · rename_i hnull
      have hlines : ownLines s a = [] := if_pos hnull
      have hnothing : sum.add (s.accountOf a.id).value = .ok sum := by
        cases hv : (s.accountOf a.id).value <;> rw [hv] at hnull <;> cases hnull
        exact add_null sum
      exact Course.tellsAt_written [] (some (.account a.id))
        (outlined_ofExcept (.ok ()) _ sum) nofun (fun _ => outlined_markDone _ _ sum)
        (fun _ => .inl ⟨a, ha, rfl, by rw [hlines]; rfl⟩)
        fun _ => stands_append [] ⟨rfl, hsum⟩ hnothing
    · rename_i hnull
      have hlines : ownLines s a = linesOf (s.accountOf a.id).value := if_neg hnull
      obtain ⟨r, sum', hboth, hr, hok⟩ :=
        outlined_writeLines (o := o) (s.displaying before) sum a (s.accountOf a.id).value
      rw [← bind_assoc]
      exact Course.tellsAt_written _ (some (.account a.id)) hboth hr
        (fun _ => outlined_markDone _ _ sum')
        (fun h => .inl ⟨a, ha, rfl, by rw [hlines]; exact Prod.ext rfl (hok h).1⟩)
        fun h => stands_append _ ⟨rfl, hsum⟩ (hok h).2

theorem tells_finish (hf : .finish ∈ calls) : (o.course s m calls).Tells o.finish := by
  rintro before _ sum ⟨rfl, hsum⟩
  refine Course.tellsAt_get_bind (g := do
    let balancing ← Attempt.ofExcept (sum.neg.mapError .value)
    o.writeLines equity balancing) (fun _ => rfl) ?_
  cases hneg : sum.neg with
  | error e => exact Course.tellsAt_of_silent (outlined_ofExcept _ _ sum).bind_error nofun nofun
  | ok balancing =>
    have hlines : Outlined (do
        let balancing ← Attempt.ofExcept (.ok balancing)
        o.writeLines equity balancing) (s.displaying before) sum _ _ (s.displaying before) sum :=
      (outlined_ofExcept _ _ sum).bind
        (outlined_lines (o := o) (s.displaying before) sum equity (linesOf balancing))
    refine Course.tellsAt_lines hlines (texts_ne_write _ _ _)
      (fun hok => .inr ⟨hf, sum, balancing, hsum, hneg, rfl, Prod.ext rfl hok⟩) fun _ => ⟨?_, ?_⟩
    · rw [ReportState.displaying_append]
      rfl
    · rw [List.filterMap_append]
      exact (congrArg m.addUp (List.append_nil _)).trans hsum

theorem tells_calls (o : Opening) (calls : List Call) (s : ReportState) (m : Memory) :
    (o.course s m calls).TellsAt [] (calls.forM o.call) s m := by
  refine Course.tells_forM (fun c hc => ?_) [] s m ⟨rfl, rfl⟩
  cases c with
  | account a => exact tells_feed hc
  | finish => exact tells_finish hc

end Opening

/-! ## All reports -/

/-- Whatever a report of any kind is fed and asked for: it is written in portions, each of which is
the whole text, in the state of that moment, of the record that is marked for it; and if a piece is
refused, the report stops at once, what is written are the pieces before, and of the records just
those are marked of which the portion came before that of the refused piece. -/
theorem refusal_leaves_honest_record :
    (∀ (r : Register) (xs : List Transaction) (s : ReportState) (m : Register.Memory),
      ∃ portions rest, Honest (r.Whole s m xs) (r.feedAll xs) s m portions rest) ∧
    (∀ (b : Blocks) (calls : List Blocks.Call) (s : ReportState) (m : Blocks.Memory),
      ∃ portions rest,
        Honest (b.Whole s m (calls.flatMap b.fed)) (calls.forM b.call) s m portions rest) ∧
    (∀ (b : Balances) (accounts : List Account) (s : ReportState),
      ∃ portions rest, Honest (b.Whole s accounts) (accounts.forM b.feed) s () portions rest) ∧
    ∀ (o : Opening) (calls : List Opening.Call) (s : ReportState) (m : Opening.Memory),
      ∃ portions rest, Honest (o.Whole s m calls) (calls.forM o.call) s m portions rest :=
  ⟨fun r xs s m => (r.tells_feedAll s m xs).honest,
    fun b calls s m => (b.tells_calls calls s m).honest,
    fun b accounts s => (b.tells_feedAll accounts s).honest,
    fun o calls s m => (o.tells_calls calls s m).honest⟩

/-- A register of the errands that writes their accounts, each behind a sign. -/
def errandRegister : Register where
  journal := ReportState.errands
  now := .midnight .earliest
  renderer := Opening.ofErrands.renderer
  first :=
    ⟨[{ field := .literal "# " }, { field := .accountPath }, { field := .literal "\n" }], "# %A\n"⟩
  next :=
    ⟨[{ field := .literal "- " }, { field := .accountPath }, { field := .literal "\n" }], "- %A\n"⟩

/-- A sink with room for forty characters refuses the last account of the register, of which the
sign stands already.  Of the opening balances it refuses the end of the line of the fuel, after that
of the food; nothing is to be written of the root and of the expenses. -/
theorem refusal_leaves_honest_record_errands :
    let xs := ReportState.errands.transactions
    let listed := (errandRegister.feedAll xs).exec
      { state := {}, sink := .limited 40, memory := none }
    let calls := ReportState.errands.accounts.map Opening.Call.account ++ [.finish]
    let opened := (calls.forM Opening.ofErrands.call).exec
      { state := Opening.errandSums, sink := .limited 40, memory := .null }
    ((∃ portions rest, Honest (errandRegister.Whole {} none xs) (errandRegister.feedAll xs) {} none
        portions rest) ∧
      listed.1.toOption = none ∧
      listed.2.sink.pieces =
        ["# ", "Expenses:Food", "\n", "- ", "Expenses:Fuel", "\n", "- "] ∧
      xs.map (fun x => listed.2.state.transactionHas x.id .done) = [true, true, false]) ∧
    (∃ portions rest, Honest (Opening.ofErrands.Whole Opening.errandSums .null calls)
        (calls.forM Opening.ofErrands.call) Opening.errandSums .null portions rest) ∧
      opened.1.toOption = none ∧
      opened.2.sink.pieces =
        ["Expenses:Food", " ", "$7.00", "\n", "Expenses:Fuel", " ", "$30.00"] ∧
      (ReportState.errands.accounts.filter fun a => opened.2.state.accountHas a.id .done).map
        (·.name) = ["", "Expenses", "Food"] := by
  refine ⟨⟨refusal_leaves_honest_record.1 errandRegister _ {} none, ?_⟩,
    refusal_leaves_honest_record.2.2.2 Opening.ofErrands _ Opening.errandSums .null, ?_⟩ <;>
    decide +kernel

end Bookkeeping
