import Bookkeeping.Proofs.Journal.Filing
import Bookkeeping.Proofs.Report.Refusal
import Bookkeeping.Proofs.Report.Rendering
import Mathlib.Data.List.SplitBy

/-!
# Blocks of entries

However transactions come, a report in blocks writes them run by run, where a run is as many
transactions of one entry as come one after the other (`Blocks.runs`).  The transactions of a run
are put in the order of their entry (`Blocks.block`), and the lines look as if nothing but the run
had been collected (`Blocks.lines`).  What waits at any time is just what has come since the last
block (`Collecting`).  From this follows what a whole report writes (`Blocks.written_in_blocks`).
-/

namespace Bookkeeping

open Attempt

/-! ## Collected transactions -/

/-- The state once these transactions have been collected. -/
def ReportState.collect (s : ReportState) (xs : List Transaction) : ReportState :=
  xs.foldl (fun s x => s.markTransaction x.id .waiting) s

/-- No transaction waited at the start, and now the state looks the same except that these do. -/
structure Collecting (s cur : ReportState) (xs : List Transaction) : Prop where
  start : ∀ i, s.transactionHas i .waiting = false
  alike : cur.LooksAlike s
  waiting : ∀ i, cur.transactionHas i .waiting ↔ i ∈ xs.map (·.id)

namespace Collecting

variable {s cur : ReportState} {xs : List Transaction}

theorem nothing (h : ∀ i, s.transactionHas i .waiting = false) : Collecting s s [] :=
  ⟨h, .refl s, fun i => by simp [h]⟩

theorem markWaiting (h : Collecting s cur xs) (x : Transaction) :
    Collecting s (cur.markTransaction x.id .waiting) (xs ++ [x]) where
  start := h.start
  alike := (cur.looksAlike_markTransaction x.id .waiting).trans h.alike
  waiting i := by
    rw [ReportState.waiting_markTransaction_waiting, Bool.or_eq_true, h.waiting, decide_eq_true_iff,
      List.map_append, List.mem_append, List.map_singleton, List.mem_singleton]
    exact or_comm

theorem markDone (h : Collecting s cur xs) (x : Transaction) :
    Collecting s (cur.markTransaction x.id .done) xs where
  start := h.start
  alike := (cur.looksAlike_markTransaction x.id .done).trans h.alike
  waiting i := by rw [ReportState.waiting_markTransaction_done, h.waiting]

theorem collect_append (h : Collecting s cur xs) (ys : List Transaction) :
    Collecting s (cur.collect ys) (xs ++ ys) := by
  induction ys generalizing cur xs with
  | nil => rwa [List.append_nil]
  | cons y ys ih =>
    have hrest := ih (h.markWaiting y)
    rwa [List.append_assoc, List.singleton_append] at hrest

/-- In the state once a run has been collected just the run waits. -/
theorem collect (h : ∀ i, s.transactionHas i .waiting = false) (run : List Transaction) :
    Collecting s (s.collect run) run :=
  (nothing h).collect_append run

end Collecting

namespace Blocks

/-! ## Runs and lines -/

/-- The transactions cut where one of another entry comes. -/
def runs (xs : List Transaction) : List (List Transaction) :=
  xs.splitBy fun x y => x.entry == y.entry

/-- A line of a report in blocks, and the state in which it is written. -/
structure Line where
  state : ReportState
  template : Template
  transaction : Transaction

/-- The texts of a line up to the first that is not found, and what comes of it. -/
def textsOf (b : Blocks) (l : Line) : List String × Except ReportError Unit :=
  b.renderer.texts (.forTransaction b.journal l.state b.now l.transaction) l.template.elements

/-- The transactions of a run in the order of their entry. -/
def block (b : Blocks) (run : List Transaction) : List Transaction :=
  match run.head?.bind b.journal.entryOf? with
  | some e => (b.journal.entryTransactions e).filter fun y => y.id ∈ run.map (·.id)
  | none => []

/-- The lines of a block that is written in this state. -/
def linesOf (b : Blocks) (s : ReportState) : List Transaction → List Line
  | [] => []
  | x :: rest => ⟨s, b.first, x⟩ :: rest.map fun y => ⟨s, b.next, y⟩

/-- The lines of a run when nothing else has been collected. -/
def linesOfRun (b : Blocks) (s : ReportState) (run : List Transaction) : List Line :=
  b.linesOf (s.collect run) (b.block run)

/-- The lines of all runs, one after the other. -/
def lines (b : Blocks) (s : ReportState) (xs : List Transaction) : List Line :=
  (runs xs).flatMap (b.linesOfRun s)

variable {b : Blocks} {s cur : ReportState} {m : Memory} {i : Nat} {x y : Transaction}
  {run later xs : List Transaction}

theorem entry_eq_of_mem_runs (hrun : run ∈ runs xs) (hx : x ∈ run) (hy : y ∈ run) :
    x.entry = y.entry := by
  have hchain : (run.map (·.entry)).IsChain Eq := by
    rw [List.isChain_map]
    exact (List.isChain_of_mem_splitBy hrun).imp fun _ _ => beq_iff_eq.1
  exact (List.isChain_iff_pairwise.1 hchain).forall_of_forall (fun _ _ => rfl)
    (List.mem_map_of_mem hx) (List.mem_map_of_mem hy)

theorem runs_of_entry (hrun : ∀ x ∈ run, x.entry = i) (hne : run ≠ []) : runs run = [run] := by
  refine List.splitBy_of_isChain hne (List.Pairwise.isChain ?_)
  refine List.pairwise_of_forall_mem_list fun x hx y hy => ?_
  exact beq_iff_eq.2 ((hrun x hx).trans (hrun y hy).symm)

/-- The run is cut where a transaction of another entry comes. -/
theorem runs_append_cons (hrun : ∀ x ∈ run, x.entry = i) (hne : run ≠ []) (hx : i ≠ x.entry) :
    runs (run ++ x :: xs) = run :: runs (x :: xs) := by
  have hcut : ∀ y ∈ run.getLast?, ∀ z ∈ (x :: xs).head?, (y.entry == z.entry) = false := by
    intro y hy z hz
    cases hz
    rw [hrun y (List.mem_of_getLast? hy)]
    exact beq_eq_false_iff_ne.2 hx
  rw [runs, List.splitBy_append hcut]
  exact congrArg (· ++ runs (x :: xs)) (runs_of_entry hrun hne)

theorem lines_of_entry (s : ReportState) (hrun : ∀ x ∈ run, x.entry = i) :
    b.lines s run = b.linesOfRun s run := by
  by_cases hne : run = []
  · rw [hne]
    rfl
  · rw [lines, runs_of_entry hrun hne, List.flatMap_singleton]

theorem lines_append_cons (s : ReportState) (hrun : ∀ x ∈ run, x.entry = i) (hx : i ≠ x.entry) :
    b.lines s (run ++ x :: xs) = b.linesOfRun s run ++ b.lines s (x :: xs) := by
  by_cases hne : run = []
  · rw [hne]
    rfl
  · rw [lines, runs_append_cons hrun hne hx, List.flatMap_cons]
    rfl

/-! ## What lines do -/

/-- What is done to write lines and mark their transactions up to the first text that is not found,
and what comes of it. -/
def outline (b : Blocks) : List Line → List Act × Except ReportError Unit
  | [] => ([], .ok ())
  | l :: ls =>
    match b.textsOf l with
    | (ts, .ok _) =>
      (ts.map .piece ++ .done (.transaction l.transaction.id) :: (b.outline ls).1, (b.outline ls).2)
    | (ts, .error e) => (ts.map .piece, .error e)

variable {ls ls' : List Line} {l : Line}

theorem outline_cons_of_ok (h : (b.textsOf l).2 = .ok ()) :
    b.outline (l :: ls) = ((b.textsOf l).1.map .piece ++
      .done (.transaction l.transaction.id) :: (b.outline ls).1, (b.outline ls).2) := by
  rw [outline]
  rcases ht : b.textsOf l with ⟨ts, r⟩
  rw [ht] at h
  obtain rfl : r = .ok () := h
  rfl

theorem outline_cons_of_error {e : ReportError} (h : (b.textsOf l).2 = .error e) :
    b.outline (l :: ls) = ((b.textsOf l).1.map .piece, .error e) := by
  rw [outline]
  rcases ht : b.textsOf l with ⟨ts, r⟩
  rw [ht] at h
  obtain rfl : r = .error e := h
  rfl

theorem outline_append_of_ok (h : (b.outline ls).2 = .ok ()) :
    b.outline (ls ++ ls') = ((b.outline ls).1 ++ (b.outline ls').1, (b.outline ls').2) := by
  induction ls with
  | nil => rfl
  | cons l ls ih =>
    rw [List.cons_append]
    cases hl : (b.textsOf l).2 with
    | error e =>
      rw [outline_cons_of_error hl] at h
      cases h
    | ok _ =>
      rw [outline_cons_of_ok hl] at h ⊢
      rw [outline_cons_of_ok hl, ih h, List.append_assoc, List.cons_append]

theorem outline_append_of_error {e : ReportError} (h : (b.outline ls).2 = .error e) :
    b.outline (ls ++ ls') = b.outline ls := by
  induction ls with
  | nil => cases h
  | cons l ls ih =>
    rw [List.cons_append]
    cases hl : (b.textsOf l).2 with
    | error e => rw [outline_cons_of_error hl, outline_cons_of_error hl]
    | ok _ =>
      rw [outline_cons_of_ok hl] at h
      rw [outline_cons_of_ok hl, outline_cons_of_ok hl, ih h]

/-- All lines are written if the texts of all are found. -/
theorem outline_eq_ok_iff :
    (b.outline ls).2 = .ok () ↔ ∀ l ∈ ls, (b.textsOf l).2 = .ok () := by
  induction ls with
  | nil => exact ⟨fun _ _ h => (by cases h), fun _ => rfl⟩
  | cons l ls ih =>
    rw [List.forall_mem_cons]
    cases hl : (b.textsOf l).2 with
    | error e =>
      rw [outline_cons_of_error hl]
      exact ⟨nofun, fun h => (by cases h.1)⟩
    | ok _ =>
      rw [outline_cons_of_ok hl, ih]
      exact ⟨fun h => ⟨rfl, h⟩, fun h => h.2⟩

theorem pieces_outline (h : ∀ l ∈ ls, (b.textsOf l).2 = .ok ()) :
    Act.pieces (b.outline ls).1 = ls.flatMap fun l => (b.textsOf l).1 := by
  induction ls with
  | nil => rfl
  | cons l ls ih =>
    obtain ⟨hl, hls⟩ := List.forall_mem_cons.1 h
    rw [outline_cons_of_ok hl, Act.pieces_append, Act.pieces_map_piece, List.flatMap_cons, ← ih hls]
    rfl

theorem done_mem_outline {id : RecordId} (h : ∀ l ∈ ls, (b.textsOf l).2 = .ok ()) :
    Act.done id ∈ (b.outline ls).1 ↔ ∃ x ∈ ls.map (·.transaction), id = .transaction x.id := by
  induction ls with
  | nil => simp [outline]
  | cons l ls ih =>
    obtain ⟨hl, hls⟩ := List.forall_mem_cons.1 h
    have hpieces : Act.done id ∉ (b.textsOf l).1.map .piece := by simp
    rw [outline_cons_of_ok hl, List.mem_append, or_iff_right hpieces, List.mem_cons, ih hls,
      Act.done.injEq, List.map_cons]
    simp only [List.mem_cons, exists_eq_or_imp]

/-! ## Rules for steps -/

/-- In a state, with this memory, the step writes these lines and marks their transactions, and it
ends as `Q` says if all texts are found. -/
def Writes (b : Blocks) (f : PassStep Memory Unit) (s : ReportState) (m : Memory) (ls : List Line)
    (Q : ReportState → Memory → Prop) : Prop :=
  ∃ s' m', Outlined f s m (b.outline ls).1 (b.outline ls).2 s' m' ∧
    ((b.outline ls).2 = .ok () → Q s' m')

variable {f g : PassStep Memory Unit} {Q R : ReportState → Memory → Prop}

theorem Writes.bind (hf : b.Writes f cur m ls Q) (hg : ∀ s' m', Q s' m' → b.Writes g s' m' ls' R) :
    b.Writes (do f; g) cur m (ls ++ ls') R := by
  obtain ⟨s₁, m₁, hf, hQ⟩ := hf
  cases hls : (b.outline ls).2 with
  | error e =>
    rw [hls] at hf
    rw [Writes, outline_append_of_error hls, hls]
    exact ⟨s₁, m₁, hf.bind_error, nofun⟩
  | ok _ =>
    rw [hls] at hf
    obtain ⟨s₂, m₂, hg, hR⟩ := hg s₁ m₁ (hQ hls)
    rw [Writes, outline_append_of_ok hls]
    exact ⟨s₂, m₂, hf.bind hg, hR⟩

theorem Writes.nil_bind (hf : b.Writes f cur m [] Q)
    (hg : ∀ s' m', Q s' m' → b.Writes g s' m' ls R) : b.Writes (do f; g) cur m ls R :=
  hf.bind hg

theorem Writes.bind_nil (hf : b.Writes f cur m ls Q)
    (hg : ∀ s' m', Q s' m' → b.Writes g s' m' [] R) : b.Writes (do f; g) cur m ls R := by
  rw [← List.append_nil ls]
  exact hf.bind hg

theorem Writes.mono (hf : b.Writes f cur m ls Q) (h : ∀ s' m', Q s' m' → R s' m') :
    b.Writes f cur m ls R := by
  obtain ⟨s', m', hf, hQ⟩ := hf
  exact ⟨s', m', hf, fun hok => h s' m' (hQ hok)⟩

theorem writes_pure (h : Q cur m) : b.Writes (pure ()) cur m [] Q :=
  ⟨cur, m, outlined_ofExcept (.ok ()) cur m, fun _ => h⟩

theorem writes_change {change : ReportState → ReportState}
    (hdone : ∀ id, (change cur).isDone id = cur.isDone id) (h : Q (change cur) m) :
    b.Writes (Pass.change change) cur m [] Q :=
  ⟨change cur, m, outlined_change hdone m, fun _ => h⟩

theorem writes_remember {m' : Memory} (h : Q cur m') : b.Writes (Pass.remember m') cur m [] Q :=
  ⟨cur, m', outlined_remember cur m m', fun _ => h⟩

theorem writes_get_bind {f : Pass Memory → PassStep Memory Unit}
    (hf : ∀ k, f { state := cur, sink := k, memory := m } = g) (h : b.Writes g cur m ls Q) :
    b.Writes (get >>= f) cur m ls Q := by
  obtain ⟨s', m', hg, hQ⟩ := h
  exact ⟨s', m', outlined_get_bind hf hg, hQ⟩

/-- A step that writes lines succeeds if their texts are found and the sink takes them. -/
theorem Writes.exec (hf : b.Writes f s m ls Q) (k : Sink) :
    let pieces := ls.flatMap fun l => (b.textsOf l).1
    let ended := f.exec { state := s, sink := k, memory := m }
    (ended.1 = .ok () ↔ (∀ l ∈ ls, (b.textsOf l).2 = .ok ()) ∧ k.TakesAll pieces) ∧
    (ended.1 = .ok () → ended.2.sink = k.after pieces ∧ Q ended.2.state ended.2.memory ∧
      ∀ i, ended.2.state.transactionHas i .done ↔
        s.transactionHas i .done ∨ i ∈ (ls.map (·.transaction)).map (·.id)) := by
  intro pieces ended
  obtain ⟨s', m', houtlined, hQ⟩ := hf
  have hpieces (htexts : ∀ l ∈ ls, (b.textsOf l).2 = .ok ()) :
      Act.pieces (b.outline ls).1 = pieces := pieces_outline htexts
  have hiff : ended.1 = .ok () ↔ (∀ l ∈ ls, (b.textsOf l).2 = .ok ()) ∧ k.TakesAll pieces := by
    refine ⟨fun h => ?_, fun ⟨htexts, hk⟩ => ?_⟩
    · obtain ⟨hok, hk, -⟩ := houtlined.exec_eq_ok_iff.1 (Prod.ext h rfl)
      have htexts := outline_eq_ok_iff.1 hok
      exact ⟨htexts, hpieces htexts ▸ hk⟩
    · rw [← hpieces htexts] at hk
      rw [← outline_eq_ok_iff.2 htexts]
      exact congrArg Prod.fst (houtlined.full k hk)
  refine ⟨hiff, fun h => ?_⟩
  obtain ⟨htexts, hk⟩ := hiff.1 h
  rw [← hpieces htexts] at hk ⊢
  have hended : ended.2 = _ := congrArg Prod.snd (houtlined.full k hk)
  rw [hended]
  refine ⟨rfl, hQ (outline_eq_ok_iff.2 htexts), fun i => ?_⟩
  have hmarks := houtlined.marks (.transaction i)
  rw [done_mem_outline htexts] at hmarks
  refine hmarks.trans (or_congr_right ?_)
  simp only [RecordId.transaction.injEq, List.mem_map (f := Transaction.id), eq_comm]

/-- A line is written in any state that looks like its own. -/
theorem writes_one {st : ReportState} {t : Template}
    (h : (Scope.forTransaction b.journal cur b.now x).LooksAlike st)
    (hQ : Q (cur.markTransaction x.id .done) m) :
    b.Writes (b.writeOne t x) cur m [⟨st, t, x⟩] Q := by
  have htexts : b.renderer.texts (.forTransaction b.journal cur b.now x) t.elements =
      b.textsOf ⟨st, t, x⟩ := Renderer.texts_congr h _
  have hwrite := b.outlined_writeTransaction t x cur m
  rw [htexts] at hwrite
  cases hl : (b.textsOf ⟨st, t, x⟩).2 with
  | error e =>
    rw [hl] at hwrite
    rw [Writes, outline_cons_of_error hl]
    exact ⟨cur, m, hwrite.bind_error, nofun⟩
  | ok _ =>
    rw [hl] at hwrite
    rw [Writes, outline_cons_of_ok hl]
    exact ⟨_, m, hwrite.bind (outlined_markDone (.transaction x.id) cur m), fun _ => hQ⟩

/-! ## Blocks -/

/-- Listed transactions: those of a run of this entry, and later ones of others. -/
structure Cut (b : Blocks) (i : Nat) (run later : List Transaction) : Prop where
  filed : b.journal.IsFiled
  run : ∀ x ∈ run, x ∈ b.journal.transactions ∧ x.entry = i
  later : ∀ x ∈ later, x ∈ b.journal.transactions ∧ x.entry ≠ i

namespace Cut

theorem mem_block_iff (hc : b.Cut i run later) : x ∈ b.block run ↔ x ∈ run := by
  obtain ⟨hj, hrun, -⟩ := hc
  cases run with
  | nil => rfl
  | cons y rest =>
    obtain ⟨hy, rfl⟩ := hrun y (.head _)
    obtain ⟨e, he⟩ := hj.entryOf?_isSome hy
    simp only [block, List.head?_cons, Option.bind_some, he, List.mem_filter, decide_eq_true_iff,
      hj.mem_entryTransactions_iff he]
    refine ⟨fun ⟨⟨hx, _⟩, hid⟩ => ?_, fun hx => ⟨hrun x hx, List.mem_map_of_mem hx⟩⟩
    obtain ⟨z, hz, heq⟩ := List.mem_map.1 hid
    rwa [← hj.eq_of_id_eq (hrun z hz).1 hx heq]

theorem mem_ids_block_iff (hc : b.Cut i run later) {k : Nat} :
    k ∈ (b.block run).map (·.id) ↔ k ∈ run.map (·.id) := by
  simp only [List.mem_map, hc.mem_block_iff]

theorem nodup_block (hc : b.Cut i run later) : (b.block run).Nodup := by
  rw [block]
  split
  · rename_i e he
    obtain ⟨y, -, he⟩ := Option.bind_eq_some_iff.1 he
    exact (hc.filed.nodup_entryTransactions he).filter _
  · exact List.nodup_nil

/-- Of the transactions of the entry, just those of the run wait. -/
theorem waiting_iff (hc : b.Cut i run later) (h : Collecting s cur (run ++ later))
    (hx : x ∈ b.journal.transactions) (hi : x.entry = i) :
    cur.transactionHas x.id .waiting ↔ x.id ∈ run.map (·.id) := by
  have hnone : x.id ∉ later.map (·.id) := fun hmem => by
    obtain ⟨y, hy, heq⟩ := List.mem_map.1 hmem
    rw [hc.filed.eq_of_id_eq (hc.later y hy).1 hx heq] at hy
    exact (hc.later x hy).2 hi
  rw [h.waiting, List.map_append, List.mem_append, or_iff_left hnone]

theorem waiting_eq_block (hc : b.Cut i run later) (h : Collecting s cur (run ++ later)) :
    b.waiting cur i = b.block run := by
  have hfilter {e : Entry} (he : b.journal.entries[i]? = some e) : b.waiting cur i =
      (b.journal.entryTransactions e).filter fun y => y.id ∈ run.map (·.id) := by
    rw [waiting, he]
    refine List.filter_congr fun x hx => Bool.eq_iff_iff.2 ?_
    obtain ⟨hx, hi⟩ := (hc.filed.mem_entryTransactions_iff he).1 hx
    rw [hc.waiting_iff h hx hi, decide_eq_true_iff]
  cases run with
  | nil =>
    cases he : b.journal.entries[i]? with
    | none =>
      rw [waiting, he]
      rfl
    | some e => simpa [block] using hfilter he
  | cons y rest =>
    obtain ⟨hy, rfl⟩ := hc.run y (.head _)
    obtain ⟨e, he⟩ := hc.filed.entryOf?_isSome hy
    rw [hfilter he, block, List.head?_cons, Option.bind_some, he]

/-- A transaction of the run looks as if nothing but the run had been collected. -/
theorem looksAlike_collect (hc : b.Cut i run later) (h : Collecting s cur (run ++ later))
    (hx : x ∈ run) :
    (Scope.forTransaction b.journal cur b.now x).LooksAlike (s.collect run) := by
  have hcollect := Collecting.collect h.start run
  have hwaits : x.id ∈ run.map (·.id) := List.mem_map_of_mem hx
  obtain ⟨hlisted, hi⟩ := hc.run x hx
  refine ⟨h.alike.trans hcollect.alike.symm, fun y hy => ?_, fun _ e he y hy => ?_⟩
  · cases hy
    have hcur := (hc.waiting_iff h hlisted hi).2 hwaits
    rw [ReportState.isSome_of_transactionHas ((hcollect.waiting x.id).2 hwaits)]
    exact ReportState.isSome_of_transactionHas hcur
  · obtain ⟨hy, hyi⟩ := (hc.filed.mem_entryTransactions_iff he).1 hy
    exact Bool.eq_iff_iff.2 ((hc.waiting_iff h hy (hyi.trans hi)).trans
      (hcollect.waiting y.id).symm)

/-- Once the run is taken off, the later transactions wait. -/
theorem mem_later_iff (hc : b.Cut i run later) (j : Nat) :
    j ∈ (run ++ later).map (·.id) ∧ j ∉ run.map (·.id) ↔ j ∈ later.map (·.id) := by
  have hapart : j ∈ later.map (·.id) → j ∉ run.map (·.id) := fun hl hr => by
    obtain ⟨x, hx, rfl⟩ := List.mem_map.1 hl
    obtain ⟨y, hy, heq⟩ := List.mem_map.1 hr
    obtain rfl := hc.filed.eq_of_id_eq (hc.run y hy).1 (hc.later x hx).1 heq
    exact (hc.later y hx).2 (hc.run y hy).2
  rw [List.map_append, List.mem_append]
  tauto

end Cut

variable {t : Template} {ys : List Transaction}

theorem writes_line (hc : b.Cut i run later) (h : Collecting s cur (run ++ later)) (hx : x ∈ run) :
    b.Writes (b.writeOne t x) cur m [⟨s.collect run, t, x⟩]
      fun s' m' => m' = m ∧ Collecting s s' (run ++ later) :=
  writes_one (hc.looksAlike_collect h hx) ⟨rfl, h.markDone x⟩

theorem writes_rest (hc : b.Cut i run later) (h : Collecting s cur (run ++ later))
    (hys : ∀ y ∈ ys, y ∈ run) :
    b.Writes (ys.forM (b.writeOne b.next)) cur m (ys.map fun y => ⟨s.collect run, b.next, y⟩)
      fun s' m' => m' = m ∧ Collecting s s' (run ++ later) := by
  induction ys generalizing cur with
  | nil => exact writes_pure ⟨rfl, h⟩
  | cons y ys ih =>
    obtain ⟨hy, hys⟩ := List.forall_mem_cons.1 hys
    refine (writes_line hc h hy).bind fun s' m' ⟨hm', h'⟩ => ?_
    rw [hm']
    exact ih h' hys

theorem writes_block (hc : b.Cut i run later) (h : Collecting s cur (run ++ later)) :
    b.Writes (b.writeBlock (b.block run)) cur m (b.linesOfRun s run)
      fun s' m' => m' = m ∧ Collecting s s' (run ++ later) := by
  have hmem : ∀ y ∈ b.block run, y ∈ run := fun y => hc.mem_block_iff.1
  rw [linesOfRun]
  cases hblock : b.block run with
  | nil => exact writes_pure ⟨rfl, h⟩
  | cons y ys =>
    rw [hblock] at hmem
    obtain ⟨hy, hys⟩ := List.forall_mem_cons.1 hmem
    refine (writes_line hc h hy).bind fun s' m' ⟨hm', h'⟩ => ?_
    rw [hm']
    exact writes_rest hc h' hys

theorem writes_unmark (ys : List Transaction) : b.Writes
    (ys.forM fun y => Pass.change (·.unmarkTransaction y.id .waiting)) cur m []
    fun s' m' => m' = m ∧ s'.LooksAlike cur ∧ ∀ j, s'.transactionHas j .waiting ↔
      cur.transactionHas j .waiting ∧ j ∉ ys.map (·.id) := by
  induction ys generalizing cur with
  | nil => exact writes_pure ⟨rfl, .refl cur, fun j => by simp⟩
  | cons y ys ih =>
    let next := cur.unmarkTransaction y.id .waiting
    have hone : b.Writes (Pass.change (·.unmarkTransaction y.id .waiting)) cur m []
        fun s' m' => m' = m ∧ s' = next :=
      writes_change (cur.isDone_unmarkTransaction_waiting y.id) ⟨rfl, rfl⟩
    refine hone.nil_bind fun s' m' ⟨hm', hs'⟩ => ?_
    rw [hm', hs']
    refine ih.mono fun s₂ m₂ ⟨hm, halike, hwaiting⟩ => ?_
    refine ⟨hm, halike.trans (cur.looksAlike_unmarkTransaction y.id .waiting), fun j => ?_⟩
    rw [hwaiting, ReportState.waiting_unmarkTransaction_waiting, Bool.and_eq_true,
      Bool.not_eq_true', decide_eq_false_iff_not, List.map_cons, List.mem_cons, not_or]
    tauto

/-- The run is written as a block, and then only the later transactions wait. -/
theorem writes_entry (hc : b.Cut i run later) (h : Collecting s cur (run ++ later)) :
    b.Writes (b.writeEntry i) cur m (b.linesOfRun s run)
      fun s' m' => m' = m ∧ Collecting s s' later := by
  refine writes_get_bind (g := do
    b.writeBlock (b.block run)
    (b.block run).forM fun x => Pass.change (·.unmarkTransaction x.id .waiting))
    (fun _ => by rw [hc.waiting_eq_block h]) ?_
  refine (writes_block hc h).bind_nil fun s₁ m₁ ⟨hm₁, h₁⟩ => ?_
  refine (writes_unmark (b.block run)).mono fun s₂ m₂ ⟨hm₂, halike, hwaiting⟩ => ?_
  refine ⟨hm₂.trans hm₁, h.start, halike.trans h₁.alike, fun j => ?_⟩
  rw [hwaiting, h₁.waiting, hc.mem_ids_block_iff, hc.mem_later_iff]

/-! ## Feeding -/

/-- The run is of listed transactions of the entry that is remembered. -/
def Open (b : Blocks) (m : Memory) (run : List Transaction) : Prop :=
  ∀ x ∈ run, x ∈ b.journal.transactions ∧ m = some x.entry

theorem Open.eq_nil (h : b.Open none run) : run = [] :=
  List.eq_nil_iff_forall_not_mem.2 fun x hx => by cases (h x hx).2

theorem Open.entry_eq (h : b.Open (some i) run) (hx : x ∈ run) : x.entry = i :=
  (Option.some.inj (h x hx).2).symm

theorem Open.cut (h : b.Open (some i) run) (hj : b.journal.IsFiled)
    (hlater : ∀ x ∈ later, x ∈ b.journal.transactions ∧ x.entry ≠ i) : b.Cut i run later :=
  ⟨hj, fun x hx => ⟨(h x hx).1, h.entry_eq hx⟩, hlater⟩

theorem open_singleton (hx : x ∈ b.journal.transactions) : b.Open (some x.entry) [x] :=
  List.forall_mem_singleton.2 ⟨hx, rfl⟩

theorem Open.append (h : b.Open m run) (hm : ∀ last ∈ m, last = x.entry)
    (hx : x ∈ b.journal.transactions) : b.Open (some x.entry) (run ++ [x]) := fun y hy => by
  rcases List.mem_append.1 hy with hy | hy
  · obtain ⟨hlisted, hlast⟩ := h y hy
    exact ⟨hlisted, congrArg some (hm _ hlast).symm⟩
  · exact open_singleton hx y hy

theorem lines_of_open (s : ReportState) (h : b.Open m run) :
    b.lines s run = b.linesOfRun s run := by
  cases m with
  | none =>
    rw [h.eq_nil]
    rfl
  | some i => exact lines_of_entry s fun _ => h.entry_eq

/-- Another transaction of the same entry, or the first of all, is only collected. -/
theorem writes_feed_same (h : Collecting s cur run) (hm : ∀ last ∈ m, last = x.entry) :
    b.Writes (b.feed x) cur m [] fun s' m' => m' = some x.entry ∧ Collecting s s' (run ++ [x]) := by
  have hmark : b.Writes (Pass.change (·.markTransaction x.id .waiting)) cur m []
      fun s' m' => m' = m ∧ Collecting s s' (run ++ [x]) :=
    writes_change (cur.isDone_markTransaction_waiting x.id) ⟨rfl, h.markWaiting x⟩
  refine hmark.nil_bind fun s₁ m₁ ⟨hm₁, h₁⟩ => ?_
  refine writes_get_bind (g := Pass.remember (some x.entry)) (fun _ => ?_)
    (writes_remember ⟨rfl, h₁⟩)
  subst hm₁
  cases m₁ with
  | none => rfl
  | some last =>
    obtain rfl := hm last rfl
    show (if x.entry ≠ x.entry then _ else _) = _
    rw [if_neg (not_not.2 rfl)]

/-- A transaction of another entry lets the run be written first. -/
theorem writes_feed_other (hc : b.Cut i run [x]) (h : Collecting s cur run) :
    b.Writes (b.feed x) cur (some i) (b.linesOfRun s run)
      fun s' m' => m' = some x.entry ∧ Collecting s s' [x] := by
  have hne : i ≠ x.entry := (hc.later x (.head _)).2.symm
  have hmark : b.Writes (Pass.change (·.markTransaction x.id .waiting)) cur (some i) []
      fun s' m' => m' = some i ∧ Collecting s s' (run ++ [x]) :=
    writes_change (cur.isDone_markTransaction_waiting x.id) ⟨rfl, h.markWaiting x⟩
  refine hmark.nil_bind fun s₁ m₁ ⟨hm₁, h₁⟩ => ?_
  refine writes_get_bind (g := do
    b.writeEntry i
    Pass.remember (some x.entry)) (fun _ => ?_) ?_
  · subst hm₁
    show (if i ≠ x.entry then _ else _) = _
    rw [if_pos hne]
  · exact (writes_entry hc h₁).bind_nil fun s₂ m₂ ⟨_, h₂⟩ => writes_remember ⟨rfl, h₂⟩

/-- At the end the last run is written. -/
theorem writes_finish (hj : b.journal.IsFiled) (h : Collecting s cur run) (hrun : b.Open m run) :
    b.Writes b.finish cur m (b.linesOfRun s run) fun s' _ => Collecting s s' [] := by
  cases m with
  | none =>
    rw [hrun.eq_nil] at h ⊢
    exact writes_get_bind (g := pure ()) (fun _ => rfl) (writes_pure h)
  | some i =>
    refine writes_get_bind (g := do
      Pass.remember none
      b.writeEntry i) (fun _ => rfl) ?_
    have hforget : b.Writes (Pass.remember none) cur (some i) []
        fun s' m' => s' = cur ∧ m' = none := writes_remember ⟨rfl, rfl⟩
    refine hforget.nil_bind fun s₁ m₁ ⟨hs₁, _⟩ => ?_
    rw [← List.append_nil run] at h
    rw [hs₁]
    exact (writes_entry (hrun.cut hj (List.forall_mem_nil _)) h).mono fun s₂ _ ⟨_, h₂⟩ => h₂

/-- After a run has been collected, it is written together with what comes, run by run. -/
theorem writes_all (hj : b.journal.IsFiled) (h : Collecting s cur run) (hrun : b.Open m run)
    (hxs : ∀ x ∈ xs, x ∈ b.journal.transactions) :
    b.Writes (do b.feedAll xs; b.finish) cur m (b.lines s (run ++ xs))
      fun s' _ => Collecting s s' [] := by
  induction xs generalizing run cur m with
  | nil =>
    rw [List.append_nil, lines_of_open s hrun]
    exact writes_finish hj h hrun
  | cons x xs ih =>
    obtain ⟨hx, hxs⟩ := List.forall_mem_cons.1 hxs
    have hassoc : (do b.feedAll (x :: xs); b.finish) =
        (do b.feed x; (do b.feedAll xs; b.finish) : PassStep Memory Unit) := bind_assoc ..
    rw [hassoc]
    by_cases hm : ∀ last ∈ m, last = x.entry
    · -- the run goes on
      rw [show b.lines s (run ++ x :: xs) = [] ++ b.lines s ((run ++ [x]) ++ xs) by simp]
      refine (writes_feed_same h hm).bind fun s₁ m₁ ⟨hm₁, h₁⟩ => ?_
      exact ih h₁ (hm₁ ▸ hrun.append hm hx) hxs
    · -- the run ends here
      obtain ⟨i, hi⟩ := Classical.not_forall.1 hm
      obtain ⟨rfl, hne⟩ := Classical.not_imp.1 hi
      have hother : ∀ y ∈ [x], y ∈ b.journal.transactions ∧ y.entry ≠ i :=
        List.forall_mem_singleton.2 ⟨hx, Ne.symm hne⟩
      rw [lines_append_cons s (fun _ => hrun.entry_eq) hne]
      refine (writes_feed_other (hrun.cut hj hother) h).bind fun s₁ m₁ ⟨hm₁, h₁⟩ => ?_
      have hrun₁ : b.Open m₁ [x] := hm₁ ▸ open_singleton hx
      exact ih h₁ hrun₁ hxs

/-! ## Whole reports -/

theorem forM_call {calls : List Call} (h : ∀ c ∈ calls, c ≠ .finish) :
    calls.forM b.call = b.feedAll (calls.flatMap b.fed) := by
  induction calls with
  | nil => rfl
  | cons c calls ih =>
    obtain ⟨hc, hcalls⟩ := List.forall_mem_cons.1 h
    have hone : b.call c = (b.fed c).forM b.feed := by
      cases c with
      | transaction x => exact (bind_pure_unit (x := b.feed x)).symm
      | entry e => rfl
      | finish => exact absurd rfl hc
    have hboth : b.feedAll (b.fed c ++ calls.flatMap b.fed) =
        (do (b.fed c).forM b.feed; b.feedAll (calls.flatMap b.fed)) := List.forM_append
    rw [List.flatMap_cons, hboth, ← hone, ← ih hcalls]
    rfl

theorem sublist_of_mem_runs (hrun : run ∈ runs xs) : run.Sublist xs := by
  rw [← List.flatten_splitBy (fun x y => x.entry == y.entry) xs]
  exact List.sublist_flatten_of_mem hrun

theorem exists_cut (hj : b.journal.IsFiled) (hxs : ∀ x ∈ xs, x ∈ b.journal.transactions)
    (hrun : run ∈ runs xs) : ∃ i, b.Cut i run [] := by
  cases run with
  | nil => exact ⟨0, hj, List.forall_mem_nil _, List.forall_mem_nil _⟩
  | cons x rest =>
    exact ⟨x.entry, hj, fun y hy => ⟨hxs y ((sublist_of_mem_runs hrun).subset hy),
      entry_eq_of_mem_runs hrun hy (.head _)⟩, List.forall_mem_nil _⟩

theorem perm_block_of_mem_runs (hj : b.journal.IsFiled)
    (hxs : ∀ x ∈ xs, x ∈ b.journal.transactions) (hnodup : xs.Nodup) (hrun : run ∈ runs xs) :
    (b.block run).Perm run := by
  obtain ⟨i, hc⟩ := exists_cut hj hxs hrun
  exact (List.perm_ext_iff_of_nodup hc.nodup_block
    (hnodup.sublist (sublist_of_mem_runs hrun))).2 fun y => hc.mem_block_iff

theorem transactions_linesOf (s : ReportState) (ys : List Transaction) :
    (b.linesOf s ys).map (·.transaction) = ys := by
  cases ys with
  | nil => rfl
  | cons y ys => simp [linesOf, Function.comp_def]

/-- Every transaction that is fed has one line. -/
theorem transactions_lines_perm (hj : b.journal.IsFiled)
    (hxs : ∀ x ∈ xs, x ∈ b.journal.transactions) (hnodup : xs.Nodup) (s : ReportState) :
    ((b.lines s xs).map (·.transaction)).Perm xs := by
  have hlines : (b.lines s xs).map (·.transaction) = (runs xs).flatMap b.block := by
    simp only [lines, List.map_flatMap, linesOfRun, transactions_linesOf]
  have hruns : (runs xs).flatMap id = xs := by
    rw [List.flatMap_id]
    exact List.flatten_splitBy _ xs
  rw [hlines]
  exact (List.Perm.flatMap_left (runs xs) fun run hrun =>
    perm_block_of_mem_runs hj hxs hnodup hrun).trans (.of_eq hruns)

/-- However the transactions of a journal are fed, none of them twice and none of them waiting
before, the report is written as the lines of their runs say.  It fails only if a text is not found
or the sink refuses a piece; else every line is written in order, all transactions have been
displayed in the end, and none waits. -/
theorem written_in_blocks (hj : b.journal.Built) {calls : List Call}
    (hcalls : ∀ c ∈ calls, c ≠ .finish) (hxs : calls.flatMap b.fed = xs)
    (hlisted : ∀ x ∈ xs, x ∈ b.journal.transactions) (hnodup : (xs.map (·.id)).Nodup)
    (hs : ∀ i, s.transactionHas i .waiting = false) (m : Memory) (k : Sink) :
    let pieces := (b.lines s xs).flatMap fun l => (b.textsOf l).1
    let ended := (do calls.forM b.call; b.finish : PassStep Memory Unit).exec
      { state := s, sink := k, memory := m }
    ((b.lines s xs).map (·.transaction)).Perm xs ∧
    (∀ run ∈ runs xs, (b.block run).Perm run ∧
      ∀ i, (s.collect run).transactionHas i .waiting ↔ i ∈ run.map (·.id)) ∧
    (ended.1 = .ok () ↔ (∀ l ∈ b.lines s xs, (b.textsOf l).2 = .ok ()) ∧ k.TakesAll pieces) ∧
    (ended.1 = .ok () → ended.2.sink = k.after pieces ∧
      ∀ i, ended.2.state.transactionHas i .waiting = false ∧
        (ended.2.state.transactionHas i .done ↔
          s.transactionHas i .done ∨ i ∈ xs.map (·.id))) := by
  intro pieces ended
  have hfiled := hj.isFiled
  have hperm := transactions_lines_perm hfiled hlisted hnodup.of_map s
  have hwrites : b.Writes (do b.feedAll xs; b.finish) s m (b.lines s xs)
      fun s' _ => Collecting s s' [] :=
    writes_all hfiled (Collecting.nothing hs) (List.forall_mem_nil _) hlisted
  rw [← hxs, ← forM_call hcalls, hxs] at hwrites
  obtain ⟨hok, hend⟩ := hwrites.exec k
  refine ⟨hperm, fun run hrun => ?_, hok, fun h => ?_⟩
  · exact ⟨perm_block_of_mem_runs hfiled hlisted hnodup.of_map hrun,
      (Collecting.collect hs run).waiting⟩
  · obtain ⟨hsink, hcollecting, hdone⟩ := hend h
    refine ⟨hsink, fun i => ⟨?_, (hdone i).trans (or_congr_right (hperm.map _).mem_iff)⟩⟩
    exact Bool.eq_false_iff.2 fun hwaits => by cases (hcollecting.waiting i).1 hwaits

/-- A transaction without an amount, by what it was for. -/
def goods (id entry : Nat) (note : String) : Transaction where
  account := .listed 0
  amount := { quantity := .zero }
  note := some note
  id
  entry

/-- Two trips to the shops, with something from the first noted down late. -/
def trips : Journal :=
  (((((({} : Journal).addEntry (.period "")).addEntry (.period "")).addTransaction 0
    (goods 0 0 "bread").toPosting).addTransaction 0 (goods 1 0 "cheese").toPosting).addTransaction 1
    (goods 2 1 "fuel").toPosting).addTransaction 0 (goods 3 0 "wine").toPosting

theorem built_trips : trips.Built :=
  (((((Journal.Built.empty.addEntry _).addEntry _).addTransaction _ (by decide)).addTransaction _
    (by decide)).addTransaction _ (by decide)).addTransaction _ (by decide)

/-- The trips in blocks, of which each begins with a mark. -/
def tripReport : Blocks where
  journal := trips
  now := .midnight .earliest
  renderer := Opening.ofErrands.renderer
  first := ⟨[{ field := .literal "#" }, { field := .note }], ""⟩
  next := ⟨[{ field := .note }], ""⟩

/-- The first trip is written in two blocks, and the second of them in the order of the trip. -/
theorem written_in_blocks_trips :
    let calls := [.transaction (goods 0 0 "bread"),
      .entry { toHeading := .period "", transactions := [2] },
      .transaction (goods 3 0 "wine"), .transaction (goods 1 0 "cheese")]
    let ended := (do calls.forM tripReport.call; tripReport.finish : PassStep Memory Unit).exec
      { state := {}, sink := .unlimited, memory := none }
    ended.1 = .ok () ∧
      ended.2.sink.pieces = ["#", "bread", "#", "fuel", "#", "cheese", "wine"] ∧
      ∀ i, ended.2.state.transactionHas i .waiting = false := by
  intro calls ended
  let xs := [goods 0 0 "bread", goods 2 1 "fuel", goods 3 0 "wine", goods 1 0 "cheese"]
  have hlisted : ∀ x ∈ xs, x ∈ trips.transactions := by
    have htrips : trips.transactions =
        [goods 0 0 "bread", goods 1 0 "cheese", goods 2 1 "fuel", goods 3 0 "wine"] := rfl
    rw [htrips]
    simp [xs]
  have hcalls : ∀ c ∈ calls, c ≠ .finish := by simp [calls]
  have hfed : calls.flatMap tripReport.fed = xs := rfl
  obtain ⟨-, -, hok, hend⟩ := written_in_blocks (b := tripReport) (s := {}) built_trips hcalls
    hfed hlisted (by decide) (fun _ => rfl) none .unlimited
  have hpieces : (tripReport.lines {} xs).flatMap (fun l => (tripReport.textsOf l).1) =
      ["#", "bread", "#", "fuel", "#", "cheese", "wine"] := by decide +kernel
  have htexts : (tripReport.outline (tripReport.lines {} xs)).2 = .ok () := rfl
  rw [hpieces] at hok hend
  have hsuccess : ended.1 = .ok () :=
    hok.2 ⟨outline_eq_ok_iff.1 htexts, rfl, rfl, rfl, rfl, rfl, rfl, rfl, trivial⟩
  obtain ⟨hsink, hmarks⟩ := hend hsuccess
  exact ⟨hsuccess, congrArg Sink.pieces hsink, fun i => (hmarks i).1⟩

end Blocks

end Bookkeeping
