import Bookkeeping.Proofs.Report.Blocks

/-!
# Transactions that come again

A report in blocks that is finished can go on with further transactions (`Blocks.callAll`).  What
has been displayed is not asked for: a transaction has a line in the block of every run in which it
comes (`Blocks.count_written`).  So no transaction is written twice if no two runs share one, and
only then (`Blocks.nodup_written_iff`); an entry may be revisited, but a transaction that comes back
after its block has been written is written again (`Blocks.written_once_for_each_run`).
-/

namespace Bookkeeping

open Attempt

/-- Whatever the sink refuses, a beginning of the pieces is written. -/
theorem Outlined.exists_taken {μ α : Type} {x : PassStep μ α} {s s' : ReportState} {m m' : μ}
    {as : List Act} {r : Except ReportError α} (h : Outlined x s m as r s' m') (k : Sink) :
    ∃ taken, taken <+: Act.pieces as ∧
      (x.exec { state := s, sink := k, memory := m }).2.sink = k.after taken := by
  by_cases hk : k.TakesAll (Act.pieces as)
  · exact ⟨_, List.prefix_refl _, by rw [h.full k hk]⟩
  · obtain ⟨before, t, later, hpieces, hbefore, ht⟩ := Sink.exists_refused hk
    obtain ⟨cs, ds, rfl, rfl⟩ := Act.exists_of_pieces_eq hpieces
    obtain ⟨s'', m'', hrun, -⟩ := h.cut k cs t ds rfl hbefore ht
    exact ⟨Act.pieces cs, hpieces ▸ List.prefix_append _ _, by rw [hrun]⟩

namespace Blocks

variable {b : Blocks} {s cur : ReportState} {m : Memory} {i : Nat} {xs : List Transaction}
  {run : List Transaction} {ls : List Line} {sessions : List (List Call)}

/-! ## Sessions -/

/-- Makes the calls of sessions, each of which is finished before the next one. -/
def callAll (b : Blocks) (sessions : List (List Call)) : PassStep Memory Unit :=
  sessions.forM fun calls => do
    calls.forM b.call
    b.finish

/-- The runs of sessions. -/
def runsOf (b : Blocks) (sessions : List (List Call)) : List (List Transaction) :=
  sessions.flatMap fun calls => runs (calls.flatMap b.fed)

/-- The transactions of the lines that these runs are written in. -/
def written (b : Blocks) (rs : List (List Transaction)) : List Transaction := rs.flatMap b.block

theorem transactions_linesOfRuns (s : ReportState) (rs : List (List Transaction)) :
    (rs.flatMap (b.linesOfRun s)).map (·.transaction) = b.written rs := by
  simp only [written, List.map_flatMap, linesOfRun, transactions_linesOf]

theorem writes_session (hj : b.journal.IsFiled) {calls : List Call}
    (hcalls : ∀ c ∈ calls, c ≠ .finish)
    (hlisted : ∀ x ∈ calls.flatMap b.fed, x ∈ b.journal.transactions)
    (h : Collecting s cur []) (m : Memory) :
    b.Writes (do calls.forM b.call; b.finish) cur m (b.lines s (calls.flatMap b.fed))
      fun s' _ => Collecting s s' [] := by
  rw [forM_call hcalls]
  exact writes_all hj h (List.forall_mem_nil _) hlisted

/-- Nothing waits between sessions, so that each is written like the first. -/
theorem writes_callAll (hj : b.journal.IsFiled)
    (hcalls : ∀ calls ∈ sessions, ∀ c ∈ calls, c ≠ .finish)
    (hlisted : ∀ calls ∈ sessions, ∀ x ∈ calls.flatMap b.fed, x ∈ b.journal.transactions)
    (h : Collecting s cur []) (m : Memory) :
    b.Writes (b.callAll sessions) cur m ((b.runsOf sessions).flatMap (b.linesOfRun s))
      fun s' _ => Collecting s s' [] := by
  induction sessions generalizing cur m with
  | nil => exact writes_pure h
  | cons calls sessions ih =>
    obtain ⟨hcall, hcalls⟩ := List.forall_mem_cons.1 hcalls
    obtain ⟨hfirst, hlisted⟩ := List.forall_mem_cons.1 hlisted
    rw [runsOf, List.flatMap_cons, List.flatMap_append]
    exact (writes_session hj hcall hfirst h m).bind fun s' m' h' => ih hcalls hlisted h' m'

/-- The texts that are written before one is not found are those of a beginning of the lines. -/
theorem outline_pieces_prefixed (ls : List Line) :
    Act.pieces (b.outline ls).1 <+: ls.flatMap fun l => (b.textsOf l).1 := by
  induction ls with
  | nil => exact List.prefix_refl _
  | cons l ls ih =>
    rw [List.flatMap_cons]
    cases hl : (b.textsOf l).2 with
    | error e =>
      rw [outline_cons_of_error hl, Act.pieces_map_piece]
      exact List.prefix_append _ _
    | ok _ =>
      rw [outline_cons_of_ok hl, Act.pieces_append, Act.pieces_map_piece]
      exact (List.prefix_append_right_inj _).2 ih

/-! ## How often a transaction is written -/

theorem exists_cut_of_mem_runsOf (hj : b.journal.IsFiled)
    (hlisted : ∀ calls ∈ sessions, ∀ x ∈ calls.flatMap b.fed, x ∈ b.journal.transactions)
    (hrun : run ∈ b.runsOf sessions) : ∃ i, b.Cut i run [] := by
  obtain ⟨calls, hcalls, hrun⟩ := List.mem_flatMap.1 hrun
  exact exists_cut hj (hlisted calls hcalls) hrun

theorem Cut.nodup_ids_block {later : List Transaction} (hc : b.Cut i run later) :
    ((b.block run).map (·.id)).Nodup := by
  refine hc.nodup_block.map_on fun x hx y hy hid => ?_
  exact hc.filed.eq_of_id_eq (hc.run x (hc.mem_block_iff.1 hx)).1
    (hc.run y (hc.mem_block_iff.1 hy)).1 hid

/-- A transaction is written once for every run in which it comes. -/
theorem count_written {rs : List (List Transaction)} (hrs : ∀ run ∈ rs, ∃ i, b.Cut i run [])
    (k : Nat) :
    ((b.written rs).map (·.id)).count k = rs.countP fun run => k ∈ run.map (·.id) := by
  induction rs with
  | nil => rfl
  | cons run rs ih =>
    obtain ⟨⟨i, hc⟩, hrs⟩ := List.forall_mem_cons.1 hrs
    have hcount := hc.nodup_ids_block.count (a := k)
    simp only [hc.mem_ids_block_iff] at hcount
    rw [written, List.flatMap_cons, List.map_append, List.count_append, hcount,
      show List.flatMap b.block rs = b.written rs from rfl, ih hrs, List.countP_cons, Nat.add_comm]
    simp only [decide_eq_true_iff]

/-- No transaction is written twice just if no two runs share one. -/
theorem nodup_written_iff {rs : List (List Transaction)} (hrs : ∀ run ∈ rs, ∃ i, b.Cut i run []) :
    ((b.written rs).map (·.id)).Nodup ↔
      rs.Pairwise fun run run' => ∀ i ∈ run.map (·.id), i ∉ run'.map (·.id) := by
  rw [written, List.map_flatMap, List.nodup_flatMap, and_iff_right fun run hrun => ?_]
  · refine List.Pairwise.iff_of_mem fun {run run'} hrun hrun' => ?_
    obtain ⟨i, hc⟩ := hrs run hrun
    obtain ⟨i', hc'⟩ := hrs run' hrun'
    simp only [Function.onFun, List.Disjoint, hc.mem_ids_block_iff, hc'.mem_ids_block_iff]
  · obtain ⟨i, hc⟩ := hrs run hrun
    exact hc.nodup_ids_block

/-! ## Whole reports -/

/-- However transactions come, and come again, as long as none of them waits at the start: in any
number of sessions each of them is written once for every run in which it comes, and so none of them
twice just if no two runs share one.  A report that fails has written a beginning of this. -/
theorem written_once_for_each_run (hj : b.journal.Built)
    (hcalls : ∀ calls ∈ sessions, ∀ c ∈ calls, c ≠ .finish)
    (hlisted : ∀ calls ∈ sessions, ∀ x ∈ calls.flatMap b.fed, x ∈ b.journal.transactions)
    (hs : ∀ i, s.transactionHas i .waiting = false) (m : Memory) (k : Sink) :
    let rs := b.runsOf sessions
    let lines := rs.flatMap (b.linesOfRun s)
    let written := lines.map (·.transaction.id)
    let pieces := lines.flatMap fun l => (b.textsOf l).1
    let ended := (b.callAll sessions).exec { state := s, sink := k, memory := m }
    (∀ i, written.count i = rs.countP fun run => i ∈ run.map (·.id)) ∧
    (written.Nodup ↔
      rs.Pairwise fun run run' => ∀ i ∈ run.map (·.id), i ∉ run'.map (·.id)) ∧
    (∃ taken, taken <+: pieces ∧ ended.2.sink = k.after taken) ∧
    (ended.1 = .ok () ↔ (∀ l ∈ lines, (b.textsOf l).2 = .ok ()) ∧ k.TakesAll pieces) ∧
    (ended.1 = .ok () → ended.2.sink = k.after pieces ∧
      ∀ i, ended.2.state.transactionHas i .waiting = false ∧
        (ended.2.state.transactionHas i .done ↔ s.transactionHas i .done ∨ i ∈ written)) := by
  intro rs lines written pieces ended
  have hfiled := hj.isFiled
  have hcut : ∀ run ∈ rs, ∃ i, b.Cut i run [] := fun run => exists_cut_of_mem_runsOf hfiled hlisted
  have hwritten : written = (b.written rs).map (·.id) := by
    rw [← transactions_linesOfRuns s rs, List.map_map]
    rfl
  have hwrites := writes_callAll hfiled hcalls hlisted (Collecting.nothing hs) m
  obtain ⟨hok, hend⟩ := hwrites.exec k
  refine ⟨fun i => ?_, ?_, ?_, hok, fun h => ?_⟩
  · rw [hwritten, count_written hcut]
  · rw [hwritten, nodup_written_iff hcut]
  · obtain ⟨s', m', houtlined, -⟩ := hwrites
    obtain ⟨taken, htaken, hsink⟩ := houtlined.exists_taken k
    exact ⟨taken, htaken.trans (outline_pieces_prefixed lines), hsink⟩
  · obtain ⟨hsink, hcollecting, hdone⟩ := hend h
    refine ⟨hsink, fun i => ⟨?_, ?_⟩⟩
    · exact Bool.eq_false_iff.2 fun hwaits => by cases (hcollecting.waiting i).1 hwaits
    · rw [hdone, List.map_map]
      rfl

/-- The first trip is revisited in a session and in the next one, each time for something new. -/
theorem written_once_for_each_run_trips :
    let sessions := [[.transaction (goods 0 0 "bread"), .transaction (goods 2 1 "fuel"),
      .transaction (goods 3 0 "wine")], [.transaction (goods 1 0 "cheese")]]
    let ended := (tripReport.callAll sessions).exec
      { state := {}, sink := .unlimited, memory := none }
    ended.1 = .ok () ∧
      ended.2.sink.pieces = ["#", "bread", "#", "fuel", "#", "wine", "#", "cheese"] ∧
      (((tripReport.runsOf sessions).flatMap (tripReport.linesOfRun {})).map
        (·.transaction.id)).Nodup := by
  intro sessions ended
  have hlisted : ∀ calls ∈ sessions, ∀ x ∈ calls.flatMap tripReport.fed,
      x ∈ trips.transactions := by
    have htrips : trips.transactions =
        [goods 0 0 "bread", goods 1 0 "cheese", goods 2 1 "fuel", goods 3 0 "wine"] := rfl
    rw [htrips]
    simp only [sessions, fed, List.forall_mem_cons, List.flatMap_cons, List.flatMap_nil]
    simp
  have hcalls : ∀ calls ∈ sessions, ∀ c ∈ calls, c ≠ .finish := by simp [sessions]
  obtain ⟨-, hnodup, -, hok, hend⟩ := written_once_for_each_run (b := tripReport) (s := {})
    built_trips hcalls hlisted (fun _ => rfl) none .unlimited
  have hpieces : ((tripReport.runsOf sessions).flatMap (tripReport.linesOfRun {})).flatMap
      (fun l => (tripReport.textsOf l).1) =
      ["#", "bread", "#", "fuel", "#", "wine", "#", "cheese"] := by decide +kernel
  have htexts : (tripReport.outline
    ((tripReport.runsOf sessions).flatMap (tripReport.linesOfRun {}))).2 = .ok () := rfl
  rw [hpieces] at hok hend
  have hsuccess : ended.1 = .ok () :=
    hok.2 ⟨outline_eq_ok_iff.1 htexts, rfl, rfl, rfl, rfl, rfl, rfl, rfl, rfl, trivial⟩
  exact ⟨hsuccess, congrArg Sink.pieces (hend hsuccess).1, hnodup.2 (by decide +kernel)⟩

/-- Bread that is fed again after the fuel is written again, and so is everything on a second walk,
although it has been displayed on the first. -/
theorem written_again :
    let start : Pass Memory := { state := {}, sink := .unlimited, memory := none }
    let shop : PassStep Memory Unit := do
      tripReport.feedAll [goods 0 0 "bread", goods 2 1 "fuel", goods 0 0 "bread"]
      tripReport.finish
    let walk : PassStep Memory Unit := do tripReport.feedJournal; tripReport.finish
    (shop.exec start).1 = .ok () ∧
      (shop.exec start).2.sink.pieces = ["#", "bread", "#", "fuel", "#", "bread"] ∧
      (∀ i < 4, (walk.exec start).2.state.transactionHas i .done) ∧
      (walk.exec start).2.sink.pieces = ["#", "bread", "cheese", "wine", "#", "fuel"] ∧
      (walk.exec (walk.exec start).2).2.sink.pieces =
        ["#", "bread", "cheese", "wine", "#", "fuel", "#", "bread", "cheese", "wine", "#",
          "fuel"] := by
  intro start shop walk
  exact ⟨rfl, by decide +kernel, by decide +kernel, by decide +kernel, by decide +kernel⟩

end Blocks

end Bookkeeping
