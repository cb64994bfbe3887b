import Bookkeeping.Proofs.Report.Blocks
import Bookkeeping.Proofs.Report.Repetition

/-!
# Groups of a register

Of the transactions that are fed to a register it writes those that have not been displayed, each
where it comes first (`Register.fresh`).  Which template a line has depends on the line before it
and on no transaction that was passed over in between (`Register.linesFrom`), and each line reads
as it would in the state before the first (`Register.textsOf`).  From this follows what a whole
register writes (`Register.written_in_groups`).
-/

namespace Bookkeeping

open Attempt

namespace Register

/-! ## Which transactions are written -/

/-- The transactions that have not been displayed, each where it comes first. -/
def fresh (s : ReportState) (xs : List Transaction) : List Transaction :=
  (xs.filter fun x => !s.transactionHas x.id .done).eraseDupsBy fun x y => x.id == y.id

variable {s cur : ReportState} {x : Transaction} {xs : List Transaction}

theorem fresh_cons_of_displayed (h : s.transactionHas x.id .done) :
    fresh s (x :: xs) = fresh s xs := by
  rw [fresh, List.filter_cons_of_neg (by simp [h]), fresh]

/-- Once a transaction has been written, it is as if it had been displayed from the start. -/
theorem fresh_cons (h : ¬s.transactionHas x.id .done) :
    fresh s (x :: xs) = x :: fresh (s.markTransaction x.id .done) xs := by
  have hlater : (fun y : Transaction => !(s.markTransaction x.id .done).transactionHas y.id .done) =
      fun y => decide ((y.id == x.id) = false) && !s.transactionHas y.id .done := by
    funext y
    simp [ReportState.transactionHas_markTransaction_done]
  rw [fresh, List.filter_cons_of_pos (by simp [h]), List.eraseDupsBy_cons, List.filter_filter,
    fresh, hlater]

theorem mem_ids_fresh {i : Nat} :
    i ∈ (fresh s xs).map (·.id) ↔ i ∈ xs.map (·.id) ∧ ¬s.transactionHas i .done := by
  induction xs generalizing s with
  | nil => exact ⟨fun h => absurd h List.not_mem_nil, fun h => absurd h.1 List.not_mem_nil⟩
  | cons x xs ih =>
    rw [List.map_cons, List.mem_cons]
    by_cases h : s.transactionHas x.id .done
    · rw [fresh_cons_of_displayed h, ih]
      refine and_congr_left fun hi => (or_iff_right ?_).symm
      rintro rfl
      exact hi h
    · rw [fresh_cons h, List.map_cons, List.mem_cons, ih,
        ReportState.transactionHas_markTransaction_done, Bool.or_eq_true, decide_eq_true_eq, not_or]
      by_cases hi : i = x.id
      · rw [hi]
        simp [h]
      · simp [hi]

theorem fresh_sublist (s : ReportState) (xs : List Transaction) : (fresh s xs).Sublist xs := by
  induction xs generalizing s with
  | nil => exact .slnil
  | cons x xs ih =>
    by_cases h : s.transactionHas x.id .done
    · rw [fresh_cons_of_displayed h]
      exact (ih s).cons x
    · rw [fresh_cons h]
      exact (ih _).cons_cons x

theorem nodup_ids_fresh (s : ReportState) (xs : List Transaction) :
    ((fresh s xs).map (·.id)).Nodup := by
  induction xs generalizing s with
  | nil => exact .nil
  | cons x xs ih =>
    by_cases h : s.transactionHas x.id .done
    · rw [fresh_cons_of_displayed h]
      exact ih s
    · rw [fresh_cons h, List.map_cons, List.nodup_cons, mem_ids_fresh]
      refine ⟨fun hx => hx.2 ?_, ih _⟩
      rw [ReportState.transactionHas_markTransaction_done, decide_eq_true rfl, Bool.true_or]

/-! ## Lines -/

/-- A line of a register. -/
structure Line where
  template : Template
  transaction : Transaction

variable (r : Register)

/-- The transaction's own date, or that of its entry. -/
def dateOf (x : Transaction) : Option Date := x.date <|> (r.journal.entryOf? x).map (·.date)

/-- The template of a transaction that is written after another one: a transaction of the same entry
and date has the second one, and every other has the first one. -/
def templateAfter (before : Option Transaction) (x : Transaction) : Template :=
  if before.any fun y => y.entry = x.entry ∧ r.dateOf y = r.dateOf x then r.next else r.first

/-- The lines of transactions that are written one after the other, after `before`. -/
def linesFrom : Option Transaction → List Transaction → List Line
  | _, [] => []
  | before, x :: xs => ⟨r.templateAfter before x, x⟩ :: linesFrom (some x) xs

/-- The texts of a line up to the first that is not found, and what comes of it. -/
def textsOf (s : ReportState) (l : Line) : List String × Except ReportError Unit :=
  r.renderer.texts (.forTransaction r.journal s r.now l.transaction) l.template.elements

variable {r} {before : Option Transaction}

theorem actualDate_eq (x : Transaction) : r.journal.actualDate x = r.dateOf x := by
  rw [Journal.actualDate, dateOf]
  cases r.journal.entryOf? x with
  | none => cases x.date <;> rfl
  | some e =>
    show some (x.date.getD e.date) = _
    cases x.date <;> rfl

/-- It is enough to remember the entry and the date of the transaction written before. -/
theorem templateOf_eq (before : Option Transaction) (x : Transaction) :
    r.templateOf (before.map r.groupOf) x = r.templateAfter before x := by
  rw [templateOf, templateAfter]
  cases before with
  | none => rfl
  | some y =>
    simp only [Option.map_some, Option.some.injEq, groupOf, Prod.mk.injEq, actualDate_eq,
      Option.any_some, decide_eq_true_eq]

/-! ## States in which lines are written -/

/-- Transactions may have been displayed since the second state, and nothing else has changed for
those that have not. -/
structure DisplayedSince (cur s : ReportState) : Prop where
  alike : cur.LooksAlike s
  recorded : ∀ i, ¬cur.transactionHas i .done →
    (cur.transaction? i).isSome = (s.transaction? i).isSome
  waiting : ∀ i, cur.transactionHas i .waiting = s.transactionHas i .waiting

theorem DisplayedSince.refl (s : ReportState) : DisplayedSince s s :=
  ⟨.refl s, fun _ _ => rfl, fun _ => rfl⟩

theorem DisplayedSince.mark (h : DisplayedSince cur s) (i : Nat) :
    DisplayedSince (cur.markTransaction i .done) s where
  alike := (cur.looksAlike_markTransaction i .done).trans h.alike
  recorded j hj := by
    rw [ReportState.transactionHas_markTransaction_done, Bool.or_eq_true, decide_eq_true_eq,
      not_or] at hj
    rw [ReportState.markTransaction, ReportState.transaction?_changeTransaction, if_neg hj.1,
      h.recorded j hj.2]
  waiting j := by rw [ReportState.waiting_markTransaction_done, h.waiting]

/-- A line reads as in the state before any transaction was displayed. -/
theorem DisplayedSince.textsOf_eq (h : DisplayedSince cur s) {l : Line}
    (hl : ¬cur.transactionHas l.transaction.id .done) : r.textsOf cur l = r.textsOf s l := by
  have hscope : (Scope.forTransaction r.journal cur r.now l.transaction).LooksAlike s :=
    { state := h.alike
      recorded := fun x hx => by
        obtain rfl := Option.some.inj hx
        exact h.recorded _ hl
      waiting := fun _ _ _ y _ => h.waiting y.id }
  exact Renderer.texts_congr hscope _

/-- The state once these transactions have been displayed. -/
def displayAll (s : ReportState) (xs : List Transaction) : ReportState :=
  xs.foldl (fun s x => s.markTransaction x.id .done) s

theorem transactionHas_displayAll (s : ReportState) (xs : List Transaction) (i : Nat) :
    (displayAll s xs).transactionHas i .done ↔
      i ∈ xs.map (·.id) ∨ s.transactionHas i .done := by
  induction xs generalizing s with
  | nil => exact (or_iff_right List.not_mem_nil).symm
  | cons x xs ih =>
    refine (ih _).trans ?_
    rw [ReportState.transactionHas_markTransaction_done, Bool.or_eq_true, decide_eq_true_eq,
      List.map_cons, List.mem_cons, or_left_comm, or_assoc]

/-! ## Feeding -/

variable (r)

/-- The pieces of the lines of transactions that are written after `before`. -/
def piecesFrom (s : ReportState) (before : Option Transaction) (ys : List Transaction) :
    List String :=
  (r.linesFrom before ys).flatMap fun l => (r.textsOf s l).1

/-- What is left of a pass in which these transactions have been written after `before`. -/
def passAfter (s : ReportState) (before : Option Transaction) (ys : List Transaction)
    (p : Pass Memory) : Pass Memory where
  state := displayAll p.state ys
  sink := p.sink.after (r.piecesFrom s before ys)
  memory := (ys.getLast?.or before).map r.groupOf

/-- These transactions are written after `before`: all texts are found as in the state `s`, and the
sink takes them. -/
structure Writes (s : ReportState) (before : Option Transaction) (ys : List Transaction)
    (p p' : Pass Memory) : Prop where
  texts : ∀ l ∈ r.linesFrom before ys, (r.textsOf s l).2 = .ok ()
  taken : p.sink.TakesAll (r.piecesFrom s before ys)
  ended : p' = r.passAfter s before ys p

variable {r} {y : Transaction} {ys : List Transaction} {p p' q : Pass Memory}

theorem writes_nil_iff (hm : p.memory = before.map r.groupOf) :
    r.Writes s before [] p p' ↔ p' = p := by
  have hsame : r.passAfter s before [] p = p := by
    rw [passAfter, piecesFrom, linesFrom, List.flatMap_nil, Sink.after_nil, List.getLast?_nil,
      Option.none_or, ← hm]
    rfl
  refine ⟨fun h => h.ended.trans hsame, fun h => ⟨fun _ hl => ?_, trivial, h.trans hsame.symm⟩⟩
  cases hl

theorem piecesFrom_cons (s : ReportState) (before : Option Transaction) (y : Transaction)
    (ys : List Transaction) :
    r.piecesFrom s before (y :: ys) = r.piecesFrom s before [y] ++ r.piecesFrom s (some y) ys := by
  rw [piecesFrom, piecesFrom, linesFrom, linesFrom, linesFrom, List.flatMap_cons,
    List.flatMap_singleton, piecesFrom]

theorem passAfter_cons (s : ReportState) (before : Option Transaction) (y : Transaction)
    (ys : List Transaction) (p : Pass Memory) :
    r.passAfter s before (y :: ys) p =
      r.passAfter s (some y) ys (r.passAfter s before [y] p) := by
  rw [passAfter, passAfter, passAfter, piecesFrom_cons, Sink.after_after, List.getLast?_cons,
    Option.some_or, Option.or_some]
  rfl

/-- Transactions are written one after the other. -/
theorem writes_cons_iff : r.Writes s before (y :: ys) p p' ↔
    ∃ q, r.Writes s before [y] p q ∧ r.Writes s (some y) ys q p' := by
  constructor
  · rintro ⟨htexts, htaken, hended⟩
    rw [linesFrom, List.forall_mem_cons] at htexts
    rw [piecesFrom_cons, Sink.takesAll_append] at htaken
    exact ⟨_, ⟨List.forall_mem_singleton.2 htexts.1, htaken.1, rfl⟩, htexts.2, htaken.2,
      hended.trans (passAfter_cons s before y ys p)⟩
  · rintro ⟨q, ⟨hfirst, htaken, rfl⟩, hrest, htaken', hended⟩
    refine ⟨?_, ?_, hended.trans (passAfter_cons s before y ys p).symm⟩
    · rw [linesFrom, List.forall_mem_cons]
      exact ⟨hfirst _ (.head _), hrest⟩
    · rw [piecesFrom_cons, Sink.takesAll_append]
      exact ⟨htaken, htaken'⟩

/-- A transaction that has not been displayed is written, marked and remembered; if its texts are
not found or the sink refuses one, the step fails. -/
theorem exec_feed_eq_ok_iff (h : DisplayedSince p.state s)
    (hnot : ¬p.state.transactionHas x.id .done) (hm : p.memory = before.map r.groupOf) :
    (r.feed x).exec p = (.ok (), p') ↔ r.Writes s before [x] p p' := by
  have htexts := h.textsOf_eq (r := r) (l := ⟨r.templateAfter before x, x⟩) hnot
  have hpieces : (r.textsOf s ⟨r.templateAfter before x, x⟩).1 = r.piecesFrom s before [x] :=
    (List.flatMap_singleton ..).symm
  have hwrite (q : Pass Memory) :
      (r.writeTransaction (r.templateAfter before x) x).exec p = (.ok (), q) ↔
        (r.textsOf s ⟨r.templateAfter before x, x⟩).2 = .ok () ∧
          p.sink.TakesAll (r.piecesFrom s before [x]) ∧
          q = { p with sink := p.sink.after (r.piecesFrom s before [x]) } := by
    have houtlined := r.outlined_writeTransaction (r.templateAfter before x) x p.state p.memory
    have hiff := houtlined.exec_eq_ok_iff (k := p.sink) (v := ()) (p := q)
    rw [Act.pieces_map_piece] at hiff
    rw [← hpieces, ← htexts]
    exact hiff
  rw [exec_feed_of_not_displayed hnot, hm, templateOf_eq]
  constructor
  · intro hrun
    rcases hw : (r.writeTransaction (r.templateAfter before x) x).exec p with ⟨result, q⟩
    rw [hw] at hrun
    cases result with
    | error _ => cases hrun
    | ok _ =>
      obtain ⟨hok, hk, rfl⟩ := (hwrite q).1 hw
      cases hrun
      exact ⟨List.forall_mem_singleton.2 hok, hk, rfl⟩
  · rintro ⟨hok, hk, rfl⟩
    rw [(hwrite _).2 ⟨hok _ (.head _), hk, rfl⟩]
    rfl

theorem exec_feedAll_cons_eq_ok_iff :
    (r.feedAll (x :: xs)).exec p = (.ok (), p') ↔
      ∃ q, (r.feed x).exec p = (.ok (), q) ∧ (r.feedAll xs).exec q = (.ok (), p') := by
  rw [feedAll, exec_forM_cons]
  rcases (r.feed x).exec p with ⟨result, q⟩
  constructor
  · intro h
    cases result with
    | error _ => cases h
    | ok _ => exact ⟨q, rfl, h⟩
  · rintro ⟨q', hfeed, hrest⟩
    cases hfeed
    exact hrest

/-- Of transactions that are fed after `before` has been written, the fresh ones are written. -/
theorem exec_feedAll_eq_ok_iff (h : DisplayedSince p.state s)
    (hm : p.memory = before.map r.groupOf) :
    (r.feedAll xs).exec p = (.ok (), p') ↔ r.Writes s before (fresh p.state xs) p p' := by
  induction xs generalizing p before with
  | nil =>
    refine Iff.trans ?_ (writes_nil_iff hm).symm
    constructor
    · intro hrun
      cases hrun
      rfl
    · rintro rfl
      rfl
  | cons x xs ih =>
    rw [exec_feedAll_cons_eq_ok_iff]
    by_cases hdone : p.state.transactionHas x.id .done
    · -- the transaction is passed over, and `before` stays the last that was written
      rw [fresh_cons_of_displayed hdone, ← ih h hm, exec_feed_of_displayed hdone]
      constructor
      · rintro ⟨q, hq, hrun⟩
        cases hq
        exact hrun
      · exact fun hrun => ⟨p, rfl, hrun⟩
    · rw [fresh_cons hdone, writes_cons_iff]
      refine exists_congr fun q => ?_
      rw [exec_feed_eq_ok_iff h hdone hm]
      refine and_congr_right fun hwritten => ?_
      rw [hwritten.ended]
      exact ih (h.mark x.id) rfl

/-- Whatever transactions are fed, in whatever order and however often, a register writes those that
have not been displayed before, each where it comes first: the first of all and those of another
entry or another date than the one written before by the first template, and the others by the
second one.  It fails only if a text is not found or the sink refuses a piece; else every line is
written in order, and in the end all that was fed is displayed. -/
theorem written_in_groups (r : Register) (s : ReportState) (xs : List Transaction) (k : Sink) :
    let written := fresh s xs
    let lines := r.linesFrom none written
    let pieces := lines.flatMap fun l => (r.textsOf s l).1
    let ended := (r.feedAll xs).exec { state := s, sink := k, memory := none }
    (written.Sublist xs ∧ (written.map (·.id)).Nodup ∧
      ∀ i, i ∈ written.map (·.id) ↔ i ∈ xs.map (·.id) ∧ ¬s.transactionHas i .done) ∧
    (ended.1 = .ok () ↔ (∀ l ∈ lines, (r.textsOf s l).2 = .ok ()) ∧ k.TakesAll pieces) ∧
    (ended.1 = .ok () → ended.2.sink = k.after pieces ∧
      ∀ i, ended.2.state.transactionHas i .done ↔
        s.transactionHas i .done ∨ i ∈ xs.map (·.id)) := by
  intro written lines pieces ended
  have hiff (p' : Pass Memory) : ended = (.ok (), p') ↔
      r.Writes s none written { state := s, sink := k, memory := none } p' :=
    exec_feedAll_eq_ok_iff (.refl s) rfl
  refine ⟨⟨fresh_sublist s xs, nodup_ids_fresh s xs, fun _ => mem_ids_fresh⟩,
    ⟨fun h => ?_, fun ⟨htexts, htaken⟩ => ?_⟩, fun h => ?_⟩
  · have hwrites := (hiff ended.2).1 (Prod.ext h rfl)
    exact ⟨hwrites.texts, hwrites.taken⟩
  · rw [(hiff _).2 ⟨htexts, htaken, rfl⟩]
  · rw [((hiff ended.2).1 (Prod.ext h rfl)).ended]
    refine ⟨rfl, fun i => ?_⟩
    rw [passAfter, transactionHas_displayAll, mem_ids_fresh]
    tauto

/-- The two trips, with something that was noted for another day. -/
def laterTrips : Journal :=
  Blocks.trips.addTransaction 0
    { (Blocks.goods 4 0 "salt").toPosting with date := Date.ofParts? 2024 1 9 }

/-- The trips one by one, with a mark where a group begins. -/
def tripRegister : Register where
  journal := laterTrips
  now := .midnight .earliest
  renderer := Opening.ofErrands.renderer
  first := ⟨[{ field := .literal "#" }, { field := .note }], ""⟩
  next := ⟨[{ field := .note }], ""⟩

/-- The bread has been displayed, and the cheese comes twice, so that the wine follows the cheese;
the salt begins a group because of its day, and the fuel because of its trip. -/
theorem written_in_groups_trips :
    let xs := [1, 0, 3, 1, 4, 2].filterMap (laterTrips.transactions[·]?)
    let ended := (tripRegister.feedAll xs).exec
      { state := ({} : ReportState).markTransaction 0 .done, sink := .unlimited, memory := none }
    ended.1 = .ok () ∧
      ended.2.sink.pieces = ["#", "cheese", "wine", "#", "salt", "#", "fuel"] ∧
      ∀ i, ended.2.state.transactionHas i .done ↔ i < 5 := by
  intro xs ended
  let s : ReportState := ({} : ReportState).markTransaction 0 .done
  obtain ⟨-, hok, hend⟩ := written_in_groups tripRegister s xs .unlimited
  have hpieces : (tripRegister.linesFrom none (fresh s xs)).flatMap
      (fun l => (tripRegister.textsOf s l).1) =
        ["#", "cheese", "wine", "#", "salt", "#", "fuel"] := by decide +kernel
  have htexts : ∀ l ∈ tripRegister.linesFrom none (fresh s xs),
      (tripRegister.textsOf s l).2 = .ok () :=
    List.forall_iff_forall_mem.1 ⟨rfl, rfl, rfl, rfl⟩
  rw [hpieces] at hok hend
  have hsuccess : ended.1 = .ok () :=
    hok.2 ⟨htexts, rfl, rfl, rfl, rfl, rfl, rfl, rfl, trivial⟩
  obtain ⟨hsink, hmarks⟩ := hend hsuccess
  refine ⟨hsuccess, congrArg Sink.pieces hsink, fun i => ?_⟩
  have hids : xs.map (·.id) = [1, 0, 3, 1, 4, 2] := by decide
  rw [hmarks, hids, ReportState.transactionHas_markTransaction_done, Bool.or_eq_true,
    decide_eq_true_eq, or_iff_left (show ¬({} : ReportState).transactionHas i .done from nofun)]
  simp only [List.mem_cons, List.not_mem_nil, or_false]
  omega

end Register

end Bookkeeping
