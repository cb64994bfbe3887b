import Bookkeeping.Proofs.Elision.Abbreviation
import Bookkeeping.Proofs.Journal.Lineage
import Bookkeeping.Proofs.Report.Repetition

/-!
# Names below displayed accounts

The name that a line shows of an account is what is left of its full name below the nearest
displayed account, if there is one above it (`Scope.partialName_spec`).  While a balance report goes
through the accounts in preorder, the lines before an account tell the full names of all displayed
accounts above it by their numbers (`Balances.Recalled`).  So all full names can be rebuilt from
what the lines show (`Balances.rebuild`, `Balances.names_tell_fullnames`).
-/

namespace Bookkeeping

open Attempt

/-! ## Paths -/

namespace Path

theorem join_append {ss ts : List (List Char)} (hs : ss ≠ []) (ht : ts ≠ []) :
    join (ss ++ ts) = join ss ++ ':' :: join ts := by
  induction ss with
  | nil => exact absurd rfl hs
  | cons s ss ih =>
    rw [List.cons_append]
    cases ss with
    | nil => exact join_cons s ht
    | cons t ss =>
      have hne : t :: ss ≠ [] := List.cons_ne_nil t ss
      rw [join_cons s (List.append_ne_nil_of_left_ne_nil hne ts), ih hne, join_cons s hne,
        List.append_assoc, List.cons_append]

theorem ofNames_append {l m : List String} (hl : l ≠ []) (hm : m ≠ []) :
    ofNames (l ++ m) = ofNames l ++ ":" ++ ofNames m := by
  rw [ofNames, List.map_append, join_append (by simpa using hl) (by simpa using hm),
    String.ofList_append, String.append_assoc, ofNames, ofNames]
  congr 1
  exact @String.ofList_append [':'] _

end Path

/-! ## Partial names -/

namespace Scope

variable {sc : Scope} {i : Nat} {a b d : Account}

/-- The account and those above it before the first that is displayed or the root. -/
def unshown (sc : Scope) (a : Account) : List Account :=
  (sc.journal.lineage a).takeWhile fun b => !b.isRoot && !sc.isDisplayed b

/-- Behind these the way up goes on at a displayed account or the root. -/
theorem exists_stop (h : sc.journal.IsTree) (ha : sc.journal.accounts[i]? = some a) :
    ∃ k d, sc.journal.accounts[k]? = some d ∧ sc.journal.Within k i ∧
      sc.journal.lineage a = sc.unshown a ++ sc.journal.lineage d ∧
      (d.isRoot ∨ sc.isDisplayed d) := by
  induction i using Nat.strongRecOn generalizing a with
  | ind i ih =>
    by_cases hstop : a.isRoot ∨ sc.isDisplayed a
    · have hnone : sc.unshown a = [] := by
        rw [unshown, Journal.lineage, List.takeWhile_cons_of_neg]
        simpa [Classical.or_iff_not_imp_left] using hstop
      exact ⟨i, a, ha, .self, by rw [hnone, List.nil_append], hstop⟩
    · obtain ⟨hroot, hdone⟩ := not_or.1 hstop
      obtain ⟨p, hp⟩ := a.exists_parent (Bool.eq_false_iff.2 hroot)
      obtain ⟨b, hb, -⟩ := h.listed ha hp
      obtain ⟨k, d, hd, hkp, hlineage, hstop⟩ := ih p (Journal.parent_lt h ha hp) hb
      refine ⟨k, d, hd, .under ha hp hkp, ?_, hstop⟩
      rw [unshown, Journal.lineage_child h hp hb,
        List.takeWhile_cons_of_pos (by simp [hroot, hdone]), List.cons_append, ← unshown,
        ← hlineage]

theorem of_mem_unshown (hb : b ∈ sc.unshown a) : b.isRoot = false ∧ sc.isDisplayed b = false := by
  have hall := List.all_takeWhile (l := sc.journal.lineage a)
    (p := fun b => !b.isRoot && !sc.isDisplayed b)
  simpa using List.all_eq_true.1 hall b hb

theorem partialName_eq (h : sc.journal.IsTree) (ha : sc.journal.accounts[i]? = some a) :
    sc.partialName a = Path.ofNames ((sc.unshown a).map (·.name)).reverse := by
  rw [partialName, h.id_eq ha]
  rfl

theorem namesTo_eq_append (hlineage : sc.journal.lineage a = sc.unshown a ++ sc.journal.lineage d) :
    sc.journal.namesTo a = sc.journal.namesTo d ++ ((sc.unshown a).map (·.name)).reverse := by
  have hall : (sc.unshown a).filter (fun b => !b.isRoot) = sc.unshown a :=
    List.filter_eq_self.2 fun b hb => by rw [(of_mem_unshown hb).1, Bool.not_false]
  rw [Journal.namesTo, hlineage, List.filter_append, hall, List.map_append, List.reverse_append,
    Journal.namesTo]

theorem displayedAbove_eq {rest : List Account}
    (hlineage : sc.journal.lineage a = sc.unshown a ++ rest) :
    sc.displayedAbove a = rest.countP sc.isDisplayed := by
  have hnone : (sc.unshown a).countP sc.isDisplayed = 0 :=
    List.countP_eq_zero.2 fun b hb => by simp [(of_mem_unshown hb).2]
  rw [displayedAbove, hlineage, List.countP_append, hnone, Nat.zero_add]

/-- The way up from the account ends at the root, before which nothing is displayed, or at a
displayed account. -/
inductive StopsAt (sc : Scope) (i : Nat) (a : Account) : Prop where
  | root (d : Account) : d.isRoot → sc.journal.lineage a = sc.unshown a ++ [d] →
      sc.partialName a = sc.journal.fullname a → StopsAt sc i a
  | shown (k : Nat) (d : Account) : sc.journal.accounts[k]? = some d → sc.journal.Within k i →
      k ≠ i → d.isRoot = false → sc.isDisplayed d →
      sc.journal.lineage a = sc.unshown a ++ sc.journal.lineage d →
      sc.journal.fullname a = sc.journal.fullname d ++ ":" ++ sc.partialName a → StopsAt sc i a

theorem stopsAt (h : sc.journal.IsTree) (hn : sc.journal.IsNamed)
    (ha : sc.journal.accounts[i]? = some a) (hnot : sc.isDisplayed a = false) :
    sc.StopsAt i a := by
  obtain ⟨k, d, hd, hki, hlineage, hstop⟩ := sc.exists_stop h ha
  have hnames := namesTo_eq_append hlineage
  cases hroot : d.isRoot with
  | true =>
    have hp : d.parent = none := Option.isNone_iff_eq_none.1 hroot
    refine .root d hroot (by rwa [Journal.lineage_root hp] at hlineage) ?_
    rw [partialName_eq h ha, Journal.fullname_eq h hn ha, hnames, Journal.namesTo_root hp,
      List.nil_append]
  | false =>
    have hdone : sc.isDisplayed d := hstop.resolve_left (Bool.eq_false_iff.1 hroot)
    have hne : k ≠ i := by
      rintro rfl
      cases hd.symm.trans ha
      exact absurd hdone (Bool.eq_false_iff.1 hnot)
    refine .shown k d hd hki hne hroot hdone hlineage ?_
    have hupper : sc.journal.namesTo d ≠ [] := Journal.namesTo_ne_nil h hd hroot
    have hlower : ((sc.unshown a).map (·.name)).reverse ≠ [] := fun hnil => by
      rw [List.reverse_eq_nil_iff, List.map_eq_nil_iff] at hnil
      rw [hnil, List.nil_append] at hlineage
      have had : a = d := (List.cons.inj hlineage).1
      rw [had, hdone] at hnot
      cases hnot
    rw [partialName_eq h ha, Journal.fullname_eq h hn ha, Journal.fullname_eq h hn hd, hnames,
      Path.ofNames_append hupper hlower]

/-- An account is displayed, other than the root, above another one. -/
def ShownAbove (sc : Scope) (d a : Account) : Prop :=
  d.isRoot = false ∧ sc.isDisplayed d ∧ sc.journal.Above d a

/-- Of the accounts displayed above another one it is the nearest. -/
def NearestShown (sc : Scope) (d a : Account) : Prop :=
  sc.ShownAbove d a ∧ ∀ e, sc.ShownAbove e a → e = d ∨ sc.journal.Above e d

/-- Below the nearest displayed account the partial name is what is left of the full name. -/
theorem partialName_spec (h : sc.journal.IsTree) (hn : sc.journal.IsNamed)
    (ha : sc.journal.accounts[i]? = some a) (hnot : sc.isDisplayed a = false) :
    (∀ d, ¬sc.ShownAbove d a) ∧ sc.partialName a = sc.journal.fullname a ∨
      ∃ d, sc.NearestShown d a ∧
        sc.journal.fullname a = sc.journal.fullname d ++ ":" ++ sc.partialName a := by
  -- what is displayed above the account is on the way up, and not among what is left out
  have hshown {rest : List Account} (hlineage : sc.journal.lineage a = sc.unshown a ++ rest)
      {e : Account} (he : sc.ShownAbove e a) : e ∈ rest := by
    obtain ⟨-, hdone, k, i', hk, hi', hki, -⟩ := he
    have hmem : e ∈ sc.journal.lineage a := (Journal.mem_lineage_iff h hi').2 ⟨k, hk, hki⟩
    rw [hlineage, List.mem_append] at hmem
    refine hmem.resolve_left fun hunshown => ?_
    rw [(of_mem_unshown hunshown).2] at hdone
    cases hdone
  cases sc.stopsAt h hn ha hnot with
  | root d hroot hlineage hname =>
    refine .inl ⟨fun e he => ?_, hname⟩
    have hed : e = d := List.mem_singleton.1 (hshown hlineage he)
    rw [← hed, he.1] at hroot
    cases hroot
  | shown k d hd hki hne hroot hdone hlineage hname =>
    refine .inr ⟨d, ⟨⟨hroot, hdone, k, i, hd, ha, hki, hne⟩, fun e he => ?_⟩, hname⟩
    obtain ⟨l, hl, hlk⟩ := (Journal.mem_lineage_iff h hd).1 (hshown hlineage he)
    by_cases hlk' : l = k
    · subst hlk'
      exact .inl (Option.some.inj (hl.symm.trans hd))
    · exact .inr ⟨l, k, hl, hd, hlk, hlk'⟩

theorem partialName_detached {name : String} :
    sc.partialName (.detached name) = sc.journal.fullname (.detached name) := by
  show name = sc.journal.fullname (.detached name)
  rw [Journal.fullname, show (Account.detached name).parent = none from rfl, Journal.above_none]
  exact String.ofList_toList.symm

theorem not_shownAbove_detached (h : sc.journal.IsTree) {name : String} (d : Account) :
    ¬sc.ShownAbove d (.detached name) := by
  rintro ⟨-, -, k, i, -, hi, -⟩
  cases (h.id_eq hi : AccountId.detached = .listed i)

end Scope

/-- Outside virtual postings the name of an account is written as it is. -/
theorem Renderer.elementText_accountName {r : Renderer} {sc : Scope} {a : Account}
    (ha : sc.account = some a) (hvirtual : sc.isVirtual = false) :
    r.elementText sc { field := .accountName } = .ok (sc.partialName a) := by
  have htext : r.accountText { field := .accountName } sc sc.partialName = sc.partialName a := by
    rw [accountText, ha]
    show r.bracketed _ _ _ = _
    rw [bracketed]
    cases hx : sc.transaction with
    | none => rfl
    | some x =>
      rw [Scope.isVirtual, hx, Option.any_some] at hvirtual
      show (if x.isVirtual then _ else _) = _
      rw [hvirtual]
      rfl
  rw [elementText, cellOf]
  simp only [htext]
  exact congrArg Except.ok (Text.padLeft_of_le (Nat.zero_le _))

/-! ## Lines of balances -/

namespace Balances

/-- A line of balances and the state in which it is written. -/
structure Line where
  state : ReportState
  account : Account

/-- The account is selected. -/
def chosen (b : Balances) (s : ReportState) (a : Account) : Bool :=
  (b.selector.selects s a).toOption.getD false

/-- The lines of accounts that are fed in this state and those after it. -/
def linesFrom (b : Balances) : ReportState → List Account → List Line
  | _, [] => []
  | s, a :: rest =>
    if b.chosen s a then
      if a.isRoot then b.linesFrom (s.markAccount a.id .waiting) rest
      else ⟨s, a⟩ :: b.linesFrom (s.markAccount a.id .done) rest
    else b.linesFrom s rest

/-- The texts of a line up to the first that is not found, and what comes of it. -/
def textsOf (b : Balances) (l : Line) : List String × Except ReportError Unit :=
  b.renderer.texts (b.lineScope l.state l.account) b.line.elements

variable {b : Balances} {s : ReportState} {a : Account} {rest accounts : List Account}
  {p p' : Pass Unit}

theorem linesFrom_cons_of_not_chosen (h : b.chosen s a = false) :
    b.linesFrom s (a :: rest) = b.linesFrom s rest := by
  rw [linesFrom, h]
  rfl

theorem linesFrom_cons_root (h : b.chosen s a) (hroot : a.isRoot) :
    b.linesFrom s (a :: rest) = b.linesFrom (s.markAccount a.id .waiting) rest := by
  rw [linesFrom, if_pos h, if_pos hroot]

theorem linesFrom_cons_of_chosen (h : b.chosen s a) (hroot : a.isRoot = false) :
    b.linesFrom s (a :: rest) = ⟨s, a⟩ :: b.linesFrom (s.markAccount a.id .done) rest := by
  rw [linesFrom, if_pos h, hroot]
  rfl

/-- A line that is written has all its texts, and they are what is written. -/
theorem exec_writeLine_ok (hrun : (b.writeLine a).exec p = (.ok (), p')) :
    (b.textsOf ⟨p.state, a⟩).2 = .ok () ∧
      p' = { state := p.state.markAccount a.id .done,
             sink := p.sink.after (b.textsOf ⟨p.state, a⟩).1, memory := () } := by
  have houtlined : Outlined (b.writeAccount b.line a none) p.state p.memory
      ((b.textsOf ⟨p.state, a⟩).1.map .piece) (b.textsOf ⟨p.state, a⟩).2 p.state p.memory :=
    outlined_get_bind (fun _ => rfl) (outlined_render _ _ _ p.state p.memory)
  rw [exec_writeLine] at hrun
  rcases hw : (b.writeAccount b.line a none).exec p with ⟨result, q⟩
  rw [hw] at hrun
  cases result with
  | error _ => cases hrun
  | ok _ =>
    obtain ⟨htexts, -, rfl⟩ := houtlined.exec_eq_ok_iff.1 hw
    rw [Act.pieces_map_piece] at hrun
    cases hrun
    exact ⟨htexts, rfl⟩

/-- What is written when accounts are fed are the texts of their lines, and the accounts of these
are displayed then. -/
theorem exec_forM_feed_ok (hrun : (accounts.forM b.feed).exec p = (.ok (), p')) :
    let lines := b.linesFrom p.state accounts
    (∀ l ∈ lines, (b.textsOf l).2 = .ok ()) ∧
      p'.sink = p.sink.after (lines.flatMap fun l => (b.textsOf l).1) ∧
      ∀ id, p'.state.accountHas id .done ↔
        id ∈ lines.map (·.account.id) ∨ p.state.accountHas id .done := by
  induction accounts generalizing p with
  | nil =>
    cases hrun
    exact ⟨fun _ hl => (by cases hl), (Sink.after_nil _).symm,
      fun _ => (or_iff_right List.not_mem_nil).symm⟩
  | cons a rest ih =>
    obtain ⟨q, hfeed, hrun⟩ := exec_forM_cons_ok hrun
    obtain ⟨htexts, hsink, hdone⟩ := ih hrun
    intro lines
    cases hselects : b.selector.selects p.state a with
    | error e =>
      rw [exec_feed_of_error hselects] at hfeed
      cases hfeed
    | ok selected =>
      have hchosen : b.chosen p.state a = selected := by
        rw [chosen, hselects]
        rfl
      rw [exec_feed hselects] at hfeed
      cases selected with
      | false =>
        cases hfeed
        have hlines : lines = b.linesFrom p.state rest := linesFrom_cons_of_not_chosen hchosen
        rw [hlines]
        exact ⟨htexts, hsink, hdone⟩
      | true =>
        cases hroot : a.isRoot with
        | true =>
          rw [hroot] at hfeed
          cases hfeed
          have hlines : lines = b.linesFrom (p.state.markAccount a.id .waiting) rest :=
            linesFrom_cons_root hchosen hroot
          rw [hlines]
          refine ⟨htexts, hsink, fun id => ?_⟩
          rw [hdone, ReportState.accountHas_markAccount_waiting]
        | false =>
          rw [hroot] at hfeed
          obtain ⟨hok, rfl⟩ := exec_writeLine_ok hfeed
          have hlines : lines = _ := linesFrom_cons_of_chosen hchosen hroot
          rw [hlines]
          refine ⟨List.forall_mem_cons.2 ⟨hok, htexts⟩, ?_, fun id => ?_⟩
          · rw [hsink, Sink.after_after, List.flatMap_cons]
          · rw [hdone, ReportState.accountHas_markAccount_done, Bool.or_eq_true, decide_eq_true_eq,
              List.map_cons, List.mem_cons, or_left_comm, or_assoc]

/-! ## Full names from lines -/

/-- The full name for a number and a name that a line shows, where the full names for earlier lines
are listed with their numbers, the latest first: the name itself if the number is zero, and else the
name behind the latest full name with the number before. -/
def fullNameAfter (earlier : List (Nat × String)) : Nat × String → Option String
  | (0, name) => some name
  | (k + 1, name) => (earlier.lookup k).map fun upper => upper ++ ":" ++ name

/-- The full names for what lines show, after the earlier ones. -/
def rebuildFrom (earlier : List (Nat × String)) : List (Nat × String) → Option (List String)
  | [] => some []
  | shown :: later => do
    let full ← fullNameAfter earlier shown
    let fulls ← rebuildFrom ((shown.1, full) :: earlier) later
    return full :: fulls

/-- The full names for what lines show. -/
def rebuild : List (Nat × String) → Option (List String) := rebuildFrom []

/-- What a line shows of its account: the number of displayed accounts above and the name below
them. -/
def shownOf (b : Balances) (l : Line) : Nat × String :=
  ((b.lineScope l.state l.account).displayedAbove l.account,
    (b.lineScope l.state l.account).partialName l.account)

/-- The account has been displayed. -/
def displays (s : ReportState) (a : Account) : Bool := s.accountHas a.id .done

/-- The latest full name with the number of a displayed account among these, which lead up to the
root, is that of the account. -/
def Recalled (j : Journal) (s : ReportState) (earlier : List (Nat × String))
    (upper : List Account) : Prop :=
  ∀ d rest, d :: rest <:+ upper → displays s d →
    earlier.lookup (rest.countP (displays s)) = some (j.fullname d)

variable {j : Journal} {t : ReportState} {earlier : List (Nat × String)} {upper : List Account}

theorem Recalled.of_suffix (h : Recalled j s earlier upper) {upper' : List Account}
    (hsuffix : upper' <:+ upper) : Recalled j s earlier upper' :=
  fun d rest hd => h d rest (hd.trans hsuffix)

theorem Recalled.congr (h : Recalled j s earlier upper)
    (ht : ∀ c ∈ upper, displays t c = displays s c) : Recalled j t earlier upper := by
  intro d rest hd hdone
  have hcount : rest.countP (displays t) = rest.countP (displays s) :=
    List.countP_congr fun c hc => by rw [ht c (hd.subset (.tail _ hc))]
  rw [ht d (hd.subset (.head _))] at hdone
  rw [hcount]
  exact h d rest hd hdone

/-- An account that is not displayed need not be recalled. -/
theorem Recalled.cons_of_not (h : Recalled j s earlier upper) (hnot : displays s a = false) :
    Recalled j s earlier (a :: upper) := by
  intro d rest hd hdone
  rcases List.suffix_cons_iff.1 hd with heq | hd
  · obtain ⟨rfl, rfl⟩ := List.cons.inj heq
    rw [hnot] at hdone
    cases hdone
  · exact h d rest hd hdone

/-- The line of an account is the latest with its number, and the numbers of the displayed accounts
above are smaller. -/
theorem Recalled.cons (h : Recalled j s earlier upper) (a : Account) :
    Recalled j s ((upper.countP (displays s), j.fullname a) :: earlier) (a :: upper) := by
  intro d rest hd hdone
  rcases List.suffix_cons_iff.1 hd with heq | hd
  · obtain ⟨rfl, rfl⟩ := List.cons.inj heq
    exact List.lookup_cons_self
  · have hlt : rest.countP (displays s) < upper.countP (displays s) := by
      have hle := hd.countP_le (p := displays s)
      rwa [List.countP_cons_of_pos hdone] at hle
    rw [List.lookup_cons, beq_eq_false_iff_ne.2 hlt.ne]
    exact h d rest hd hdone

theorem isDisplayed_lineScope : (b.lineScope s a).isDisplayed = displays s := rfl

/-- The line of an account tells its full name if those of the displayed accounts above are
recalled. -/
theorem fullNameAfter_shownOf (h : b.journal.IsTree) (hn : b.journal.IsNamed) {i : Nat}
    (ha : b.journal.accounts[i]? = some a) (hnot : displays s a = false)
    (hroot : ∀ d ∈ b.journal.accounts, d.isRoot → displays s d = false)
    (hrecalled : Recalled b.journal s earlier (b.journal.lineage a).tail) :
    fullNameAfter earlier (b.shownOf ⟨s, a⟩) = some (b.journal.fullname a) := by
  cases (b.lineScope s a).stopsAt h hn ha hnot with
  | root d hisRoot hlineage hname =>
    have hd : d ∈ b.journal.lineage a := by
      rw [show b.journal.lineage a = _ from hlineage]
      exact List.mem_append_right _ (List.mem_singleton_self d)
    obtain ⟨k, hk, -⟩ := (Journal.mem_lineage_iff h ha).1 hd
    have hcount : (b.lineScope s a).displayedAbove a = 0 := by
      rw [Scope.displayedAbove_eq hlineage, List.countP_singleton, isDisplayed_lineScope,
        hroot d (List.mem_of_getElem? hk) hisRoot]
      rfl
    rw [shownOf, hcount, hname]
    rfl
  | shown k d hd _ _ _ hdone hlineage hname =>
    rw [isDisplayed_lineScope] at hdone
    have hcount : (b.lineScope s a).displayedAbove a =
        (b.journal.lineage d).tail.countP (displays s) + 1 := by
      rw [Scope.displayedAbove_eq hlineage]
      exact List.countP_cons_of_pos hdone
    have hsuffix : b.journal.lineage d <:+ (b.journal.lineage a).tail := by
      have hall : b.journal.lineage d <:+ a :: (b.journal.lineage a).tail :=
        ⟨_, hlineage.symm⟩
      refine (List.suffix_cons_iff.1 hall).resolve_left fun heq => ?_
      obtain rfl : d = a := (List.cons.inj heq).1
      rw [hnot] at hdone
      cases hdone
    have hupper := hrecalled d (b.journal.lineage d).tail hsuffix hdone
    rw [shownOf, hcount, fullNameAfter, hupper, Option.map_some]
    exact congrArg some hname.symm

/-! ### Along the walk -/

/-- Before these accounts are fed: none of them is displayed, they are in preorder, and the
displayed accounts above the first are recalled. -/
structure Ahead (j : Journal) (s : ReportState) (earlier : List (Nat × String))
    (accounts : List Account) : Prop where
  listed : ∀ a ∈ accounts, a ∈ j.accounts
  nodup : (accounts.map (·.id)).Nodup
  order : accounts.IsChain j.FollowsInTree
  fresh : ∀ a ∈ accounts, displays s a = false
  root : ∀ d ∈ j.accounts, d.isRoot → displays s d = false
  recalled : ∀ a ∈ accounts.head?, Recalled j s earlier (j.lineage a).tail

/-- What is recalled on the way up from an account is recalled above the next. -/
theorem Ahead.next (h : Ahead j s earlier (a :: rest)) {earlier' : List (Nat × String)}
    (hrest : ∀ c ∈ rest, displays t c = false)
    (hroot : ∀ d ∈ j.accounts, d.isRoot → displays t d = false)
    (hrecalled : Recalled j t earlier' (j.lineage a)) : Ahead j t earlier' rest where
  listed c hc := h.listed c (.tail _ hc)
  nodup := (List.nodup_cons.1 h.nodup).2
  order := h.order.tail
  fresh := hrest
  root := hroot
  recalled c hc := hrecalled.of_suffix ((List.isChain_cons.1 h.order).1 c hc)

/-- An account without a line is passed over. -/
theorem Ahead.pass (h : Ahead j s earlier (a :: rest)) (ht : ∀ c, displays t c = displays s c) :
    Ahead j t earlier rest := by
  refine h.next (fun c hc => ?_) (fun d hd hisRoot => ?_) ?_
  · rw [ht, h.fresh c (.tail _ hc)]
  · rw [ht, h.root d hd hisRoot]
  · exact ((h.recalled a rfl).cons_of_not (h.fresh a (.head _))).congr fun c _ => ht c

/-- The line of an account is added to the earlier ones. -/
theorem Ahead.write (hj : j.IsTree) (h : Ahead j s earlier (a :: rest)) (hroot : a.isRoot = false) :
    Ahead j (s.markAccount a.id .done)
      (((j.lineage a).tail.countP (displays s), j.fullname a) :: earlier) rest := by
  have hothers {c : Account} (hne : c.id ≠ a.id) :
      displays (s.markAccount a.id .done) c = displays s c := by
    rw [displays, ReportState.accountHas_markAccount_done, decide_eq_false hne, Bool.false_or,
      displays]
  obtain ⟨i, hi⟩ := List.mem_iff_getElem?.1 (h.listed a (.head _))
  refine h.next (fun c hc => ?_) (fun d hd hisRoot => ?_) ?_
  · rw [hothers fun hid => ?_, h.fresh c (.tail _ hc)]
    exact (List.nodup_cons.1 h.nodup).1 (List.mem_map.2 ⟨c, hc, hid⟩)
  · rw [hothers fun hid => ?_, h.root d hd hisRoot]
    rw [Journal.eq_of_id_eq hj hd (h.listed a (.head _)) hid, hroot] at hisRoot
    cases hisRoot
  · have habove : ∀ c ∈ (j.lineage a).tail, displays (s.markAccount a.id .done) c = displays s c :=
      fun c hc => hothers (Journal.id_ne_of_mem_tail_lineage hj hi hc)
    have hcons := ((h.recalled a rfl).congr habove).cons a
    rwa [List.countP_congr fun c hc => by rw [habove c hc]] at hcons

/-- While accounts are fed, the lines before tell the full name of each account that has a line. -/
theorem rebuildFrom_linesFrom (hj : b.journal.IsTree) (hn : b.journal.IsNamed)
    (h : Ahead b.journal s earlier accounts) :
    rebuildFrom earlier ((b.linesFrom s accounts).map b.shownOf) =
      some ((b.linesFrom s accounts).map fun l => b.journal.fullname l.account) := by
  induction accounts generalizing s earlier with
  | nil => rfl
  | cons a rest ih =>
    cases hchosen : b.chosen s a with
    | false =>
      rw [linesFrom_cons_of_not_chosen hchosen]
      exact ih (h.pass fun _ => rfl)
    | true =>
      cases hroot : a.isRoot with
      | true =>
        rw [linesFrom_cons_root hchosen hroot]
        exact ih (h.pass fun c => s.accountHas_markAccount_waiting a.id c.id)
      | false =>
        obtain ⟨i, hi⟩ := List.mem_iff_getElem?.1 (h.listed a (.head _))
        have hnot := h.fresh a (.head _)
        have hcount : (b.shownOf ⟨s, a⟩).1 = (b.journal.lineage a).tail.countP (displays s) :=
          List.countP_cons_of_neg (Bool.eq_false_iff.1 hnot)
        have hfull := fullNameAfter_shownOf hj hn hi hnot h.root (h.recalled a rfl)
        have hrest := ih (h.write hj hroot)
        rw [linesFrom_cons_of_chosen hchosen hroot, List.map_cons, List.map_cons, rebuildFrom,
          hfull, hcount]
        show (do
          let fulls ← rebuildFrom _ _
          return b.journal.fullname a :: fulls : Option (List String)) = _
        rw [hrest]
        rfl

theorem ahead_preorder (hj : j.IsTree) (hs : ∀ id, s.accountHas id .done = false) :
    Ahead j s [] j.preorder := by
  rw [Journal.preorder_eq hj]
  refine ⟨fun a ha => (Journal.mem_subtree_root_iff hj).1 ha,
    Journal.nodup_subtree_ids hj hj.root, Journal.isChain_subtree hj hj.root, fun a _ => hs a.id,
    fun d _ _ => hs d.id, fun a _ d rest _ hdone => ?_⟩
  rw [displays, hs] at hdone
  cases hdone

end Balances

/-! ## The names in a report -/

/-- The text of a name that is not cut short: for an account that is not displayed itself, it is the
full name where nothing but the root is displayed above, and else what is left of the full name
below the nearest displayed account.  So a whole report of balances tells all full names, if no
account was displayed before: the number of displayed accounts above a line's account and the name
below them are enough to rebuild the full name from those of the lines before. -/
theorem names_tell_fullnames :
    (∀ (r : Renderer) (sc : Scope) (a : Account), sc.journal.Built →
      (a ∈ sc.journal.accounts ∨ ∃ name, a = .detached name) → sc.account = some a →
      sc.isVirtual = false → sc.isDisplayed a = false →
      ∃ text, r.elementText sc { field := .accountName } = .ok text ∧
        ((∀ d, ¬sc.ShownAbove d a) ∧ text = sc.journal.fullname a ∨
          ∃ d, sc.NearestShown d a ∧
            sc.journal.fullname a = sc.journal.fullname d ++ ":" ++ text)) ∧
    ∀ (b : Balances) (p p' : Pass Unit), b.journal.Built →
      (∀ id, p.state.accountHas id .done = false) → b.feedJournal.exec p = (.ok (), p') →
      let lines := b.linesFrom p.state b.journal.preorder
      (∀ l ∈ lines, (b.textsOf l).2 = .ok ()) ∧
        p'.sink = p.sink.after (lines.flatMap fun l => (b.textsOf l).1) ∧
        (∀ id, p'.state.accountHas id .done ↔ id ∈ lines.map (·.account.id)) ∧
        Balances.rebuild (lines.map b.shownOf) =
          some (lines.map fun l => b.journal.fullname l.account) := by
  refine ⟨fun r sc a hj ha hacc hvirtual hnot => ?_, fun b p p' hj hs hrun => ?_⟩
  · refine ⟨_, Renderer.elementText_accountName hacc hvirtual, ?_⟩
    rcases ha with ha | ⟨name, rfl⟩
    · obtain ⟨i, hi⟩ := List.mem_iff_getElem?.1 ha
      exact Scope.partialName_spec hj.isTree hj.isNamed hi hnot
    · exact .inl ⟨Scope.not_shownAbove_detached hj.isTree, Scope.partialName_detached⟩
  · obtain ⟨htexts, hsink, hdone⟩ := Balances.exec_forM_feed_ok hrun
    refine ⟨htexts, hsink, fun id => ?_, ?_⟩
    · rw [hdone, hs, or_iff_left Bool.false_ne_true]
    · exact Balances.rebuildFrom_linesFrom hj.isTree hj.isNamed
        (Balances.ahead_preorder hj.isTree hs)

/-- The food is below the expenses if these have been displayed; and the full names of the errands
are told by their lines. -/
theorem names_tell_fullnames_errands :
    let food : Account := ReportState.errands.accounts[2]
    let sc := errandBalances.lineScope (Opening.errandSums.markAccount (.listed 1) .done) food
    let p : Pass Unit := { state := Opening.errandSums, sink := .unlimited, memory := () }
    let lines := errandBalances.linesFrom p.state errandBalances.journal.preorder
    (errandBalances.renderer.elementText sc { field := .accountName } = .ok "Food" ∧
      ∃ d, sc.NearestShown d food ∧
        sc.journal.fullname food = sc.journal.fullname d ++ ":" ++ "Food") ∧
      lines.map errandBalances.shownOf =
        [(0, "Assets:Cash"), (0, "Expenses"), (1, "Food"), (1, "Fuel")] ∧
      Balances.rebuild (lines.map errandBalances.shownOf) =
        some ["Assets:Cash", "Expenses", "Expenses:Food", "Expenses:Fuel"] := by
  intro food sc p lines
  have hname : errandBalances.renderer.elementText sc { field := .accountName } = .ok "Food" :=
    (Renderer.elementText_accountName rfl rfl).trans (congrArg Except.ok (by decide +kernel))
  obtain ⟨text, htext, hcases⟩ := names_tell_fullnames.1 errandBalances.renderer sc food
    Opening.built_errands (.inl (List.getElem_mem _)) rfl rfl (by decide +kernel)
  obtain rfl : text = "Food" := Except.ok.inj (htext.symm.trans hname)
  have hfull : sc.journal.fullname food = "Expenses:Food" := by decide +kernel
  have hnearest := hcases.resolve_left fun h => absurd (h.2.trans hfull) (by decide)
  have hnone : ∀ id, p.state.accountHas id .done = false := by
    intro id
    obtain ⟨value, total, hsummed⟩ := Opening.sumAccounts_errands.2
    dsimp only [p]
    exact (hsummed.accountsUnmarked ReportState.unmarked_empty.accounts).not_displayed id
  have hok : (errandBalances.feedJournal.exec p).1.toOption = some () := by decide +kernel
  have hshown : lines.map errandBalances.shownOf =
      [(0, "Assets:Cash"), (0, "Expenses"), (1, "Food"), (1, "Fuel")] := by decide +kernel
  have hnames : lines.map (fun l => errandBalances.journal.fullname l.account) =
      ["Assets:Cash", "Expenses", "Expenses:Food", "Expenses:Fuel"] := by decide +kernel
  obtain ⟨-, -, -, hrebuild⟩ := names_tell_fullnames.2 errandBalances p _ Opening.built_errands
    hnone (eq_ok_of_toOption hok)
  exact ⟨⟨hname, hnearest⟩, hshown, hrebuild.trans (congrArg some hnames)⟩

end Bookkeeping
