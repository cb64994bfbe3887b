import Bookkeeping.Proofs.Report.Blocks
import Bookkeeping.Proofs.Report.Fields
import Bookkeeping.Proofs.Template.Verbatim
import Bookkeeping.Report.Print

/-!
# Printed entries

The text in front of every line of a printed entry becomes part of a template, so that it is printed
as it is only if it stands for itself there, which it does exactly if it has neither `%` nor `\`
(`Template.reads_as_itself_iff`).  Behind such a text an entry is printed line by line: its header,
and then a line for each of its transactions (`Renderer.printed`, `printed_line_by_line`).
-/

namespace Bookkeeping

open Attempt

/-! ## What templates come to -/

namespace Renderer

variable {r : Renderer} {sc : Scope}

/-- The text of elements, if the texts of all are found. -/
def said (r : Renderer) (sc : Scope) (es : List Element) : Except ReportError String :=
  (r.texts sc es).2.map fun _ => String.join (r.texts sc es).1

/-- What a template comes to where everything is taken. -/
def written (r : Renderer) (sc : Scope) (template : String) : Except ReportError String := do
  let t ← (Template.read template).mapError .template
  let (result, k) := (r.render t sc).exec .unlimited
  result
  return k.text

theorem said_nil : r.said sc [] = .ok "" := rfl

theorem said_cons (e : Element) (es : List Element) :
    r.said sc (e :: es) = (r.elementText sc e).bind fun s => (r.said sc es).map (s ++ ·) := by
  rw [said, said, texts]
  cases r.elementText sc e with
  | error _ => rfl
  | ok text =>
    show Except.map _ (r.texts sc es).2 = ((r.texts sc es).2.map _).map (text ++ ·)
    cases (r.texts sc es).2 with
    | error _ => rfl
    | ok _ => exact congrArg Except.ok String.join_cons

theorem said_append (es fs : List Element) :
    r.said sc (es ++ fs) = (r.said sc es).bind fun s => (r.said sc fs).map (s ++ ·) := by
  induction es with
  | nil =>
    rw [said_nil, List.nil_append]
    cases r.said sc fs with
    | error _ => rfl
    | ok s => simp [Except.bind, Except.map]
  | cons e es ih =>
    rw [List.cons_append, said_cons, said_cons, ih]
    cases r.elementText sc e with
    | error _ => rfl
    | ok s =>
      cases r.said sc es with
      | error _ => rfl
      | ok t =>
        cases r.said sc fs with
        | error _ => rfl
        | ok u => exact congrArg Except.ok (String.append_assoc ..).symm

theorem said_plain (s : List Char) : r.said sc [Template.plain s] = .ok (String.ofList s) := by
  have hlay : (Template.plain s).lay { text := String.ofList s } = String.ofList s := by
    rw [Element.lay, if_neg Bool.false_ne_true, if_neg Bool.false_ne_true]
    exact Text.padLeft_of_le (Nat.zero_le _)
  rw [said_cons, said_nil]
  show (Except.ok ((Template.plain s).lay { text := String.ofList s })).bind _ = _
  rw [hlay]
  exact congrArg Except.ok (String.append_empty)

theorem said_pending (seen : List Char) :
    r.said sc (Template.pending seen) = .ok (String.ofList seen.reverse) := by
  rw [Template.pending]
  cases seen with
  | nil => rfl
  | cons c seen => exact said_plain _

theorem written_of_readFrom {template : String} {es : List Element}
    (h : Template.readFrom [] template.toList = .ok es) : r.written sc template = r.said sc es := by
  have hread : Template.read template = .ok ⟨es, template⟩ := by
    rw [Template.read, h]
    rfl
  have hrun : (r.render ⟨es, template⟩ sc).exec .unlimited = _ :=
    exec_forM_writeElement r sc (Sink.takesAll_of_takes (fun _ _ => rfl) _)
  rw [written, hread]
  show (do
    ((r.render ⟨es, template⟩ sc).exec .unlimited).1
    return ((r.render ⟨es, template⟩ sc).exec .unlimited).2.text) = r.said sc es
  rw [hrun, said]
  cases (r.texts sc es).2 <;> rfl

/-! ## The lines of an entry -/

/-- The line of a transaction behind a text. -/
def postingText (r : Renderer) (lead : String) (sc : Scope) : Except ReportError String := do
  let account ← r.written sc "%-34A"
  let amount ← r.written sc "%12o"
  return lead ++ "    " ++ account ++ "  " ++ amount ++ "\n"

/-- The header of an entry with these transactions; only a dated one stands behind the text. -/
def headerText (r : Renderer) (lead : String) (e : Entry) (scopes : List Scope) :
    Except ReportError String :=
  match e.kind, scopes with
  | .plain, sc :: _ => do return lead ++ (← r.written sc "%D %X%C%P") ++ "\n"
  | .plain, [] => .ok ""
  | .auto predicate, _ => .ok ("= " ++ predicate ++ "\n")
  | .period text, _ => .ok ("~ " ++ text ++ "\n")

/-- An entry with these transactions line by line. -/
def printed (r : Renderer) (lead : String) (e : Entry) (scopes : List Scope) :
    Except ReportError String := do
  let header ← r.headerText lead e scopes
  let lines ← scopes.mapM (r.postingText lead)
  return header ++ String.join lines

end Renderer

/-! ## The templates of an entry -/

namespace Template

/-- The account in its column. -/
def accountField : Element := { field := .accountPath, left := true, min := 34 }

/-- The amount in its column. -/
def amountField : Element := { field := .amountWithPrice, min := 12 }

/-- The fields of a dated header. -/
def headerFields : List Element :=
  [{ field := .date none }, plain [' '], { field := .state }, { field := .code },
    { field := .payee }]

/-- The elements of a transaction's line behind a text, last character first. -/
def postingElements (seen : List Char) : List Element :=
  pending seen ++ [accountField, plain [' ', ' '], amountField, plain ['\n']]

def headerChars : List Char := ['%', 'D', ' ', '%', 'X', '%', 'C', '%', 'P']

def postingChars : List Char :=
  [' ', ' ', ' ', ' ', '%', '-', '3', '4', 'A', ' ', ' ', '%', '1', '2', 'o', '\n']

/-- The spaces in front of the account. -/
def margin : List Char := [' ', ' ', ' ', ' ']

theorem readFrom_account (seen s : List Char) :
    readFrom seen ('%' :: '-' :: '3' :: '4' :: 'A' :: s) =
      (readFrom [] s).map fun es => pending seen ++ accountField :: es :=
  readFrom_of_readDirective rfl

theorem readFrom_amount (seen s : List Char) :
    readFrom seen ('%' :: '1' :: '2' :: 'o' :: s) =
      (readFrom [] s).map fun es => pending seen ++ amountField :: es :=
  readFrom_of_readDirective rfl

theorem readFrom_posting (seen : List Char) :
    readFrom seen postingChars = .ok (postingElements (margin ++ seen)) := by
  have hend : readFrom [] ['\n'] = .ok [plain ['\n']] := by
    rw [readFrom_char (by decide) (by decide), readFrom]
    rfl
  have hamount : readFrom [] (' ' :: ' ' :: '%' :: '1' :: '2' :: 'o' :: ['\n']) =
      .ok [plain [' ', ' '], amountField, plain ['\n']] := by
    rw [readFrom_char (by decide) (by decide), readFrom_char (by decide) (by decide),
      readFrom_amount, hend]
    rfl
  show readFrom seen (margin ++ '%' :: '-' :: '3' :: '4' :: 'A' :: _) = _
  rw [readFrom_append (by decide) (by decide), readFrom_account, hamount]
  rfl

theorem readFrom_header (seen s : List Char) : readFrom seen (headerChars ++ s) =
    (readFrom [] s).map fun es => pending seen ++ (headerFields ++ es) := by
  have hdate : readDirective ('D' :: ' ' :: '%' :: 'X' :: '%' :: 'C' :: '%' :: 'P' :: s) =
      .ok (some ({ field := .date none }, _)) := rfl
  have hstate : readDirective ('X' :: '%' :: 'C' :: '%' :: 'P' :: s) =
      .ok (some ({ field := .state }, _)) := rfl
  have hcode : readDirective ('C' :: '%' :: 'P' :: s) = .ok (some ({ field := .code }, _)) := rfl
  have hpayee : readDirective ('P' :: s) = .ok (some ({ field := .payee }, _)) := rfl
  show readFrom seen ('%' :: 'D' :: ' ' :: '%' :: 'X' :: '%' :: 'C' :: '%' :: 'P' :: s) = _
  rw [readFrom_of_readDirective hdate, readFrom_char (by decide) (by decide),
    readFrom_of_readDirective hstate, readFrom_of_readDirective hcode,
    readFrom_of_readDirective hpayee]
  cases readFrom [] s <;> rfl

theorem splitLine_header (s : List Char) :
    splitLine (headerChars ++ s) = (splitLine s).map fun p => (headerChars ++ p.1, p.2) := by
  -- no `%` of the header has a `/` behind it
  have hsplit : splitLine (headerChars ++ s) = (((((((((splitLine s).map _).map _).map _).map
      _).map _).map _).map _).map _).map _ := rfl
  rw [hsplit]
  cases splitLine s <;> rfl

end Template

namespace Entry

variable {e : Entry} {lead : String}

/-- The elements of the first line of an entry. -/
def firstElements (e : Entry) (lead : String) : List Element :=
  match e.kind with
  | .plain => Template.pending lead.toList.reverse ++ (Template.headerFields ++
      Template.postingElements (Template.margin ++ ('\n' :: lead.toList).reverse))
  | .auto _ | .period _ => Template.postingElements (Template.margin ++ lead.toList.reverse)

theorem toList_lineTemplate (lead : String) :
    (lineTemplate lead).toList = lead.toList ++ Template.postingChars := by
  rw [lineTemplate, String.toList_append]
  rfl

theorem toList_template (hkind : e.kind = .plain) (lead : String) :
    (e.template lead).toList = lead.toList ++ (Template.headerChars ++ ('\n' :: lead.toList ++
      (Template.postingChars ++ '%' :: '/' :: (lead.toList ++ Template.postingChars)))) := by
  rw [template, hkind]
  simp only [String.toList_append, toList_lineTemplate, List.append_assoc, List.cons_append]
  rfl

theorem splitLine_lineTemplate (hpercent : '%' ∉ lead.toList) :
    Template.splitLine (lineTemplate lead).toList = none := by
  rw [toList_lineTemplate, Template.splitLine_of_not_mem hpercent]
  rfl

theorem splitLine_template (hkind : e.kind = .plain) (hpercent : '%' ∉ lead.toList) :
    Template.splitLine (e.template lead).toList =
      some (lead.toList ++ (Template.headerChars ++ ('\n' :: lead.toList ++ Template.postingChars)),
        lead.toList ++ Template.postingChars) := by
  have hbreak : '%' ∉ '\n' :: lead.toList := by simp [hpercent]
  have hposting (v : List Char) :
      Template.splitLine (Template.postingChars ++ '%' :: '/' :: v) =
        some (Template.postingChars, v) := rfl
  rw [toList_template hkind, Template.splitLine_of_not_mem hpercent, Template.splitLine_header,
    Template.splitLine_of_not_mem hbreak, hposting]
  rfl

theorem readFrom_lineTemplate (hpercent : '%' ∉ lead.toList) (hescape : '\\' ∉ lead.toList) :
    Template.readFrom [] (lead.toList ++ Template.postingChars) =
      .ok (Template.postingElements (Template.margin ++ lead.toList.reverse)) := by
  rw [Template.readFrom_append hpercent hescape, Template.readFrom_posting, List.append_nil]

/-- Behind a text without directives and escapes, the templates have the elements of the lines. -/
theorem exists_split (hpercent : '%' ∉ lead.toList) (hescape : '\\' ∉ lead.toList) :
    ∃ first next, Template.split (e.template lead) = .ok (first, next) ∧
      first.elements = e.firstElements lead ∧
      next.elements = Template.postingElements (Template.margin ++ lead.toList.reverse) := by
  have hnext := readFrom_lineTemplate hpercent hescape
  cases hkind : e.kind with
  | plain =>
    have hfirst : Template.readFrom [] (lead.toList ++ (Template.headerChars ++
        ('\n' :: lead.toList ++ Template.postingChars))) = .ok (e.firstElements lead) := by
      have hpercent' : '%' ∉ '\n' :: lead.toList := by simp [hpercent]
      have hescape' : '\\' ∉ '\n' :: lead.toList := by simp [hescape]
      rw [Template.readFrom_append hpercent hescape, Template.readFrom_header,
        Template.readFrom_append hpercent' hescape', Template.readFrom_posting, List.append_nil,
        List.append_nil, firstElements, hkind]
      rfl
    exact ⟨⟨_, _⟩, ⟨_, _⟩, (Template.split_eq_ok_iff (splitLine_template hkind hpercent)).2
      ⟨Template.read_ofList_iff.2 ⟨hfirst, rfl⟩, Template.read_ofList_iff.2 ⟨hnext, rfl⟩⟩, rfl, rfl⟩
  | auto | period =>
    have htemplate : e.template lead = lineTemplate lead := by rw [template, hkind]
    rw [htemplate, Template.split, splitLine_lineTemplate hpercent, Template.read,
      toList_lineTemplate, hnext]
    exact ⟨_, _, rfl, by rw [firstElements, hkind], rfl⟩

end Entry

/-! ## The texts of an entry -/

namespace Renderer

open Template (accountField amountField headerFields postingElements plain margin)

variable {r : Renderer} {sc : Scope} {e : Entry} {lead : String}

theorem written_account : r.written sc "%-34A" = r.said sc [accountField] :=
  written_of_readFrom ((Template.readFrom_account [] []).trans (by rw [Template.readFrom]; rfl))

theorem written_amount : r.written sc "%12o" = r.said sc [amountField] :=
  written_of_readFrom ((Template.readFrom_amount [] []).trans (by rw [Template.readFrom]; rfl))

theorem written_header : r.written sc "%D %X%C%P" = r.said sc headerFields :=
  written_of_readFrom ((Template.readFrom_header [] []).trans (by rw [Template.readFrom]; rfl))

/-- The elements of a transaction's line say what it says, behind more text if there is any. -/
theorem said_postingElements (before : List Char) :
    r.said sc (postingElements (margin ++ (before ++ lead.toList).reverse)) =
      (r.postingText lead sc).map (String.ofList before ++ ·) := by
  have helements (seen : List Char) : postingElements seen = Template.pending seen ++
      ([accountField] ++ ([plain [' ', ' ']] ++ ([amountField] ++ [plain ['\n']]))) := rfl
  rw [helements, said_append, said_append, said_append, said_append, said_pending, said_plain,
    said_plain, postingText, written_account, written_amount]
  cases r.said sc [accountField] with
  | error _ => rfl
  | ok account =>
    cases r.said sc [amountField] with
    | error _ => rfl
    | ok amount => exact congrArg Except.ok (by simp [margin, String.append_assoc])

theorem said_posting : r.said sc (postingElements (margin ++ lead.toList.reverse)) =
    r.postingText lead sc := by
  rw [← List.nil_append lead.toList, said_postingElements]
  cases r.postingText lead sc with
  | error _ => rfl
  | ok line => exact congrArg Except.ok String.empty_append

/-- The first line of an entry comes behind the header. -/
theorem said_firstElements (scopes : List Scope) :
    (r.said sc (e.firstElements lead)).map (String.join e.fixedHeader ++ ·) = do
      let header ← r.headerText lead e (sc :: scopes)
      let line ← r.postingText lead sc
      return header ++ line := by
  rw [Entry.firstElements, Entry.fixedHeader, headerText.eq_def]
  cases e.kind with
  | plain =>
    -- the break behind the header belongs to the first line
    simp only
    rw [said_append, said_append, said_pending, written_header, ← List.singleton_append,
      said_postingElements]
    cases r.said sc headerFields with
    | error _ => rfl
    | ok header =>
      cases r.postingText lead sc with
      | error _ => rfl
      | ok line => exact congrArg Except.ok (by simp [String.append_assoc])
  | auto | period =>
    simp only
    rw [said_posting]
    cases r.postingText lead sc with
    | error _ => rfl
    | ok line => exact congrArg Except.ok (by simp [String.append_assoc])

end Renderer

/-! ## An entry in one block -/

namespace Blocks

variable {b : Blocks} {j : Journal} {now : DateTime} {e : Entry} {lead : String} {i : Nat}

/-- What a line comes to. -/
def lineText (b : Blocks) (l : Line) : Except ReportError String :=
  b.renderer.said (.forTransaction b.journal l.state b.now l.transaction) l.template.elements

/-- Lines come to what their texts come to. -/
theorem mapM_lineText (ls : List Line) : (ls.mapM b.lineText).map String.join =
    (b.outline ls).2.map fun _ => String.join (ls.flatMap fun l => (b.textsOf l).1) := by
  induction ls with
  | nil => rfl
  | cons l ls ih =>
    have hline : b.lineText l = (b.textsOf l).2.map fun _ => String.join (b.textsOf l).1 := rfl
    rw [List.mapM_cons, hline]
    cases hl : (b.textsOf l).2 with
    | error _ =>
      rw [outline_cons_of_error hl]
      rfl
    | ok _ =>
      rw [outline_cons_of_ok hl, List.flatMap_cons, String.join_append]
      have hmap (x : Except ReportError (List String)) (t : String) :
          (x.map (t :: ·)).map String.join = (x.map String.join).map (t ++ ·) := by
        cases x with
        | error _ => rfl
        | ok ts => exact congrArg Except.ok String.join_cons
      show ((ls.mapM b.lineText).map (_ :: ·)).map String.join = _
      rw [hmap, ih]
      cases (b.outline ls).2 <;> rfl

/-- The lines of an entry, behind what is written before them, are those of the printed entry. -/
theorem mapM_lineText_linesOf (hfirst : b.first.elements = e.firstElements lead)
    (hnext : b.next.elements =
      Template.postingElements (Template.margin ++ lead.toList.reverse))
    (s : ReportState) (xs : List Transaction) :
    (((b.linesOf s xs).mapM b.lineText).map String.join).map (String.join e.fixedHeader ++ ·) =
      b.renderer.printed lead e (xs.map (.forTransaction b.journal s b.now)) := by
  cases xs with
  | nil =>
    rw [linesOf, List.mapM_nil, Renderer.printed, Renderer.headerText.eq_def, Entry.fixedHeader]
    cases e.kind <;> exact congrArg Except.ok (by simp [String.append_assoc])
  | cons x xs =>
    let scope := Scope.forTransaction b.journal s b.now
    have hheader : b.lineText ⟨s, b.first, x⟩ =
        b.renderer.said (scope x) (e.firstElements lead) := by rw [lineText, hfirst]
    have hline : b.lineText ∘ (fun y => ⟨s, b.next, y⟩) = b.renderer.postingText lead ∘ scope := by
      funext y
      rw [Function.comp_apply, lineText, hnext, Renderer.said_posting, Function.comp_apply]
    have hsaid : (b.renderer.said (scope x) (e.firstElements lead)).map
        (String.join e.fixedHeader ++ ·) = _ := Renderer.said_firstElements (xs.map scope)
    rw [linesOf, List.mapM_cons, List.mapM_map, hline, hheader, Renderer.printed, List.map_cons,
      List.mapM_cons, List.mapM_map]
    -- the lines behind the first are the same on both sides
    generalize xs.mapM (b.renderer.postingText lead ∘ scope) = rest
    let before (line : String) : Except ReportError String :=
      rest.map fun lines => line ++ String.join lines
    calc
      _ = ((b.renderer.said (scope x) (e.firstElements lead)).map
            (String.join e.fixedHeader ++ ·)).bind before := by
        cases b.renderer.said (scope x) (e.firstElements lead) with
        | error _ => rfl
        | ok line =>
          cases rest with
          | error _ => rfl
          | ok lines => exact congrArg Except.ok (by simp [String.append_assoc])
      _ = _ := by
        rw [hsaid]
        cases b.renderer.headerText lead e (scope x :: xs.map scope) with
        | error _ => rfl
        | ok header =>
          cases b.renderer.postingText lead (scope x) with
          | error _ => rfl
          | ok line =>
            cases rest with
            | error _ => rfl
            | ok lines => exact congrArg Except.ok (by simp [String.append_assoc])

theorem make_of_split {template : String} {first next : Template} (settings : Settings)
    (h : Template.split template = .ok (first, next)) :
    make j now template settings = (Renderer.ofSettings settings).map fun renderer =>
      { journal := j, now, renderer, first, next } := by
  rw [make, Template.linesOf, h]
  cases Renderer.ofSettings settings <;> rfl

/-- The transactions of an entry are one block. -/
theorem block_entryTransactions (hj : b.journal.IsFiled) (he : b.journal.entries[i]? = some e) :
    b.block (b.journal.entryTransactions e) = b.journal.entryTransactions e := by
  cases hxs : b.journal.entryTransactions e with
  | nil => rfl
  | cons x xs =>
    have hx : x ∈ b.journal.entryTransactions e := by simp [hxs]
    obtain ⟨-, rfl⟩ := (hj.mem_entryTransactions_iff he).1 hx
    have hentry : b.journal.entryOf? x = some e := he
    rw [block, List.head?_cons, Option.bind_some, hentry]
    simp only [hxs]
    exact List.filter_eq_self.2 fun y hy => decide_eq_true (List.mem_map_of_mem hy)

theorem lines_entryTransactions (hj : b.journal.IsFiled) (he : b.journal.entries[i]? = some e)
    (s : ReportState) : b.lines s (b.journal.entryTransactions e) =
      b.linesOf (s.collect (b.journal.entryTransactions e)) (b.journal.entryTransactions e) := by
  rw [lines_of_entry s fun x hx => ((hj.mem_entryTransactions_iff he).1 hx).2, linesOfRun,
    block_entryTransactions hj he]

/-- Writes an entry as if there were no other. -/
def writeAlone (b : Blocks) (e : Entry) : Attempt Sink ReportError Unit :=
  (do b.feedEntry e; b.finish : PassStep Memory Unit).onPart
    (fun k => { state := {}, sink := k, memory := none }) fun p _ => p.sink

/-- An entry is written alone line by line. -/
theorem exec_writeAlone (hj : b.journal.IsFiled) (he : b.journal.entries[i]? = some e) (k : Sink) :
    let xs := b.journal.entryTransactions e
    let body := ((b.linesOf (({} : ReportState).collect xs) xs).mapM b.lineText).map String.join
    let ended := (b.writeAlone e).exec k
    (ended.1 = .ok () → ∃ text, body = .ok text ∧ ended.2.text = k.text ++ text) ∧
    ((∀ before piece, k.takes before piece) → (∃ text, body = .ok text) → ended.1 = .ok ()) := by
  intro xs body ended
  have hwrites : b.Writes (do b.feedAll xs; b.finish) {} none (b.lines {} ([] ++ xs))
      fun s' _ => Collecting {} s' [] :=
    writes_all hj (Collecting.nothing fun _ => rfl) (List.forall_mem_nil _)
      fun x hx => ((hj.mem_entryTransactions_iff he).1 hx).1
  rw [List.nil_append, lines_entryTransactions hj he] at hwrites
  obtain ⟨hok, hend⟩ := hwrites.exec k
  have hbody : body = _ := mapM_lineText _
  rw [← outline_eq_ok_iff] at hok
  constructor
  · intro h
    rw [hbody, (hok.1 h).1]
    refine ⟨_, rfl, ?_⟩
    rw [← Sink.text_after]
    exact congrArg Sink.text (hend h).1
  · rintro hk ⟨text, htext⟩
    refine hok.2 ⟨?_, Sink.takesAll_of_takes hk _⟩
    obtain ⟨_, hall, -⟩ := exists_of_map_eq_ok (hbody.symm.trans htext)
    exact hall

end Blocks

/-- Behind its fixed header an entry is written by the report that its template makes. -/
theorem exec_printEntry_of_make {j : Journal} {now : DateTime} {e : Entry} {lead : String}
    {settings : Settings} {b : Blocks} {k : Sink}
    (hmake : Blocks.make j now (e.template lead) settings = .ok b) (hk : k.TakesAll e.fixedHeader) :
    (printEntry j now e lead settings).exec k = (b.writeAlone e).exec (k.after e.fixedHeader) := by
  rw [printEntry, exec_bind, Sink.exec_forM_write hk]
  simp only
  rw [exec_bind, exec_ofExcept, hmake]
  rfl

/-- A text stands for itself in a template exactly if it has neither `%` nor `\`.  Behind such a
text an entry is printed line by line.  If printing succeeds, all lines have their texts and are
written; if they have, printing succeeds where everything is taken. -/
theorem printed_line_by_line {j : Journal} (hj : j.Built) {i : Nat} {e : Entry}
    (he : j.entries[i]? = some e) (now : DateTime) (lead : String) (settings : Settings)
    (k : Sink) :
    let xs := j.entryTransactions e
    let scopes := xs.map (.forTransaction j (({} : ReportState).collect xs) now)
    let ended := (printEntry j now e lead settings).exec k
    ((Template.read lead).map (·.elements) = .ok (Template.pending lead.toList.reverse) ↔
      '%' ∉ lead.toList ∧ '\\' ∉ lead.toList) ∧
    ('%' ∉ lead.toList → '\\' ∉ lead.toList →
      (ended.1 = .ok () → ∃ r text, Renderer.ofSettings settings = .ok r ∧
        r.printed lead e scopes = .ok text ∧ ended.2.text = k.text ++ text) ∧
      ((∀ before piece, k.takes before piece) →
        (∃ r text, Renderer.ofSettings settings = .ok r ∧ r.printed lead e scopes = .ok text) →
        ended.1 = .ok ())) := by
  intro xs scopes ended
  refine ⟨Template.reads_as_itself_iff lead, fun hpercent hescape => ?_⟩
  obtain ⟨first, next, hsplit, hfirst, hnext⟩ := Entry.exists_split (e := e) hpercent hescape
  have hmake : Blocks.make j now (e.template lead) settings = _ :=
    Blocks.make_of_split settings hsplit
  let blocks (r : Renderer) : Blocks := { journal := j, now, renderer := r, first, next }
  have hprinted (r : Renderer) := Blocks.mapM_lineText_linesOf (b := blocks r) hfirst hnext
    (({} : ReportState).collect xs) xs
  constructor
  · intro h
    have hended : (printEntry j now e lead settings).exec k = (.ok (), ended.2) := Prod.ext h rfl
    rw [printEntry] at hended
    obtain ⟨_, k₁, hheader, hrest⟩ := exec_bind_ok hended
    have hk₁ := Sink.exec_forM_write (Sink.takesAll_of_exec_forM_write hheader)
    cases hheader.symm.trans hk₁
    obtain ⟨b, k₂, hblocks, hpart⟩ := exec_bind_ok hrest
    rw [exec_ofExcept, hmake] at hblocks
    obtain ⟨hb, rfl⟩ := Prod.mk.inj hblocks
    obtain ⟨r, hr, rfl⟩ := exists_of_map_eq_ok hb
    obtain ⟨hok, hsink⟩ := Prod.mk.inj hpart
    obtain ⟨text, htext, hwritten⟩ := (Blocks.exec_writeAlone hj.isFiled he _).1 hok
    refine ⟨r, String.join e.fixedHeader ++ text, hr, ?_, ?_⟩
    · rw [← hprinted r, htext]
      rfl
    · rw [← hsink, ← String.append_assoc, ← Sink.text_after]
      exact hwritten
  · rintro hk ⟨r, text, hr, htext⟩
    obtain ⟨body, hbody, -⟩ := exists_of_map_eq_ok ((hprinted r).trans htext)
    rw [hr] at hmake
    show ((printEntry j now e lead settings).exec k).1 = _
    rw [exec_printEntry_of_make hmake (Sink.takesAll_of_takes hk _)]
    exact (Blocks.exec_writeAlone hj.isFiled he _).2 hk ⟨body, hbody⟩

theorem five_lt_limit : 5 < Decimal.limit := by decide

/-- A trip to the market, paid in cash. -/
def marketTrip : Journal :=
  ((((({} : Journal).openAccount "Expenses:Food").2.openAccount "Assets:Cash").2.addEntry
    { date := ⟨2024, 1, 5, Date.earliest.month_pos, Date.earliest.month_le, by decide, by decide⟩
      payee := "Market" }).addTransaction 0
    { account := .listed 2, amount := ReportState.dollars false 5 five_lt_limit }).addTransaction 0
    { account := .listed 4, amount := ReportState.dollars true 5 five_lt_limit }

/-- The entry of the trip. -/
def marketEntry : Entry where
  date := ⟨2024, 1, 5, Date.earliest.month_pos, Date.earliest.month_le, by decide, by decide⟩
  payee := "Market"
  transactions := [0, 1]

theorem built_marketTrip : marketTrip.Built :=
  ((((Journal.Built.empty.openAccount _).openAccount _).addEntry _).addTransaction _
    (by decide +kernel)).addTransaction _ (by decide +kernel)

/-- The scopes of the trip. -/
def marketScopes : List Scope :=
  (marketTrip.entryTransactions marketEntry).map (.forTransaction marketTrip
    (({} : ReportState).collect (marketTrip.entryTransactions marketEntry)) (.midnight .earliest))

/-- The trip line by line behind a text; the cash only offsets the food. -/
def marketText (lead : String) : String :=
  lead ++ "2024/01/05 Market\n" ++
    (lead ++ "    Expenses:Food                              $5.00\n" ++
      (lead ++ "    Assets:Cash                                     \n"))

theorem printed_market (lead : String) :
    Opening.ofErrands.renderer.printed lead marketEntry marketScopes = .ok (marketText lead) := by
  have hheader : marketScopes.map (Opening.ofErrands.renderer.said · Template.headerFields) =
      [.ok "2024/01/05 Market", .ok "2024/01/05 Market"] := by decide +kernel
  have haccount : marketScopes.map (Opening.ofErrands.renderer.said · [Template.accountField]) =
      [.ok "Expenses:Food                     ", .ok "Assets:Cash                       "] := by
    decide +kernel
  have hamount : marketScopes.map (Opening.ofErrands.renderer.said · [Template.amountField]) =
      [.ok "       $5.00", .ok "            "] := by decide +kernel
  obtain ⟨food, cash, hscopes⟩ : ∃ food cash, marketScopes = [food, cash] := ⟨_, _, rfl⟩
  simp only [hscopes, List.map_cons, List.map_nil, List.cons.injEq] at hheader haccount hamount ⊢
  simp only [Renderer.printed, Renderer.headerText, marketEntry, List.mapM_cons, List.mapM_nil,
    Renderer.postingText, Renderer.written_header, Renderer.written_account,
    Renderer.written_amount, hheader, haccount, hamount]
  refine congrArg Except.ok ?_
  simp [marketText, String.append_assoc]

/-- Behind a mark the trip is printed line by line. -/
theorem printed_line_by_line_market :
    marketTrip.Built ∧ marketTrip.entries[0]? = some marketEntry ∧
      '%' ∉ "# ".toList ∧ '\\' ∉ "# ".toList ∧
      (∀ before piece, Sink.unlimited.takes before piece) ∧
      ∃ r, Renderer.ofSettings {} = .ok r ∧
        r.printed "# " marketEntry marketScopes = .ok (marketText "# ") ∧
        let ended :=
          (printEntry marketTrip (.midnight .earliest) marketEntry "# " {}).exec .unlimited
        ended.1 = .ok () ∧ ended.2.text = marketText "# " := by
  have hpercent : '%' ∉ "# ".toList := by decide
  have hescape : '\\' ∉ "# ".toList := by decide
  have hentry : marketTrip.entries[0]? = some marketEntry := rfl
  obtain ⟨-, hprints⟩ := printed_line_by_line built_marketTrip hentry (.midnight .earliest) "# " {}
    .unlimited
  obtain ⟨hwritten, hsuccess⟩ := hprints hpercent hescape
  have hok := hsuccess (fun _ _ => rfl) ⟨_, _, Opening.ofSettings_default, printed_market "# "⟩
  obtain ⟨r, text, hr, htext, hended⟩ := hwritten hok
  obtain rfl := Except.ok.inj (Opening.ofSettings_default.symm.trans hr)
  obtain rfl := Except.ok.inj ((printed_market "# ").symm.trans htext)
  exact ⟨built_marketTrip, hentry, hpercent, hescape, fun _ _ => rfl, _, hr, htext, hok, hended⟩

/-- The trip in blocks, where `%%` was put in front of every line. -/
def percentBlocks : Blocks where
  journal := marketTrip
  now := .midnight .earliest
  renderer := Opening.ofErrands.renderer
  first := ⟨{ field := .literal "%" } :: Template.plain [' '] :: Template.headerFields ++
    Template.plain ['\n'] :: { field := .literal "%" } ::
      Template.postingElements (' ' :: Template.margin), "%% %D %X%C%P\n%%     %-34A  %12o\n"⟩
  next := ⟨{ field := .literal "%" } :: Template.postingElements (' ' :: Template.margin),
    "%%     %-34A  %12o\n"⟩

theorem make_percentBlocks : Blocks.make marketTrip (.midnight .earliest)
    (marketEntry.template "%% ") {} = .ok percentBlocks := by
  have hsplit : Template.split (marketEntry.template "%% ") =
      .ok (percentBlocks.first, percentBlocks.next) := by decide +kernel
  rw [Blocks.make_of_split {} hsplit, Opening.ofSettings_default]
  rfl

/-- Of `%%` in front of every line just one `%` is printed. -/
theorem percent_is_halved :
    Renderer.ofSettings {} = .ok Opening.ofErrands.renderer ∧
      Opening.ofErrands.renderer.printed "%% " marketEntry marketScopes = .ok (marketText "%% ") ∧
      marketText "%% " ≠ marketText "% " ∧
      let ended :=
        (printEntry marketTrip (.midnight .earliest) marketEntry "%% " {}).exec .unlimited
      ended.1 = .ok () ∧ ended.2.text = marketText "% " := by
  refine ⟨Opening.ofSettings_default, printed_market "%% ", by decide, ?_⟩
  intro ended
  let written := (percentBlocks.writeAlone marketEntry).exec
    (Sink.unlimited.after marketEntry.fixedHeader)
  have hok : written.1.isOk := by decide +kernel
  have htext : written.2.text = marketText "% " := by decide +kernel
  have hended : ended = written := exec_printEntry_of_make make_percentBlocks
    (Sink.takesAll_of_takes (fun _ _ => rfl) marketEntry.fixedHeader)
  rw [hended]
  refine ⟨?_, htext⟩
  generalize written.1 = result at hok ⊢
  cases result with
  | error _ => cases hok
  | ok _ => rfl

end Bookkeeping
