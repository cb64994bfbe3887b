import Bookkeeping.Proofs.Elision.Bounds
import Bookkeeping.Proofs.Report.Fields

/-!
# Widths of elided fields

Dates, payees, notes and names of accounts are elided to the greatest width of their element before
the element is laid out, with room for the brackets of a virtual posting; so the layout has nothing
to cut off them (`Renderer.elided_within_width`).  The one field that comes out wider is a marked
note, whose mark is put in front of a note that may fill the width by itself
(`Scope.MarkOverruns`).
-/

namespace Bookkeeping

/-- The field is elided to the greatest width of its element. -/
def Field.isElided : Field → Bool
  | .date _ | .bothDates | .payee | .note | .markedNote => true
  | .accountWithState | .accountName | .accountPath => true
  | _ => false

/-- The element is a marked note, and mark and note together do not fit into its width. -/
def Scope.MarkOverruns (s : Scope) (e : Element) : Prop :=
  e.field = .markedNote ∧
    ∃ note, s.transaction.bind (·.note) = some note ∧ e.max < "  ; ".length + note.length

/-! ## Layout -/

namespace Element

variable {e : Element} {s : String}

/-- The text padded to the least width. -/
def pad (e : Element) (s : String) : String :=
  if e.left then Text.padRight e.min s else Text.padLeft e.min s

theorem length_pad_le {width : Nat} (hmin : e.min ≤ width) (h : s.length ≤ width) :
    (e.pad s).length ≤ width := by
  rw [pad]
  split
  · rw [Text.length_padRight]
    exact Nat.max_le.2 ⟨hmin, h⟩
  · rw [Text.length_padLeft]
    exact Nat.max_le.2 ⟨hmin, h⟩

theorem pad_of_le (h : e.min ≤ s.length) : e.pad s = s := by
  rw [pad]
  split
  · exact Text.padRight_of_le h
  · exact Text.padLeft_of_le h

theorem fit_eq (e : Element) (s : String) :
    e.fit s = if 0 < e.max ∧ e.max < (e.pad s).length
      then String.ofList ((e.pad s).toList.take e.max) else e.pad s := rfl

/-- Nothing is cut off a text within the greatest width, unless the least width is wider. -/
theorem fit_of_le (hmin : e.min ≤ e.max) (h : s.length ≤ e.max) : e.fit s = e.pad s := by
  rw [fit_eq, if_neg fun hcut => Nat.not_lt.2 (length_pad_le hmin h) hcut.2]

theorem fit_of_lt (hmin : e.min ≤ e.max) (hmax : 0 < e.max) (h : e.max < s.length) :
    e.fit s = String.ofList (s.toList.take e.max) := by
  rw [fit_eq, pad_of_le (by omega), if_pos ⟨hmax, h⟩]

end Element

/-! ## Fields -/

namespace Elision

theorem length_shorten_le (e : Elision) (width : Nat) (isPath : Bool) (s : String) :
    (e.shorten width isPath s).length ≤ width := by
  rw [shorten, String.length_ofList]
  exact (length_shortenChars_le e width isPath s.toList).trans (Nat.min_le_right _ _)

/-- Other texts than paths come to just the width if they are too long. -/
theorem length_shorten_text (e : Elision) (width : Nat) (s : String) :
    (e.shorten width false s).length = min s.length width := by
  rw [shorten, String.length_ofList, length_shortenChars (fun h => by cases h.2)]
  rfl

end Elision

namespace Renderer

variable {r : Renderer} {s : Scope} {e : Element}

theorem limit_of_pos (h : 0 < e.max) (isPath : Bool) (text : String) :
    r.limit e isPath text = r.settings.elision.shorten e.max isPath text :=
  if_neg (Nat.ne_of_gt h)

theorem length_limit_le (h : 0 < e.max) (isPath : Bool) (text : String) :
    (r.limit e isPath text).length ≤ e.max := by
  rw [limit_of_pos h]
  exact r.settings.elision.length_shorten_le e.max isPath text

/-- The brackets have room beside the name. -/
theorem length_bracketed_le (h : 3 ≤ e.max) (s : Scope) (name : String) :
    (r.bracketed e s name).length ≤ e.max := by
  have hinner := r.settings.elision.length_shorten_le (e.max - 2) true name
  rw [bracketed]
  split
  · split
    · simp only [if_pos (show 2 < e.max from h)]
      split <;> simp only [String.length_append, show "[".length = 1 from rfl,
        show "]".length = 1 from rfl, show "(".length = 1 from rfl,
        show ")".length = 1 from rfl] <;> omega
    · exact length_limit_le (by omega) true name
  · exact length_limit_le (by omega) true name

theorem length_accountText_le (h : 3 ≤ e.max) (s : Scope) (name : Account → String) :
    (r.accountText e s name).length ≤ e.max := by
  rw [accountText]
  split
  · exact length_bracketed_le h s _
  · show 1 ≤ e.max
    omega

theorem length_payee_le (h : 0 < e.max) (entry : Option Entry) :
    ((entry.map fun x => r.limit e false x.payee).getD "").length ≤ e.max := by
  cases entry with
  | none => exact Nat.zero_le _
  | some x => exact length_limit_le h false x.payee

theorem length_noteText_le (h : 0 < e.max) (s : Scope) : (r.noteText e s "").length ≤ e.max := by
  rw [noteText]
  split
  · rw [String.empty_append]
    exact length_limit_le h false _
  · exact Nat.zero_le _

theorem length_markedNote_le_iff (h : 0 < e.max) (hfield : e.field = .markedNote) :
    (r.noteText e s "  ; ").length ≤ e.max ↔ ¬s.MarkOverruns e := by
  rw [noteText, Scope.MarkOverruns]
  split
  · rename_i note hnote
    have hlength : (r.limit e false note).length = min note.length e.max := by
      rw [limit_of_pos h, Elision.length_shorten_text]
    have hmark : "  ; ".length = 4 := rfl
    rw [String.length_append, hlength, hmark]
    constructor
    · rintro hle ⟨-, _, hnote', hlt⟩
      obtain rfl := Option.some.inj (hnote.symm.trans hnote')
      omega
    · intro hfits
      have hle : ¬e.max < 4 + note.length := fun hlt => hfits ⟨hfield, note, hnote, hlt⟩
      omega
  · rename_i hnone
    refine iff_of_true (Nat.zero_le _) ?_
    rintro ⟨-, note, hnote, -⟩
    cases hnone.symm.trans hnote

/-- A field that is elided has a text, and one within the width unless a mark overruns it. -/
theorem exists_elided (r : Renderer) (s : Scope) (hfield : e.field.isElided) (h : 3 ≤ e.max) :
    ∃ text, r.cellOf s e = .ok { text } ∧ (text.length ≤ e.max ↔ ¬s.MarkOverruns e) := by
  have hpos : 0 < e.max := by omega
  have hother {text : String} (hne : e.field ≠ .markedNote) (hle : text.length ≤ e.max) :
      text.length ≤ e.max ↔ ¬s.MarkOverruns e :=
    iff_of_true hle fun hover => hne hover.1
  rw [cellOf]
  cases hf : e.field with
  | date | bothDates => exact ⟨_, rfl, hother (by simp [hf]) (length_limit_le hpos false _)⟩
  | payee => exact ⟨_, rfl, hother (by simp [hf]) (length_payee_le hpos s.entry)⟩
  | note => exact ⟨_, rfl, hother (by simp [hf]) (length_noteText_le hpos s)⟩
  | markedNote => exact ⟨_, rfl, length_markedNote_le_iff hpos hf⟩
  | accountWithState | accountName | accountPath =>
    exact ⟨_, rfl, hother (by simp [hf]) (length_accountText_le h s _)⟩
  | _ =>
    rw [hf] at hfield
    cases hfield

/-- A field that is elided comes within the greatest width, so that it is padded and nothing of it,
neither its dots nor a bracket, is cut off.  A marked note does so just if its mark fits beside it;
else the mark and the elided note are cut together, and the note loses its end. -/
theorem elided_within_width (r : Renderer) (s : Scope) (hfield : e.field.isElided)
    (hmax : 3 ≤ e.max) :
    ∃ text, r.cellOf s e = .ok { text } ∧
      (text.length ≤ e.max ↔ ¬s.MarkOverruns e) ∧
      (e.min ≤ e.max →
        (¬s.MarkOverruns e → r.elementText s e = .ok (e.pad text)) ∧
        (s.MarkOverruns e →
          r.elementText s e = .ok (String.ofList (text.toList.take e.max)))) := by
  obtain ⟨text, htext, hiff⟩ := exists_elided r s hfield hmax
  have hlaid : r.elementText s e = .ok (e.fit text) := by
    rw [elementText, htext]
    rfl
  refine ⟨text, htext, hiff, fun hmin => ⟨fun hfits => ?_, fun hover => ?_⟩⟩
  · rw [hlaid, Element.fit_of_le hmin (hiff.2 hfits)]
  · have hlt : e.max < text.length := Nat.lt_of_not_le fun hle => hiff.1 hle hover
    rw [hlaid, Element.fit_of_lt hmin (by omega) hlt]

/-- A scope with a virtual posting that has a long note. -/
def weeklyShop : Scope where
  journal := {}
  state := {}
  now := .midnight .earliest
  account := some (.detached "Expenses:Food")
  transaction := some
    { account := .detached, amount := .zero, isVirtual := true, mustBalance := true
      note := some "weekly shop at the market", id := 0, entry := 0 }

/-- The name of an account in ten columns. -/
def narrowName : Element := { field := .accountName, min := 10, max := 10 }

/-- A marked note in twelve columns. -/
def narrowNote : Element := { field := .markedNote, min := 12, max := 12 }

/-- The name of a virtual posting keeps its brackets in ten columns. -/
theorem elided_within_width_shop :
    narrowName.field.isElided ∧ 3 ≤ narrowName.max ∧ narrowName.min ≤ narrowName.max ∧
      ¬weeklyShop.MarkOverruns narrowName ∧
      Opening.ofErrands.renderer.elementText weeklyShop narrowName = .ok " [Ex:Food]" := by
  have hfits : ¬weeklyShop.MarkOverruns narrowName := fun hover => by cases hover.1
  obtain ⟨text, htext, -, hlaid⟩ :=
    elided_within_width Opening.ofErrands.renderer weeklyShop (e := narrowName) rfl (by decide)
  have hcell : Opening.ofErrands.renderer.cellOf weeklyShop narrowName =
      .ok { text := "[Ex:Food]" } := by rfl
  obtain rfl : text = "[Ex:Food]" := congrArg Cell.text (Except.ok.inj (htext.symm.trans hcell))
  exact ⟨rfl, by decide, by decide, hfits, (hlaid (by decide)).1 hfits⟩

/-- The mark in front of a note that has been elided to the width pushes its dots out of it. -/
theorem marked_note_loses_dots :
    narrowNote.field.isElided ∧ 3 ≤ narrowNote.max ∧ narrowNote.min ≤ narrowNote.max ∧
      Opening.ofErrands.renderer.cellOf weeklyShop narrowNote =
        .ok { text := "  ; weekly sho.." } ∧
      ¬"  ; weekly sho..".length ≤ narrowNote.max ∧
      Opening.ofErrands.renderer.elementText weeklyShop narrowNote = .ok "  ; weekly s" := by
  refine ⟨rfl, by decide, by decide, by rfl, by decide, by rfl⟩

end Renderer

end Bookkeeping
