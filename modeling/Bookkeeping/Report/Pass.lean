import Bookkeeping.Expr.Predicate
import Bookkeeping.Report.Renderer

/-!
# Passes over a journal

A `Report` is what all kinds of reports are made of: a journal, the time and a renderer.  While
records are fed to a report, a `Pass` holds what changes: the state of the report, the sink, and
what the report remembers of the records before.
-/

namespace Bookkeeping

/-- What all kinds of reports are made of. -/
structure Report where
  journal : Journal
  /-- The time at which the report is made. -/
  now : DateTime
  renderer : Renderer

/-- What changes while a report is made. -/
structure Pass (μ : Type) where
  state : ReportState
  sink : Sink
  /-- What the report remembers of the records before. -/
  memory : μ

/-- A step of a report. -/
abbrev PassStep (μ α : Type) := Attempt (Pass μ) ReportError α

namespace Pass

variable {μ : Type}

/-- Changes the state of the report. -/
def change (f : ReportState → ReportState) : PassStep μ Unit :=
  modify fun p => { p with state := f p.state }

/-- Remembers something in place of what was remembered. -/
def remember (m : μ) : PassStep μ Unit := modify fun p => { p with memory := m }

/-- A step that only writes to the sink. -/
def onSink (x : Attempt Sink ReportError Unit) : PassStep μ Unit :=
  x.onPart sink fun k p => { p with sink := k }

end Pass

namespace Report

variable {μ : Type}

/-- Writes a template for a transaction. -/
def writeTransaction (r : Report) (t : Template) (x : Transaction) : PassStep μ Unit := do
  let p ← get
  Pass.onSink (r.renderer.render t (.forTransaction r.journal p.state r.now x))

/-- Writes a template for an account, whose value and total may be replaced. -/
def writeAccount (r : Report) (t : Template) (a : Account) (value : Option Value) :
    PassStep μ Unit := do
  let p ← get
  Pass.onSink (r.renderer.render t
    { journal := r.journal, state := p.state, now := r.now, account := some a, value })

end Report

/-- The predicate that a text asks for, if any. -/
def Predicate.ofText (text : String) : Except ReportError (Option Predicate) :=
  if Text.isBlankText text then .ok none
  else ((Predicate.read text).mapError .expression).map some

/-- The templates of the first line of a group and of the others. -/
def Template.linesOf (text : String) : Except ReportError (Template × Template) :=
  (Template.split text).mapError .template

end Bookkeeping
