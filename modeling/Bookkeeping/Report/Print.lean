import Bookkeeping.Report.Blocks

/-!
# Entries as they stand in a journal

`printEntry` writes an entry in the form in which journals are kept: a header and an indented line
for each transaction, every line behind a given text.  The headers of entries that apply by a
predicate or a period are written without that text.
-/

namespace Bookkeeping

namespace Entry

/-- The template of a transaction's line behind a text. -/
def lineTemplate (lead : String) : String := lead ++ "    %-34A  %12o\n"

/-- The template of an entry behind a text. -/
def template (e : Entry) (lead : String) : String :=
  match e.kind with
  | .plain => lead ++ "%D %X%C%P\n" ++ lineTemplate lead ++ "%/" ++ lineTemplate lead
  | .auto _ | .period _ => lineTemplate lead

/-- The pieces of the header that no template writes. -/
def fixedHeader (e : Entry) : List String :=
  match e.kind with
  | .plain => []
  | .auto predicate => ["= ", predicate, "\n"]
  | .period text => ["~ ", text, "\n"]

end Entry

/-- Writes an entry of a journal as it stands there, every line behind `lead`. -/
def printEntry (journal : Journal) (now : DateTime) (e : Entry) (lead : String)
    (settings : Settings) : Attempt Sink ReportError Unit := do
  e.fixedHeader.forM Sink.write
  let blocks ← Attempt.ofExcept (Blocks.make journal now (e.template lead) settings)
  (do blocks.feedEntry e; blocks.finish : PassStep Blocks.Memory Unit).onPart
    (fun k => { state := {}, sink := k, memory := none }) fun p _ => p.sink

end Bookkeeping
