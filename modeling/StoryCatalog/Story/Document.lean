import StoryCatalog.Story.Failure
import StoryCatalog.Text.Blank
import StoryCatalog.Text.Units
import StoryCatalog.Tree.Markup

/-!
# Documents

A document is a source text with its tree. The offsets of the tree count either UTF-16 code units or
bytes of the text. A span that does not name a piece of the text is a failure, since then the tree
belongs to another text.

* `Document.text_eq_ok_iff`: the text of a span is what lies between its two offsets.
-/

namespace StoryCatalog

/-- A source text with its tree. -/
structure Document where
  file : String
  source : String
  root : Root
  encoding : Text.Encoding

namespace Document

/-- The piece of the source between the offsets of a span. -/
def slice? (d : Document) (span : Span) : Option String :=
  if span.stop < span.start then none
  else do
    let start ← Text.byteOffset? d.encoding span.start d.source.toList
    let stop ← Text.byteOffset? d.encoding span.stop d.source.toList
    let piece ← Text.slice? .utf8 start stop d.source.toList
    pure (String.ofList piece)

/-- The piece of the source that a span names. -/
def text (d : Document) (span : Span) : Except Failure String :=
  match d.slice? span with
  | some s => .ok s
  | none => .error (.spanOutOfBounds d.file span)

/-- Whether an element is written as a single tag that closes itself. -/
def isSelfClosing (d : Document) (e : Element) : Except Failure Bool :=
  (d.text e.span).map fun s => ['/', '>'].isSuffixOf (Text.trimEnd s.toList)

theorem text_eq_ok_iff {d : Document} {span : Span} {s : String} :
    d.text span = .ok s ↔ d.slice? span = some s := by
  rw [text]
  split <;> simp_all

end Document

end StoryCatalog
