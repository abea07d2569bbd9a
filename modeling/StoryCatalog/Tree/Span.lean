import StoryCatalog.Json.Record

/-!
# Spans

A span is a pair of offsets into a text, kept exactly as they were given: nothing is assumed of their
order or of the text.
-/

namespace StoryCatalog

/-- Where a node begins and where it stops, in the unit of its document. -/
structure Span where
  start : Nat
  stop : Nat
deriving DecidableEq, Repr

namespace Span

/-- The offsets of a node that must give them. -/
def required? (ms : Json.Members) : Option Span := do
  pure ⟨← Json.field? "start" Json.nat? ms, ← Json.field? "end" Json.nat? ms⟩

/-- The offsets of a node that may leave them out. -/
def ofMembers? (ms : Json.Members) : Option Span := do
  pure ⟨← Json.fieldOr "start" 0 Json.nat? ms, ← Json.fieldOr "end" 0 Json.nat? ms⟩

end Span

end StoryCatalog
