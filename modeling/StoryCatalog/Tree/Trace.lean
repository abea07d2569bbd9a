import StoryCatalog.Tree.Outline

/-!
# Traces

A trace records a walk: the nodes of the handled kinds in the order in which they are met, each with
the number of handled nodes above it. The walk leaves out what is below a node of a pruned kind and
stops at the first node of a failing kind, which is still recorded. A kind that is not handled is
passed through, whatever else is said of it.

* `Trace.visit_unhandled`: an unhandled node leaves no trace and adds no depth.
-/

namespace StoryCatalog

/-- What a walk does with the nodes of each kind. -/
structure TraceRules where
  isHandled : NodeKind → Bool
  prunes : NodeKind → Bool
  fails : NodeKind → Bool

/-- A recorded node. -/
structure Footprint where
  depth : Nat
  node : Node

namespace Footprint

/-- The kind of the recorded node. -/
def kind (f : Footprint) : NodeKind :=
  f.node.kind

/-- The span of the recorded node. -/
def span (f : Footprint) : Option Span :=
  f.node.span?

end Footprint

namespace Trace

/-- What a node adds to a trace, which holds the latest footprint first. -/
def visit (rules : TraceRules) (depth : Nat) (n : Node) (trace : List Footprint) :
    List Footprint × Step Nat NodeKind :=
  if rules.isHandled n.kind then
    let trace := ⟨depth, n⟩ :: trace
    if rules.fails n.kind then (trace, .stop n.kind)
    else if rules.prunes n.kind then (trace, .skip)
    else (trace, .descend (depth + 1))
  else (trace, .descend depth)

/-- The trace of a walk through a tree, and the kind of the node it stopped at. -/
def ofOutline (rules : TraceRules) (t : Rose Node) : List Footprint × Option NodeKind :=
  let (trace, stopped) := t.walk (visit rules) 0 []
  (trace.reverse, stopped)

theorem visit_unhandled {rules : TraceRules} {n : Node} (h : rules.isHandled n.kind = false)
    (depth : Nat) (trace : List Footprint) :
    visit rules depth n trace = (trace, .descend depth) := by
  simp [visit, h]

end Trace

end StoryCatalog
