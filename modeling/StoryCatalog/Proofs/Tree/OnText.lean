import StoryCatalog.Proofs.Text.Boundaries
import StoryCatalog.Proofs.Tree.Losses

/-!
# Nodes whose offsets name pieces of a text

A node stands on a text if its span goes from one place between characters to another, what is stored in it
lies inside its span, one thing after the other, and a name is the text of its span. What is written once but
stored twice stands in one place: a member in shorthand is both key and value, and an imported name is bound
under itself if nothing else is said.

* `Span.IsOn`, `Span.IsOn.exists_slice`: spans of a text, and what is written there.
* `Node.IsOn`: what this says of one node.
* `Node.admits_of_le`: what may always stand after something else.
-/

namespace StoryCatalog

open Text

/-- A span goes from one place between the characters of a text to another that is not before it. -/
structure Span.IsOn (cs : List Char) (s : Span) : Prop where
  le : s.start ≤ s.stop
  start : IsBoundary .utf8 cs s.start
  stop : IsBoundary .utf8 cs s.stop

instance (cs : List Char) (s : Span) : Decidable (s.IsOn cs) :=
  decidable_of_iff (s.start ≤ s.stop ∧ IsBoundary .utf8 cs s.start ∧ IsBoundary .utf8 cs s.stop)
    ⟨fun h => ⟨h.1, h.2.1, h.2.2⟩, fun h => ⟨h.le, h.start, h.stop⟩⟩

/-- The slice of a text at a span. -/
def Span.slice? (cs : List Char) (s : Span) : Option (List Char) :=
  Text.slice? .utf8 s.start s.stop cs

namespace Span.IsOn

variable {cs : List Char} {s : Span}

/-- A span of a text stops before its end. -/
theorem stop_le (h : s.IsOn cs) : s.stop ≤ measure .utf8 cs := by
  obtain ⟨before, after, rfl, hm⟩ := h.stop
  rw [measure_append]
  omega

/-- There is a slice at a span of a text. -/
theorem exists_slice (h : s.IsOn cs) : ∃ piece, s.slice? cs = some piece := by
  obtain ⟨before, after, hcs, hstart⟩ := h.start
  obtain ⟨before', after', hcs', hstop⟩ := h.stop
  have hle := h.le
  obtain ⟨piece, hbefore, hafter⟩ := exists_between (u := .utf8) (hcs.symm.trans hcs') (by omega)
  refine ⟨piece, slice?_eq_some_iff.mpr ⟨before, after', ?_, hstart, hbefore ▸ hstop⟩⟩
  rw [hcs, hafter, List.append_assoc]

end Span.IsOn

namespace Node

/-- The name that a node is. -/
def identifier? : Node → Option Identifier
  | identifier i | expression (.identifier i) | pattern (.identifier i) => some i
  | _ => none

/-- Where something stored in a node may stand after something else: not before the other one stops. The value
of a member in shorthand stands where its key does; if it has a default, it is the whole member, and its target, where
it has a place, stands where the key does. A name in the braces of an import may be bound under itself. -/
def Admits (n : Node) (s t : Span) : Prop :=
  match n with
  | objectMember (.property _ _ _ _ true) => t = s
  | patternMember (.property span _ (.assignment _ target _) _ true) =>
    t = span ∧ ∀ u, target.span? = some u → u = s
  | patternMember (.property _ _ _ _ true) => t = s
  | clause (.named _) => s.stop ≤ t.start ∨ t = s
  | _ => s.stop ≤ t.start

/-- A node stands on a text. -/
structure IsOn (cs : List Char) (n : Node) : Prop where
  /-- Its span is one of the text. -/
  span : ∀ s, n.span? = some s → s.IsOn cs
  /-- What is stored in it lies inside its span. -/
  inside : ∀ s, n.span? = some s →
    ∀ x ∈ n.stored, ∀ t, x.node.span? = some t → s.start ≤ t.start ∧ t.stop ≤ s.stop
  /-- What is stored in it stands in order. -/
  ordered : n.stored.Pairwise fun x y =>
    ∀ s t, x.node.span? = some s → y.node.span? = some t → n.Admits s t
  /-- A name is the text of its span. -/
  text : ∀ i, n.identifier? = some i → i.span.slice? cs = some i.name.toList

/-- A member of an object is in shorthand. -/
def isShorthand : Node → Bool
  | objectMember (.property _ _ _ _ isShorthand) => isShorthand
  | patternMember (.property _ _ _ _ isShorthand) => isShorthand
  | _ => false

/-- What comes after something else may stand there, but not in a member in shorthand. -/
theorem admits_of_le {n : Node} {s t : Span} (h : n.isShorthand = false) (hle : s.stop ≤ t.start) : n.Admits s t := by
  unfold Admits
  split
  · cases h
  · cases h
  · cases h
  · exact .inl hle
  · exact hle

end Node

end StoryCatalog
