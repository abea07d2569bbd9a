import StoryCatalog.Tree.Span

/-!
# Concrete syntax trees

What a parser makes of a JavaScript text is a tree of nodes. A node has the kind of the grammar rule that it is made
by, and the bytes of the text on which it stands. A token is a node of its own; it is anonymous if its kind is how it
is written. In its parent a node may have a field, by which it can be found. Comments stand wherever they are written.
A node may also say that the text before it could not be read, or that it is not there and would have to be.

* `SyntaxNode.named`: the children without tokens and without comments, but with comments in HTML.
* `SyntaxNode.childByField?`: the child in a field.
* `SyntaxNode.firstError?`: the first place that could not be read.
-/

namespace StoryCatalog.JavaScript

/-- A node of a concrete syntax tree. -/
structure SyntaxNode where
  kind : String
  span : Span
  field? : Option String
  isNamed : Bool
  isError : Bool
  isMissing : Bool
  children : List SyntaxNode

namespace SyntaxNode

mutual

/-- Equality of nodes is decided part by part. -/
def decEq : (m n : SyntaxNode) → Decidable (m = n)
  | ⟨k, s, f, a, e, i, ms⟩, ⟨k', s', f', a', e', i', ns⟩ =>
    have : Decidable (ms = ns) := decEqAll ms ns
    decidable_of_iff (k = k' ∧ s = s' ∧ f = f' ∧ a = a' ∧ e = e' ∧ i = i' ∧ ms = ns) (by rw [mk.injEq])

/-- Equality of lists of nodes is decided node by node. -/
def decEqAll : (ms ns : List SyntaxNode) → Decidable (ms = ns)
  | [], [] => isTrue rfl
  | [], _ :: _ | _ :: _, [] => isFalse nofun
  | m :: ms, n :: ns =>
    have : Decidable (m = n) := decEq m n
    have : Decidable (ms = ns) := decEqAll ms ns
    decidable_of_iff (m = n ∧ ms = ns) (by rw [List.cons.injEq])

end

instance : DecidableEq SyntaxNode :=
  decEq

/-- A token whose kind is how it is written. -/
def token (kind : String) (span : Span) : SyntaxNode :=
  ⟨kind, span, none, false, false, false, []⟩

/-- A node that a rule of the grammar makes. -/
def made (kind : String) (span : Span) (children : List SyntaxNode) : SyntaxNode :=
  ⟨kind, span, none, true, false, false, children⟩

/-- A node without children that a rule of the grammar makes. -/
def leaf (kind : String) (span : Span) : SyntaxNode :=
  made kind span []

/-- A node in a field of its parent. -/
def inField (n : SyntaxNode) (field : String) : SyntaxNode :=
  { n with field? := some field }

/-- A text that could not be read. -/
def unread (span : Span) : SyntaxNode :=
  ⟨"ERROR", span, none, true, true, false, []⟩

/-! ## Children -/

theorem sizeOf_lt_of_mem_children {n c : SyntaxNode} (h : c ∈ n.children) : sizeOf c < sizeOf n := by
  obtain ⟨kind, span, field, isNamed, isError, isMissing, children⟩ := n
  have := List.sizeOf_lt_of_mem h
  simp only [mk.sizeOf_spec]
  simp only at this
  omega

/-- The named children that are no comments. A comment in HTML counts as any other node. -/
def named (n : SyntaxNode) : List SyntaxNode :=
  n.children.filter fun c => c.isNamed && c.kind != "comment"

/-- The first child in a field. -/
def childByField? (n : SyntaxNode) (field : String) : Option SyntaxNode :=
  n.children.find? (·.field? == some field)

theorem mem_children_of_mem_named {n c : SyntaxNode} (h : c ∈ n.named) : c ∈ n.children :=
  (List.mem_filter.mp h).1

theorem mem_children_of_childByField? {n c : SyntaxNode} {field : String} (h : n.childByField? field = some c) :
    c ∈ n.children :=
  List.mem_of_find?_eq_some h

/-! ## Parts

The same children, each with the fact that it is smaller than its parent, for functions that go down a tree. -/

/-- The named children. -/
def parts (n : SyntaxNode) : List { c : SyntaxNode // sizeOf c < sizeOf n } :=
  n.named.attachWith _ fun _ h => sizeOf_lt_of_mem_children (mem_children_of_mem_named h)

/-- The first named child. -/
def first? (n : SyntaxNode) : Option { c : SyntaxNode // sizeOf c < sizeOf n } :=
  n.named.head?.attachWith _ fun _ h => sizeOf_lt_of_mem_children (mem_children_of_mem_named (List.mem_of_head? h))

/-- The child in a field. -/
def child? (n : SyntaxNode) (field : String) : Option { c : SyntaxNode // sizeOf c < sizeOf n } :=
  (n.childByField? field).attachWith _ fun _ h => sizeOf_lt_of_mem_children (mem_children_of_childByField? h)

@[simp] theorem unattach_parts (n : SyntaxNode) : n.parts.unattach = n.named := by
  simp [parts]

@[simp] theorem unattach_first? (n : SyntaxNode) : n.first?.unattach = n.named.head? := by
  simp [first?]

@[simp] theorem unattach_child? (n : SyntaxNode) (field : String) :
    (n.child? field).unattach = n.childByField? field := by
  simp [child?]

/-! ## Errors -/

mutual

/-- Whether a text could not be read, anywhere in a node. -/
def hasError : SyntaxNode → Bool
  | ⟨_, _, _, _, isError, isMissing, children⟩ => isError || isMissing || anyHasError children

/-- Whether a text could not be read, anywhere in some nodes. -/
def anyHasError : List SyntaxNode → Bool
  | [] => false
  | n :: ns => n.hasError || anyHasError ns

end

mutual

/-- The first node in a node, or the node itself, that could not be read or is not there. -/
def firstError? : SyntaxNode → Option SyntaxNode
  | ⟨kind, span, field, isNamed, isError, isMissing, children⟩ =>
    if isError || isMissing then some ⟨kind, span, field, isNamed, isError, isMissing, children⟩
    else firstErrorAmong? children

/-- The first such node in a list of nodes. -/
def firstErrorAmong? : List SyntaxNode → Option SyntaxNode
  | [] => none
  | n :: ns =>
    match if n.hasError then n.firstError? else none with
    | some e => some e
    | none => firstErrorAmong? ns

end

end SyntaxNode

/-- A parser of JavaScript texts. What it says if its grammar cannot be loaded; and the tree that it makes of a text, if
it makes one. -/
structure Parser where
  grammarError? : Option String
  parse? : String → Option SyntaxNode

end StoryCatalog.JavaScript
