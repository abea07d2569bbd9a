import StoryCatalog.Proofs.Tree.Relocations

/-!
# Trees with a component renamed

Renaming a component gives each component with one name another name, wherever it stands in the markup, and
leaves everything else as it is: the offsets, the attributes, and the elements of other families with the
same name.

* `MarkupNode.content_retag`: what stands in a node stands in it renamed.
* `Fragment.trees_retag`: so the trees of renamed markup are the image of its trees.
-/

namespace StoryCatalog

/-- The name of an element after `old` components were named `new`. -/
def retaggedName (old new : String) (form : ElementForm) (name : String) : String :=
  if form = .component ∧ name = old then new else name

section

variable (old new : String)

mutual

/-- A fragment with its `old` components named `new`. -/
def Fragment.retag : Fragment → Fragment
  | ⟨ns⟩ => ⟨retagMarkup ns⟩

/-- A list of markup nodes with their `old` components named `new`. -/
def retagMarkup : List MarkupNode → List MarkupNode
  | [] => []
  | n :: ns => n.retag :: retagMarkup ns

/-- A branch with its `old` components named `new`, if there is one. -/
def retagBranch : Option Fragment → Option Fragment
  | none => none
  | some f => some f.retag

/-- An element of a family with its `old` components named `new`. -/
def Element.retag (form : ElementForm) : Element → Element
  | ⟨span, name, attributes, f⟩ => ⟨span, retaggedName old new form name, attributes, f.retag⟩

/-- A snippet with its `old` components named `new`. -/
def Snippet.retag : Snippet → Snippet
  | ⟨span, id, params, f⟩ => ⟨span, id, params, f.retag⟩

/-- A markup node with its `old` components named `new`. -/
def MarkupNode.retag : MarkupNode → MarkupNode
  | .text t => .text t
  | .comment c => .comment c
  | .tag form t => .tag form t
  | .element form e => .element form (e.retag form)
  | .ifBlock span e f alternate => .ifBlock span e f.retag (retagBranch alternate)
  | .eachBlock span e f fallback => .eachBlock span e f.retag (retagBranch fallback)
  | .awaitBlock span e pending resolved rejected =>
    .awaitBlock span e (retagBranch pending) (retagBranch resolved) (retagBranch rejected)
  | .keyBlock span e f => .keyBlock span e f.retag
  | .snippet s => .snippet s.retag
  | .foreign kind span => .foreign kind span

end

@[simp] theorem retagMarkup_eq (ns : List MarkupNode) :
    retagMarkup old new ns = ns.map (·.retag old new) :=
  relocated_eq_map rfl (fun _ _ => rfl) ns

@[simp] theorem retagBranch_eq (b : Option Fragment) :
    retagBranch old new b = b.map (·.retag old new) := by
  cases b <;> rfl

theorem Fragment.nodes_retag (f : Fragment) :
    (f.retag old new).nodes = f.nodes.map (·.retag old new) := by
  obtain ⟨ns⟩ := f
  exact retagMarkup_eq old new ns

/-! ## What an element keeps -/

namespace Element

variable (form : ElementForm) (e : Element)

theorem span_retag : (e.retag old new form).span = e.span := by
  obtain ⟨_, _, _, _⟩ := e
  rfl

theorem attributes_retag : (e.retag old new form).attributes = e.attributes := by
  obtain ⟨_, _, _, _⟩ := e
  rfl

theorem fragment_retag : (e.retag old new form).fragment = e.fragment.retag old new := by
  obtain ⟨_, _, _, _⟩ := e
  rfl

end Element

theorem Snippet.name_retag (s : Snippet) : (s.retag old new).name = s.name := by
  obtain ⟨_, _, _, _⟩ := s
  rfl

theorem Snippet.body_retag (s : Snippet) : (s.retag old new).body = s.body.retag old new := by
  obtain ⟨_, _, _, _⟩ := s
  rfl

namespace MarkupNode

theorem span_retag (n : MarkupNode) : (n.retag old new).span = n.span := by
  cases n with
  | element form e => exact e.span_retag old new form
  | snippet s =>
    obtain ⟨_, _, _, _⟩ := s
    rfl
  | _ => rfl

theorem snippet?_retag (n : MarkupNode) :
    (n.retag old new).snippet? = n.snippet?.map (·.retag old new) := by
  cases n <;> rfl

/-- What stands directly in a node stands in it renamed. -/
theorem content_retag (n : MarkupNode) :
    (n.retag old new).content = n.content.map (·.retag old new) := by
  have nodes : ∀ f : Fragment, (f.retag old new).nodes = f.nodes.map (·.retag old new) :=
    Fragment.nodes_retag old new
  have branch : ∀ b : Option Fragment, (b.map (·.retag old new)).toList.flatMap (·.nodes) =
      (b.toList.flatMap (·.nodes)).map (·.retag old new) := by
    intro b
    cases b <;> simp [nodes]
  cases n with
  | element form e =>
    obtain ⟨_, _, _, f⟩ := e
    exact nodes f
  | snippet s =>
    obtain ⟨_, _, _, f⟩ := s
    exact nodes f
  | keyBlock _ _ f => exact nodes f
  | ifBlock _ _ f b => simp [retag, content, nodes, branch]
  | eachBlock _ _ f b => simp [retag, content, nodes, branch]
  | awaitBlock _ _ p r c => simp [retag, content, branch]
  | _ => rfl

theorem tree_retag (n : MarkupNode) : (n.retag old new).tree = n.tree.map (·.retag old new) :=
  unfolds_tree.map_eq unfolds_tree (content_retag old new) n

end MarkupNode

/-- **The markup of a fragment with a component renamed** is the image of its markup. -/
theorem Fragment.trees_retag (f : Fragment) :
    (f.retag old new).trees = Rose.mapAll (·.retag old new) f.trees := by
  rw [Fragment.trees_eq_map, f.nodes_retag, f.trees_eq_map, Rose.mapAll_eq_map, List.map_map,
    List.map_map]
  exact List.map_congr_left fun n _ => n.tree_retag old new

/-- Renaming keeps where the content of a fragment begins and ends. -/
theorem Fragment.contentSpan_retag (f : Fragment) :
    (f.retag old new).contentSpan = f.contentSpan := by
  unfold contentSpan
  rw [f.nodes_retag, List.head?_map, List.getLast?_map]
  cases f.nodes.head? <;> cases f.nodes.getLast? <;> simp [MarkupNode.span_retag]

/-- The tree of a document with its `old` components named `new`. -/
def Root.retag (r : Root) : Root :=
  { r with fragment := r.fragment.retag old new }

end

end StoryCatalog
