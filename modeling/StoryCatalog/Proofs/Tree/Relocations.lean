import StoryCatalog.Proofs.Tree.Contents
import StoryCatalog.Proofs.Tree.Images
import StoryCatalog.Proofs.Tree.MarkupTrees

/-!
# Trees with other offsets

Relocating a tree replaces every offset in it by its image under a function and leaves everything else as it
is. What is stored in a relocated node is what is stored in the node, relocated.

* `Node.stored_relocate`: no field changes its place or the way a walk treats it.
* `Node.outline_relocate`, `Fragment.trees_relocate`: so the outline of a relocated node is the image of the
  outline, and so are the trees of its markup.
-/

namespace StoryCatalog

/-! ## Scripts -/

/-- A span with other offsets. -/
def Span.relocate (f : Nat → Nat) (s : Span) : Span :=
  ⟨f s.start, f s.stop⟩

/-- A name with other offsets. -/
def Identifier.relocate (f : Nat → Nat) (i : Identifier) : Identifier :=
  ⟨i.span.relocate f, i.name⟩

/-- A literal with other offsets. -/
def Literal.relocate (f : Nat → Nat) (l : Literal) : Literal :=
  ⟨l.span.relocate f, l.value⟩

/-- The name of an export with other offsets. -/
def ImportedName.relocate (f : Nat → Nat) : ImportedName → ImportedName
  | identifier i => identifier (i.relocate f)
  | literal l => literal (l.relocate f)

/-- A name in the braces of an import with other offsets. -/
def ImportSpecifier.relocate (f : Nat → Nat) (s : ImportSpecifier) : ImportSpecifier :=
  ⟨s.span.relocate f, s.imported.relocate f, s.binding.relocate f⟩

/-- An import clause with other offsets. -/
def ImportClause.relocate (f : Nat → Nat) : ImportClause → ImportClause
  | named s => named (s.relocate f)
  | defaultExport span binding => defaultExport (span.relocate f) (binding.relocate f)
  | wholeModule span binding => wholeModule (span.relocate f) (binding.relocate f)

/-- An import declaration with other offsets. -/
def ImportDeclaration.relocate (f : Nat → Nat) (d : ImportDeclaration) : ImportDeclaration :=
  ⟨d.span.relocate f, d.clauses.map (·.relocate f), d.source.relocate f⟩

section

variable (f : Nat → Nat)

mutual

/-- An expression with other offsets. -/
def Expression.relocate : Expression → Expression
  | .identifier i => .identifier (i.relocate f)
  | .literal l => .literal (l.relocate f)
  | .template span quasis es => .template (span.relocate f) quasis (relocateExpressions es)
  | .array span es => .array (span.relocate f) (relocateElements es)
  | .object o => .object o.relocate
  | .call span callee es => .call (span.relocate f) callee.relocate (relocateExpressions es)
  | .member span e property isComputed =>
    .member (span.relocate f) e.relocate property.relocate isComputed
  | .function form g => .function form g.relocate
  | .spread span e => .spread (span.relocate f) e.relocate
  | .unknown => .unknown

/-- A list of expressions with other offsets. -/
def relocateExpressions : List Expression → List Expression
  | [] => []
  | e :: es => e.relocate :: relocateExpressions es

/-- The elements of an array literal with other offsets. -/
def relocateElements : List (Option Expression) → List (Option Expression)
  | [] => []
  | none :: es => none :: relocateElements es
  | some e :: es => some e.relocate :: relocateElements es

/-- An object literal with other offsets. -/
def ObjectLiteral.relocate : ObjectLiteral → ObjectLiteral
  | ⟨span, ms⟩ => ⟨span.relocate f, relocateMembers ms⟩

/-- The members of an object literal with other offsets. -/
def relocateMembers : List ObjectMember → List ObjectMember
  | [] => []
  | m :: ms => m.relocate :: relocateMembers ms

/-- A member of an object literal with other offsets. -/
def ObjectMember.relocate : ObjectMember → ObjectMember
  | .property span key value isComputed isShorthand =>
    .property (span.relocate f) key.relocate value.relocate isComputed isShorthand
  | .spread span e => .spread (span.relocate f) e.relocate

/-- A function with other offsets. -/
def Function.relocate : Function → Function
  | ⟨span, id, ps, body⟩ =>
    ⟨span.relocate f, id.map (·.relocate f), relocatePatterns ps, body.relocate⟩

/-- A pattern with other offsets. -/
def Pattern.relocate : Pattern → Pattern
  | .identifier i => .identifier (i.relocate f)
  | .object span ms => .object (span.relocate f) (relocatePatternMembers ms)
  | .array span ps => .array (span.relocate f) (relocatePatternElements ps)
  | .assignment span p e => .assignment (span.relocate f) p.relocate e.relocate
  | .rest span p => .rest (span.relocate f) p.relocate
  | .unknown => .unknown

/-- A list of patterns with other offsets. -/
def relocatePatterns : List Pattern → List Pattern
  | [] => []
  | p :: ps => p.relocate :: relocatePatterns ps

/-- The elements of an array pattern with other offsets. -/
def relocatePatternElements : List (Option Pattern) → List (Option Pattern)
  | [] => []
  | none :: ps => none :: relocatePatternElements ps
  | some p :: ps => some p.relocate :: relocatePatternElements ps

/-- The members of an object pattern with other offsets. -/
def relocatePatternMembers : List PatternMember → List PatternMember
  | [] => []
  | m :: ms => m.relocate :: relocatePatternMembers ms

/-- A member of an object pattern with other offsets. -/
def PatternMember.relocate : PatternMember → PatternMember
  | .property span key value isComputed isShorthand =>
    .property (span.relocate f) key.relocate value.relocate isComputed isShorthand
  | .rest span p => .rest (span.relocate f) p.relocate

/-- A declarator with other offsets. -/
def Declarator.relocate : Declarator → Declarator
  | ⟨span, p, init⟩ => ⟨span.relocate f, p.relocate, relocateOptional init⟩

/-- An expression that may be missing with other offsets. -/
def relocateOptional : Option Expression → Option Expression
  | none => none
  | some e => some e.relocate

/-- A list of declarators with other offsets. -/
def relocateDeclarators : List Declarator → List Declarator
  | [] => []
  | d :: ds => d.relocate :: relocateDeclarators ds

/-- A variable declaration with other offsets. -/
def VariableDeclaration.relocate : VariableDeclaration → VariableDeclaration
  | ⟨span, kind, ds⟩ => ⟨span.relocate f, kind, relocateDeclarators ds⟩

/-- A default export with other offsets. -/
def DefaultExport.relocate : DefaultExport → DefaultExport
  | ⟨span, e⟩ => ⟨span.relocate f, e.relocate⟩

/-- A statement with other offsets. -/
def Statement.relocate : Statement → Statement
  | .imports d => .imports (d.relocate f)
  | .declaration d => .declaration d.relocate
  | .namedExport span none => .namedExport (span.relocate f) none
  | .namedExport span (some s) => .namedExport (span.relocate f) (some s.relocate)
  | .defaultExport d => .defaultExport d.relocate
  | .function g => .function g.relocate
  | .expression span e => .expression (span.relocate f) e.relocate
  | .block span ss => .block (span.relocate f) (relocateStatements ss)
  | .returns span e => .returns (span.relocate f) (relocateOptional e)
  | .unknown => .unknown

/-- A list of statements with other offsets. -/
def relocateStatements : List Statement → List Statement
  | [] => []
  | s :: ss => s.relocate :: relocateStatements ss

end

end

/-- A script with other offsets. -/
def Program.relocate (f : Nat → Nat) (p : Program) : Program :=
  ⟨p.span.relocate f, p.body.map (·.relocate f)⟩

/-- A script region with other offsets. -/
def ScriptBlock.relocate (f : Nat → Nat) (s : ScriptBlock) : ScriptBlock :=
  ⟨s.span.relocate f, s.context, s.content.relocate f⟩

/-! ## Markup -/

/-- A text with other offsets. -/
def TextNode.relocate (f : Nat → Nat) (t : TextNode) : TextNode :=
  ⟨t.span.relocate f, t.data⟩

/-- A comment with other offsets. -/
def Comment.relocate (f : Nat → Nat) (c : Comment) : Comment :=
  ⟨c.span.relocate f, c.data⟩

/-- An expression in braces with other offsets. -/
def ExpressionTag.relocate (f : Nat → Nat) (t : ExpressionTag) : ExpressionTag :=
  ⟨t.span.relocate f, t.expression.relocate f⟩

/-- A piece of an attribute value with other offsets. -/
def AttributeChunk.relocate (f : Nat → Nat) : AttributeChunk → AttributeChunk
  | text t => text (t.relocate f)
  | expression t => expression (t.relocate f)

/-- An attribute value with other offsets. -/
def AttributeValue.relocate (f : Nat → Nat) : AttributeValue → AttributeValue
  | bare b => bare b
  | expression t => expression (t.relocate f)
  | sequence chunks => sequence (chunks.map (·.relocate f))

/-- A plain attribute with other offsets. -/
def Attribute.relocate (f : Nat → Nat) (a : Attribute) : Attribute :=
  ⟨a.span.relocate f, a.name, a.value.relocate f⟩

/-- What stands among the attributes of an element with other offsets. -/
def AttributeNode.relocate (f : Nat → Nat) : AttributeNode → AttributeNode
  | plain a => plain (a.relocate f)
  | spread span e => spread (span.relocate f) (e.relocate f)
  | directive => directive

section

variable (f : Nat → Nat)

mutual

/-- A fragment with other offsets. -/
def Fragment.relocate : Fragment → Fragment
  | ⟨ns⟩ => ⟨relocateMarkup ns⟩

/-- A list of markup nodes with other offsets. -/
def relocateMarkup : List MarkupNode → List MarkupNode
  | [] => []
  | n :: ns => n.relocate :: relocateMarkup ns

/-- A branch with other offsets, if there is one. -/
def relocateBranch : Option Fragment → Option Fragment
  | none => none
  | some g => some g.relocate

/-- An element with other offsets. -/
def Element.relocate : Element → Element
  | ⟨span, name, attributes, g⟩ =>
    ⟨span.relocate f, name, attributes.map (·.relocate f), g.relocate⟩

/-- A snippet with other offsets. -/
def Snippet.relocate : Snippet → Snippet
  | ⟨span, id, params, g⟩ =>
    ⟨span.relocate f, id.relocate f, params.map (·.relocate f), g.relocate⟩

/-- A markup node with other offsets. -/
def MarkupNode.relocate : MarkupNode → MarkupNode
  | .text t => .text (t.relocate f)
  | .comment c => .comment (c.relocate f)
  | .tag form t => .tag form (t.relocate f)
  | .element form e => .element form e.relocate
  | .ifBlock span e g alternate =>
    .ifBlock (span.relocate f) (e.relocate f) g.relocate (relocateBranch alternate)
  | .eachBlock span e g fallback =>
    .eachBlock (span.relocate f) (e.relocate f) g.relocate (relocateBranch fallback)
  | .awaitBlock span e pending resolved rejected =>
    .awaitBlock (span.relocate f) (e.relocate f) (relocateBranch pending) (relocateBranch resolved)
      (relocateBranch rejected)
  | .keyBlock span e g => .keyBlock (span.relocate f) (e.relocate f) g.relocate
  | .snippet s => .snippet s.relocate
  | .foreign kind span => .foreign kind (span.relocate f)

end

end

/-- The tree of a document with other offsets. -/
def Root.relocate (f : Nat → Nat) (r : Root) : Root :=
  ⟨r.span.relocate f, r.fragment.relocate f, r.instanceScript.map (·.relocate f),
    r.moduleScript.map (·.relocate f)⟩

/-- A node with other offsets. -/
def Node.relocate (f : Nat → Nat) : Node → Node
  | root r => root (r.relocate f)
  | fragment g => fragment (g.relocate f)
  | markup n => markup (n.relocate f)
  | attributeNode a => attributeNode (a.relocate f)
  | script s => script (s.relocate f)
  | program p => program (p.relocate f)
  | statement s => statement (s.relocate f)
  | clause c => clause (c.relocate f)
  | declarator d => declarator (d.relocate f)
  | expression e => expression (e.relocate f)
  | objectMember m => objectMember (m.relocate f)
  | pattern p => pattern (p.relocate f)
  | patternMember m => patternMember (m.relocate f)
  | identifier i => identifier (i.relocate f)

/-! ## Lists -/

section

variable {α β : Type} {rs : List α → List β} {r : α → β}

/-- A list is relocated item by item. -/
theorem relocated_eq_map (nil : rs [] = []) (cons : ∀ a as, rs (a :: as) = r a :: rs as) (as : List α) :
    rs as = as.map r := by
  induction as with
  | nil => rw [nil, List.map_nil]
  | cons a as ih => rw [cons, ih, List.map_cons]

end

section

variable (f : Nat → Nat)

@[simp] theorem relocateExpressions_eq (es : List Expression) :
    relocateExpressions f es = es.map (·.relocate f) :=
  relocated_eq_map rfl (fun _ _ => rfl) es

@[simp] theorem relocateElements_eq (es : List (Option Expression)) :
    relocateElements f es = es.map (·.map (·.relocate f)) :=
  relocated_eq_map rfl (fun e _ => by cases e <;> rfl) es

@[simp] theorem relocateMembers_eq (ms : List ObjectMember) :
    relocateMembers f ms = ms.map (·.relocate f) :=
  relocated_eq_map rfl (fun _ _ => rfl) ms

@[simp] theorem relocatePatterns_eq (ps : List Pattern) :
    relocatePatterns f ps = ps.map (·.relocate f) :=
  relocated_eq_map rfl (fun _ _ => rfl) ps

@[simp] theorem relocatePatternElements_eq (ps : List (Option Pattern)) :
    relocatePatternElements f ps = ps.map (·.map (·.relocate f)) :=
  relocated_eq_map rfl (fun p _ => by cases p <;> rfl) ps

@[simp] theorem relocatePatternMembers_eq (ms : List PatternMember) :
    relocatePatternMembers f ms = ms.map (·.relocate f) :=
  relocated_eq_map rfl (fun _ _ => rfl) ms

@[simp] theorem relocateDeclarators_eq (ds : List Declarator) :
    relocateDeclarators f ds = ds.map (·.relocate f) :=
  relocated_eq_map rfl (fun _ _ => rfl) ds

@[simp] theorem relocateStatements_eq (ss : List Statement) :
    relocateStatements f ss = ss.map (·.relocate f) :=
  relocated_eq_map rfl (fun _ _ => rfl) ss

@[simp] theorem relocateMarkup_eq (ns : List MarkupNode) :
    relocateMarkup f ns = ns.map (·.relocate f) :=
  relocated_eq_map rfl (fun _ _ => rfl) ns

@[simp] theorem relocateBranch_eq (b : Option Fragment) :
    relocateBranch f b = b.map (·.relocate f) := by
  cases b <;> rfl

end

/-! ## What is stored -/

/-- What is stored in a node with other offsets. -/
def Stored.relocate (f : Nat → Nat) (x : Stored) : Stored :=
  ⟨x.slot, x.node.relocate f⟩

section

variable (f : Nat → Nat)

theorem allWalked_relocate (ns : List Node) :
    allWalked (ns.map (·.relocate f)) = (allWalked ns).map (·.relocate f) := by
  rw [allWalked, allWalked, List.map_map, List.map_map]
  rfl

theorem ImportClause.stored_relocate (c : ImportClause) :
    (c.relocate f).stored = c.stored.map (·.relocate f) := by
  rcases c with ⟨_, _ | _, _⟩ | _ | _ <;> rfl

theorem Function.nodes_relocate (g : Function) :
    (g.relocate f).nodes = g.nodes.map (·.relocate f) := by
  obtain ⟨_, id, ps, body⟩ := g
  cases id <;> simp [Function.relocate, Function.nodes, Node.relocate]

theorem Expression.nodes_relocate (e : Expression) :
    (e.relocate f).nodes = e.nodes.map (·.relocate f) := by
  cases e with
  | object o =>
    obtain ⟨_, ms⟩ := o
    simp [Expression.relocate, ObjectLiteral.relocate, Expression.nodes, Node.relocate]
  | array _ es => simp [Expression.relocate, Expression.nodes, Node.relocate, List.reduceOption_map]
  | function _ g => exact g.nodes_relocate f
  | _ => simp [Expression.relocate, Expression.nodes, Node.relocate]

theorem ObjectMember.stored_relocate (m : ObjectMember) :
    (m.relocate f).stored = m.stored.map (·.relocate f) := by
  cases m <;> rfl

theorem Pattern.nodes_relocate (p : Pattern) :
    (p.relocate f).nodes = p.nodes.map (·.relocate f) := by
  cases p with
  | array _ ps => simp [Pattern.relocate, Pattern.nodes, Node.relocate, List.reduceOption_map]
  | _ => simp [Pattern.relocate, Pattern.nodes, Node.relocate]

theorem PatternMember.stored_relocate (m : PatternMember) :
    (m.relocate f).stored = m.stored.map (·.relocate f) := by
  cases m <;> rfl

theorem Statement.stored_relocate (s : Statement) :
    (s.relocate f).stored = s.stored.map (·.relocate f) := by
  cases s with
  | imports d =>
    simp [Statement.relocate, ImportDeclaration.relocate, Statement.stored, allWalked, Stored.relocate,
      Node.relocate, Expression.relocate, Function.comp_def]
  | declaration d =>
    obtain ⟨_, _, ds⟩ := d
    simp [Statement.relocate, VariableDeclaration.relocate, Statement.stored, allWalked, Stored.relocate,
      Node.relocate, Function.comp_def]
  | namedExport _ s => cases s <;> rfl
  | defaultExport d =>
    obtain ⟨_, _⟩ := d
    rfl
  | function g =>
    rw [Statement.relocate, Statement.stored, g.nodes_relocate, allWalked_relocate, Statement.stored]
  | block _ ss =>
    simp [Statement.relocate, Statement.stored, allWalked, Stored.relocate, Node.relocate,
      Function.comp_def]
  | returns _ e => cases e <;> rfl
  | _ => rfl

theorem AttributeChunk.nodes_relocate (c : AttributeChunk) :
    (c.relocate f).nodes = c.nodes.map (·.relocate f) := by
  cases c <;> rfl

theorem AttributeNode.nodes_relocate (a : AttributeNode) :
    (a.relocate f).nodes = a.nodes.map (·.relocate f) := by
  rcases a with ⟨_, _, _ | _ | chunks⟩ | _ | _
  · rfl
  · rfl
  · simp [AttributeNode.relocate, Attribute.relocate, AttributeValue.relocate, AttributeNode.nodes,
      List.flatMap_map, List.map_flatMap, AttributeChunk.nodes_relocate]
  · rfl
  · rfl

theorem MarkupNode.nodes_relocate (n : MarkupNode) :
    (n.relocate f).nodes = n.nodes.map (·.relocate f) := by
  cases n with
  | element _ e =>
    obtain ⟨_, _, as, g⟩ := e
    simp [MarkupNode.relocate, Element.relocate, MarkupNode.nodes, Node.relocate]
  | snippet s =>
    obtain ⟨_, _, ps, g⟩ := s
    simp [MarkupNode.relocate, Snippet.relocate, MarkupNode.nodes, Node.relocate]
  | ifBlock _ e g b => cases b <;> rfl
  | eachBlock _ e g b => cases b <;> rfl
  | awaitBlock _ e p r c => cases p <;> cases r <;> cases c <;> rfl
  | _ => rfl

theorem Fragment.nodes_relocate (g : Fragment) :
    (g.relocate f).nodes = g.nodes.map (·.relocate f) := by
  obtain ⟨ns⟩ := g
  exact relocateMarkup_eq f ns

/-- **What is stored in a relocated node** is what is stored in the node, relocated. -/
theorem Node.stored_relocate (n : Node) : (n.relocate f).stored = n.stored.map (·.relocate f) := by
  cases n with
  | root r =>
    obtain ⟨_, _, i, m⟩ := r
    cases i <;> cases m <;> rfl
  | fragment g =>
    simp [Node.relocate, Node.stored, g.nodes_relocate, allWalked, Stored.relocate, Function.comp_def]
  | markup n => rw [Node.relocate, Node.stored, n.nodes_relocate, allWalked_relocate, Node.stored]
  | attributeNode a => rw [Node.relocate, Node.stored, a.nodes_relocate, allWalked_relocate, Node.stored]
  | program p =>
    simp [Node.relocate, Program.relocate, Node.stored, allWalked, Stored.relocate, Function.comp_def]
  | statement s => exact s.stored_relocate f
  | clause c => exact c.stored_relocate f
  | declarator d =>
    obtain ⟨_, _, _ | _⟩ := d <;> rfl
  | expression e => rw [Node.relocate, Node.stored, e.nodes_relocate, allWalked_relocate, Node.stored]
  | objectMember m => exact m.stored_relocate f
  | pattern p => rw [Node.relocate, Node.stored, p.nodes_relocate, allWalked_relocate, Node.stored]
  | patternMember m => exact m.stored_relocate f
  | _ => rfl

theorem walkedNodes_relocate (ss : List Stored) :
    walkedNodes (ss.map (·.relocate f)) = (walkedNodes ss).map (·.relocate f) := by
  rw [walkedNodes, walkedNodes, List.filter_map, List.map_map, List.map_map]
  rfl

theorem Node.children_relocate (n : Node) :
    (n.relocate f).children = n.children.map (·.relocate f) := by
  rw [Node.children_eq, n.stored_relocate, walkedNodes_relocate, Node.children_eq]

/-- **The outline of a relocated node** is the image of its outline. -/
theorem Node.outline_relocate (n : Node) : (n.relocate f).outline = n.outline.map (·.relocate f) :=
  unfolds_outline.map_eq unfolds_outline (Node.children_relocate f) n

theorem MarkupNode.content_relocate (n : MarkupNode) :
    (n.relocate f).content = n.content.map (·.relocate f) := by
  have nodes : ∀ g : Fragment, (g.relocate f).nodes = g.nodes.map (·.relocate f) :=
    Fragment.nodes_relocate f
  have branch : ∀ b : Option Fragment, (b.map (·.relocate f)).toList.flatMap (·.nodes) =
      (b.toList.flatMap (·.nodes)).map (·.relocate f) := by
    intro b
    cases b <;> simp [nodes]
  cases n with
  | element _ e =>
    obtain ⟨_, _, _, g⟩ := e
    exact nodes g
  | snippet s =>
    obtain ⟨_, _, _, g⟩ := s
    exact nodes g
  | keyBlock _ _ g => exact nodes g
  | ifBlock _ _ g b => simp [MarkupNode.relocate, MarkupNode.content, nodes, branch]
  | eachBlock _ _ g b => simp [MarkupNode.relocate, MarkupNode.content, nodes, branch]
  | awaitBlock _ _ p r c => simp [MarkupNode.relocate, MarkupNode.content, branch]
  | _ => rfl

theorem MarkupNode.tree_relocate (n : MarkupNode) :
    (n.relocate f).tree = n.tree.map (·.relocate f) :=
  unfolds_tree.map_eq unfolds_tree (MarkupNode.content_relocate f) n

/-- **The markup of a relocated fragment** is the image of its markup. -/
theorem Fragment.trees_relocate (g : Fragment) :
    (g.relocate f).trees = Rose.mapAll (·.relocate f) g.trees := by
  rw [Fragment.trees_eq_map, g.nodes_relocate, g.trees_eq_map, Rose.mapAll_eq_map, List.map_map,
    List.map_map]
  exact List.map_congr_left fun n _ => n.tree_relocate f

end

end StoryCatalog
