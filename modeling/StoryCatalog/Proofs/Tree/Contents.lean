import Mathlib.Data.List.ReduceOption
import StoryCatalog.Tree.Outline
import StoryCatalog.Proofs.Tree.Unfolding

/-!
# What is stored in a node

The nodes stored directly in a node are read off its fields, all of them, whether or not a walk goes to them.
A walk leaves out the module name of an import, a name in an import that is a string literal, and the value
of a member written in shorthand.

* `Node.parts_eq`: below a node in its outline stand the outlines of what is stored in it, without these.
* `unfolds_outline`: outlines unfold the children of nodes.
-/

namespace StoryCatalog

/-- In which way a node is stored in the one around it. -/
inductive Slot where
  | walked
  | moduleName
  | quotedName
  | shorthandValue
deriving DecidableEq

/-- A node with the way in which it is stored. -/
structure Stored where
  slot : Slot
  node : Node

/-- Nodes that a walk goes to. -/
def allWalked (ns : List Node) : List Stored :=
  ns.map (Stored.mk .walked)

/-- The value of a member, which may be written in shorthand. -/
def memberValue (isShorthand : Bool) (n : Node) : Stored :=
  ⟨if isShorthand then .shorthandValue else .walked, n⟩

/-! ## The fields of the families -/

/-- What is stored in an import clause. -/
def ImportClause.stored : ImportClause → List Stored
  | named ⟨_, .identifier i, binding⟩ => allWalked [.identifier i, .identifier binding]
  | named ⟨_, .literal l, binding⟩ =>
    ⟨.quotedName, .expression (.literal l)⟩ :: allWalked [.identifier binding]
  | defaultExport _ binding => allWalked [.identifier binding]
  | wholeModule _ binding => allWalked [.identifier binding]

/-- The nodes in a function. -/
def Function.nodes (f : Function) : List Node :=
  f.id.toList.map .identifier ++ f.params.map .pattern ++ [.statement f.body]

/-- The nodes in an expression; those in an array are its elements without the holes. -/
def Expression.nodes : Expression → List Node
  | template _ _ es => es.map .expression
  | array _ es => es.reduceOption.map .expression
  | object o => o.members.map .objectMember
  | call _ callee es => .expression callee :: es.map .expression
  | member _ e property _ => [.expression e, .expression property]
  | function _ f => f.nodes
  | spread _ e => [.expression e]
  | _ => []

/-- What is stored in a member of an object literal. -/
def ObjectMember.stored : ObjectMember → List Stored
  | property _ key value _ isShorthand =>
    [⟨.walked, .expression key⟩, memberValue isShorthand (.expression value)]
  | spread _ e => allWalked [.expression e]

/-- The nodes in a pattern; those in an array are its elements without the holes. -/
def Pattern.nodes : Pattern → List Node
  | object _ ms => ms.map .patternMember
  | array _ ps => ps.reduceOption.map .pattern
  | assignment _ p e => [.pattern p, .expression e]
  | rest _ p => [.pattern p]
  | _ => []

/-- What is stored in a member of an object pattern. -/
def PatternMember.stored : PatternMember → List Stored
  | property _ key value _ isShorthand =>
    [⟨.walked, .expression key⟩, memberValue isShorthand (.pattern value)]
  | rest _ p => allWalked [.pattern p]

/-- What is stored in a statement. -/
def Statement.stored : Statement → List Stored
  | imports d =>
    allWalked (d.clauses.map .clause) ++ [⟨.moduleName, .expression (.literal d.source)⟩]
  | declaration d => allWalked (d.declarators.map .declarator)
  | namedExport _ s => allWalked (s.toList.map .statement)
  | defaultExport d => allWalked [.expression d.declaration]
  | function f => allWalked f.nodes
  | expression _ e => allWalked [.expression e]
  | block _ ss => allWalked (ss.map .statement)
  | returns _ e => allWalked (e.toList.map .expression)
  | unknown => []

/-- The expression in a piece of an attribute value. -/
def AttributeChunk.nodes : AttributeChunk → List Node
  | text _ => []
  | expression t => [.expression t.expression]

/-- The nodes in an attribute. -/
def AttributeNode.nodes : AttributeNode → List Node
  | plain ⟨_, _, .bare _⟩ => []
  | plain ⟨_, _, .expression t⟩ => [.expression t.expression]
  | plain ⟨_, _, .sequence chunks⟩ => chunks.flatMap (·.nodes)
  | spread _ e => [.expression e]
  | directive => []

/-- The nodes in a markup node. -/
def MarkupNode.nodes : MarkupNode → List Node
  | tag _ t => [.expression t.expression]
  | element _ e => e.attributes.map .attributeNode ++ [.fragment e.fragment]
  | ifBlock _ e f alternate => .expression e :: .fragment f :: alternate.toList.map .fragment
  | eachBlock _ e f fallback => .expression e :: .fragment f :: fallback.toList.map .fragment
  | awaitBlock _ e pending resolved rejected =>
    .expression e :: (pending.toList ++ resolved.toList ++ rejected.toList).map .fragment
  | keyBlock _ e f => [.expression e, .fragment f]
  | snippet s => .identifier s.id :: s.params.map .pattern ++ [.fragment s.body]
  | _ => []

namespace Node

/-- What is stored directly in a node, in the order of a walk. -/
def stored : Node → List Stored
  | root r => allWalked
    (r.moduleScript.toList.map .script ++ r.instanceScript.toList.map .script ++ [.fragment r.fragment])
  | fragment f => allWalked (f.nodes.map .markup)
  | markup n => allWalked n.nodes
  | attributeNode a => allWalked a.nodes
  | script s => allWalked [.program s.content]
  | program p => allWalked (p.body.map .statement)
  | statement s => s.stored
  | clause c => c.stored
  | declarator d => allWalked (.pattern d.id :: d.init.toList.map .expression)
  | expression e => allWalked e.nodes
  | objectMember m => m.stored
  | pattern p => allWalked p.nodes
  | patternMember m => m.stored
  | identifier _ => []

/-- The nodes directly below a node, as a walk goes to them. -/
def children (n : Node) : List Node :=
  n.parts.map (·.value)

end Node

/-! ## Outlines of lists -/

section

variable {α : Type} {node : α → Node}

/-- The outlines of a list, if they are made one after the other. -/
theorem outlines_eq_map {outlines : List α → List (Rose Node)} (nil : outlines [] = [])
    (cons : ∀ a as, outlines (a :: as) = (node a).outline :: outlines as) (as : List α) :
    outlines as = (as.map node).map Node.outline := by
  induction as with
  | nil => rw [nil, List.map_nil, List.map_nil]
  | cons a as ih => rw [cons, ih, List.map_cons, List.map_cons]

/-- The outlines of a list with holes, if the holes are left out. -/
theorem outlines_eq_map_reduceOption {outlines : List (Option α) → List (Rose Node)}
    (nil : outlines [] = []) (none : ∀ as, outlines (none :: as) = outlines as)
    (some : ∀ a as, outlines (some a :: as) = (node a).outline :: outlines as)
    (as : List (Option α)) : outlines as = (as.reduceOption.map node).map Node.outline := by
  induction as with
  | nil => rw [nil, List.reduceOption_nil, List.map_nil, List.map_nil]
  | cons a as ih =>
    cases a with
    | none => rw [none, ih, List.reduceOption_cons_of_none]
    | some a => rw [some, ih, List.reduceOption_cons_of_some, List.map_cons, List.map_cons]

end

theorem expressionOutlines_eq (es : List Expression) :
    expressionOutlines es = (es.map .expression).map Node.outline :=
  outlines_eq_map rfl (fun _ _ => rfl) es

theorem elementOutlines_eq (es : List (Option Expression)) :
    elementOutlines es = (es.reduceOption.map .expression).map Node.outline :=
  outlines_eq_map_reduceOption rfl (fun _ => rfl) (fun _ _ => rfl) es

theorem memberOutlines_eq (ms : List ObjectMember) :
    memberOutlines ms = (ms.map .objectMember).map Node.outline :=
  outlines_eq_map rfl (fun _ _ => rfl) ms

theorem patternOutlines_eq (ps : List Pattern) :
    patternOutlines ps = (ps.map .pattern).map Node.outline :=
  outlines_eq_map rfl (fun _ _ => rfl) ps

theorem patternElementOutlines_eq (ps : List (Option Pattern)) :
    patternElementOutlines ps = (ps.reduceOption.map .pattern).map Node.outline :=
  outlines_eq_map_reduceOption rfl (fun _ => rfl) (fun _ _ => rfl) ps

theorem patternMemberOutlines_eq (ms : List PatternMember) :
    patternMemberOutlines ms = (ms.map .patternMember).map Node.outline :=
  outlines_eq_map rfl (fun _ _ => rfl) ms

theorem declaratorOutlines_eq (ds : List Declarator) :
    declaratorOutlines ds = (ds.map .declarator).map Node.outline :=
  outlines_eq_map rfl (fun _ _ => rfl) ds

theorem statementOutlines_eq (ss : List Statement) :
    statementOutlines ss = (ss.map .statement).map Node.outline :=
  outlines_eq_map rfl (fun _ _ => rfl) ss

theorem markupOutlines_eq (ns : List MarkupNode) :
    markupOutlines ns = (ns.map .markup).map Node.outline :=
  outlines_eq_map rfl (fun _ _ => rfl) ns

theorem branchOutlines_eq (b : Option Fragment) :
    branchOutlines b = (b.toList.map .fragment).map Node.outline := by
  cases b <;> rfl

/-! ## What a walk goes to -/

/-- The nodes that a walk goes to, of those stored. -/
def walkedNodes (ss : List Stored) : List Node :=
  (ss.filter (·.slot = .walked)).map (·.node)

@[simp] theorem walkedNodes_cons_walked (n : Node) (ss : List Stored) :
    walkedNodes (⟨.walked, n⟩ :: ss) = n :: walkedNodes ss := rfl

@[simp] theorem walkedNodes_append (ss more : List Stored) :
    walkedNodes (ss ++ more) = walkedNodes ss ++ walkedNodes more := by
  rw [walkedNodes, List.filter_append, List.map_append, walkedNodes, walkedNodes]

@[simp] theorem walkedNodes_allWalked (ns : List Node) : walkedNodes (allWalked ns) = ns := by
  induction ns with
  | nil => rfl
  | cons n ns ih => rw [allWalked, List.map_cons, walkedNodes_cons_walked, ← allWalked, ih]

theorem Function.parts_eq (f : Function) : f.parts = f.nodes.map Node.outline := by
  obtain ⟨_, _ | i, ps, body⟩ := f
  · simp [Function.parts, Function.nodes, patternOutlines_eq, Node.outline, Node.parts]
  · simp [Function.parts, Function.nodes, patternOutlines_eq, Node.outline, Node.parts, Node.leaf]

theorem Expression.parts_eq (e : Expression) : e.parts = e.nodes.map Node.outline := by
  cases e with
  | template _ _ es => exact expressionOutlines_eq es
  | array _ es => exact elementOutlines_eq es
  | object o =>
    obtain ⟨_, ms⟩ := o
    exact memberOutlines_eq ms
  | call _ callee es =>
    rw [Expression.parts, expressionOutlines_eq]
    rfl
  | function _ f => exact f.parts_eq
  | _ => rfl

theorem ObjectMember.parts_eq (m : ObjectMember) :
    m.parts = (walkedNodes m.stored).map Node.outline := by
  cases m with
  | property _ _ _ _ isShorthand => cases isShorthand <;> rfl
  | spread => rfl

theorem Pattern.parts_eq (p : Pattern) : p.parts = p.nodes.map Node.outline := by
  cases p with
  | object _ ms => exact patternMemberOutlines_eq ms
  | array _ ps => exact patternElementOutlines_eq ps
  | _ => rfl

theorem PatternMember.parts_eq (m : PatternMember) :
    m.parts = (walkedNodes m.stored).map Node.outline := by
  cases m with
  | property _ _ _ _ isShorthand => cases isShorthand <;> rfl
  | rest => rfl

theorem Declarator.parts_eq (d : Declarator) :
    d.parts = (.pattern d.id :: d.init.toList.map .expression : List Node).map Node.outline := by
  obtain ⟨_, _, _ | _⟩ := d <;> rfl

theorem ImportClause.parts_eq (c : ImportClause) :
    c.parts = (walkedNodes c.stored).map Node.outline := by
  rcases c with ⟨_, _ | _, _⟩ | _ | _ <;> rfl

theorem Statement.parts_eq (s : Statement) : s.parts = (walkedNodes s.stored).map Node.outline := by
  cases s with
  | imports d =>
    rw [Statement.parts, Statement.stored, walkedNodes_append, walkedNodes_allWalked, List.map_append,
      List.map_map]
    exact (List.append_nil _).symm
  | declaration d =>
    obtain ⟨_, _, ds⟩ := d
    rw [Statement.stored, walkedNodes_allWalked]
    exact declaratorOutlines_eq ds
  | namedExport _ s => cases s <;> rfl
  | defaultExport d =>
    obtain ⟨_, _⟩ := d
    rfl
  | function f =>
    rw [Statement.stored, walkedNodes_allWalked]
    exact f.parts_eq
  | block _ ss =>
    rw [Statement.stored, walkedNodes_allWalked]
    exact statementOutlines_eq ss
  | returns _ e => cases e <;> rfl
  | _ => rfl

theorem chunkOutlines_eq (chunks : List AttributeChunk) :
    chunks.flatMap (·.parts) = (chunks.flatMap (·.nodes)).map Node.outline := by
  rw [List.map_flatMap]
  refine List.flatMap_congr fun c _ => ?_
  cases c <;> rfl

theorem AttributeNode.parts_eq (a : AttributeNode) : a.parts = a.nodes.map Node.outline := by
  rcases a with ⟨_, _, _ | _ | chunks⟩ | _ | _
  · rfl
  · rfl
  · exact chunkOutlines_eq chunks
  · rfl
  · rfl

theorem MarkupNode.parts_eq (n : MarkupNode) : n.parts = n.nodes.map Node.outline := by
  cases n with
  | element _ e =>
    obtain ⟨_, _, as, f⟩ := e
    rw [MarkupNode.parts, MarkupNode.nodes, List.map_append, List.map_map]
    rfl
  | ifBlock _ e f b =>
    rw [MarkupNode.parts, branchOutlines_eq]
    rfl
  | eachBlock _ e f b =>
    rw [MarkupNode.parts, branchOutlines_eq]
    rfl
  | awaitBlock _ e p r c =>
    rw [MarkupNode.parts, branchOutlines_eq, branchOutlines_eq, branchOutlines_eq, ← List.map_append,
      ← List.map_append, ← List.map_append, ← List.map_append]
    rfl
  | snippet s =>
    obtain ⟨_, _, ps, f⟩ := s
    rw [MarkupNode.parts, patternOutlines_eq]
    simp [MarkupNode.nodes, Node.outline, Node.parts, Node.leaf]
  | _ => rfl

/-- **Below a node in its outline** stand the outlines of what is stored in it, without what a walk leaves
out. -/
theorem Node.parts_eq (n : Node) : n.parts = (walkedNodes n.stored).map Node.outline := by
  cases n with
  | root r =>
    rw [Node.stored, walkedNodes_allWalked, List.map_append, List.map_append, List.map_map, List.map_map]
    rfl
  | fragment f =>
    obtain ⟨ns⟩ := f
    rw [Node.stored, walkedNodes_allWalked]
    exact markupOutlines_eq ns
  | markup n => rw [Node.stored, walkedNodes_allWalked, Node.parts, n.parts_eq]
  | attributeNode a => rw [Node.stored, walkedNodes_allWalked, Node.parts, a.parts_eq]
  | program p =>
    rw [Node.stored, walkedNodes_allWalked]
    exact statementOutlines_eq p.body
  | statement s => exact s.parts_eq
  | clause c => exact c.parts_eq
  | declarator d => rw [Node.stored, walkedNodes_allWalked, Node.parts, d.parts_eq]
  | expression e => rw [Node.stored, walkedNodes_allWalked, Node.parts, e.parts_eq]
  | objectMember m => exact m.parts_eq
  | pattern p => rw [Node.stored, walkedNodes_allWalked, Node.parts, p.parts_eq]
  | patternMember m => exact m.parts_eq
  | _ => rfl

theorem Node.children_eq (n : Node) : n.children = walkedNodes n.stored := by
  rw [Node.children, n.parts_eq, List.map_map]
  exact List.map_id _

/-- **Outlines unfold the children of nodes.** -/
theorem unfolds_outline : Rose.Unfolds Node.children Node.outline := by
  intro n
  rw [n.children_eq, ← n.parts_eq]
  rfl

end StoryCatalog
