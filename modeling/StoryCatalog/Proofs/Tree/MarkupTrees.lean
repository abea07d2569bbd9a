import StoryCatalog.Tree.Outline
import StoryCatalog.Proofs.Tree.Places
import StoryCatalog.Proofs.Tree.Unfolding

/-!
# Markup inside markup

Seen by itself, the markup of a fragment is a list of trees: below an element stands what is between
its tags, below a block what is in each of its branches, below a snippet its body, and below anything
else nothing. `Fragment.trees` reads these trees off the fragment alone.

* `restrict_outline`: they are what is left of the outline if only markup nodes stay. Scripts, the
  expressions in braces and the attributes hold no markup (`Expression.parts_isCode` and its
  companions).
* `answer_walk_outline`: a walk over a document that skips the scripts is a fold over these trees.
* `reachAll_isComment`: a comment has nothing below it, so a walk may skip it or not.
* `unfolds_tree`: the trees unfold what stands directly in a node, whichever of its branches it stands in.
-/

namespace StoryCatalog

open Rose

/-! ## Code -/

/-- A part of a script or of an expression, which is no markup and no script region. -/
@[simp] def Node.IsCode : Node → Prop
  | .statement _ | .clause _ | .declarator _ | .expression _ | .objectMember _ | .pattern _
  | .patternMember _ | .identifier _ => True
  | _ => False

theorem ImportClause.parts_isCode (c : ImportClause) : Every Node.IsCode c.parts := by
  unfold ImportClause.parts
  split <;> simp [Node.leaf]

theorem clauseOutlines_isCode (cs : List ImportClause) :
    Every Node.IsCode (cs.map fun c => .node (.clause c) c.parts) := by
  induction cs with
  | nil => simp
  | cons c cs ih => simp [ih, c.parts_isCode]

mutual

theorem Expression.parts_isCode (e : Expression) : Every Node.IsCode e.parts := by
  cases e with
  | template _ _ es => exact expressionOutlines_isCode es
  | array _ es => exact elementOutlines_isCode es
  | object o =>
    obtain ⟨_, ms⟩ := o
    exact memberOutlines_isCode ms
  | call _ c es => simp [Expression.parts, c.parts_isCode, expressionOutlines_isCode es]
  | member _ o p _ => simp [Expression.parts, o.parts_isCode, p.parts_isCode]
  | function _ f => exact f.parts_isCode
  | spread _ a => simp [Expression.parts, a.parts_isCode]
  | _ => simp [Expression.parts]

theorem expressionOutlines_isCode (es : List Expression) :
    Every Node.IsCode (expressionOutlines es) := by
  cases es with
  | nil => simp [expressionOutlines]
  | cons e es => simp [expressionOutlines, e.parts_isCode, expressionOutlines_isCode es]

theorem elementOutlines_isCode (es : List (Option Expression)) :
    Every Node.IsCode (elementOutlines es) := by
  rcases es with _ | ⟨_ | e, es⟩
  · simp [elementOutlines]
  · simp [elementOutlines, elementOutlines_isCode es]
  · simp [elementOutlines, e.parts_isCode, elementOutlines_isCode es]

theorem memberOutlines_isCode (ms : List ObjectMember) :
    Every Node.IsCode (memberOutlines ms) := by
  cases ms with
  | nil => simp [memberOutlines]
  | cons m ms => simp [memberOutlines, m.parts_isCode, memberOutlines_isCode ms]

theorem ObjectMember.parts_isCode (m : ObjectMember) : Every Node.IsCode m.parts := by
  cases m with
  | property _ k v _ s => cases s <;> simp [ObjectMember.parts, k.parts_isCode, v.parts_isCode]
  | spread _ e => simp [ObjectMember.parts, e.parts_isCode]

theorem Function.parts_isCode (f : Function) : Every Node.IsCode f.parts := by
  obtain ⟨_, _ | i, ps, body⟩ := f
  · simp [Function.parts, patternOutlines_isCode ps, body.parts_isCode]
  · simp [Function.parts, Node.leaf, patternOutlines_isCode ps, body.parts_isCode]

theorem Pattern.parts_isCode (p : Pattern) : Every Node.IsCode p.parts := by
  cases p with
  | object _ ms => exact patternMemberOutlines_isCode ms
  | array _ ps => exact patternElementOutlines_isCode ps
  | assignment _ p e => simp [Pattern.parts, p.parts_isCode, e.parts_isCode]
  | rest _ p => simp [Pattern.parts, p.parts_isCode]
  | _ => simp [Pattern.parts]

theorem patternOutlines_isCode (ps : List Pattern) : Every Node.IsCode (patternOutlines ps) := by
  cases ps with
  | nil => simp [patternOutlines]
  | cons p ps => simp [patternOutlines, p.parts_isCode, patternOutlines_isCode ps]

theorem patternElementOutlines_isCode (ps : List (Option Pattern)) :
    Every Node.IsCode (patternElementOutlines ps) := by
  rcases ps with _ | ⟨_ | p, ps⟩
  · simp [patternElementOutlines]
  · simp [patternElementOutlines, patternElementOutlines_isCode ps]
  · simp [patternElementOutlines, p.parts_isCode, patternElementOutlines_isCode ps]

theorem patternMemberOutlines_isCode (ms : List PatternMember) :
    Every Node.IsCode (patternMemberOutlines ms) := by
  cases ms with
  | nil => simp [patternMemberOutlines]
  | cons m ms => simp [patternMemberOutlines, m.parts_isCode, patternMemberOutlines_isCode ms]

theorem PatternMember.parts_isCode (m : PatternMember) : Every Node.IsCode m.parts := by
  cases m with
  | property _ k v _ s => cases s <;> simp [PatternMember.parts, k.parts_isCode, v.parts_isCode]
  | rest _ p => simp [PatternMember.parts, p.parts_isCode]

theorem Declarator.parts_isCode (d : Declarator) : Every Node.IsCode d.parts := by
  obtain ⟨_, p, _ | e⟩ := d
  · simp [Declarator.parts, p.parts_isCode]
  · simp [Declarator.parts, p.parts_isCode, e.parts_isCode]

theorem declaratorOutlines_isCode (ds : List Declarator) :
    Every Node.IsCode (declaratorOutlines ds) := by
  cases ds with
  | nil => simp [declaratorOutlines]
  | cons d ds => simp [declaratorOutlines, d.parts_isCode, declaratorOutlines_isCode ds]

theorem Statement.parts_isCode (s : Statement) : Every Node.IsCode s.parts := by
  cases s with
  | imports d => exact clauseOutlines_isCode d.clauses
  | declaration d =>
    obtain ⟨_, _, ds⟩ := d
    exact declaratorOutlines_isCode ds
  | namedExport _ s =>
    cases s with
    | none => simp [Statement.parts]
    | some s => simp [Statement.parts, s.parts_isCode]
  | defaultExport d =>
    obtain ⟨_, e⟩ := d
    simp [Statement.parts, e.parts_isCode]
  | function f => exact f.parts_isCode
  | expression _ e => simp [Statement.parts, e.parts_isCode]
  | block _ ss => exact statementOutlines_isCode ss
  | returns _ e =>
    cases e with
    | none => simp [Statement.parts]
    | some e => simp [Statement.parts, e.parts_isCode]
  | unknown => simp [Statement.parts]

theorem statementOutlines_isCode (ss : List Statement) :
    Every Node.IsCode (statementOutlines ss) := by
  cases ss with
  | nil => simp [statementOutlines]
  | cons s ss => simp [statementOutlines, s.parts_isCode, statementOutlines_isCode ss]

end

/-! ## The trees of a fragment -/

mutual

/-- The markup of a fragment. -/
def Fragment.trees : Fragment → List (Rose MarkupNode)
  | ⟨ns⟩ => markupTrees ns

/-- A list of markup nodes, each with what is below it. -/
def markupTrees : List MarkupNode → List (Rose MarkupNode)
  | [] => []
  | n :: ns => .node n n.inner :: markupTrees ns

/-- The markup of a branch, if there is one. -/
def branchTrees : Option Fragment → List (Rose MarkupNode)
  | none => []
  | some f => f.trees

/-- The markup below a node. -/
def MarkupNode.inner : MarkupNode → List (Rose MarkupNode)
  | .text _ => []
  | .comment _ => []
  | .tag .. => []
  | .element _ ⟨_, _, _, f⟩ => f.trees
  | .ifBlock _ _ f alternate => f.trees ++ branchTrees alternate
  | .eachBlock _ _ f fallback => f.trees ++ branchTrees fallback
  | .awaitBlock _ _ pending resolved rejected =>
    branchTrees pending ++ branchTrees resolved ++ branchTrees rejected
  | .keyBlock _ _ f => f.trees
  | .snippet ⟨_, _, _, f⟩ => f.trees
  | .foreign .. => []

end

/-- The markup node that a node is. -/
def Node.markup? : Node → Option MarkupNode
  | .markup n => some n
  | _ => none

theorem Node.markup?_of_isCode : ∀ n : Node, n.IsCode → n.markup? = none
  | .markup _, h => h.elim
  | .root _, _ | .fragment _, _ | .attributeNode _, _ | .script _, _ | .program _, _ => rfl
  | .statement _, _ | .clause _, _ | .declarator _, _ | .expression _, _ => rfl
  | .objectMember _, _ | .pattern _, _ | .patternMember _, _ | .identifier _, _ => rfl

/-- No markup is left of code. -/
theorem restrictAll_of_isCode {ts : List (Rose Node)} (h : Every Node.IsCode ts) :
    restrictAll Node.markup? ts = [] :=
  restrictAll_eq_nil (h.imp Node.markup?_of_isCode)

theorem chunkOutlines_isCode (cs : List AttributeChunk) :
    Every Node.IsCode (cs.flatMap (·.parts)) := by
  induction cs with
  | nil => simp
  | cons c cs ih =>
    cases c with
    | text t => simpa [AttributeChunk.parts] using ih
    | expression t =>
      simpa [AttributeChunk.parts, ExpressionTag.outline, t.expression.parts_isCode] using ih

theorem AttributeNode.parts_isCode (a : AttributeNode) : Every Node.IsCode a.parts := by
  rcases a with ⟨_, _, _ | t | cs⟩ | ⟨_, e⟩ | _
  · simp [AttributeNode.parts, AttributeValue.parts]
  · simp [AttributeNode.parts, AttributeValue.parts, ExpressionTag.outline,
      t.expression.parts_isCode]
  · exact chunkOutlines_isCode cs
  · simp [AttributeNode.parts, e.parts_isCode]
  · simp [AttributeNode.parts]

theorem restrictAll_attributes (as : List AttributeNode) :
    restrictAll Node.markup? (as.map (·.outline)) = [] := by
  induction as with
  | nil => rfl
  | cons a as ih =>
    rw [List.map_cons, restrictAll, ih, AttributeNode.outline, restrict]
    simp [Node.markup?, restrictAll_of_isCode a.parts_isCode]

theorem Fragment.trees_eq (f : Fragment) : f.trees = markupTrees f.nodes := by
  obtain ⟨ns⟩ := f
  rfl

theorem markupTrees_append (ns more : List MarkupNode) :
    markupTrees (ns ++ more) = markupTrees ns ++ markupTrees more := by
  induction ns with
  | nil => rfl
  | cons n ns ih => rw [List.cons_append, markupTrees, ih, markupTrees, List.cons_append]

/-! ## Outlines hold the trees -/

mutual

theorem restrictAll_parts (f : Fragment) : restrictAll Node.markup? f.parts = f.trees := by
  obtain ⟨ns⟩ := f
  exact restrictAll_markupOutlines ns

theorem restrictAll_markupOutlines (ns : List MarkupNode) :
    restrictAll Node.markup? (markupOutlines ns) = markupTrees ns := by
  cases ns with
  | nil => rfl
  | cons n ns =>
    have hn : restrictAll Node.markup? n.parts = n.inner := restrictAll_nodeParts n
    have hns := restrictAll_markupOutlines ns
    simp [markupOutlines, markupTrees, restrictAll, restrict, Node.markup?, hn, hns]

theorem restrictAll_branchOutlines (b : Option Fragment) :
    restrictAll Node.markup? (branchOutlines b) = branchTrees b := by
  cases b with
  | none => rfl
  | some f =>
    have hf : restrictAll Node.markup? f.parts = f.trees := restrictAll_parts f
    simp [branchOutlines, branchTrees, restrictAll, restrict, Node.markup?, hf]

theorem restrictAll_nodeParts (n : MarkupNode) :
    restrictAll Node.markup? n.parts = n.inner := by
  have code : ∀ e : Expression, restrictAll Node.markup? e.parts = [] :=
    fun e => restrictAll_of_isCode e.parts_isCode
  cases n with
  | text _ => rfl
  | comment _ => rfl
  | tag _ t =>
    simp [MarkupNode.parts, MarkupNode.inner, ExpressionTag.outline, restrictAll, restrict,
      Node.markup?, code]
  | element _ e =>
    obtain ⟨_, _, as, f⟩ := e
    have hf : restrictAll Node.markup? f.parts = f.trees := restrictAll_parts f
    simp [MarkupNode.parts, MarkupNode.inner, restrictAll_append, restrictAll_attributes,
      restrictAll, restrict, Node.markup?, hf]
  | ifBlock _ e f b =>
    have hf : restrictAll Node.markup? f.parts = f.trees := restrictAll_parts f
    have hb := restrictAll_branchOutlines b
    simp [MarkupNode.parts, MarkupNode.inner, restrictAll, restrict, Node.markup?, code, hf, hb]
  | eachBlock _ e f b =>
    have hf : restrictAll Node.markup? f.parts = f.trees := restrictAll_parts f
    have hb := restrictAll_branchOutlines b
    simp [MarkupNode.parts, MarkupNode.inner, restrictAll, restrict, Node.markup?, code, hf, hb]
  | awaitBlock _ e p r c =>
    have hp := restrictAll_branchOutlines p
    have hr := restrictAll_branchOutlines r
    have hc := restrictAll_branchOutlines c
    simp [MarkupNode.parts, MarkupNode.inner, restrictAll_append, restrictAll, restrict,
      Node.markup?, code, hp, hr, hc]
  | keyBlock _ e f =>
    have hf : restrictAll Node.markup? f.parts = f.trees := restrictAll_parts f
    simp [MarkupNode.parts, MarkupNode.inner, restrictAll, restrict, Node.markup?, code, hf]
  | snippet s =>
    obtain ⟨_, i, ps, f⟩ := s
    have hf : restrictAll Node.markup? f.parts = f.trees := restrictAll_parts f
    have hps := restrictAll_of_isCode (patternOutlines_isCode ps)
    simp [MarkupNode.parts, MarkupNode.inner, restrictAll_append, Node.leaf, restrictAll, restrict,
      Node.markup?, hf, hps]
  | foreign _ _ => rfl

end

/-- **The markup of a fragment is what is left of its outline.** -/
theorem restrict_outline (f : Fragment) : f.outline.restrict Node.markup? = f.trees :=
  restrictAll_parts f

/-! ## What stands in a fragment -/

/-- A node other than a document, a script region and its program: all that may stand in markup. -/
@[simp] def Node.IsInner : Node → Prop
  | .root _ | .script _ | .program _ => False
  | _ => True

theorem Node.IsCode.isInner : ∀ n : Node, n.IsCode → n.IsInner
  | .statement _, _ | .clause _, _ | .declarator _, _ | .expression _, _ => trivial
  | .objectMember _, _ | .pattern _, _ | .patternMember _, _ | .identifier _, _ => trivial

theorem every_isInner_attributes (as : List AttributeNode) :
    Every Node.IsInner (as.map (·.outline)) := by
  induction as with
  | nil => simp
  | cons a as ih =>
    have ha := a.parts_isCode.imp Node.IsCode.isInner
    simpa [AttributeNode.outline, ha] using ih

mutual

/-- No script region stands in a fragment. -/
theorem Fragment.parts_isInner (f : Fragment) : Every Node.IsInner f.parts := by
  obtain ⟨ns⟩ := f
  exact markupOutlines_isInner ns

theorem markupOutlines_isInner (ns : List MarkupNode) :
    Every Node.IsInner (markupOutlines ns) := by
  cases ns with
  | nil => simp [markupOutlines]
  | cons n ns => simp [markupOutlines, n.parts_isInner, markupOutlines_isInner ns]

theorem branchOutlines_isInner (b : Option Fragment) :
    Every Node.IsInner (branchOutlines b) := by
  cases b with
  | none => simp [branchOutlines]
  | some f => simp [branchOutlines, f.parts_isInner]

theorem MarkupNode.parts_isInner (n : MarkupNode) : Every Node.IsInner n.parts := by
  have code : ∀ e : Expression, Every Node.IsInner e.parts :=
    fun e => e.parts_isCode.imp Node.IsCode.isInner
  cases n with
  | tag _ t => simp [MarkupNode.parts, ExpressionTag.outline, code]
  | element _ e =>
    obtain ⟨_, _, as, f⟩ := e
    simp [MarkupNode.parts, every_isInner_attributes as, f.parts_isInner]
  | ifBlock _ e f b => simp [MarkupNode.parts, code, f.parts_isInner, branchOutlines_isInner b]
  | eachBlock _ e f b => simp [MarkupNode.parts, code, f.parts_isInner, branchOutlines_isInner b]
  | awaitBlock _ e p r c =>
    simp [MarkupNode.parts, code, branchOutlines_isInner p, branchOutlines_isInner r,
      branchOutlines_isInner c]
  | keyBlock _ e f => simp [MarkupNode.parts, code, f.parts_isInner]
  | snippet s =>
    obtain ⟨_, i, ps, f⟩ := s
    have hps := (patternOutlines_isCode ps).imp Node.IsCode.isInner
    simp [MarkupNode.parts, Node.leaf, hps, f.parts_isInner]
  | _ => simp [MarkupNode.parts]

end

/-! ## Walks over a document -/

/-- **A walk over a document is a fold over its markup**, if its visitor goes on below the document, skips
the script regions and passes through everything in the markup that is no markup node. -/
theorem answer_walk_outline {σ ε : Type} {visit : Unit → Node → σ → σ × Step Unit ε}
    {visit' : Unit → MarkupNode → σ → σ × Step Unit ε} {act : σ → MarkupNode → Except ε σ}
    {skips : MarkupNode → Bool} (top : ∀ r s, visit () (.root r) s = (s, .descend ()))
    (script : ∀ b s, visit () (.script b) s = (s, .skip))
    (ignores : Ignores Node.IsInner Node.markup? visit visit') (follows : Follows visit' act skips)
    (r : Root) (s : σ) :
    answer (r.outline.walk visit () s) = (reachAll skips r.fragment.trees).foldlM act s := by
  have region : ∀ (o : Option ScriptBlock) (s : σ) (ts : List (Rose Node)),
      walkAll visit () s (o.toList.map (·.outline) ++ ts) = walkAll visit () s ts := by
    intro o s ts
    cases o with
    | none => rfl
    | some b =>
      rw [Option.toList_some, List.map_cons, List.cons_append, walkAll, ScriptBlock.outline, walk, script]
      rfl
  have inner : Every Node.IsInner [r.fragment.outline] := by
    simp [Fragment.outline, r.fragment.parts_isInner]
  unfold Root.outline
  rw [walk, top]
  simp only
  rw [List.append_assoc, region, region, walkAll_eq_walkAll_restrictAll ignores () s inner,
    restrictAll, restrict_outline, restrictAll, List.append_nil, answer_walkAll follows]

/-! ## Comments are leaves -/

/-- Whether a markup node is a comment. -/
def MarkupNode.isComment : MarkupNode → Bool
  | .comment _ => true
  | _ => false

theorem MarkupNode.inner_of_isComment : ∀ n : MarkupNode, n.isComment = true → n.inner = []
  | .comment _, _ => rfl

mutual

/-- **Skipping comments skips nothing.** -/
theorem reachAll_isComment (p : MarkupNode → Bool) (f : Fragment) :
    reachAll (fun n => p n || n.isComment) f.trees = reachAll p f.trees := by
  obtain ⟨ns⟩ := f
  exact reachAll_isComment_markupTrees p ns

theorem reachAll_isComment_markupTrees (p : MarkupNode → Bool) (ns : List MarkupNode) :
    reachAll (fun n => p n || n.isComment) (markupTrees ns) = reachAll p (markupTrees ns) := by
  cases ns with
  | nil => rfl
  | cons n ns =>
    have hn := reachAll_isComment_inner p n
    have hns := reachAll_isComment_markupTrees p ns
    rw [markupTrees, reachAll, reachAll, reach, reach, hn, hns]
    cases hc : n.isComment with
    | true => simp [n.inner_of_isComment hc, reachAll]
    | false => rw [Bool.or_false]

theorem reachAll_isComment_branchTrees (p : MarkupNode → Bool) (b : Option Fragment) :
    reachAll (fun n => p n || n.isComment) (branchTrees b) = reachAll p (branchTrees b) := by
  cases b with
  | none => rfl
  | some f => exact reachAll_isComment p f

theorem reachAll_isComment_inner (p : MarkupNode → Bool) (n : MarkupNode) :
    reachAll (fun n => p n || n.isComment) n.inner = reachAll p n.inner := by
  cases n with
  | element _ e =>
    obtain ⟨_, _, _, f⟩ := e
    exact reachAll_isComment p f
  | ifBlock _ _ f b =>
    rw [MarkupNode.inner, reachAll_append, reachAll_append, reachAll_isComment p f,
      reachAll_isComment_branchTrees p b]
  | eachBlock _ _ f b =>
    rw [MarkupNode.inner, reachAll_append, reachAll_append, reachAll_isComment p f,
      reachAll_isComment_branchTrees p b]
  | awaitBlock _ _ a b c =>
    simp only [MarkupNode.inner, reachAll_append, reachAll_isComment_branchTrees p a,
      reachAll_isComment_branchTrees p b, reachAll_isComment_branchTrees p c]
  | keyBlock _ _ f => exact reachAll_isComment p f
  | snippet s =>
    obtain ⟨_, _, _, f⟩ := s
    exact reachAll_isComment p f
  | _ => rfl

end

/-! ## Content -/

/-- The markup nodes that stand directly in a node. -/
def MarkupNode.content : MarkupNode → List MarkupNode
  | element _ e => e.fragment.nodes
  | ifBlock _ _ f alternate => f.nodes ++ alternate.toList.flatMap (·.nodes)
  | eachBlock _ _ f fallback => f.nodes ++ fallback.toList.flatMap (·.nodes)
  | awaitBlock _ _ pending resolved rejected =>
    (pending.toList ++ resolved.toList ++ rejected.toList).flatMap (·.nodes)
  | keyBlock _ _ f => f.nodes
  | snippet s => s.body.nodes
  | _ => []

/-- A markup node with what is below it. -/
def MarkupNode.tree (n : MarkupNode) : Rose MarkupNode :=
  .node n n.inner

theorem markupTrees_eq (ns : List MarkupNode) : markupTrees ns = ns.map MarkupNode.tree := by
  induction ns with
  | nil => rfl
  | cons n ns ih => rw [markupTrees, ih, List.map_cons, MarkupNode.tree]

theorem Fragment.trees_eq_map (f : Fragment) : f.trees = f.nodes.map MarkupNode.tree := by
  rw [f.trees_eq, markupTrees_eq]

theorem branchTrees_eq (b : Option Fragment) :
    branchTrees b = (b.toList.flatMap (·.nodes)).map MarkupNode.tree := by
  cases b with
  | none => rfl
  | some f => simp [branchTrees, f.trees_eq_map]

theorem MarkupNode.inner_eq (n : MarkupNode) : n.inner = n.content.map MarkupNode.tree := by
  cases n with
  | element _ e =>
    obtain ⟨_, _, _, f⟩ := e
    exact f.trees_eq_map
  | ifBlock _ _ f b => rw [inner, f.trees_eq_map, branchTrees_eq, ← List.map_append, content]
  | eachBlock _ _ f b => rw [inner, f.trees_eq_map, branchTrees_eq, ← List.map_append, content]
  | awaitBlock _ _ a b c =>
    rw [inner, branchTrees_eq, branchTrees_eq, branchTrees_eq, ← List.map_append, ← List.map_append,
      ← List.flatMap_append, ← List.flatMap_append, content]
  | keyBlock _ _ f => exact f.trees_eq_map
  | snippet s =>
    obtain ⟨_, _, _, f⟩ := s
    exact f.trees_eq_map
  | _ => rfl

/-- **The trees of markup unfold** what stands directly in each node. -/
theorem unfolds_tree : Unfolds MarkupNode.content MarkupNode.tree := by
  intro n
  rw [MarkupNode.tree, n.inner_eq]

section

variable {f : Fragment} {n m : MarkupNode}

theorem Fragment.mem_preorderAll_trees_iff :
    m ∈ preorderAll f.trees ↔
      ∃ n ∈ f.nodes, Relation.ReflTransGen (fun x y => y ∈ x.content) n m := by
  rw [f.trees_eq_map, preorderAll_map, List.mem_flatMap]
  simp only [unfolds_tree.mem_preorder_iff]

/-- Whatever stands in a node of a fragment is in the fragment. -/
theorem Fragment.mem_of_mem_content (hn : n ∈ preorderAll f.trees) (hm : m ∈ n.content) :
    m ∈ preorderAll f.trees := by
  obtain ⟨top, ht, hr⟩ := Fragment.mem_preorderAll_trees_iff.mp hn
  exact Fragment.mem_preorderAll_trees_iff.mpr ⟨top, ht, hr.tail hm⟩

end

end StoryCatalog
