import StoryCatalog.Proofs.Tree.Relocations

/-!
# Scripts with other function contents

Refilling a script replaces the parameters and the body of every function in it and leaves everything else as it is,
the names and the spans of the functions among it. A function inside another goes with the contents of that one.

* `Node.children_refill`: below a refilled node that is no function stand the nodes that stand below it, refilled.
* `Node.reach_refill`: a walk that enters no function reaches the same nodes, refilled.
-/

namespace StoryCatalog

/-- What a function holds apart from its name. -/
structure FunctionContents where
  params : List Pattern
  body : Statement

/-- A function with other contents, which may depend on it. -/
def Function.refill (g : Function → FunctionContents) (f : Function) : Function :=
  ⟨f.span, f.id, (g f).params, (g f).body⟩

section

variable (g : Function → FunctionContents)

mutual

/-- An expression with other function contents. -/
def Expression.refill : Expression → Expression
  | .identifier i => .identifier i
  | .literal l => .literal l
  | .template span quasis es => .template span quasis (refillExpressions es)
  | .array span es => .array span (refillElements es)
  | .object o => .object o.refill
  | .call span callee es => .call span callee.refill (refillExpressions es)
  | .member span e property isComputed => .member span e.refill property.refill isComputed
  | .function form f => .function form (f.refill g)
  | .spread span e => .spread span e.refill
  | .unknown => .unknown

/-- A list of expressions with other function contents. -/
def refillExpressions : List Expression → List Expression
  | [] => []
  | e :: es => e.refill :: refillExpressions es

/-- The elements of an array literal with other function contents. -/
def refillElements : List (Option Expression) → List (Option Expression)
  | [] => []
  | none :: es => none :: refillElements es
  | some e :: es => some e.refill :: refillElements es

/-- An object literal with other function contents. -/
def ObjectLiteral.refill : ObjectLiteral → ObjectLiteral
  | ⟨span, ms⟩ => ⟨span, refillMembers ms⟩

/-- The members of an object literal with other function contents. -/
def refillMembers : List ObjectMember → List ObjectMember
  | [] => []
  | m :: ms => m.refill :: refillMembers ms

/-- A member of an object literal with other function contents. -/
def ObjectMember.refill : ObjectMember → ObjectMember
  | .property span key value isComputed isShorthand =>
    .property span key.refill value.refill isComputed isShorthand
  | .spread span e => .spread span e.refill

/-- A pattern with other function contents. -/
def Pattern.refill : Pattern → Pattern
  | .identifier i => .identifier i
  | .object span ms => .object span (refillPatternMembers ms)
  | .array span ps => .array span (refillPatternElements ps)
  | .assignment span p e => .assignment span p.refill e.refill
  | .rest span p => .rest span p.refill
  | .unknown => .unknown

/-- The elements of an array pattern with other function contents. -/
def refillPatternElements : List (Option Pattern) → List (Option Pattern)
  | [] => []
  | none :: ps => none :: refillPatternElements ps
  | some p :: ps => some p.refill :: refillPatternElements ps

/-- The members of an object pattern with other function contents. -/
def refillPatternMembers : List PatternMember → List PatternMember
  | [] => []
  | m :: ms => m.refill :: refillPatternMembers ms

/-- A member of an object pattern with other function contents. -/
def PatternMember.refill : PatternMember → PatternMember
  | .property span key value isComputed isShorthand =>
    .property span key.refill value.refill isComputed isShorthand
  | .rest span p => .rest span p.refill

/-- A statement with other function contents. -/
def Statement.refill : Statement → Statement
  | .imports d => .imports d
  | .declaration d => .declaration d.refill
  | .namedExport span none => .namedExport span none
  | .namedExport span (some s) => .namedExport span (some s.refill)
  | .defaultExport d => .defaultExport d.refill
  | .function f => .function (f.refill g)
  | .expression span e => .expression span e.refill
  | .block span ss => .block span (refillStatements ss)
  | .returns span e => .returns span (refillOptional e)
  | .unknown => .unknown

/-- A declarator with other function contents. -/
def Declarator.refill : Declarator → Declarator
  | ⟨span, p, init⟩ => ⟨span, p.refill, refillOptional init⟩

/-- An expression that may be missing with other function contents. -/
def refillOptional : Option Expression → Option Expression
  | none => none
  | some e => some e.refill

/-- A list of declarators with other function contents. -/
def refillDeclarators : List Declarator → List Declarator
  | [] => []
  | d :: ds => d.refill :: refillDeclarators ds

/-- A variable declaration with other function contents. -/
def VariableDeclaration.refill : VariableDeclaration → VariableDeclaration
  | ⟨span, kind, ds⟩ => ⟨span, kind, refillDeclarators ds⟩

/-- A default export with other function contents. -/
def DefaultExport.refill : DefaultExport → DefaultExport
  | ⟨span, e⟩ => ⟨span, e.refill⟩

/-- A list of statements with other function contents. -/
def refillStatements : List Statement → List Statement
  | [] => []
  | s :: ss => s.refill :: refillStatements ss

end

end

/-- A script with other function contents. -/
def Program.refill (g : Function → FunctionContents) (p : Program) : Program :=
  ⟨p.span, p.body.map (·.refill g)⟩

/-- A node of a script with other function contents; other nodes are left as they are. -/
def Node.refill (g : Function → FunctionContents) : Node → Node
  | program p => program (p.refill g)
  | statement s => statement (s.refill g)
  | declarator d => declarator (d.refill g)
  | expression e => expression (e.refill g)
  | objectMember m => objectMember (m.refill g)
  | pattern p => pattern (p.refill g)
  | patternMember m => patternMember (m.refill g)
  | n => n

/-! ## Lists -/

section

variable (g : Function → FunctionContents)

@[simp] theorem refillExpressions_eq (es : List Expression) : refillExpressions g es = es.map (·.refill g) :=
  relocated_eq_map rfl (fun _ _ => rfl) es

@[simp] theorem refillElements_eq (es : List (Option Expression)) :
    refillElements g es = es.map (·.map (·.refill g)) :=
  relocated_eq_map rfl (fun e _ => by cases e <;> rfl) es

@[simp] theorem refillMembers_eq (ms : List ObjectMember) : refillMembers g ms = ms.map (·.refill g) :=
  relocated_eq_map rfl (fun _ _ => rfl) ms

@[simp] theorem refillPatternElements_eq (ps : List (Option Pattern)) :
    refillPatternElements g ps = ps.map (·.map (·.refill g)) :=
  relocated_eq_map rfl (fun p _ => by cases p <;> rfl) ps

@[simp] theorem refillPatternMembers_eq (ms : List PatternMember) :
    refillPatternMembers g ms = ms.map (·.refill g) :=
  relocated_eq_map rfl (fun _ _ => rfl) ms

@[simp] theorem refillDeclarators_eq (ds : List Declarator) : refillDeclarators g ds = ds.map (·.refill g) :=
  relocated_eq_map rfl (fun _ _ => rfl) ds

@[simp] theorem refillStatements_eq (ss : List Statement) : refillStatements g ss = ss.map (·.refill g) :=
  relocated_eq_map rfl (fun _ _ => rfl) ss

end

/-! ## What is stored -/

/-- Whether a node is one of a script. -/
def Node.isScript : Node → Bool
  | program _ => true
  | statement _ => true
  | clause _ => true
  | declarator _ => true
  | expression _ => true
  | objectMember _ => true
  | pattern _ => true
  | patternMember _ => true
  | identifier _ => true
  | _ => false

/-- Whether a node is a function. -/
def Node.isFunction : Node → Bool
  | statement (.function _) => true
  | expression (.function ..) => true
  | _ => false

/-- What is stored in a node with other function contents. -/
def Stored.refill (g : Function → FunctionContents) (x : Stored) : Stored :=
  ⟨x.slot, x.node.refill g⟩

section

variable (g : Function → FunctionContents)

theorem allWalked_refill (ns : List Node) :
    allWalked (ns.map (·.refill g)) = (allWalked ns).map (·.refill g) := by
  rw [allWalked, allWalked, List.map_map, List.map_map]
  rfl

theorem ImportClause.stored_refill (c : ImportClause) : c.stored.map (·.refill g) = c.stored := by
  rcases c with ⟨_, _ | _, _⟩ | _ | _ <;> rfl

theorem Expression.nodes_refill {e : Expression} (h : e.function? = none) :
    (e.refill g).nodes = e.nodes.map (·.refill g) := by
  cases e with
  | object o =>
    obtain ⟨_, ms⟩ := o
    simp [Expression.refill, ObjectLiteral.refill, Expression.nodes, Node.refill]
  | array _ es => simp [Expression.refill, Expression.nodes, Node.refill, List.reduceOption_map]
  | function => cases h
  | _ => simp [Expression.refill, Expression.nodes, Node.refill]

theorem ObjectMember.stored_refill (m : ObjectMember) :
    (m.refill g).stored = m.stored.map (·.refill g) := by
  cases m <;> rfl

theorem Pattern.nodes_refill (p : Pattern) : (p.refill g).nodes = p.nodes.map (·.refill g) := by
  cases p with
  | array _ ps => simp [Pattern.refill, Pattern.nodes, Node.refill, List.reduceOption_map]
  | _ => simp [Pattern.refill, Pattern.nodes, Node.refill]

theorem PatternMember.stored_refill (m : PatternMember) :
    (m.refill g).stored = m.stored.map (·.refill g) := by
  cases m <;> rfl

theorem Statement.stored_refill {s : Statement} (h : (Node.statement s).isFunction = false) :
    (s.refill g).stored = s.stored.map (·.refill g) := by
  cases s with
  | imports d =>
    simp [Statement.refill, Statement.stored, allWalked, Stored.refill, Node.refill, Expression.refill,
      Function.comp_def]
  | declaration d =>
    obtain ⟨_, _, ds⟩ := d
    simp [Statement.refill, VariableDeclaration.refill, Statement.stored, allWalked, Stored.refill,
      Node.refill, Function.comp_def]
  | namedExport _ s => cases s <;> rfl
  | defaultExport d =>
    obtain ⟨_, _⟩ := d
    rfl
  | function => cases h
  | block _ ss =>
    simp [Statement.refill, Statement.stored, allWalked, Stored.refill, Node.refill, Function.comp_def]
  | returns _ e => cases e <;> rfl
  | _ => rfl

/-- **What is stored in a refilled node** of a script that is no function is what is stored in it, refilled. -/
theorem Node.stored_refill {n : Node} (hs : n.isScript = true) (hf : n.isFunction = false) :
    (n.refill g).stored = n.stored.map (·.refill g) := by
  cases n with
  | program p =>
    simp [Node.refill, Program.refill, Node.stored, allWalked, Stored.refill, Function.comp_def]
  | statement s => exact s.stored_refill g hf
  | clause c => exact (c.stored_refill g).symm
  | declarator d =>
    obtain ⟨_, _, _ | _⟩ := d <;> rfl
  | expression e =>
    have he : e.function? = none := by
      cases e with
      | function => cases hf
      | _ => rfl
    rw [Node.refill, Node.stored, e.nodes_refill g he, allWalked_refill, Node.stored]
  | objectMember m => exact m.stored_refill g
  | pattern p => rw [Node.refill, Node.stored, p.nodes_refill, allWalked_refill, Node.stored]
  | patternMember m => exact m.stored_refill g
  | identifier => rfl
  | _ => cases hs

theorem Node.children_refill {n : Node} (hs : n.isScript = true) (hf : n.isFunction = false) :
    (n.refill g).children = n.children.map (·.refill g) := by
  rw [Node.children_eq, n.stored_refill g hs hf, walkedNodes, List.filter_map, List.map_map, Node.children_eq,
    walkedNodes, List.map_map]
  rfl

theorem Function.isScript_nodes (f : Function) : ∀ m ∈ f.nodes, m.isScript = true := by
  simp [Function.nodes, or_imp, forall_and, Node.isScript]

theorem Expression.isScript_nodes (e : Expression) : ∀ m ∈ e.nodes, m.isScript = true := by
  cases e with
  | function form f => exact f.isScript_nodes
  | _ => simp [Expression.nodes, Node.isScript]

theorem Statement.isScript_stored (s : Statement) : ∀ x ∈ s.stored, x.node.isScript = true := by
  cases s with
  | function f =>
    intro x hx
    obtain ⟨m, hm, rfl⟩ := List.mem_map.mp hx
    exact f.isScript_nodes m hm
  | _ => simp [Statement.stored, allWalked, or_imp, forall_and, Node.isScript]

theorem ImportClause.isScript_stored (c : ImportClause) : ∀ x ∈ c.stored, x.node.isScript = true := by
  rcases c with ⟨_, _ | _, _⟩ | _ | _ <;> simp [ImportClause.stored, allWalked, Node.isScript]

/-- What is stored in a node of a script is a node of the script. -/
theorem Node.isScript_stored {n : Node} (h : n.isScript = true) : ∀ x ∈ n.stored, x.node.isScript = true := by
  have walked : ∀ ms : List Node, (∀ m ∈ ms, m.isScript = true) →
      ∀ x ∈ allWalked ms, x.node.isScript = true := by
    intro ms hms x hx
    obtain ⟨m, hm, rfl⟩ := List.mem_map.mp hx
    exact hms m hm
  cases n with
  | program p => exact walked _ (by simp [Node.isScript])
  | statement s => exact s.isScript_stored
  | clause c => exact c.isScript_stored
  | declarator d => exact walked _ (by simp [Node.isScript])
  | expression e => exact walked _ e.isScript_nodes
  | objectMember m => cases m <;> simp [Node.stored, ObjectMember.stored, memberValue, allWalked, Node.isScript]
  | pattern p => exact walked _ (by cases p <;> simp [Pattern.nodes, Node.isScript])
  | patternMember m => cases m <;> simp [Node.stored, PatternMember.stored, memberValue, allWalked, Node.isScript]
  | identifier => exact walked [] (by simp)
  | _ => cases h

/-- Below a node of a script stand nodes of the script. -/
theorem Node.isScript_children {n : Node} (h : n.isScript = true) : ∀ m ∈ n.children, m.isScript = true := by
  intro m hm
  rw [n.children_eq, walkedNodes] at hm
  obtain ⟨x, hx, rfl⟩ := List.mem_map.mp hm
  exact n.isScript_stored h x (List.mem_of_mem_filter hx)

/-- **A walk that enters no function** reaches the same nodes of a refilled script, refilled. -/
theorem Node.reach_refill {skips : Node → Bool} (hskips : ∀ n, skips (n.refill g) = skips n)
    (hfunctions : ∀ n, n.isFunction = true → skips n = true) {n : Node} (h : n.isScript = true) :
    (n.refill g).outline.reach skips = (n.outline.reach skips).map (·.refill g) := by
  refine unfolds_outline.reach_eq_map unfolds_outline (fun m => m.isScript_children) hskips ?_ h
  intro m hm hskip
  refine m.children_refill g hm (Bool.eq_false_iff.mpr fun hf => ?_)
  rw [hfunctions m hf] at hskip
  cases hskip

end

end StoryCatalog
