import StoryCatalog.Compiled.Locate

/-!
# Imports of `defineMeta`

Scripts and compiled modules import `defineMeta` under a name of their choice, and a declarator that is given
the result of a call is recognized by that name. Of several imports the last one before the call counts.

* `aliasAfter_append`, `aliasAfter_imports_cases`: the name it is known under after some statements.
-/

namespace StoryCatalog

variable {package : String}

/-- The import declaration that a statement is. -/
def Statement.import? : Statement → Option ImportDeclaration
  | .imports d => some d
  | _ => none

theorem Statement.import?_eq_some_iff {s : Statement} {d : ImportDeclaration} :
    s.import? = some d ↔ s = .imports d := by
  cases s <;> simp [import?]

/-- The variables that a statement declares, and perhaps exports. -/
def Statement.variables? : Statement → Option VariableDeclaration
  | .declaration d => some d
  | .namedExport _ (some (.declaration d)) => some d
  | _ => none

/-- The names in braces by which a declaration imports `defineMeta` from the package. -/
def ImportDeclaration.metaSpecifiers (package : String) (d : ImportDeclaration) : List ImportSpecifier :=
  if d.source.text? = some package then d.clauses.filterMap Sighting.definesMeta? else []

theorem metaSpecifiers_of_other {d : ImportDeclaration} (h : d.source.text? ≠ some package) :
    d.metaSpecifiers package = [] := if_neg h

/-- Among some nodes stands an import of `defineMeta` from the package. -/
def ImportsMeta (package : String) (ns : List Node) (i : ImportSpecifier) : Prop :=
  ∃ d, Node.statement (.imports d) ∈ ns ∧ i ∈ d.metaSpecifiers package

/-- Among some nodes `defineMeta` is imported under no other name. -/
def KnownOnlyAs (package name : String) (ns : List Node) : Prop :=
  ∀ i, ImportsMeta package ns i → i.binding.name = name

theorem KnownOnlyAs.mono {name : String} {ns more : List Node} (h : KnownOnlyAs package name more)
    (hns : ns ⊆ more) : KnownOnlyAs package name ns := by
  rintro i ⟨d, hd, hi⟩
  exact h i ⟨d, hns hd, hi⟩

/-- The name of the function that a declarator is given the result of. -/
def Declarator.calledName? (b : Declarator) : Option String :=
  b.init.bind (·.calleeName?)

theorem Declarator.calledName?_eq_some_iff {b : Declarator} {name : String} :
    b.calledName? = some name ↔ ∃ e, b.init = some e ∧ e.calleeName? = some name :=
  Option.bind_eq_some_iff

/-- The name for `defineMeta` after some statements, if before them it is `known`. -/
def aliasAfter (package : String) (known : Option String) (ss : List Statement) : Option String :=
  (((ss.filterMap (·.import?)).flatMap (·.metaSpecifiers package)).getLast?.map (·.binding.name)).or known

@[simp] theorem aliasAfter_nil (known : Option String) : aliasAfter package known [] = known := rfl

theorem aliasAfter_append (known : Option String) (ss more : List Statement) :
    aliasAfter package known (ss ++ more) = aliasAfter package (aliasAfter package known ss) more := by
  simp only [aliasAfter, List.filterMap_append, List.flatMap_append, List.getLast?_append,
    Option.map_or, Option.or_assoc]

theorem aliasAfter_imports (known : Option String) (d : ImportDeclaration) :
    aliasAfter package known [.imports d] =
      ((d.metaSpecifiers package).getLast?.map (·.binding.name)).or known := by
  simp [aliasAfter, Statement.import?]

/-- An import declaration that imports `defineMeta` says by which name it is known after it. -/
theorem aliasAfter_imports_cases (known : Option String) (d : ImportDeclaration) :
    (d.metaSpecifiers package = [] ∧ aliasAfter package known [.imports d] = known) ∨
      ∃ i ∈ d.metaSpecifiers package, aliasAfter package known [.imports d] = some i.binding.name := by
  rw [aliasAfter_imports]
  cases hl : (d.metaSpecifiers package).getLast? with
  | none => exact Or.inl ⟨List.getLast?_eq_none_iff.mp hl, rfl⟩
  | some i => exact Or.inr ⟨i, List.mem_of_getLast? hl, rfl⟩

/-! ## Small scripts -/

/-- The statement `import { defineMeta as name } from "p"`. -/
def importMeta (name : String) : Statement :=
  .imports ⟨⟨0, 0⟩, [.named ⟨⟨0, 0⟩, .identifier ⟨⟨0, 0⟩, "defineMeta"⟩, ⟨⟨0, 0⟩, name⟩⟩],
    ⟨⟨0, 0⟩, .text "p"⟩⟩

/-- The statement `const { Story: tag } = callee({})`. -/
def destructure (callee tag : String) : Statement :=
  .declaration ⟨⟨0, 0⟩, "const", [⟨⟨0, 0⟩,
    .object ⟨0, 0⟩ [.property ⟨0, 0⟩ (.identifier ⟨⟨0, 0⟩, "Story"⟩) (.identifier ⟨⟨0, 0⟩, tag⟩) false false],
    some (.call ⟨0, 0⟩ (.identifier ⟨⟨0, 0⟩, callee⟩) [.object ⟨⟨0, 0⟩, []⟩])⟩]⟩

end StoryCatalog
