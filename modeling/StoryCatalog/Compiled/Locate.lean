import StoryCatalog.Story.Failure
import StoryCatalog.Tree.Outline

/-!
# Locating the parts of a compiled module

A stories file compiles to a module in which five parts matter later: the import of `defineMeta`, the
declaration that destructures its result, the identifier bound to `Story` there, the default export,
and the function that renders the stories. They are found in one walk that enters no function. The
stories function is the first one met whose name ends in `_stories`, else the one that the default
export names.

* `Sighting.require_eq_ok_iff`: all five parts must have been found.
-/

namespace StoryCatalog

/-- The parts of a compiled module. -/
structure CompiledParts where
  defineMetaImport : ImportSpecifier
  defineMetaDeclaration : VariableDeclaration
  storyIdentifier : Identifier
  defaultExport : DefaultExport
  storiesFunction : Function

/-- What has been seen of a compiled module. -/
structure Sighting where
  defineMetaImport : Option ImportSpecifier
  defineMetaDeclaration : Option VariableDeclaration
  storyIdentifier : Option Identifier
  defaultExport : Option DefaultExport
  storiesFunction : Option Function
  /-- The functions bound to names, the latest first. -/
  bindings : List (String × Function)

namespace Sighting

/-- Nothing has been seen. -/
def nothing : Sighting :=
  ⟨none, none, none, none, none, []⟩

/-- Whether a function is a stories function by its name. -/
def isStoriesFunction (f : Function) : Bool :=
  f.name?.any fun name => "_stories".toList.isSuffixOf name.toList

/-- A function bound to a name. -/
def bind (s : Sighting) (name : String) (f : Function) : Sighting :=
  { s with bindings := (name, f) :: s.bindings }

/-- A named function that is declared or exported. -/
def sawFunction (s : Sighting) (f : Function) : Sighting :=
  let s := match f.name? with
    | some name => s.bind name f
    | none => s
  if s.storiesFunction.isNone && isStoriesFunction f then { s with storiesFunction := some f } else s

/-- Whether a clause imports `defineMeta`. -/
def definesMeta? : ImportClause → Option ImportSpecifier
  | .named i => if i.imported.text? = some "defineMeta" then some i else none
  | _ => none

/-- An import declaration. -/
def sawImport (package : String) (s : Sighting) (d : ImportDeclaration) : Sighting :=
  if d.source.text? = some package then
    { s with defineMetaImport := (d.clauses.filterMap definesMeta?).getLast?.or s.defineMetaImport }
  else s

/-- Whether an expression calls the imported `defineMeta`. -/
def callsDefineMeta (s : Sighting) (e : Expression) : Bool :=
  s.defineMetaImport.any fun i => e.calleeName? == some i.binding.name

/-- One binding of a variable declaration. -/
def sawDeclarator (d : VariableDeclaration) (s : Sighting) (binding : Declarator) : Sighting :=
  match binding.id, binding.init with
  | .object _ members, some e =>
    if s.callsDefineMeta e then
      { s with
        defineMetaDeclaration := some d
        storyIdentifier := PatternMember.binding? "Story" members }
    else s
  | .identifier i, some e =>
    match e.function? with
    | some f => s.bind i.name f
    | none => s
  | _, _ => s

/-- A variable declaration. -/
def sawVariables (s : Sighting) (d : VariableDeclaration) : Sighting :=
  d.declarators.foldl (sawDeclarator d) s

/-- What a node adds. -/
def visit (package : String) (_ : Unit) (n : Node) (s : Sighting) : Sighting × Step Unit Empty :=
  match n with
  | .statement (.imports d) => (s.sawImport package d, .skip)
  | .statement (.declaration d) => (s.sawVariables d, .skip)
  | .statement (.function f) => (s.sawFunction f, .skip)
  | .statement (.defaultExport d) =>
    let s := { s with defaultExport := some d }
    match d.declaration.function? with
    | some f => (s.sawFunction f, .skip)
    | none => (s, .descend ())
  | .expression (.function .declaration f) => (s.sawFunction f, .skip)
  | .expression (.function _ _) => (s, .skip)
  | _ => (s, .descend ())

/-- The function that the default export names. -/
def exportedFunction? (s : Sighting) (d : DefaultExport) : Option Function :=
  d.declaration.identifier?.bind fun i => s.bindings.lookup i.name

/-- A part that must have been found. -/
def require {α : Type} (file : String) (node : CompiledNode) : Option α → Except Failure α
  | some a => .ok a
  | none => .error (.compiledNodeNotFound file node)

/-- The parts, if all have been found; otherwise the first one that is missing. -/
def parts (file : String) (s : Sighting) : Except Failure CompiledParts := do
  let defineMetaImport ← require file .defineMetaImport s.defineMetaImport
  let declaration ← require file .defineMetaDeclaration s.defineMetaDeclaration
  let storyIdentifier ← require file .storyIdentifier s.storyIdentifier
  let defaultExport ← require file .exportDefault s.defaultExport
  let storiesFunction ←
    require file .storiesFunction (s.storiesFunction.or (s.exportedFunction? defaultExport))
  pure ⟨defineMetaImport, declaration, storyIdentifier, defaultExport, storiesFunction⟩

theorem require_eq_ok_iff {α : Type} {file : String} {node : CompiledNode} {o : Option α} {a : α} :
    require file node o = .ok a ↔ o = some a := by
  cases o <;> simp [require]

end Sighting

/-- The parts of the compiled module in a file, which uses a package. -/
def Program.locate (p : Program) (file package : String) : Except Failure CompiledParts :=
  (p.outline.walk (Sighting.visit package) () .nothing).1.parts file

end StoryCatalog
