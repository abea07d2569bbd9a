import StoryCatalog.Story.Static
import StoryCatalog.Tree.Outline

/-!
# What the scripts of a document say

The facts are read off both script regions in one walk that leaves the markup out: under which names
the exports of the story package are imported, what a `defineMeta` call destructures and is given, the
`meta` object of the older dialect, and the snippet passed to `setTemplate`. Of several declarations of
one fact the last counts. A `defineMeta` call is recognized once its name has been imported.
-/

namespace StoryCatalog

/-- What the scripts of a document say. -/
structure ScriptFacts where
  /-- The name that `defineMeta` is imported under. -/
  defineMetaAlias : Option String
  /-- The name that `Story` is destructured under from a `defineMeta` call. -/
  storyTag : Option String
  /-- The first argument of that call. -/
  metaObject : Option ObjectLiteral
  /-- The name that `Story` is imported under. -/
  legacyStoryTag : Option String
  /-- The name that `Meta` is imported under. -/
  legacyMetaTag : Option String
  /-- The exported object `meta`. -/
  legacyMetaObject : Option ObjectLiteral
  /-- The snippet passed to `setTemplate`. -/
  templateSnippet : Option String

namespace ScriptFacts

/-- Nothing is known before the scripts are read. -/
def none : ScriptFacts :=
  ⟨.none, .none, .none, .none, .none, .none, .none⟩

/-- The tag of the markers of stories. -/
def markerTag (f : ScriptFacts) : String :=
  (f.storyTag.or f.legacyStoryTag).getD "Story"

/-- The tag of the meta element of the older dialect. -/
def metaTag (f : ScriptFacts) : String :=
  f.legacyMetaTag.getD "Meta"

/-- The meta object of the document. -/
def meta? (f : ScriptFacts) : Option ObjectLiteral :=
  f.metaObject.or f.legacyMetaObject

/-- The component that the stories are about. -/
def component? (f : ScriptFacts) : Option String :=
  f.meta?.bind (·.identifierName? "component")

/-- The tag destructured from a `defineMeta` call, which the newer dialect cannot do without. -/
def requireStoryTag (f : ScriptFacts) (file : String) : Except Failure String :=
  match f.storyTag with
  | some tag => .ok tag
  | .none => .error (.noDestructuredDefineMeta file)

/-- The facts after one import clause of the package. -/
def readClause (file package : String) (f : ScriptFacts) : ImportClause → Except Failure ScriptFacts
  | .named s =>
    match s.imported.text? with
    | some "defineMeta" => .ok { f with defineMetaAlias := some s.binding.name }
    | some "Story" => .ok { f with legacyStoryTag := some s.binding.name }
    | some "Meta" => .ok { f with legacyMetaTag := some s.binding.name }
    | _ => .ok f
  | .defaultExport .. => .error (.defaultOrNamespaceImport file package)
  | .wholeModule .. => .error (.defaultOrNamespaceImport file package)

/-- The facts after an import declaration. -/
def readImport (file package : String) (f : ScriptFacts) (d : ImportDeclaration) :
    Except Failure ScriptFacts :=
  if d.source.text? = some package then d.clauses.foldlM (readClause file package) f else .ok f

/-- Whether an expression calls the imported `defineMeta`. -/
def callsDefineMeta (f : ScriptFacts) (e : Expression) : Bool :=
  f.defineMetaAlias.isSome && e.calleeName? == f.defineMetaAlias

/-- The arguments of a call. -/
def arguments : Expression → List Expression
  | .call _ _ es => es
  | _ => []

/-- The facts after a declarator that is given the result of `defineMeta`. -/
def readDefineMeta (file : String) (f : ScriptFacts) (id : Pattern) (arguments : List Expression) :
    Except Failure ScriptFacts :=
  match id with
  | .object _ members =>
    match arguments.head?.bind (·.object?) with
    | .none => .error (.invalidDefineMetaArgument file)
    | some object =>
      match PatternMember.binding? "Story" members with
      | .none => .error (.noStoryComponentDestructured file)
      | some i => .ok { f with storyTag := some i.name, metaObject := some object }
  | _ => .error (.noDestructuredDefineMeta file)

/-- The facts after a declarator, unless it says nothing. -/
def readDeclarator (file : String) (f : ScriptFacts) (d : Declarator) :
    Option (Except Failure ScriptFacts) :=
  match d.init with
  | some e => if f.callsDefineMeta e then some (f.readDefineMeta file d.id (arguments e)) else .none
  | .none => .none

/-- The object that a declarator binds to `meta`. -/
def exportedMeta? (d : Declarator) : Option ObjectLiteral :=
  if (d.id.identifier?).any (·.name == "meta") then d.init.bind (·.object?) else .none

/-- The facts after an export with a declaration. -/
def readExport (f : ScriptFacts) : Option Statement → ScriptFacts
  | some (.declaration d) =>
    let found := (d.declarators.filterMap exportedMeta?).getLast?
    { f with legacyMetaObject := found.or f.legacyMetaObject }
  | _ => f

/-- The facts after a call. -/
def readCall (f : ScriptFacts) (e : Expression) : ScriptFacts :=
  if e.calleeName? = some "setTemplate" then
    match (arguments e).head?.bind (·.identifier?) with
    | some i => { f with templateSnippet := some i.name }
    | .none => f
  else f

/-- What a visitor does with an answer: keep it and leave out what is below, or stop. -/
def settled (f : ScriptFacts) : Except Failure ScriptFacts → ScriptFacts × Step Unit Failure
  | .ok g => (g, .skip)
  | .error c => (f, .stop c)

/-- What a node says. -/
def visit (file package : String) (_ : Unit) (n : Node) (f : ScriptFacts) :
    ScriptFacts × Step Unit Failure :=
  match n with
  | .fragment _ => (f, .skip)
  | .statement (.imports d) => f.settled (f.readImport file package d)
  | .statement (.namedExport _ s) => (f.readExport s, .descend ())
  | .declarator d =>
    match f.readDeclarator file d with
    | some answer => f.settled answer
    | .none => (f, .descend ())
  | .expression e => (f.readCall e, .descend ())
  | _ => (f, .descend ())

/-- What the scripts of a document say; fails at the first declaration that is not supported. -/
def resolve (file package : String) (r : Root) : Except Failure ScriptFacts :=
  match r.outline.walk (visit file package) () ScriptFacts.none with
  | (f, .none) => .ok f
  | (_, some c) => .error c

end ScriptFacts

end StoryCatalog
