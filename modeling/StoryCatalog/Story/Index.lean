import StoryCatalog.Name.Export
import StoryCatalog.Story.Identity
import StoryCatalog.Story.RawSource
import StoryCatalog.Story.ScriptFacts

/-!
# Indexing the stories of a document

The index needs less of each story than the catalog: its display name and export name, either of which
may be derived from the other, its tags and, if asked for, its source on one line. In the older dialect
a meta element overrides the title and the tags of the meta object.
-/

namespace StoryCatalog

/-- How far an index has come. -/
structure Indexing where
  registry : Registry
  info : IndexedMeta
  /-- The stories so far, the latest first. -/
  stories : List IndexedStory

/-- What an index depends on. -/
structure IndexPlan where
  file : String
  markerTag : String
  /-- The tag of the meta element, if such elements are recognized. -/
  metaTag : Option String
  /-- How the source of a story is recovered, if it is. -/
  rawSource : Option RawSource

namespace Indexing

/-- An index before the first marker. -/
def start (file : String) (info : IndexedMeta) : Indexing :=
  ⟨.empty file .fold false, info, []⟩

/-- The export name and the display name of a story, given at least one of them. -/
def names (file : String) (offset : Nat) :
    Option String → Option String → Except Failure (String × String)
  | some exportName, some name => .ok (exportName, name)
  | some exportName, none => .ok (exportName, Text.onText Name.displayName exportName)
  | none, some name =>
    match Name.exportName? name.toList with
    | some cs => .ok (String.ofList cs, name)
    | none => .error (.invalidExportName file name)
  | none, none => .error (.missingStoryIdentity file offset)

/-- The source of a story, if sources are asked for. -/
def sourceOf (plan : IndexPlan) (e : Element) (name : String) : Except Failure (Option String) :=
  match plan.rawSource with
  | some r => r.recover e name
  | none => .ok none

/-- The index after a marker. -/
def readMarker (plan : IndexPlan) (x : Indexing) (e : Element) : Except Failure Indexing := do
  let givenExportName ← e.text? plan.file "exportName"
  let givenName ← e.text? plan.file "name"
  let (exportName, name) ← names plan.file e.span.start givenExportName givenName
  let (registry, claim) := x.registry.claimExportName exportName
  claim
  let (registry, claim) := registry.claimName name
  claim
  let tags ← e.texts? plan.file "tags"
  let rawSource ← sourceOf plan e name
  pure ⟨registry, x.info, ⟨exportName, name, tags.getD [], rawSource⟩ :: x.stories⟩

/-- The index after a meta element: a title or tags that it gives replace the earlier ones. -/
def readMeta (plan : IndexPlan) (x : Indexing) (e : Element) : Except Failure Indexing := do
  let title ← e.text? plan.file "title"
  let tags ← e.texts? plan.file "tags"
  pure { x with info := ⟨title.or x.info.title, tags.or x.info.tags⟩ }

/-- What a visitor does with an answer: keep it and leave out what is below, or stop. -/
def settled (x : Indexing) : Except Failure Indexing → Indexing × Step Unit Failure
  | .ok y => (y, .skip)
  | .error c => (x, .stop c)

/-- What a node adds to an index. -/
def visit (plan : IndexPlan) (_ : Unit) (n : Node) (x : Indexing) : Indexing × Step Unit Failure :=
  match n with
  | .script _ => (x, .skip)
  | .markup (.element .component e) =>
    if e.name = plan.markerTag then x.settled (x.readMarker plan e)
    else if plan.metaTag = some e.name then x.settled (x.readMeta plan e)
    else (x, .descend ())
  | _ => (x, .descend ())

end Indexing

/-- The title and tags of a meta object. -/
def IndexedMeta.ofObject (file : String) : Option ObjectLiteral → Except Failure IndexedMeta
  | none => .ok ⟨none, none⟩
  | some o => do
    let title ← o.text? file "title"
    let tags ← o.texts? file "tags"
    pure ⟨title, tags⟩

namespace Document

/-- The tag of the markers that an index lists. -/
def indexTag (d : Document) (options : IndexOptions) (facts : ScriptFacts) : Except Failure String :=
  if options.legacyTemplate then .ok facts.markerTag else facts.requireStoryTag d.file

/-- What the index of a document depends on, given what its scripts say. -/
def indexPlan (d : Document) (options : IndexOptions) (facts : ScriptFacts) (markerTag : String) :
    IndexPlan :=
  ⟨d.file, markerTag, if options.legacyTemplate then some facts.metaTag else none,
    if options.includeRawSource then
      some ⟨d, facts.templateSnippet, facts.component?, .singleLine⟩
    else none⟩

/-- The index of a document by a plan, starting with the title and tags of its meta object. -/
def indexBy (d : Document) (plan : IndexPlan) (info : IndexedMeta) : Except Failure StoryIndex :=
  match d.root.outline.walk (Indexing.visit plan) () (.start d.file info) with
  | (x, none) => .ok ⟨x.info, x.stories.reverse⟩
  | (_, some c) => .error c

/-- The index of a document. -/
def index (d : Document) (options : IndexOptions) : Except Failure StoryIndex := do
  if !options.legacyTemplate && d.root.moduleScript.isNone then throw (.missingModuleTag d.file)
  let facts ← ScriptFacts.resolve d.file options.packageName d.root
  let markerTag ← d.indexTag options facts
  let info ← IndexedMeta.ofObject d.file facts.meta?
  d.indexBy (d.indexPlan options facts markerTag) info

end Document

end StoryCatalog
