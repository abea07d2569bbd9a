import StoryCatalog.Story.Comments
import StoryCatalog.Story.Identity
import StoryCatalog.Story.RawSource
import StoryCatalog.Story.ScriptFacts

/-!
# Extracting the stories of a document

The markup is walked from the top. A component with the marker tag is a story; nothing inside it is
another story or describes one. The first marker that is not in order fails the whole extraction.
-/

namespace StoryCatalog

/-- How far an extraction has come. -/
structure Extraction where
  comments : CommentCursor
  registry : Registry
  catalog : Catalog

/-- What an extraction depends on. -/
structure ExtractionPlan where
  markerTag : String
  rawSource : RawSource

namespace Extraction

/-- An extraction before the first node. -/
def start (file : String) (hash : HashKind) (unifiesIds : Bool) : Extraction :=
  ⟨.empty, .empty file hash unifiesIds, .empty⟩

/-- The name of the story with a marker. -/
def storyName (file : String) (e : Element) : Except Failure String := do
  match ← e.text? file "name" with
  | some name => pure name
  | none => throw (.missingStoryName file e.span.start)

/-- The catalog with a story and, if there is one, a warning. -/
def record (catalog : Catalog) (story : StoryMeta) (warning : Option Warning) : Catalog :=
  (warning.toList.foldl Catalog.warn catalog).insert story

/-- The extraction after a marker. -/
def readMarker (plan : ExtractionPlan) (x : Extraction) (e : Element) : Except Failure Extraction := do
  let file := plan.rawSource.document.file
  let name ← storyName file e
  let (registry, claim) := x.registry.claimName name
  claim
  let explicitId ← e.text? file "id"
  let (registry, id, warning) := registry.resolveId name explicitId
  let source ← e.source? file
  let (description, comments) := x.comments.take e.span.start
  let rawSource ← plan.rawSource.recover e name
  pure ⟨comments, registry, record x.catalog ⟨id, name, description, source, rawSource⟩ warning⟩

/-- What a node adds to an extraction. -/
def visit (plan : ExtractionPlan) (_ : Unit) (n : Node) (x : Extraction) :
    Extraction × Step Unit Failure :=
  match n with
  | .script _ => (x, .skip)
  | .markup (.comment c) => ({ x with comments := x.comments.track c }, .skip)
  | .markup (.element .component e) =>
    if e.name = plan.markerTag then
      match x.readMarker plan e with
      | .ok y => (y, .skip)
      | .error c => (x, .stop c)
    else (x, .descend ())
  | _ => (x, .descend ())

end Extraction

namespace Document

/-- What the extraction of a document depends on, given what its scripts say. -/
def extractionPlan (d : Document) (facts : ScriptFacts) : ExtractionPlan :=
  ⟨facts.markerTag, ⟨d, facts.templateSnippet, facts.component?, .dedent⟩⟩

/-- The catalog of a document by a plan. -/
def catalogBy (d : Document) (hash : HashKind) (unifiesIds : Bool) (plan : ExtractionPlan) :
    Except Failure Catalog :=
  match d.root.outline.walk (Extraction.visit plan) () (.start d.file hash unifiesIds) with
  | (x, none) => .ok x.catalog
  | (_, some c) => .error c

/-- The stories of a document. -/
def extract (d : Document) (config : Config) : Except Failure Catalog := do
  let facts ← ScriptFacts.resolve d.file config.packageName d.root
  d.catalogBy config.idHash config.unifyIdSets (d.extractionPlan facts)

end Document

end StoryCatalog
