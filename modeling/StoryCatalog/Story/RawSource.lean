import StoryCatalog.Story.Document
import StoryCatalog.Story.Static
import StoryCatalog.Text.Layout
import StoryCatalog.Tree.Outline

/-!
# The source of a story

The source of a story is the text between the tags of its marker, or of the snippet that stands in for
it. A marker that closes itself shows the snippet its `children` attribute names, else the template
snippet of the document, else a placeholder with the component. Any other marker shows its own snippet
`children`, else its content. A body without nodes has no source.
-/

namespace StoryCatalog

/-- How a recovered text is brought into shape. -/
inductive Normalization where
  | dedent
  | singleLine
deriving DecidableEq, Repr

/-- A text in shape. -/
def Normalization.apply : Normalization → String → String
  | dedent => Text.onText Text.dedent
  | singleLine => Text.onText Text.oneLine

/-- What the source of a story depends on besides its marker. -/
structure RawSource where
  document : Document
  /-- The snippet that stands in for stories without content. -/
  templateSnippet : Option String
  /-- The component that the stories are about. -/
  component : Option String
  normalization : Normalization

namespace RawSource

variable (r : RawSource)

/-- The snippets of a document, in preorder. -/
def snippets (f : Fragment) : List Snippet :=
  (f.outline.collect (·.kind = .snippetBlock)).filterMap fun
    | .markup (.snippet s) => some s
    | _ => none

/-- The first snippet of the document with a name. -/
def findSnippet (name story : String) : Except Failure Snippet :=
  match (snippets r.document.root.fragment).find? (·.name == name) with
  | some s => .ok s
  | none => .error (.snippetNotFound r.document.file name story)

/-- The source of a fragment, if it has any nodes. -/
def body (f : Fragment) : Except Failure (Option String) :=
  match f.contentSpan with
  | none => .ok none
  | some span => (r.document.text span).map fun s => some (r.normalization.apply s)

/-- The placeholder for a story that only passes its arguments on. -/
def placeholder : String :=
  "<" ++ r.component.getD "UnknownComponent" ++ " \x7b...args\x7d />"

/-- The snippet `children` directly inside a fragment. -/
def inlineChildren? (f : Fragment) : Option Snippet :=
  (f.nodes.filterMap (·.snippet?)).find? (·.name == "children")

/-- The snippet that stands in for the content of a marker that closes itself. -/
def standIn? (e : Element) : Option String :=
  e.childrenSnippet?.or r.templateSnippet

/-- The source of the story with a marker. -/
def recover (e : Element) (story : String) : Except Failure (Option String) := do
  if ← r.document.isSelfClosing e then
    match r.standIn? e with
    | some name => r.body (← r.findSnippet name story).body
    | none => pure (some r.placeholder)
  else
    match inlineChildren? e.fragment with
    | some s => r.body s.body
    | none => r.body e.fragment

end RawSource

end StoryCatalog
