import StoryCatalog.Tree.Span

/-!
# Failures

A pass over a document or a compiled module either answers or fails. A failure says why, and names the
file that the pass was given; so does its message.
-/

namespace StoryCatalog

/-- How a failure is surfaced: a construct is missing or malformed, two stories have one identity, or
something that is referred to is not found. -/
inductive Category where
  | schema
  | identity
  | locator
deriving DecidableEq, Repr

/-- What is looked for in a compiled module. -/
inductive CompiledNode where
  | defineMetaImport
  | defineMetaDeclaration
  | exportDefault
  | storyIdentifier
  | storiesFunction
deriving DecidableEq, Repr

/-- A description of what is looked for in a compiled module. -/
def CompiledNode.description : CompiledNode → String
  | defineMetaImport => "the `defineMeta` import specifier"
  | defineMetaDeclaration => "the destructured `defineMeta` variable declaration"
  | exportDefault => "the default export"
  | storyIdentifier => "the destructured `Story` identifier"
  | storiesFunction => "the generated stories component function"

/-- The shape that a static value should have. -/
inductive Shape where
  | string
  | boolean
  | stringArray
  | booleanOrString
deriving DecidableEq, Repr

/-- A description of a shape. -/
def Shape.description : Shape → String
  | string => "a static string"
  | boolean => "a static boolean"
  | stringArray => "a static array of strings"
  | booleanOrString => "a static boolean or string"

/-- Why a pass over a document or a compiled module fails, and the file that it was given. -/
inductive Failure where
  | missingModuleTag (file : String)
  | defaultOrNamespaceImport (file package : String)
  | noDestructuredDefineMeta (file : String)
  | noStoryComponentDestructured (file : String)
  | invalidDefineMetaArgument (file : String)
  | missingStoryName (file : String) (offset : Nat)
  | missingStoryIdentity (file : String) (offset : Nat)
  | duplicateStoryName (file name : String)
  | duplicateExportName (file exportName : String)
  | invalidExportName (file name : String)
  | invalidAttribute (file attr : String) (expected : Shape)
  | invalidMetaProperty (file property : String) (expected : Shape)
  | arrayElementNotString (file name : String) (index : Nat)
  | snippetNotFound (file snippet story : String)
  | spanOutOfBounds (file : String) (span : Span)
  | compiledNodeNotFound (file : String) (node : CompiledNode)
  | compiledParse (file reason : String)
deriving DecidableEq, Repr

namespace Failure

/-- The category of a failure. -/
def category : Failure → Category
  | duplicateStoryName .. => .identity
  | duplicateExportName .. => .identity
  | snippetNotFound .. => .locator
  | compiledNodeNotFound .. => .locator
  | compiledParse .. => .locator
  | _ => .schema

/-- The file that a failure names. -/
def file : Failure → String
  | missingModuleTag file | defaultOrNamespaceImport file _ | noDestructuredDefineMeta file
  | noStoryComponentDestructured file | invalidDefineMetaArgument file | missingStoryName file _
  | missingStoryIdentity file _ | duplicateStoryName file _ | duplicateExportName file _
  | invalidExportName file _ | invalidAttribute file _ _ | invalidMetaProperty file _ _
  | arrayElementNotString file _ _ | snippetNotFound file _ _ | spanOutOfBounds file _
  | compiledNodeNotFound file _ | compiledParse file _ => file

/-- The message about a failure. -/
def message : Failure → String
  | missingModuleTag file =>
    s!"Missing module tag in '{file}': stories files must declare `defineMeta` inside <script module>"
  | defaultOrNamespaceImport file package =>
    s!"Default or namespace import of '{package}' used in '{file}': only named imports are supported"
  | noDestructuredDefineMeta file =>
    s!"No destructured `defineMeta` call found in '{file}': expected " ++
      "`const \x7b Story \x7d = defineMeta(\x7b ... \x7d)`"
  | noStoryComponentDestructured file =>
    s!"`defineMeta` call in '{file}' does not destructure a `Story` component"
  | invalidDefineMetaArgument file =>
    s!"First argument of `defineMeta` in '{file}' must be an object literal"
  | missingStoryName file offset => s!"Story at offset {offset} in '{file}' has no `name` attribute"
  | missingStoryIdentity file offset =>
    s!"Story at offset {offset} in '{file}' has neither `name` nor `exportName`"
  | duplicateStoryName file name => s!"Duplicate story name '{name}' in '{file}'"
  | duplicateExportName file exportName => s!"Duplicate story export name '{exportName}' in '{file}'"
  | invalidExportName file name =>
    s!"Story name '{name}' in '{file}' cannot be turned into an export name"
  | invalidAttribute file attr expected =>
    s!"Attribute `{attr}` in '{file}' must be {expected.description}"
  | invalidMetaProperty file property expected =>
    s!"Meta property `{property}` in '{file}' must be {expected.description}"
  | arrayElementNotString file name index =>
    s!"Element {index} of `{name}` in '{file}' is not a static string"
  | snippetNotFound file snippet story =>
    s!"Snippet block `{snippet}` used by story '{story}' not found in '{file}'"
  | spanOutOfBounds file span =>
    s!"Source range {span.start}..{span.stop} does not index into '{file}'"
  | compiledNodeNotFound file node =>
    s!"Could not find {node.description} in compiled output of '{file}'"
  | compiledParse file reason => s!"Failed to parse compiled output of '{file}': {reason}"

end Failure

end StoryCatalog
