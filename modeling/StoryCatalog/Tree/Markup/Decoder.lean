import StoryCatalog.Tree.Markup
import StoryCatalog.Tree.Script.Decoder

/-!
# Decoding documents

A markup node is an object without broken parts whose `type` names its kind. A node of a kind that is
not modelled is kept as `foreign`; a malformed node of a kind that is modelled is refused, and with it
the whole document. Markup nodes and attributes must give their offsets.
-/

namespace StoryCatalog

open Json

/-! ## Attributes -/

/-- Text with these fields. -/
def TextNode.ofMembers? (ms : Members) : Option TextNode := do
  pure ⟨← Span.required? ms, ← fieldOr "data" "" Json.text? ms⟩

/-- The comment with these fields. -/
def Comment.ofMembers? (ms : Members) : Option Comment := do
  pure ⟨← Span.required? ms, ← fieldOr "data" "" Json.text? ms⟩

/-- The expression tag with these fields. -/
def ExpressionTag.ofMembers? (d : ScriptDecoder) (ms : Members) : Option ExpressionTag := do
  pure ⟨← Span.required? ms, ← field? "expression" d.expression ms⟩

/-- A piece of a quoted attribute value. -/
def AttributeChunk.ofJson? (d : ScriptDecoder) (j : Json) : Option AttributeChunk := do
  let (type, ms) ← tagged? "type" j
  match type with
  | "Text" => (TextNode.ofMembers? ms).map text
  | "ExpressionTag" => (ExpressionTag.ofMembers? d ms).map expression
  | _ => none

/-- The value of an attribute. -/
def AttributeValue.ofJson? (d : ScriptDecoder) : Json → Option AttributeValue
  | .bool b => some (bare b)
  | .object ms => (ExpressionTag.ofMembers? d ms).map expression
  | .array js => (js.mapM (AttributeChunk.ofJson? d)).map sequence
  | _ => none

/-- The plain attribute with these fields. -/
def Attribute.ofMembers? (d : ScriptDecoder) (ms : Members) : Option Attribute := do
  pure ⟨← Span.required? ms, ← field? "name" Json.text? ms,
    ← field? "value" (AttributeValue.ofJson? d) ms⟩

/-- An attribute; one of any other type is a directive. -/
def AttributeNode.ofJson? (d : ScriptDecoder) (j : Json) : Option AttributeNode := do
  let (type, ms) ← tagged? "type" j
  match type with
  | "Attribute" => (Attribute.ofMembers? d ms).map plain
  | "SpreadAttribute" =>
    pure (spread (← Span.required? ms) (← field? "expression" d.expression ms))
  | _ => some directive

/-! ## Markup nodes -/

/-- A fragment, whatever its type says. -/
def Fragment.ofJson? (node : Json → Option MarkupNode) (j : Json) : Option Fragment := do
  pure ⟨← fieldOr "nodes" [] (list? node) (← j.members?)⟩

/-- The element with these fields. -/
def Element.ofMembers? (d : ScriptDecoder) (node : Json → Option MarkupNode) (ms : Members) :
    Option Element := do
  pure ⟨← Span.required? ms, ← field? "name" Json.text? ms,
    ← fieldOr "attributes" [] (list? (AttributeNode.ofJson? d)) ms,
    ← fieldOr "fragment" ⟨[]⟩ (Fragment.ofJson? node) ms⟩

namespace MarkupNode

/-- The kinds of nodes that are modelled, except for elements of the special family. -/
def plainKinds : List String :=
  ["Text", "Comment", "ExpressionTag", "RegularElement", "Component", "IfBlock", "EachBlock",
   "AwaitBlock", "KeyBlock", "SnippetBlock", "RenderTag", "HtmlTag"]

/-- The kinds of elements of the special family. -/
def specialKinds : List String :=
  ["SvelteBody", "SvelteBoundary", "SvelteComponent", "SvelteDocument", "SvelteElement",
   "SvelteFragment", "SvelteHead", "SvelteOptions", "SvelteSelf", "SvelteWindow", "SlotElement",
   "TitleElement"]

/-- Whether nodes of a kind are modelled, so that a malformed one is refused. -/
def isModelled (kind : String) : Bool :=
  plainKinds.contains kind || specialKinds.contains kind

/-- A node of a modelled kind with these fields. -/
def ofKind? (d : ScriptDecoder) (node : Json → Option MarkupNode) (kind : String) (ms : Members) :
    Option MarkupNode :=
  let fragment := Fragment.ofJson? node
  match kind with
  | "Text" => (TextNode.ofMembers? ms).map text
  | "Comment" => (Comment.ofMembers? ms).map comment
  | "ExpressionTag" => (ExpressionTag.ofMembers? d ms).map (tag .expression)
  | "RenderTag" => (ExpressionTag.ofMembers? d ms).map (tag .render)
  | "HtmlTag" => (ExpressionTag.ofMembers? d ms).map (tag .html)
  | "RegularElement" => (Element.ofMembers? d node ms).map (element .regular)
  | "Component" => (Element.ofMembers? d node ms).map (element .component)
  | "IfBlock" => do
    pure (ifBlock (← Span.required? ms) (← field? "test" d.expression ms)
      (← fieldOr "consequent" ⟨[]⟩ fragment ms) (← optional? "alternate" fragment ms))
  | "EachBlock" => do
    pure (eachBlock (← Span.required? ms) (← field? "expression" d.expression ms)
      (← fieldOr "body" ⟨[]⟩ fragment ms) (← optional? "fallback" fragment ms))
  | "AwaitBlock" => do
    pure (awaitBlock (← Span.required? ms) (← field? "expression" d.expression ms)
      (← optional? "pending" fragment ms) (← optional? "then" fragment ms)
      (← optional? "catch" fragment ms))
  | "KeyBlock" => do
    pure (keyBlock (← Span.required? ms) (← field? "expression" d.expression ms)
      (← fieldOr "fragment" ⟨[]⟩ fragment ms))
  | "SnippetBlock" => do
    pure (snippet ⟨← Span.required? ms, ← field? "expression" Identifier.ofJson? ms,
      ← fieldOr "parameters" [] (list? d.pattern) ms, ← fieldOr "body" ⟨[]⟩ fragment ms⟩)
  | _ =>
    if specialKinds.contains kind || kind == "SpecialElement" then
      (Element.ofMembers? d node ms).map (element .special)
    else none

/-- A node, where `node` decodes the nodes inside it. -/
def decode (d : ScriptDecoder) (node : Json → Option MarkupNode) (j : Json) :
    Option MarkupNode := do
  let (kind, ms) ← tagged? "type" j
  match ofKind? d node kind ms with
  | some n => some n
  | none => if isModelled kind then none else (Span.required? ms).map (foreign kind)

/-- A node with a number of levels of nesting. -/
def ofJson? (d : ScriptDecoder) : Nat → Json → Option MarkupNode
  | 0, _ => none
  | fuel + 1, j => decode d (ofJson? d fuel) j

/-- The decoder for the nodes inside a value. -/
def decoderFor (j : Json) : Json → Option MarkupNode :=
  ofJson? (ScriptDecoder.forJson j) j.depth

end MarkupNode

/-- An element of any family, whatever its type says. -/
def Element.ofJson? (j : Json) : Option Element := do
  Element.ofMembers? (ScriptDecoder.forJson j) (MarkupNode.decoderFor j) (← j.members?)

/-! ## Documents -/

/-- When a script runs, by the word for it. -/
def ScriptContext.words : List (String × ScriptContext) :=
  [("default", perInstance), ("module", perModule)]

/-- A script region, whatever its type says. -/
def ScriptBlock.ofJson? (d : ScriptDecoder) (j : Json) : Option ScriptBlock := do
  let ms ← j.members?
  pure ⟨← Span.required? ms, ← fieldOr "context" .perInstance (choice? ScriptContext.words) ms,
    ← field? "content" (fun c => do d.program (← c.members?)) ms⟩

/-- The tree of a document, whatever its type says. It is read from an object with named fields, as trees are handed
over; an array with the fields in their order, which a derived decoder would take as well, is refused here and
everywhere below. -/
def Root.ofJson? (j : Json) : Option Root := do
  let d := ScriptDecoder.forJson j
  let ms ← j.members?
  pure ⟨← Span.required? ms,
    ← fieldOr "fragment" ⟨[]⟩ (Fragment.ofJson? (MarkupNode.decoderFor j)) ms,
    ← optional? "instance" (ScriptBlock.ofJson? d) ms,
    ← optional? "module" (ScriptBlock.ofJson? d) ms⟩

/-- The tree of a document that a text gives as JSON. -/
def Root.parse? (text : String) : Option Root := do
  Root.ofJson? (← Json.parse? text)

end StoryCatalog
