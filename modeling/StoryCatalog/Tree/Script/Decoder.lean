import StoryCatalog.Json.Reader
import StoryCatalog.Tree.Script

/-!
# Decoding scripts

A statement, expression or pattern is an object whose `type` names the construct; it must have no
broken part, and a type that is not known makes it `unknown`, whatever else it holds. Members of an
unknown type are refused, and so are the clauses of an import. Spans may be left out.

The decoders of the constructs that contain one another are built in steps: each step decodes one more
level of nesting, and a value is decoded with as many steps as it has levels.
-/

namespace StoryCatalog

open Json

/-! ## Parts without nesting -/

/-- The identifier with these fields. -/
def Identifier.ofMembers? (ms : Members) : Option Identifier := do
  pure ⟨← Span.ofMembers? ms, ← field? "name" Json.text? ms⟩

/-- An identifier, whatever its type says. -/
def Identifier.ofJson? (j : Json) : Option Identifier := do
  Identifier.ofMembers? (← j.members?)

/-- The value of a literal. -/
def LiteralValue.ofJson : Json → LiteralValue
  | .string s => text s
  | .bool b => flag b
  | .number n => number n.toFloat
  | j => other j.settle

/-- The literal with these fields; one without value is `null`. -/
def Literal.ofMembers? (ms : Members) : Option Literal := do
  pure ⟨← Span.ofMembers? ms, ← fieldOr "value" (.other .null) (some ∘ LiteralValue.ofJson) ms⟩

/-- A literal, whatever its type says. -/
def Literal.ofJson? (j : Json) : Option Literal := do
  Literal.ofMembers? (← j.members?)

/-- The text around the substitutions of a template. -/
def quasi? (j : Json) : Option (Option String) := do
  let ms ← j.members?
  field? "value" (fun v => do optional? "cooked" Json.text? (← v.members?)) ms

/-- The name under which something is exported. -/
def ImportedName.ofJson? (j : Json) : Option ImportedName := do
  let (type, ms) ← tagged? "type" j
  match type with
  | "Identifier" => (Identifier.ofMembers? ms).map identifier
  | "Literal" => (Literal.ofMembers? ms).map literal
  | _ => none

/-- A part of an import declaration. -/
def ImportClause.ofJson? (j : Json) : Option ImportClause := do
  let (type, ms) ← tagged? "type" j
  match type with
  | "ImportSpecifier" =>
    pure (named ⟨← Span.ofMembers? ms, ← field? "imported" ImportedName.ofJson? ms,
      ← field? "local" Identifier.ofJson? ms⟩)
  | "ImportDefaultSpecifier" =>
    pure (defaultExport (← Span.ofMembers? ms) (← field? "local" Identifier.ofJson? ms))
  | "ImportNamespaceSpecifier" =>
    pure (wholeModule (← Span.ofMembers? ms) (← field? "local" Identifier.ofJson? ms))
  | _ => none

/-- The import declaration with these fields. -/
def ImportDeclaration.ofMembers? (ms : Members) : Option ImportDeclaration := do
  pure ⟨← Span.ofMembers? ms, ← fieldOr "specifiers" [] (list? ImportClause.ofJson?) ms,
    ← field? "source" Literal.ofJson? ms⟩

/-! ## Parts that contain one another -/

/-- Decoders of the parts that contain one another. -/
structure ScriptDecoder where
  expression : Json → Option Expression
  pattern : Json → Option Pattern
  statement : Json → Option Statement

namespace ScriptDecoder

variable (d : ScriptDecoder)

/-- The function with these fields. -/
def function (ms : Members) : Option Function := do
  pure ⟨← Span.ofMembers? ms, ← optional? "id" Identifier.ofJson? ms,
    ← fieldOr "params" [] (list? d.pattern) ms, ← field? "body" d.statement ms⟩

/-- A spread element with these fields, as its span and its argument. -/
def spread (ms : Members) : Option (Span × Expression) := do
  pure (← Span.ofMembers? ms, ← field? "argument" d.expression ms)

/-- A rest element with these fields, as its span and its argument. -/
def rest (ms : Members) : Option (Span × Pattern) := do
  pure (← Span.ofMembers? ms, ← field? "argument" d.pattern ms)

/-- A member of an object literal. -/
def objectMember (j : Json) : Option ObjectMember := do
  let (type, ms) ← tagged? "type" j
  match type with
  | "Property" =>
    pure (.property (← Span.ofMembers? ms) (← field? "key" d.expression ms)
      (← field? "value" d.expression ms) (← fieldOr "computed" false flag? ms)
      (← fieldOr "shorthand" false flag? ms))
  | "SpreadElement" => (d.spread ms).map fun (span, e) => .spread span e
  | _ => none

/-- The object literal with these fields. -/
def object (ms : Members) : Option ObjectLiteral := do
  pure ⟨← Span.ofMembers? ms, ← fieldOr "properties" [] (list? d.objectMember) ms⟩

/-- A member of an object pattern. -/
def patternMember (j : Json) : Option PatternMember := do
  let (type, ms) ← tagged? "type" j
  match type with
  | "Property" =>
    pure (.property (← Span.ofMembers? ms) (← field? "key" d.expression ms)
      (← field? "value" d.pattern ms) (← fieldOr "computed" false flag? ms)
      (← fieldOr "shorthand" false flag? ms))
  | "RestElement" => (d.rest ms).map fun (span, p) => .rest span p
  | _ => none

/-- A declarator, whatever its type says. -/
def declarator (j : Json) : Option Declarator := do
  let ms ← j.members?
  pure ⟨← Span.ofMembers? ms, ← field? "id" d.pattern ms, ← optional? "init" d.expression ms⟩

/-- An expression of a known type with these fields; any other type makes it unknown. -/
def expressionOfType (type : String) (ms : Members) : Option Expression :=
  match type with
  | "Identifier" => (Identifier.ofMembers? ms).map .identifier
  | "Literal" => (Literal.ofMembers? ms).map .literal
  | "TemplateLiteral" => do
    pure (.template (← Span.ofMembers? ms) (← fieldOr "quasis" [] (list? quasi?) ms)
      (← fieldOr "expressions" [] (list? d.expression) ms))
  | "ArrayExpression" => do
    pure (.array (← Span.ofMembers? ms)
      (← fieldOr "elements" [] (list? (nullable? d.expression)) ms))
  | "ObjectExpression" => (d.object ms).map .object
  | "CallExpression" => do
    pure (.call (← Span.ofMembers? ms) (← field? "callee" d.expression ms)
      (← fieldOr "arguments" [] (list? d.expression) ms))
  | "MemberExpression" => do
    pure (.member (← Span.ofMembers? ms) (← field? "object" d.expression ms)
      (← field? "property" d.expression ms) (← fieldOr "computed" false flag? ms))
  | "FunctionExpression" => (d.function ms).map (.function .expression)
  | "ArrowFunctionExpression" => (d.function ms).map (.function .arrow)
  | "FunctionDeclaration" => (d.function ms).map (.function .declaration)
  | "SpreadElement" => (d.spread ms).map fun (span, e) => .spread span e
  | _ => some .unknown

/-- A pattern of a known type with these fields; any other type makes it unknown. -/
def patternOfType (type : String) (ms : Members) : Option Pattern :=
  match type with
  | "Identifier" => (Identifier.ofMembers? ms).map .identifier
  | "ObjectPattern" => do
    pure (.object (← Span.ofMembers? ms) (← fieldOr "properties" [] (list? d.patternMember) ms))
  | "ArrayPattern" => do
    pure (.array (← Span.ofMembers? ms)
      (← fieldOr "elements" [] (list? (nullable? d.pattern)) ms))
  | "AssignmentPattern" => do
    pure (.assignment (← Span.ofMembers? ms) (← field? "left" d.pattern ms)
      (← field? "right" d.expression ms))
  | "RestElement" => (d.rest ms).map fun (span, p) => .rest span p
  | _ => some .unknown

/-- A statement of a known type with these fields; any other type makes it unknown. -/
def statementOfType (type : String) (ms : Members) : Option Statement :=
  match type with
  | "ImportDeclaration" => (ImportDeclaration.ofMembers? ms).map .imports
  | "VariableDeclaration" => do
    pure (.declaration ⟨← Span.ofMembers? ms, ← fieldOr "kind" "" Json.text? ms,
      ← fieldOr "declarations" [] (list? d.declarator) ms⟩)
  | "ExportNamedDeclaration" => do
    pure (.namedExport (← Span.ofMembers? ms) (← optional? "declaration" d.statement ms))
  | "ExportDefaultDeclaration" => do
    pure (.defaultExport ⟨← Span.ofMembers? ms, ← field? "declaration" d.expression ms⟩)
  | "FunctionDeclaration" => (d.function ms).map .function
  | "ExpressionStatement" => do
    pure (.expression (← Span.ofMembers? ms) (← field? "expression" d.expression ms))
  | "BlockStatement" => do
    pure (.block (← Span.ofMembers? ms) (← fieldOr "body" [] (list? d.statement) ms))
  | "ReturnStatement" => do
    pure (.returns (← Span.ofMembers? ms) (← optional? "argument" d.expression ms))
  | _ => some .unknown

/-- The decoders of one more level of nesting. -/
def step : ScriptDecoder where
  expression j := do
    let (type, ms) ← tagged? "type" j
    d.expressionOfType type ms
  pattern j := do
    let (type, ms) ← tagged? "type" j
    d.patternOfType type ms
  statement j := do
    let (type, ms) ← tagged? "type" j
    d.statementOfType type ms

/-- The decoders of a number of levels. -/
def ofFuel : Nat → ScriptDecoder
  | 0 => ⟨fun _ => none, fun _ => none, fun _ => none⟩
  | n + 1 => (ofFuel n).step

/-- The program with these fields. -/
def program (ms : Members) : Option Program := do
  pure ⟨← Span.ofMembers? ms, ← fieldOr "body" [] (list? d.statement) ms⟩

/-- The decoders for the parts of a value. -/
def forJson (j : Json) : ScriptDecoder :=
  ofFuel j.depth

end ScriptDecoder

/-- A program, whatever its type says. It is read from an object with named fields, as trees are handed over; an array
with the fields in their order, which a derived decoder would take as well, is refused here and everywhere below. -/
def Program.ofJson? (j : Json) : Option Program := do
  (ScriptDecoder.forJson j).program (← j.members?)

/-- The program that a text gives as JSON. -/
def Program.parse? (text : String) : Option Program := do
  Program.ofJson? (← Json.parse? text)

/-- An object literal, whatever its type says. -/
def ObjectLiteral.ofJson? (j : Json) : Option ObjectLiteral := do
  (ScriptDecoder.forJson j).object (← j.members?)

end StoryCatalog
