import Mathlib.Logic.Relation
import StoryCatalog.Tree.Markup.Decoder

/-!
# What may be decoded

A value is decoded in a role: as an expression, as a list of markup nodes, as an offset. The role says which fields
of an object count, in which roles their values are decoded in turn, and which of them must be given. So it can be
told of a value without decoding it where it is malformed, if anywhere.

* `Role.parts?`: the values decoded directly inside a value, if that is not malformed itself.
* `Part.WellFormed`: nothing is malformed that is decoded inside a value, at any depth.
* `Part.wellFormed_iff`, `wellFormed_of_record`, `wellFormed_of_tagged`: one level of a value at a time.
-/

namespace StoryCatalog

open Json

/-- What a value is decoded as. -/
inductive Role where
  | offset
  | text
  | flag
  | literalValue
  | context
  | list (item : Role)
  | optional (value : Role)
  | identifier
  | literal
  | quasi
  | quasiText
  | importedName
  | importClause
  | expression
  | pattern
  | statement
  | objectMember
  | patternMember
  | declarator
  | chunk
  | attributeValue
  | attributeNode
  | node
  | fragment
  | program
  | script
  | root

/-- A field that counts in an object. -/
structure Field where
  name : String
  role : Role
  isNeeded : Bool

/-- A value in a role. -/
abbrev Part := Role × Json

namespace Field

/-- A field that must be given. -/
def must (name : String) (role : Role) : Field :=
  ⟨name, role, true⟩

/-- A field that may be left out. -/
def may (name : String) (role : Role) : Field :=
  ⟨name, role, false⟩

/-- What is given under the name of a field: nothing, if it may be left out, or one value. -/
def given? (f : Field) (ms : Members) : Option (List Part) :=
  match member? f.name ms with
  | some (some j) => some [(f.role, j)]
  | some none => if f.isNeeded then none else some []
  | none => none

end Field

/-- What is given in the fields of an object that count. -/
def given? : List Field → Members → Option (List Part)
  | [], _ => some []
  | f :: fields, ms => do
    pure ((← f.given? ms) ++ (← given? fields ms))

/-! ## The fields that count -/

/-- The offsets of a part of a script. -/
def spanFields : List Field :=
  [.may "start" .offset, .may "end" .offset]

/-- The offsets of a part of a document. -/
def placeFields : List Field :=
  [.must "start" .offset, .must "end" .offset]

/-- The fields of an identifier. -/
def identifierFields : List Field :=
  spanFields ++ [.must "name" .text]

/-- The fields of a literal. -/
def literalFields : List Field :=
  spanFields ++ [.may "value" .literalValue]

/-- The fields of a function. -/
def functionFields : List Field :=
  spanFields ++ [.may "id" (.optional .identifier), .may "params" (.list .pattern), .must "body" .statement]

/-- The fields of a spread element. -/
def spreadFields : List Field :=
  spanFields ++ [.must "argument" .expression]

/-- The fields of a rest element. -/
def restFields : List Field :=
  spanFields ++ [.must "argument" .pattern]

/-- The fields of a member with a key and a value in a role. -/
def propertyFields (value : Role) : List Field :=
  spanFields ++ [.must "key" .expression, .must "value" value, .may "computed" .flag, .may "shorthand" .flag]

/-- The fields of a name under which something is exported. -/
def importedNameFields? : String → Option (List Field)
  | "Identifier" => some identifierFields
  | "Literal" => some literalFields
  | _ => none

/-- The fields of a part of an import declaration. -/
def importClauseFields? : String → Option (List Field)
  | "ImportSpecifier" => some (spanFields ++ [.must "imported" .importedName, .must "local" .identifier])
  | "ImportDefaultSpecifier" => some (spanFields ++ [.must "local" .identifier])
  | "ImportNamespaceSpecifier" => some (spanFields ++ [.must "local" .identifier])
  | _ => none

/-- The fields of an expression. -/
def expressionFields : String → List Field
  | "Identifier" => identifierFields
  | "Literal" => literalFields
  | "TemplateLiteral" => spanFields ++ [.may "quasis" (.list .quasi), .may "expressions" (.list .expression)]
  | "ArrayExpression" => spanFields ++ [.may "elements" (.list (.optional .expression))]
  | "ObjectExpression" => spanFields ++ [.may "properties" (.list .objectMember)]
  | "CallExpression" => spanFields ++ [.must "callee" .expression, .may "arguments" (.list .expression)]
  | "MemberExpression" =>
    spanFields ++ [.must "object" .expression, .must "property" .expression, .may "computed" .flag]
  | "FunctionExpression" => functionFields
  | "ArrowFunctionExpression" => functionFields
  | "FunctionDeclaration" => functionFields
  | "SpreadElement" => spreadFields
  | _ => []

/-- The fields of a member of an object literal. -/
def objectMemberFields? : String → Option (List Field)
  | "Property" => some (propertyFields .expression)
  | "SpreadElement" => some spreadFields
  | _ => none

/-- The fields of a pattern. -/
def patternFields : String → List Field
  | "Identifier" => identifierFields
  | "ObjectPattern" => spanFields ++ [.may "properties" (.list .patternMember)]
  | "ArrayPattern" => spanFields ++ [.may "elements" (.list (.optional .pattern))]
  | "AssignmentPattern" => spanFields ++ [.must "left" .pattern, .must "right" .expression]
  | "RestElement" => restFields
  | _ => []

/-- The fields of a member of an object pattern. -/
def patternMemberFields? : String → Option (List Field)
  | "Property" => some (propertyFields .pattern)
  | "RestElement" => some restFields
  | _ => none

/-- The fields of a declarator. -/
def declaratorFields : List Field :=
  spanFields ++ [.must "id" .pattern, .may "init" (.optional .expression)]

/-- The fields of a statement. -/
def statementFields : String → List Field
  | "ImportDeclaration" => spanFields ++ [.may "specifiers" (.list .importClause), .must "source" .literal]
  | "VariableDeclaration" => spanFields ++ [.may "kind" .text, .may "declarations" (.list .declarator)]
  | "ExportNamedDeclaration" => spanFields ++ [.may "declaration" (.optional .statement)]
  | "ExportDefaultDeclaration" => spanFields ++ [.must "declaration" .expression]
  | "FunctionDeclaration" => functionFields
  | "ExpressionStatement" => spanFields ++ [.must "expression" .expression]
  | "BlockStatement" => spanFields ++ [.may "body" (.list .statement)]
  | "ReturnStatement" => spanFields ++ [.may "argument" (.optional .expression)]
  | _ => []

/-- The fields of a text or a comment. -/
def textFields : List Field :=
  placeFields ++ [.may "data" .text]

/-- The fields of an expression in braces. -/
def tagFields : List Field :=
  placeFields ++ [.must "expression" .expression]

/-- The fields of a piece of a quoted attribute value. -/
def chunkFields? : String → Option (List Field)
  | "Text" => some textFields
  | "ExpressionTag" => some tagFields
  | _ => none

/-- The fields of an attribute; those of a directive do not count. -/
def attributeFields : String → List Field
  | "Attribute" => placeFields ++ [.must "name" .text, .must "value" .attributeValue]
  | "SpreadAttribute" => tagFields
  | _ => []

/-- The fields of an element. -/
def elementFields : List Field :=
  placeFields ++ [.must "name" .text, .may "attributes" (.list .attributeNode), .may "fragment" .fragment]

/-- The fields of a markup node. Of one of a kind that is not modelled only the offsets count, and so they do of one
whose kind is that of the special family itself, which is foreign if it is no element. -/
def nodeFields : String → List Field
  | "Text" => textFields
  | "Comment" => textFields
  | "ExpressionTag" => tagFields
  | "RenderTag" => tagFields
  | "HtmlTag" => tagFields
  | "RegularElement" => elementFields
  | "Component" => elementFields
  | "IfBlock" =>
    placeFields ++ [.must "test" .expression, .may "consequent" .fragment, .may "alternate" (.optional .fragment)]
  | "EachBlock" =>
    placeFields ++ [.must "expression" .expression, .may "body" .fragment, .may "fallback" (.optional .fragment)]
  | "AwaitBlock" =>
    placeFields ++ [.must "expression" .expression, .may "pending" (.optional .fragment),
      .may "then" (.optional .fragment), .may "catch" (.optional .fragment)]
  | "KeyBlock" => placeFields ++ [.must "expression" .expression, .may "fragment" .fragment]
  | "SnippetBlock" =>
    placeFields ++ [.must "expression" .identifier, .may "parameters" (.list .pattern), .may "body" .fragment]
  | kind => if MarkupNode.specialKinds.contains kind then elementFields else placeFields

/-! ## What is decoded inside a value -/

/-- Nothing is decoded inside a value that is read in one piece. -/
def pieceParts? {α : Type} (read : Option α) : Option (List Part) :=
  read.map fun _ => []

/-- What is decoded inside an object, whatever its type says. -/
def recordParts? (fields : List Field) (j : Json) : Option (List Part) := do
  given? fields (← j.members?)

/-- What is decoded inside an object whose type says which fields count. -/
def taggedParts? (fields? : String → Option (List Field)) (j : Json) : Option (List Part) := do
  let (type, ms) ← tagged? "type" j
  given? (← fields? type) ms

/-- **What is decoded directly inside a value**, or nothing if the value is malformed itself. -/
def Role.parts? : Role → Json → Option (List Part)
  | offset, j => pieceParts? j.nat?
  | text, j => pieceParts? j.text?
  | flag, j => pieceParts? j.flag?
  | literalValue, _ => some []
  | context, j => pieceParts? (choice? ScriptContext.words j)
  | list item, j => j.items?.map (·.map (item, ·))
  | optional _, .null => some []
  | optional value, j => some [(value, j)]
  | identifier, j => recordParts? identifierFields j
  | literal, j => recordParts? literalFields j
  | quasi, j => recordParts? [.must "value" .quasiText] j
  | quasiText, j => recordParts? [.may "cooked" (.optional .text)] j
  | importedName, j => taggedParts? importedNameFields? j
  | importClause, j => taggedParts? importClauseFields? j
  | expression, j => taggedParts? (some ∘ expressionFields) j
  | pattern, j => taggedParts? (some ∘ patternFields) j
  | statement, j => taggedParts? (some ∘ statementFields) j
  | objectMember, j => taggedParts? objectMemberFields? j
  | patternMember, j => taggedParts? patternMemberFields? j
  | declarator, j => recordParts? declaratorFields j
  | chunk, j => taggedParts? chunkFields? j
  | attributeValue, .bool _ => some []
  | attributeValue, .object ms => given? tagFields ms
  | attributeValue, .array js => some (js.map (chunk, ·))
  | attributeValue, _ => none
  | attributeNode, j => taggedParts? (some ∘ attributeFields) j
  | node, j => taggedParts? (some ∘ nodeFields) j
  | fragment, j => recordParts? [.may "nodes" (.list .node)] j
  | program, j => recordParts? (spanFields ++ [.may "body" (.list .statement)]) j
  | script, j => recordParts? (placeFields ++ [.may "context" .context, .must "content" .program]) j
  | root, j => recordParts? (placeFields ++ [.may "fragment" .fragment, .may "instance" (.optional .script),
      .may "module" (.optional .script)]) j

namespace Part

/-- A value cannot be decoded in its role, whatever is inside it. -/
def Malformed (x : Part) : Prop :=
  x.1.parts? x.2 = none

/-- A value is decoded directly inside another. -/
def Holds (x y : Part) : Prop :=
  ∃ ps, x.1.parts? x.2 = some ps ∧ y ∈ ps

/-- A value is decoded inside another, at any depth. -/
def Inside : Part → Part → Prop :=
  Relation.ReflTransGen Holds

/-- Neither a value nor anything decoded inside it is malformed. -/
def WellFormed (x : Part) : Prop :=
  ∀ y, Inside x y → ¬ Malformed y

/-- **One level of a value**: it is well-formed if it is not malformed itself and what is decoded directly inside it
is well-formed. -/
theorem wellFormed_iff {x : Part} : x.WellFormed ↔ ∃ ps, x.1.parts? x.2 = some ps ∧ ∀ y ∈ ps, WellFormed y := by
  constructor
  · intro h
    obtain ⟨ps, hps⟩ := Option.ne_none_iff_exists'.mp (h x .refl)
    exact ⟨ps, hps, fun y hy z hz => h z (.head ⟨ps, hps, hy⟩ hz)⟩
  · rintro ⟨ps, hps, h⟩ z hz
    rcases Relation.ReflTransGen.cases_head hz with rfl | ⟨y, ⟨ps', hps', hy⟩, hz⟩
    · rw [Malformed, hps]
      exact Option.some_ne_none _
    · cases hps.symm.trans hps'
      exact h y hy z hz

end Part

/-! ## Fields -/

/-- What is given under the name of a field is well-formed. -/
def Field.Fits (f : Field) (ms : Members) : Prop :=
  ∃ ps, f.given? ms = some ps ∧ ∀ y ∈ ps, y.WellFormed

/-- What is given in the fields of an object that count is well-formed. -/
def Fit (fields : List Field) (ms : Members) : Prop :=
  ∀ f ∈ fields, f.Fits ms

section

variable {ms : Members}

@[simp] theorem fit_nil : Fit [] ms :=
  fun _ hf => nomatch hf

@[simp] theorem fit_cons {f : Field} {fields : List Field} : Fit (f :: fields) ms ↔ f.Fits ms ∧ Fit fields ms :=
  List.forall_mem_cons

@[simp] theorem fit_append {fields more : List Field} : Fit (fields ++ more) ms ↔ Fit fields ms ∧ Fit more ms :=
  List.forall_mem_append

/-- All that is given is well-formed, told at once. -/
theorem fit_iff {fields : List Field} :
    Fit fields ms ↔ ∃ ps, given? fields ms = some ps ∧ ∀ y ∈ ps, y.WellFormed := by
  induction fields with
  | nil =>
    refine iff_of_true fit_nil ⟨[], rfl, fun y hy => ?_⟩
    cases hy
  | cons f fields ih =>
    rw [fit_cons, ih]
    constructor
    · rintro ⟨⟨ps, hps, hwf⟩, qs, hqs, hwf'⟩
      refine ⟨ps ++ qs, ?_, List.forall_mem_append.mpr ⟨hwf, hwf'⟩⟩
      rw [given?, hps, hqs]
      rfl
    · rintro ⟨rs, hrs, hwf⟩
      rw [given?] at hrs
      obtain ⟨ps, hps, hrs⟩ := Option.bind_eq_some_iff.mp hrs
      obtain ⟨qs, hqs, hrs⟩ := Option.bind_eq_some_iff.mp hrs
      cases hrs
      obtain ⟨hwf, hwf'⟩ := List.forall_mem_append.mp hwf
      exact ⟨⟨ps, hps, hwf⟩, qs, hqs, hwf'⟩

theorem must_fits {name : String} {role : Role} :
    (Field.must name role).Fits ms ↔ ∃ j, member? name ms = some (some j) ∧ Part.WellFormed (role, j) := by
  simp only [Field.Fits, Field.given?, Field.must]
  rcases member? name ms with _ | _ | j <;> simp

theorem may_fits {name : String} {role : Role} :
    (Field.may name role).Fits ms ↔ ∃ o, member? name ms = some o ∧ ∀ j ∈ o, Part.WellFormed (role, j) := by
  simp only [Field.Fits, Field.given?, Field.may]
  rcases member? name ms with _ | _ | j <;> simp

end

/-! ## Values, one level at a time -/

section

variable {role : Role} {j : Json}

/-- A value that is read in one piece is well-formed if it can be read. -/
theorem wellFormed_of_piece {α : Type} {read : Option α} (h : role.parts? j = pieceParts? read) :
    Part.WellFormed (role, j) ↔ read.isSome := by
  rw [Part.wellFormed_iff, h]
  cases read <;> simp [pieceParts?]

/-- An object is well-formed in a role if its fields are that count. -/
theorem wellFormed_of_record {fields : List Field} (h : role.parts? j = recordParts? fields j) :
    Part.WellFormed (role, j) ↔ ∃ ms, j = .object ms ∧ Fit fields ms := by
  rw [Part.wellFormed_iff, h, recordParts?]
  cases j with
  | object ms => simp [members?, fit_iff]
  | _ => simp [members?]

/-- An object with a type is well-formed if the fields are that count for this type. -/
theorem wellFormed_of_tagged {fields? : String → Option (List Field)} (h : role.parts? j = taggedParts? fields? j) :
    Part.WellFormed (role, j) ↔
      ∃ type ms, tagged? "type" j = some (type, ms) ∧ ∃ fields, fields? type = some fields ∧ Fit fields ms := by
  rw [Part.wellFormed_iff, h, taggedParts?]
  simp only [fit_iff]
  constructor
  · rintro ⟨ps, hps, hwf⟩
    obtain ⟨⟨type, ms⟩, htype, hps⟩ := Option.bind_eq_some_iff.mp hps
    obtain ⟨fields, hfields, hps⟩ := Option.bind_eq_some_iff.mp hps
    exact ⟨type, ms, htype, fields, hfields, ps, hps, hwf⟩
  · rintro ⟨type, ms, htype, fields, hfields, ps, hps, hwf⟩
    refine ⟨ps, ?_, hwf⟩
    rw [htype, Option.bind_eq_bind, Option.bind_some, hfields]
    exact hps

/-- A list is well-formed if its items are. -/
theorem wellFormed_list :
    Part.WellFormed (.list role, j) ↔ ∃ js, j = .array js ∧ ∀ i ∈ js, Part.WellFormed (role, i) := by
  rw [Part.wellFormed_iff]
  cases j with
  | array js =>
    have hparts : (Role.list role).parts? (.array js) = some (js.map (role, ·)) := rfl
    rw [hparts]
    constructor
    · rintro ⟨ps, hps, hwf⟩
      cases hps
      exact ⟨js, rfl, List.forall_mem_map.mp hwf⟩
    · rintro ⟨is, his, hwf⟩
      cases his
      exact ⟨_, rfl, List.forall_mem_map.mpr hwf⟩
  | _ => simp [Role.parts?, items?]

/-- What may be `null` is well-formed if it is, or if it is well-formed without that. -/
theorem wellFormed_optional : Part.WellFormed (.optional role, j) ↔ j = .null ∨ Part.WellFormed (role, j) := by
  rw [Part.wellFormed_iff]
  cases j <;> simp [Role.parts?]

end

end StoryCatalog
