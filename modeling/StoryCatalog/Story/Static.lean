import StoryCatalog.Story.Catalog
import StoryCatalog.Story.Failure
import StoryCatalog.Tree.Markup

/-!
# Static values

A static value is what can be read off a tree without running it: texts, truth values and arrays of
such. Attributes and the properties of a meta object are read through it. A reader answers `none` if
there is no value, and fails if the value has another shape; nothing is converted.

* `StaticValue.texts_eq_ok_iff`: an array reads as a list of strings exactly if each of its
  elements is one.
-/

namespace StoryCatalog

/-- What is known of a value without running anything. -/
inductive StaticValue where
  | text (s : String)
  | flag (b : Bool)
  | array (items : List StaticValue)
  | dynamic
  | absent

namespace StaticValue

mutual

/-- The static value of an expression. -/
def ofExpression : Expression → StaticValue
  | .literal ⟨_, .text s⟩ => text s
  | .literal ⟨_, .flag b⟩ => flag b
  | .template _ [some s] [] => text s
  | .array _ elements => array (ofElements elements)
  | _ => dynamic

/-- The static values of the elements of an array; that of a hole is absent. -/
def ofElements : List (Option Expression) → List StaticValue
  | [] => []
  | none :: es => absent :: ofElements es
  | some e :: es => ofExpression e :: ofElements es

end

/-- The static value of an attribute. -/
def ofAttribute : AttributeValue → StaticValue
  | .bare b => flag b
  | .expression t => ofExpression t.expression
  | .sequence [] => text ""
  | .sequence [.text t] => text t.data
  | .sequence [.expression t] => ofExpression t.expression
  | .sequence _ => dynamic

/-- Reads a string. -/
def asText (wrongShape : Failure) : StaticValue → Except Failure (Option String)
  | absent => .ok none
  | text s => .ok (some s)
  | _ => .error wrongShape

/-- Reads a truth value. -/
def asFlag (wrongShape : Failure) : StaticValue → Except Failure (Option Bool)
  | absent => .ok none
  | flag b => .ok (some b)
  | _ => .error wrongShape

/-- Reads a truth value or a string. -/
def asSource (wrongShape : Failure) : StaticValue → Except Failure (Option StorySource)
  | absent => .ok none
  | flag b => .ok (some (.flag b))
  | text s => .ok (some (.code s))
  | _ => .error wrongShape

/-- The strings of the items from position `index` on; fails at the first item that is no string. -/
def texts (wrongItem : Nat → Failure) (index : Nat) : List StaticValue → Except Failure (List String)
  | [] => .ok []
  | text s :: items => (texts wrongItem (index + 1) items).map (s :: ·)
  | _ :: _ => .error (wrongItem index)

/-- Reads an array of strings. -/
def asTexts (wrongShape : Failure) (wrongItem : Nat → Failure) :
    StaticValue → Except Failure (Option (List String))
  | absent => .ok none
  | array items => (texts wrongItem 0 items).map some
  | _ => .error wrongShape

theorem texts_eq_ok_iff {wrongItem : Nat → Failure} {index : Nat} {items : List StaticValue}
    {ss : List String} : texts wrongItem index items = .ok ss ↔ items = ss.map text := by
  induction items generalizing index ss with
  | nil => cases ss <;> simp [texts]
  | cons item items ih =>
    cases item with
    | text s =>
      rw [texts]
      cases h : texts wrongItem (index + 1) items with
      | error c =>
        have : ∀ tl, items ≠ List.map text tl := by
          intro tl e
          rw [ih.mpr e] at h
          cases h
        cases ss <;> simp [Except.map, this]
      | ok tl =>
        have := ih.mp h
        subst this
        cases ss with
        | nil => simp [Except.map]
        | cons s' ss =>
          simp only [Except.map, Except.ok.injEq, List.cons.injEq, List.map_cons, text.injEq]
          exact and_congr_right fun _ => (List.map_inj_right fun _ _ e => by cases e; rfl).symm
    | _ => cases ss <;> simp [texts]

end StaticValue

/-! ## Attributes of an element -/

namespace Element

/-- The value that an attribute node gives to a name. -/
def valueIn? (name : String) : AttributeNode → Option AttributeValue
  | .plain a => if a.name = name then some a.value else none
  | _ => none

/-- The value of the first attribute with a name. -/
def attribute? (e : Element) (name : String) : Option AttributeValue :=
  e.attributes.findSome? (valueIn? name)

/-- The static value of an attribute. -/
def staticValue (e : Element) (name : String) : StaticValue :=
  ((e.attribute? name).map StaticValue.ofAttribute).getD .absent

/-- The expression of an attribute whose value is a single expression in braces. -/
def expression? (e : Element) (name : String) : Option Expression :=
  match e.attribute? name with
  | some (.expression t) => some t.expression
  | some (.sequence [.expression t]) => some t.expression
  | _ => none

/-- An attribute that must be a string. -/
def text? (e : Element) (file name : String) : Except Failure (Option String) :=
  (e.staticValue name).asText (.invalidAttribute file name .string)

/-- An attribute that must be a truth value. -/
def flag? (e : Element) (file name : String) : Except Failure (Option Bool) :=
  (e.staticValue name).asFlag (.invalidAttribute file name .boolean)

/-- An attribute that must be an array of strings. -/
def texts? (e : Element) (file name : String) : Except Failure (Option (List String)) :=
  (e.staticValue name).asTexts (.invalidAttribute file name .stringArray)
    (.arrayElementNotString file name)

/-- What the attribute `source` shows. -/
def source? (e : Element) (file : String) : Except Failure (Option StorySource) :=
  (e.staticValue "source").asSource (.invalidAttribute file "source" .booleanOrString)

/-- The snippet that the attribute `children` refers to. -/
def childrenSnippet? (e : Element) : Option String :=
  ((e.expression? "children").bind (·.identifier?)).map (·.name)

end Element

/-! ## Properties of a meta object -/

namespace ObjectLiteral

/-- The static value of a property. -/
def staticValue (o : ObjectLiteral) (name : String) : StaticValue :=
  ((o.property? name).map StaticValue.ofExpression).getD .absent

/-- A property that must be a string. -/
def text? (o : ObjectLiteral) (file name : String) : Except Failure (Option String) :=
  (o.staticValue name).asText (.invalidMetaProperty file name .string)

/-- A property that must be an array of strings. -/
def texts? (o : ObjectLiteral) (file name : String) : Except Failure (Option (List String)) :=
  (o.staticValue name).asTexts (.invalidMetaProperty file name .stringArray)
    (.arrayElementNotString file name)

/-- The name of the identifier that a property holds. -/
def identifierName? (o : ObjectLiteral) (name : String) : Option String :=
  ((o.property? name).bind (·.identifier?)).map (·.name)

end ObjectLiteral

end StoryCatalog
