import StoryCatalog.Proofs.Story.Listings
import StoryCatalog.Proofs.Story.RawSources

/-!
# Attributes as they are read

A static value can be spelled in several ways: a text in quotes, as a string in braces or as a template without
substitutions, with quotes around the braces or without, and a truth value bare or in braces. Attributes are read
through their static values only, so a spelling makes no difference to what is read, and no value is taken for one
of another shape.

* `denotes_iff`, `spells_iff`: the spellings of a static value are those that are read as this value.
* `readAlike_of_static`: where a static value is the same, all readers answer the same.
* `staticReads_outcome`: what readers of one attribute answer, each by itself and together.
-/

namespace StoryCatalog

open StaticValue (ofExpression ofElements ofAttribute)

/-! ## Spellings -/

/-- Strings, truth values, templates of one decoded text and arrays tell their value without being run. -/
def Expression.TellsValue : Expression → Prop
  | .literal ⟨_, .text _⟩ => True
  | .literal ⟨_, .flag _⟩ => True
  | .template _ [some _] [] => True
  | .array _ _ => True
  | _ => False

mutual

/-- The static value that an expression denotes. -/
inductive Expression.Denotes : Expression → StaticValue → Prop where
  | text (span : Span) (s : String) : Expression.Denotes (.literal ⟨span, .text s⟩) (.text s)
  | flag (span : Span) (b : Bool) : Expression.Denotes (.literal ⟨span, .flag b⟩) (.flag b)
  | template (span : Span) (s : String) : Expression.Denotes (.template span [some s] []) (.text s)
  | array (span : Span) {elements : List (Option Expression)} {items : List StaticValue}
    (h : ElementsDenote elements items) : Expression.Denotes (.array span elements) (.array items)
  | dynamic {e : Expression} (h : ¬e.TellsValue) : Expression.Denotes e .dynamic

/-- The static values that the elements of an array denote; a hole denotes that there is none. -/
inductive ElementsDenote : List (Option Expression) → List StaticValue → Prop where
  | nil : ElementsDenote [] []
  | hole {elements : List (Option Expression)} {items : List StaticValue} (h : ElementsDenote elements items) :
    ElementsDenote (none :: elements) (.absent :: items)
  | element {e : Expression} {v : StaticValue} {elements : List (Option Expression)} {items : List StaticValue}
    (he : Expression.Denotes e v) (h : ElementsDenote elements items) :
    ElementsDenote (some e :: elements) (v :: items)

end

/-- The static value that an attribute value spells. -/
inductive AttributeValue.Spells : AttributeValue → StaticValue → Prop where
  | bare (b : Bool) : Spells (.bare b) (.flag b)
  | empty : Spells (.sequence []) (.text "")
  | quoted (t : TextNode) : Spells (.sequence [.text t]) (.text t.data)
  | braces {t : ExpressionTag} {v : StaticValue} (h : t.expression.Denotes v) : Spells (.expression t) v
  | quotedBraces {t : ExpressionTag} {v : StaticValue} (h : t.expression.Denotes v) :
    Spells (.sequence [.expression t]) v
  | pieces (c d : AttributeChunk) (cs : List AttributeChunk) : Spells (.sequence (c :: d :: cs)) .dynamic

theorem ofExpression_of_not_tellsValue {e : Expression} (h : ¬e.TellsValue) : ofExpression e = .dynamic := by
  cases e with
  | literal l =>
    obtain ⟨span, _ | _ | _ | _⟩ := l
    · exact absurd trivial h
    · exact absurd trivial h
    · rfl
    · rfl
  | template span quasis substitutions =>
    rcases quasis with _ | ⟨_ | text, _ | _⟩ <;> cases substitutions
    case cons.some.nil.nil => exact absurd trivial h
    all_goals rfl
  | array span elements => exact absurd trivial h
  | _ => rfl

mutual

theorem Expression.Denotes.ofExpression_eq {e : Expression} {v : StaticValue} :
    e.Denotes v → ofExpression e = v
  | .text _ _ => rfl
  | .flag _ _ => rfl
  | .template _ _ => rfl
  | .array _ h => congrArg StaticValue.array h.ofElements_eq
  | .dynamic h => ofExpression_of_not_tellsValue h

theorem ElementsDenote.ofElements_eq {es : List (Option Expression)} {vs : List StaticValue} :
    ElementsDenote es vs → ofElements es = vs
  | .nil => rfl
  | .hole h => congrArg (StaticValue.absent :: ·) h.ofElements_eq
  | .element he h => congrArg₂ List.cons he.ofExpression_eq h.ofElements_eq

end

mutual

theorem denotes_ofExpression (e : Expression) : e.Denotes (ofExpression e) := by
  by_cases h : e.TellsValue
  · cases e with
    | literal l =>
      obtain ⟨span, s | b | _ | _⟩ := l
      · exact .text span s
      · exact .flag span b
      · exact h.elim
      · exact h.elim
    | template span quasis substitutions =>
      rcases quasis with _ | ⟨_ | text, _ | _⟩ <;> cases substitutions
      case cons.some.nil.nil => exact .template span text
      all_goals exact h.elim
    | array span elements => exact .array span (elementsDenote_ofElements elements)
    | _ => exact h.elim
  · rw [ofExpression_of_not_tellsValue h]
    exact .dynamic h

theorem elementsDenote_ofElements (es : List (Option Expression)) : ElementsDenote es (ofElements es) := by
  rcases es with _ | ⟨_ | e, es⟩
  · exact .nil
  · exact .hole (elementsDenote_ofElements es)
  · exact .element (denotes_ofExpression e) (elementsDenote_ofElements es)

end

/-- **What an expression denotes is its static value.** -/
theorem denotes_iff {e : Expression} {v : StaticValue} : e.Denotes v ↔ ofExpression e = v :=
  ⟨fun h => h.ofExpression_eq, fun h => h ▸ denotes_ofExpression e⟩

/-- **What an attribute value spells is its static value.** -/
theorem spells_iff {a : AttributeValue} {v : StaticValue} : a.Spells v ↔ ofAttribute a = v := by
  constructor
  · intro h
    cases h with
    | braces h => exact denotes_iff.mp h
    | quotedBraces h => exact denotes_iff.mp h
    | pieces c d cs => cases c <;> rfl
    | _ => rfl
  · rintro rfl
    rcases a with b | t | _ | ⟨t | t, _ | ⟨d, cs⟩⟩
    · exact .bare b
    · exact .braces (denotes_ofExpression t.expression)
    · exact .empty
    · exact .quoted t
    · exact .pieces _ d cs
    · exact .quotedBraces (denotes_ofExpression t.expression)
    · exact .pieces _ d cs

namespace Element

variable {e e' : Element} {name : String}

/-! ## Which attribute is read -/

theorem attribute?_eq_none_iff :
    e.attribute? name = none ↔ ∀ a, .plain a ∈ e.attributes → a.name ≠ name := by
  rw [attribute?, List.findSome?_eq_none_iff]
  constructor
  · intro h a ha hname
    have hnone := h _ ha
    rw [valueIn?, if_pos hname] at hnone
    cases hnone
  · intro h a ha
    cases a with
    | plain a => rw [valueIn?, if_neg (h a ha)]
    | _ => rfl

/-- **The first attribute with a name** is the one that is read. -/
theorem attribute?_eq_of_first {before after : List AttributeNode} {a : Attribute}
    (he : e.attributes = before ++ .plain a :: after) (hname : a.name = name)
    (hfirst : ∀ b, AttributeNode.plain b ∈ before → b.name ≠ name) : e.attribute? name = some a.value := by
  have hbefore : before.findSome? (valueIn? name) = none :=
    attribute?_eq_none_iff (e := { e with attributes := before }).mpr hfirst
  rw [attribute?, he, List.findSome?_append, hbefore, Option.none_or, List.findSome?_cons, valueIn?, if_pos hname]

theorem attribute?_of_only {a : Attribute} (he : e.attributes = [.plain a]) (hname : a.name = name) :
    e.attribute? name = some a.value := by
  rw [attribute?, he, List.findSome?_cons, valueIn?, if_pos hname]

/-- Another value of an attribute is read instead of it, or is not read either. -/
theorem attribute?_of_revalued {before after : List AttributeNode} {a : Attribute} {v : AttributeValue}
    (he : e.attributes = before ++ .plain a :: after)
    (he' : e'.attributes = before ++ .plain { a with value := v } :: after) (name : String) :
    e'.attribute? name = e.attribute? name ∨ e.attribute? name = some a.value ∧ e'.attribute? name = some v := by
  rw [attribute?, attribute?, he, he', List.findSome?_append, List.findSome?_append, List.findSome?_cons,
    List.findSome?_cons, valueIn?, valueIn?]
  cases before.findSome? (valueIn? name) with
  | some earlier => exact .inl rfl
  | none =>
    by_cases hname : a.name = name
    · rw [if_pos hname, if_pos hname]
      exact .inr ⟨rfl, rfl⟩
    · rw [if_neg hname, if_neg hname]
      exact .inl rfl

/-! ## What the readers answer -/

theorem staticValue_eq_ofExpression {x : Expression} (h : e.expression? name = some x) :
    e.staticValue name = ofExpression x := by
  obtain ⟨t, rfl, ht | ht⟩ := RawSource.expression?_eq_some_iff.mp h
  · rw [staticValue, ht]
    rfl
  · rw [staticValue, ht]
    rfl

/-- A static value is no identifier, so it names no snippet. -/
theorem childrenSnippet?_of_static (h : e.staticValue "children" ≠ .dynamic) : e.childrenSnippet? = none := by
  rw [childrenSnippet?]
  cases hx : e.expression? "children" with
  | none => rfl
  | some x =>
    rw [staticValue_eq_ofExpression hx] at h
    cases x with
    | identifier i => exact absurd rfl h
    | _ => rfl

/-- What the readers of an attribute answer for two elements is the same. -/
structure ReadAlike (e e' : Element) (name : String) : Prop where
  value : e.staticValue name = e'.staticValue name
  text : ∀ file, e.text? file name = e'.text? file name
  flag : ∀ file, e.flag? file name = e'.flag? file name
  texts : ∀ file, e.texts? file name = e'.texts? file name
  source : name = "source" → ∀ file, e.source? file = e'.source? file
  children : name = "children" → e.childrenSnippet? = e'.childrenSnippet?

/-- **All that is read is read off the static value**, and what children refer to. -/
theorem readAlike_of_staticValue (h : e.staticValue name = e'.staticValue name)
    (hchildren : name = "children" → e.childrenSnippet? = e'.childrenSnippet?) : ReadAlike e e' name where
  value := h
  text file := by rw [text?, text?, h]
  flag file := by rw [flag?, flag?, h]
  texts file := by rw [texts?, texts?, h]
  source := by
    rintro rfl file
    rw [source?, source?, h]
  children := hchildren

/-- The same attribute is read alike. -/
theorem readAlike_of_attribute? (h : e.attribute? name = e'.attribute? name) : ReadAlike e e' name := by
  refine readAlike_of_staticValue (by rw [staticValue, staticValue, h]) ?_
  rintro rfl
  rw [childrenSnippet?, childrenSnippet?, expression?, expression?, h]

/-- **The same static value is read alike**, however it is spelled. -/
theorem readAlike_of_static (h : e.staticValue name = e'.staticValue name) (hs : e.staticValue name ≠ .dynamic) :
    ReadAlike e e' name := by
  refine readAlike_of_staticValue h ?_
  rintro rfl
  rw [childrenSnippet?_of_static hs, childrenSnippet?_of_static (h ▸ hs)]

/-- **Another spelling of an attribute is read alike**, whichever attribute is read. -/
theorem readAlike_of_spells {before after : List AttributeNode} {a : Attribute} {v : AttributeValue}
    {s : StaticValue} (he : e.attributes = before ++ .plain a :: after)
    (he' : e'.attributes = before ++ .plain { a with value := v } :: after) (ha : a.value.Spells s)
    (hv : v.Spells s) (hs : s ≠ .dynamic) (name : String) : ReadAlike e e' name := by
  rcases attribute?_of_revalued he he' name with h | ⟨h, h'⟩
  · exact readAlike_of_attribute? h.symm
  · have hvalue : e.staticValue name = s := by
      rw [staticValue, h]
      exact spells_iff.mp ha
    have hvalue' : e'.staticValue name = s := by
      rw [staticValue, h']
      exact spells_iff.mp hv
    exact readAlike_of_static (hvalue.trans hvalue'.symm) (hvalue ▸ hs)

/-! ## What is read as a value -/

/-- A reader succeeds with a value. -/
def Gives {α : Type} (r : Except Failure (Option α)) : Prop :=
  ∃ x, r = .ok (some x)

variable {file : String}

theorem text?_eq_some_iff {s : String} : e.text? file name = .ok (some s) ↔ e.staticValue name = .text s :=
  StaticValue.asText_eq_ok_iff

theorem text?_eq_none_iff : e.text? file name = .ok none ↔ e.staticValue name = .absent :=
  StaticValue.asText_eq_ok_iff

theorem flag?_eq_some_iff {b : Bool} : e.flag? file name = .ok (some b) ↔ e.staticValue name = .flag b := by
  rw [flag?]
  cases e.staticValue name <;> simp [StaticValue.asFlag]

theorem flag?_eq_none_iff : e.flag? file name = .ok none ↔ e.staticValue name = .absent := by
  rw [flag?]
  cases e.staticValue name <;> simp [StaticValue.asFlag]

theorem texts?_eq_some_iff {ss : List String} :
    e.texts? file name = .ok (some ss) ↔ e.staticValue name = .array (ss.map .text) := by
  rw [texts?]
  cases e.staticValue name with
  | array items =>
    rw [StaticValue.asTexts, map_eq_ok_iff, StaticValue.array.injEq]
    simp only [Option.some.injEq, exists_eq_right, StaticValue.texts_eq_ok_iff]
  | _ => simp [StaticValue.asTexts]

theorem source?_eq_code_iff {s : String} : e.source? file = .ok (some (.code s)) ↔ e.staticValue "source" = .text s :=
  StaticValue.asSource_eq_ok_iff

theorem source?_eq_flag_iff {b : Bool} : e.source? file = .ok (some (.flag b)) ↔ e.staticValue "source" = .flag b :=
  StaticValue.asSource_eq_ok_iff

theorem source?_eq_none_iff : e.source? file = .ok none ↔ e.staticValue "source" = .absent :=
  StaticValue.asSource_eq_ok_iff

/-- No value is read as two of a text, a truth value and an array of texts. -/
theorem not_gives_two (file : String) (e : Element) (name : String) :
    ¬(Gives (e.text? file name) ∧ Gives (e.flag? file name)) ∧ ¬(Gives (e.text? file name) ∧ Gives (e.texts? file name)) ∧
      ¬(Gives (e.flag? file name) ∧ Gives (e.texts? file name)) := by
  refine ⟨?_, ?_, ?_⟩
  · rintro ⟨⟨s, hs⟩, b, hb⟩
    cases (text?_eq_some_iff.mp hs).symm.trans (flag?_eq_some_iff.mp hb)
  · rintro ⟨⟨s, hs⟩, ss, hss⟩
    cases (text?_eq_some_iff.mp hs).symm.trans (texts?_eq_some_iff.mp hss)
  · rintro ⟨⟨b, hb⟩, ss, hss⟩
    cases (flag?_eq_some_iff.mp hb).symm.trans (texts?_eq_some_iff.mp hss)

/-- The source is read where a text or a truth value is. -/
theorem exists_source?_iff :
    (∃ o, e.source? file = .ok o) ↔ (∃ o, e.text? file "source" = .ok o) ∨ ∃ o, e.flag? file "source" = .ok o := by
  constructor
  · rintro ⟨_ | b | s, h⟩
    · exact .inl ⟨none, text?_eq_none_iff.mpr (source?_eq_none_iff.mp h)⟩
    · exact .inr ⟨some b, flag?_eq_some_iff.mpr (source?_eq_flag_iff.mp h)⟩
    · exact .inl ⟨some s, text?_eq_some_iff.mpr (source?_eq_code_iff.mp h)⟩
  · rintro (⟨_ | s, h⟩ | ⟨_ | b, h⟩)
    · exact ⟨none, source?_eq_none_iff.mpr (text?_eq_none_iff.mp h)⟩
    · exact ⟨some (.code s), source?_eq_code_iff.mpr (text?_eq_some_iff.mp h)⟩
    · exact ⟨none, source?_eq_none_iff.mpr (flag?_eq_none_iff.mp h)⟩
    · exact ⟨some (.flag b), source?_eq_flag_iff.mpr (flag?_eq_some_iff.mp h)⟩

/-- **What the readers of attributes answer.** Another spelling of the same static value is read alike. A value is
read as what it is and as nothing else, so at most one of the three readers gives a value. The source is read where a
text or a truth value is, and is the same one. An attribute that is an expression in braces has the static value of
the expression. Without an attribute of the name there is no value, and otherwise all is read off the first one, as
if no other attribute, spread or directive were there. -/
theorem staticReads_outcome (file : String) (e : Element) (name : String) :
    (∀ before a after v s, e.attributes = before ++ .plain a :: after → a.value.Spells s → v.Spells s →
        s ≠ .dynamic →
        ReadAlike e { e with attributes := before ++ .plain { a with value := v } :: after } name) ∧
      ((∀ s, e.text? file name = .ok (some s) ↔ e.staticValue name = .text s) ∧
        (∀ b, e.flag? file name = .ok (some b) ↔ e.staticValue name = .flag b) ∧
        ∀ ss, e.texts? file name = .ok (some ss) ↔ e.staticValue name = .array (ss.map .text)) ∧
      (¬(Gives (e.text? file name) ∧ Gives (e.flag? file name)) ∧ ¬(Gives (e.text? file name) ∧ Gives (e.texts? file name)) ∧
        ¬(Gives (e.flag? file name) ∧ Gives (e.texts? file name))) ∧
      (((∃ o, e.source? file = .ok o) ↔ (∃ o, e.text? file "source" = .ok o) ∨ ∃ o, e.flag? file "source" = .ok o) ∧
        (e.source? file = .ok none ↔ e.text? file "source" = .ok none ∧ e.flag? file "source" = .ok none) ∧
        (∀ s, e.source? file = .ok (some (.code s)) ↔ e.text? file "source" = .ok (some s)) ∧
        ∀ b, e.source? file = .ok (some (.flag b)) ↔ e.flag? file "source" = .ok (some b)) ∧
      (∀ x, e.expression? name = some x → e.staticValue name = ofExpression x) ∧
      ((∀ a, .plain a ∈ e.attributes → a.name ≠ name) →
        e.staticValue name = .absent ∧ e.expression? name = none) ∧
      ∀ before a after, e.attributes = before ++ .plain a :: after → a.name = name →
        (∀ b, .plain b ∈ before → b.name ≠ name) →
        e.staticValue name = ofAttribute a.value ∧ ReadAlike e { e with attributes := [.plain a] } name ∧
          e.expression? name = { e with attributes := [.plain a] : Element }.expression? name := by
  refine ⟨fun before a after v s he ha hv hs => readAlike_of_spells he rfl ha hv hs name,
    ⟨fun s => text?_eq_some_iff, fun b => flag?_eq_some_iff, fun ss => texts?_eq_some_iff⟩, not_gives_two file e name,
    ⟨exists_source?_iff, ?_, fun s => ?_, fun b => ?_⟩, fun x => staticValue_eq_ofExpression, fun h => ?_,
    fun before a after he hname hfirst => ?_⟩
  · rw [source?_eq_none_iff, text?_eq_none_iff, flag?_eq_none_iff, and_self]
  · rw [source?_eq_code_iff, text?_eq_some_iff]
  · rw [source?_eq_flag_iff, flag?_eq_some_iff]
  · have hnone := attribute?_eq_none_iff.mpr h
    rw [staticValue, expression?, hnone]
    exact ⟨rfl, rfl⟩
  · have hread := attribute?_eq_of_first he hname hfirst
    have halone : { e with attributes := [.plain a] : Element }.attribute? name = some a.value :=
      attribute?_of_only rfl hname
    refine ⟨?_, readAlike_of_attribute? (hread.trans halone.symm), ?_⟩
    · rw [staticValue, hread]
      rfl
    · rw [expression?, expression?, hread, halone]

/-- An element with a directive, a name in quotes and a bare source. -/
def quotedStory : Element :=
  ⟨⟨0, 32⟩, "Story",
    [.directive, .plain ⟨⟨15, 23⟩, "name", .sequence [.text ⟨⟨21, 22⟩, "A"⟩]⟩,
      .plain ⟨⟨24, 30⟩, "source", .bare true⟩],
    ⟨[]⟩⟩

/-- Its name can be a template in braces as well, and is the first attribute of this name. -/
theorem staticReads_quotedStory :
    (AttributeValue.sequence [.text ⟨⟨21, 22⟩, "A"⟩]).Spells (.text "A") ∧
      (AttributeValue.expression ⟨⟨20, 25⟩, .template ⟨21, 24⟩ [some "A"] []⟩).Spells (.text "A") ∧
      ReadAlike quotedStory
        { quotedStory with
          attributes :=
            [.directive, .plain ⟨⟨15, 23⟩, "name", .expression ⟨⟨20, 25⟩, .template ⟨21, 24⟩ [some "A"] []⟩⟩,
              .plain ⟨⟨24, 30⟩, "source", .bare true⟩] }
        "name" ∧
      quotedStory.staticValue "name" = .text "A" := by
  obtain ⟨hspelling, -, -, -, -, -, hfirst⟩ := staticReads_outcome "f" quotedStory "name"
  have hquoted : (AttributeValue.sequence [.text ⟨⟨21, 22⟩, "A"⟩]).Spells (.text "A") := .quoted ⟨⟨21, 22⟩, "A"⟩
  have hbraces : (AttributeValue.expression ⟨⟨20, 25⟩, .template ⟨21, 24⟩ [some "A"] []⟩).Spells (.text "A") :=
    .braces (.template ⟨21, 24⟩ "A")
  refine ⟨hquoted, hbraces, hspelling [.directive] _ _ _ _ rfl hquoted hbraces nofun, ?_⟩
  refine (hfirst [.directive] _ _ rfl rfl fun b hb => ?_).1
  cases List.mem_singleton.mp hb

end Element

end StoryCatalog
