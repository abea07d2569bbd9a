import StoryCatalog.Proofs.Tree.Wordings

/-!
# Decoders do not depend on the wording

A decoder reads two wordings of a tree alike. It suffices to see this for one change of the wording in one place; it
is then kept level by level, and so by decoders with any number of steps that are enough for both values.

* `ReadAlike`: two decoders, each with its steps, read alike what is worded differently in one place.
* `ScriptDecoder.ofFuel_readAlike`, `MarkupNode.ofJson?_readAlike`: expressions, patterns, statements and nodes.
* `wording_does_not_matter`: documents and programs.
-/

namespace StoryCatalog

open Json

/-- Up to a depth each, two decoders read alike what is alike in a role. -/
def ReadAlike {α : Type} (decode decode' : Json → Option α) (role : Role) (n m : Nat) : Prop :=
  ∀ j j', Alike role j j' → j.depth ≤ n → j'.depth ≤ m → decode j = decode' j'

/-- In objects up to a depth each, what is found in fields is alike. -/
structure FieldsAlike (fields : List Field) (n m : Nat) (ms ms' : Members) : Prop where
  depth : depthMembers ms ≤ n
  depth' : depthMembers ms' ≤ m
  find : ∀ f ∈ fields, Option.Rel (Option.Rel (Alike f.role)) (member? f.name ms) (member? f.name ms')

section

variable {α : Type} {decode decode' : Json → Option α} {role : Role} {n m n' m' : Nat} {ms ms' : Members}
  {fields fields' : List Field} {name : String}

/-! ## Values that are read in one piece -/

theorem ReadAlike.mono (h : ReadAlike decode decode' role n m) (hn : n' ≤ n) (hm : m' ≤ m) :
    ReadAlike decode decode' role n' m' :=
  fun j j' hj hdepth hdepth' => h j j' hj (Nat.le_trans hdepth hn) (Nat.le_trans hdepth' hm)

theorem depth_pos (j : Json) : 0 < j.depth := by
  cases j <;> simp [depth]

theorem readAlike_zero_left : ReadAlike decode decode' role 0 m :=
  fun j _ _ hdepth _ => absurd (depth_pos j) (by omega)

theorem readAlike_zero_right : ReadAlike decode decode' role n 0 :=
  fun _ j' _ _ hdepth' => absurd (depth_pos j') (by omega)

/-- What is neither an object nor an array is worded in one way. -/
theorem readAlike_piece (hobject : ∀ ms, decode (.object ms) = none) (harray : ∀ js, decode (.array js) = none) :
    ReadAlike decode decode role n m := by
  intro j j' h _ _
  rcases h.shape with rfl | ⟨ms, ms', rfl, rfl⟩ | ⟨js, js', rfl, rfl⟩
  · rfl
  · rw [hobject, hobject]
  · rw [harray, harray]

theorem readAlike_offset : ReadAlike nat? nat? .offset n m :=
  readAlike_piece (fun _ => rfl) fun _ => rfl

theorem readAlike_text : ReadAlike Json.text? Json.text? .text n m :=
  readAlike_piece (fun _ => rfl) fun _ => rfl

theorem readAlike_flag : ReadAlike flag? flag? .flag n m :=
  readAlike_piece (fun _ => rfl) fun _ => rfl

/-- A value that is kept as it was given is kept as a map. -/
theorem readAlike_literalValue :
    ReadAlike (some ∘ LiteralValue.ofJson) (some ∘ LiteralValue.ofJson) .literalValue n m := by
  rintro j j' ⟨hj, rfl | h | h⟩ _ _
  · rfl
  · have hsettle := h.settle_eq hj
    rcases h.shape with ⟨ms, ms', rfl, rfl⟩ | ⟨js, js', rfl, rfl⟩
    · exact congrArg (some ∘ LiteralValue.other) hsettle
    · exact congrArg (some ∘ LiteralValue.other) hsettle
  · cases h with
    | here counts => cases counts
    | inOther counts => cases counts
    | inField counts => cases counts
    | inItem items => cases items

theorem choice?_object_cons_cons (choices : List (String × α)) (a b : String × Json) (ms : Members) :
    choice? choices (.object (a :: b :: ms)) = none := by
  obtain ⟨s, j⟩ := a
  cases j <;> rfl

/-- A word that is given as an object with one member is not worded differently. -/
theorem choice?_eq_of_reorders {choices : List (String × α)} {j j' : Json} (h : Reorders j j') :
    choice? choices j = choice? choices j' := by
  cases h with
  | @members ms ms' order =>
    rcases ms with _ | ⟨a, _ | ⟨b, ms⟩⟩
    · rw [List.nil_perm.mp order]
    · rw [List.singleton_perm.mp order]
    · have hlength := order.length_eq
      rcases ms' with _ | ⟨a', _ | ⟨b', ms'⟩⟩
      · cases hlength
      · cases hlength
      · rw [choice?_object_cons_cons, choice?_object_cons_cons]
  | item => rfl
  | @member before after name i i' hi =>
    rcases before with _ | ⟨a, _ | ⟨b, before⟩⟩
    · rcases after with _ | ⟨a, after⟩
      · -- Neither value is `null`.
        rcases hi.shape with ⟨_, _, rfl, rfl⟩ | ⟨_, _, rfl, rfl⟩ <;> rfl
      · rw [List.nil_append, List.nil_append, choice?_object_cons_cons, choice?_object_cons_cons]
    · exact (choice?_object_cons_cons ..).trans (choice?_object_cons_cons ..).symm
    · exact (choice?_object_cons_cons ..).trans (choice?_object_cons_cons ..).symm

/-- The context of a script region is a word, or an object of the word and `null`. -/
theorem readAlike_context :
    ReadAlike (choice? ScriptContext.words) (choice? ScriptContext.words) .context n m := by
  rintro j j' ⟨-, rfl | h | h⟩ _ _
  · rfl
  · exact choice?_eq_of_reorders h
  · cases h with
    | here counts => cases counts
    | inOther counts => cases counts
    | inField counts => cases counts
    | inItem items => cases items

/-- Items that are alike are read alike. -/
theorem ReadAlike.mapM_eq (h : ReadAlike decode decode' role n m) {js js' : List Json}
    (hjs : List.Forall₂ (Alike role) js js') (hdepth : depthItems js ≤ n) (hdepth' : depthItems js' ≤ m) :
    js.mapM decode = js'.mapM decode' := by
  induction hjs with
  | nil => rfl
  | @cons i i' js js' hi _ ih =>
    rw [depthItems] at hdepth hdepth'
    have hitem : decode i = decode' i' := h i i' hi (by omega) (by omega)
    rw [List.mapM_cons, List.mapM_cons, hitem, ih (by omega) (by omega)]

/-- Lists are read alike if their items are. -/
theorem ReadAlike.list (h : ReadAlike decode decode' role n m) :
    ReadAlike (list? decode) (list? decode') (.list role) n m := by
  intro j j' hj hdepth hdepth'
  cases hjs : j.items? with
  | none =>
    have hjs' : j'.items? = none := hj.items?_eq_none hjs
    rw [list?, list?, hjs, hjs']
    rfl
  | some js =>
    cases j with
    | array js =>
      obtain ⟨js', rfl, hall⟩ := hj.items rfl
      exact h.mapM_eq hall (Nat.le_of_succ_le hdepth) (Nat.le_of_succ_le hdepth')
    | _ => cases hjs

/-- What may be `null` is read alike if it is without that. -/
theorem ReadAlike.optional (h : ReadAlike decode decode' role n m) :
    ReadAlike (nullable? decode) (nullable? decode') (.optional role) n m := by
  intro j j' hj hdepth hdepth'
  have hread : decode j = decode' j' := h j j' hj.of_optional hdepth hdepth'
  rcases hj.shape with rfl | ⟨ms, ms', rfl, rfl⟩ | ⟨js, js', rfl, rfl⟩
  · cases j with
    | null => rfl
    | _ => exact congrArg (Option.map some) hread
  · exact congrArg (Option.map some) hread
  · exact congrArg (Option.map some) hread

/-! ## Fields -/

theorem field?_eq_bind (name : String) (ms : Members) :
    field? name decode ms = (member? name ms).bind fun o => o.elim none decode := by
  rw [field?]
  rcases member? name ms with _ | _ | j <;> rfl

theorem fieldOr_eq_bind (name : String) (absent : α) (ms : Members) :
    fieldOr name absent decode ms = (member? name ms).bind fun o => o.elim (some absent) decode := by
  rw [fieldOr]
  rcases member? name ms with _ | _ | j <;> rfl

namespace FieldsAlike

theorem mono (h : FieldsAlike fields n m ms ms') (hfields : fields' ⊆ fields) : FieldsAlike fields' n m ms ms' :=
  ⟨h.depth, h.depth', fun f hf => h.find f (hfields hf)⟩

/-- What is read of a field is the same, whatever stands for a field that is absent. -/
theorem read_eq {absent : Option α} (h : FieldsAlike fields n m ms ms') (hread : ReadAlike decode decode' role n m)
    {f : Field} (hf : f ∈ fields) (hrole : f.role = role) :
    ((member? f.name ms).bind fun o => o.elim absent decode) =
      (member? f.name ms').bind fun o => o.elim absent decode' := by
  subst hrole
  rcases find_cases (h.find f hf) with ⟨hm, hm'⟩ | ⟨hm, hm'⟩ | ⟨j, j', hm, hm', hj⟩
  · rw [hm, hm', Option.bind_none, Option.bind_none]
  · rw [hm, hm', Option.bind_some, Option.bind_some, Option.elim_none, Option.elim_none]
  · have hdepth : j.depth ≤ n := Nat.le_trans (depth_of_member? hm) h.depth
    have hdepth' : j'.depth ≤ m := Nat.le_trans (depth_of_member? hm') h.depth'
    rw [hm, hm', Option.bind_some, Option.bind_some, Option.elim_some, Option.elim_some,
      hread j j' hj hdepth hdepth']

theorem field?_eq (h : FieldsAlike fields n m ms ms') (hread : ReadAlike decode decode' role n m)
    (hf : .must name role ∈ fields) : field? name decode ms = field? name decode' ms' := by
  rw [field?_eq_bind, field?_eq_bind]
  exact h.read_eq hread hf rfl

theorem fieldOr_eq {absent : α} (h : FieldsAlike fields n m ms ms') (hread : ReadAlike decode decode' role n m)
    (hf : .may name role ∈ fields) : fieldOr name absent decode ms = fieldOr name absent decode' ms' := by
  rw [fieldOr_eq_bind, fieldOr_eq_bind]
  exact h.read_eq hread hf rfl

theorem optional?_eq (h : FieldsAlike fields n m ms ms') (hread : ReadAlike decode decode' role n m)
    (hf : .may name (.optional role) ∈ fields) : optional? name decode ms = optional? name decode' ms' :=
  h.fieldOr_eq hread.optional hf

theorem span_eq (h : FieldsAlike fields n m ms ms') (hfields : spanFields ⊆ fields) :
    Span.ofMembers? ms = Span.ofMembers? ms' := by
  have hspan := h.mono hfields
  rw [Span.ofMembers?, Span.ofMembers?, hspan.fieldOr_eq readAlike_offset (by simp [spanFields]),
    hspan.fieldOr_eq readAlike_offset (by simp [spanFields])]

theorem place_eq (h : FieldsAlike fields n m ms ms') (hfields : placeFields ⊆ fields) :
    Span.required? ms = Span.required? ms' := by
  have hplace := h.mono hfields
  rw [Span.required?, Span.required?, hplace.field?_eq readAlike_offset (by simp [placeFields]),
    hplace.field?_eq readAlike_offset (by simp [placeFields])]

end FieldsAlike

/-! ## Objects -/

/-- Objects are read alike if their fields are. -/
theorem readAlike_record {decodeFields decodeFields' : Members → Option α}
    (hrole : ∀ ms, role.fields? ms = some fields)
    (hdecode : ∀ j, decode j = j.members?.bind decodeFields)
    (hdecode' : ∀ j, decode' j = j.members?.bind decodeFields')
    (h : ∀ ms ms', FieldsAlike fields n m ms ms' → decodeFields ms = decodeFields' ms') :
    ReadAlike decode decode' role (n + 1) (m + 1) := by
  intro j j' hj hdepth hdepth'
  rw [hdecode, hdecode']
  cases hms : j.members? with
  | none => rw [hj.members?_eq_none hms]; rfl
  | some ms =>
    cases j with
    | object ms =>
      obtain rfl := Option.some.inj hms
      obtain ⟨ms', rfl, hfind⟩ := hj.find (hrole ms)
      exact h ms ms' ⟨Nat.le_of_succ_le_succ hdepth, Nat.le_of_succ_le_succ hdepth', hfind⟩
    | _ => cases hms

/-- Objects with a type are read alike if the fields are that count for this type. -/
theorem readAlike_tagged {ofType ofType' : String × Members → Option α} {fieldsOf : String → List Field}
    (hrole : ∀ ms, role.fields? ms = some (typedFields fieldsOf ms))
    (hdecode : ∀ j, decode j = (tagged? "type" j).bind ofType)
    (hdecode' : ∀ j, decode' j = (tagged? "type" j).bind ofType')
    (h : ∀ type ms ms', FieldsAlike (fieldsOf type) n m ms ms' → ofType (type, ms) = ofType' (type, ms')) :
    ReadAlike decode decode' role (n + 1) (m + 1) := by
  intro j j' hj hdepth hdepth'
  rw [hdecode, hdecode', tagged?, tagged?, hj.isSound_eq]
  cases hsound : j.isSound with
  | false => rfl
  | true =>
    cases hms : j.members? with
    | none => rw [hj.members?_eq_none hms]; rfl
    | some ms =>
      cases j with
      | object ms =>
        obtain rfl := Option.some.inj hms
        obtain ⟨ms', rfl, hfind⟩ := hj.find (hrole ms)
        have hall : FieldsAlike (typedFields fieldsOf ms) n m ms ms' :=
          ⟨Nat.le_of_succ_le_succ hdepth, Nat.le_of_succ_le_succ hdepth', hfind⟩
        have htype : field? "type" Json.text? ms = field? "type" Json.text? ms' :=
          hall.field?_eq readAlike_text List.mem_cons_self
        cases hm : field? "type" Json.text? ms with
        | none =>
          rw [hm] at htype
          simp [members?, hm, ← htype]
        | some type =>
          have hfields : fieldsOf type ⊆ typedFields fieldsOf ms := by
            rw [typedFields, hm]
            exact List.subset_cons_self _ _
          rw [hm] at htype
          simpa [members?, hm, ← htype] using h type ms ms' (hall.mono hfields)
      | _ => cases hms

/-! ## Parts of scripts without nesting -/

theorem identifier_eq (h : FieldsAlike identifierFields n m ms ms') :
    Identifier.ofMembers? ms = Identifier.ofMembers? ms' := by
  rw [Identifier.ofMembers?, Identifier.ofMembers?, h.span_eq (by simp [identifierFields]),
    h.field?_eq readAlike_text (by simp [identifierFields])]

theorem readAlike_identifier : ReadAlike Identifier.ofJson? Identifier.ofJson? .identifier n m :=
  (readAlike_record (fun _ => rfl) (fun _ => rfl) (fun _ => rfl) fun _ _ => identifier_eq).mono n.le_succ m.le_succ

theorem literal_eq (h : FieldsAlike literalFields n m ms ms') :
    Literal.ofMembers? ms = Literal.ofMembers? ms' := by
  rw [Literal.ofMembers?, Literal.ofMembers?, h.span_eq (by simp [literalFields]),
    h.fieldOr_eq readAlike_literalValue (by simp [literalFields])]

theorem readAlike_literal : ReadAlike Literal.ofJson? Literal.ofJson? .literal n m :=
  (readAlike_record (fun _ => rfl) (fun _ => rfl) (fun _ => rfl) fun _ _ => literal_eq).mono n.le_succ m.le_succ

theorem readAlike_importedName : ReadAlike ImportedName.ofJson? ImportedName.ofJson? .importedName n m := by
  refine (readAlike_tagged (fun _ => rfl) (fun _ => rfl) (fun _ => rfl) fun type ms ms' h => ?_).mono
    n.le_succ m.le_succ
  dsimp only
  split
  · exact congrArg (Option.map _) (identifier_eq h)
  · exact congrArg (Option.map _) (literal_eq h)
  · rfl

theorem readAlike_quasi : ReadAlike quasi? quasi? .quasi n m := by
  have hvalue : ReadAlike (fun v => do optional? "cooked" Json.text? (← v.members?))
      (fun v => do optional? "cooked" Json.text? (← v.members?)) .quasiText n m :=
    (readAlike_record (fun _ => rfl) (fun _ => rfl) (fun _ => rfl) fun _ _ h =>
      h.optional?_eq readAlike_text (by simp)).mono n.le_succ m.le_succ
  exact (readAlike_record (fun _ => rfl) (fun _ => rfl) (fun _ => rfl) fun _ _ h =>
    h.field?_eq hvalue (by simp)).mono n.le_succ m.le_succ

theorem readAlike_importClause : ReadAlike ImportClause.ofJson? ImportClause.ofJson? .importClause n m := by
  refine (readAlike_tagged (fun _ => rfl) (fun _ => rfl) (fun _ => rfl) fun type ms ms' h => ?_).mono
    n.le_succ m.le_succ
  dsimp only
  split
  all_goals simp only [importClauseFields?, Option.getD_some] at h
  · rw [h.span_eq (by simp), h.field?_eq readAlike_importedName (by simp), h.field?_eq readAlike_identifier (by simp)]
  · rw [h.span_eq (by simp), h.field?_eq readAlike_identifier (by simp)]
  · rw [h.span_eq (by simp), h.field?_eq readAlike_identifier (by simp)]
  · rfl

theorem importDeclaration_eq (h : FieldsAlike (statementFields "ImportDeclaration") n m ms ms') :
    ImportDeclaration.ofMembers? ms = ImportDeclaration.ofMembers? ms' := by
  rw [ImportDeclaration.ofMembers?, ImportDeclaration.ofMembers?, h.span_eq (by simp [statementFields]),
    h.fieldOr_eq readAlike_importClause.list (by simp [statementFields]),
    h.field?_eq readAlike_literal (by simp [statementFields])]

end

/-! ## Parts of scripts that contain one another -/

namespace ScriptDecoder

/-- Up to a depth each, the decoders of expressions, patterns and statements read alike what is worded differently in
one place. -/
structure ReadsAlike (d d' : ScriptDecoder) (n m : Nat) : Prop where
  expression : ReadAlike d.expression d'.expression .expression n m
  pattern : ReadAlike d.pattern d'.pattern .pattern n m
  statement : ReadAlike d.statement d'.statement .statement n m

variable {d d' : ScriptDecoder} {n m : Nat} {ms ms' : Members}

theorem function_eq (hd : d.ReadsAlike d' n m) (h : FieldsAlike functionFields n m ms ms') :
    d.function ms = d'.function ms' := by
  unfold function
  rw [h.span_eq (by simp [functionFields]), h.optional?_eq readAlike_identifier (by simp [functionFields]),
    h.fieldOr_eq hd.pattern.list (by simp [functionFields]), h.field?_eq hd.statement (by simp [functionFields])]

theorem spread_eq (hd : d.ReadsAlike d' n m) (h : FieldsAlike spreadFields n m ms ms') :
    d.spread ms = d'.spread ms' := by
  unfold spread
  rw [h.span_eq (by simp [spreadFields]), h.field?_eq hd.expression (by simp [spreadFields])]

theorem rest_eq (hd : d.ReadsAlike d' n m) (h : FieldsAlike restFields n m ms ms') : d.rest ms = d'.rest ms' := by
  unfold rest
  rw [h.span_eq (by simp [restFields]), h.field?_eq hd.pattern (by simp [restFields])]

/-- Members with a key and a value are read alike, whatever is made of them. -/
theorem property_eq {α β : Type} {value value' : Json → Option α} {role : Role} (hd : d.ReadsAlike d' n m)
    (hvalue : ReadAlike value value' role n m) (h : FieldsAlike (propertyFields role) n m ms ms')
    (make : Span → Expression → α → Bool → Bool → β) :
    (do pure (make (← Span.ofMembers? ms) (← field? "key" d.expression ms) (← field? "value" value ms)
      (← fieldOr "computed" false flag? ms) (← fieldOr "shorthand" false flag? ms))) =
    (do pure (make (← Span.ofMembers? ms') (← field? "key" d'.expression ms') (← field? "value" value' ms')
      (← fieldOr "computed" false flag? ms') (← fieldOr "shorthand" false flag? ms'))) := by
  rw [h.span_eq (by simp [propertyFields]), h.field?_eq hd.expression (by simp [propertyFields]),
    h.field?_eq hvalue (by simp [propertyFields]), h.fieldOr_eq readAlike_flag (by simp [propertyFields]),
    h.fieldOr_eq readAlike_flag (by simp [propertyFields])]

theorem readAlike_objectMember (hd : d.ReadsAlike d' n m) :
    ReadAlike d.objectMember d'.objectMember .objectMember n m := by
  refine (readAlike_tagged (fun _ => rfl) (fun _ => rfl) (fun _ => rfl) fun type ms ms' h => ?_).mono
    n.le_succ m.le_succ
  dsimp only
  split
  · exact property_eq hd hd.expression h ObjectMember.property
  · rw [spread_eq hd h]
  · rfl

theorem object_eq (hd : d.ReadsAlike d' n m)
    (h : FieldsAlike (expressionFields "ObjectExpression") n m ms ms') : d.object ms = d'.object ms' := by
  unfold object
  rw [h.span_eq (by simp [expressionFields]),
    h.fieldOr_eq (readAlike_objectMember hd).list (by simp [expressionFields])]

theorem readAlike_patternMember (hd : d.ReadsAlike d' n m) :
    ReadAlike d.patternMember d'.patternMember .patternMember n m := by
  refine (readAlike_tagged (fun _ => rfl) (fun _ => rfl) (fun _ => rfl) fun type ms ms' h => ?_).mono
    n.le_succ m.le_succ
  dsimp only
  split
  · exact property_eq hd hd.pattern h PatternMember.property
  · rw [rest_eq hd h]
  · rfl

theorem readAlike_declarator (hd : d.ReadsAlike d' n m) :
    ReadAlike d.declarator d'.declarator .declarator n m := by
  refine (readAlike_record (fun _ => rfl) (fun _ => rfl) (fun _ => rfl) fun ms ms' h => ?_).mono n.le_succ m.le_succ
  rw [h.span_eq (by simp [declaratorFields]), h.field?_eq hd.pattern (by simp [declaratorFields]),
    h.optional?_eq hd.expression (by simp [declaratorFields])]

theorem expressionOfType_eq (hd : d.ReadsAlike d' n m) {type : String}
    (h : FieldsAlike (expressionFields type) n m ms ms') :
    d.expressionOfType type ms = d'.expressionOfType type ms' := by
  unfold expressionOfType
  split
  · rw [identifier_eq h]
  · rw [literal_eq h]
  · rw [h.span_eq (by simp [expressionFields]), h.fieldOr_eq readAlike_quasi.list (by simp [expressionFields]),
      h.fieldOr_eq hd.expression.list (by simp [expressionFields])]
  · rw [h.span_eq (by simp [expressionFields]),
      h.fieldOr_eq hd.expression.optional.list (by simp [expressionFields])]
  · rw [object_eq hd h]
  · rw [h.span_eq (by simp [expressionFields]), h.field?_eq hd.expression (by simp [expressionFields]),
      h.fieldOr_eq hd.expression.list (by simp [expressionFields])]
  · rw [h.span_eq (by simp [expressionFields]),
      h.field?_eq hd.expression (by simp [expressionFields]),
      h.field?_eq hd.expression (by simp [expressionFields]),
      h.fieldOr_eq readAlike_flag (by simp [expressionFields])]
  · rw [function_eq hd h]
  · rw [function_eq hd h]
  · rw [function_eq hd h]
  · rw [spread_eq hd h]
  · rfl

theorem patternOfType_eq (hd : d.ReadsAlike d' n m) {type : String}
    (h : FieldsAlike (patternFields type) n m ms ms') : d.patternOfType type ms = d'.patternOfType type ms' := by
  unfold patternOfType
  split
  · rw [identifier_eq h]
  · rw [h.span_eq (by simp [patternFields]),
      h.fieldOr_eq (readAlike_patternMember hd).list (by simp [patternFields])]
  · rw [h.span_eq (by simp [patternFields]), h.fieldOr_eq hd.pattern.optional.list (by simp [patternFields])]
  · rw [h.span_eq (by simp [patternFields]), h.field?_eq hd.pattern (by simp [patternFields]),
      h.field?_eq hd.expression (by simp [patternFields])]
  · rw [rest_eq hd h]
  · rfl

theorem statementOfType_eq (hd : d.ReadsAlike d' n m) {type : String}
    (h : FieldsAlike (statementFields type) n m ms ms') :
    d.statementOfType type ms = d'.statementOfType type ms' := by
  unfold statementOfType
  split
  · rw [importDeclaration_eq h]
  · rw [h.span_eq (by simp [statementFields]), h.fieldOr_eq readAlike_text (by simp [statementFields]),
      h.fieldOr_eq (readAlike_declarator hd).list (by simp [statementFields])]
  · rw [h.span_eq (by simp [statementFields]), h.optional?_eq hd.statement (by simp [statementFields])]
  · rw [h.span_eq (by simp [statementFields]), h.field?_eq hd.expression (by simp [statementFields])]
  · rw [function_eq hd h]
  · rw [h.span_eq (by simp [statementFields]), h.field?_eq hd.expression (by simp [statementFields])]
  · rw [h.span_eq (by simp [statementFields]), h.fieldOr_eq hd.statement.list (by simp [statementFields])]
  · rw [h.span_eq (by simp [statementFields]), h.optional?_eq hd.expression (by simp [statementFields])]
  · rfl

/-- **One more step** reads alike what is one level deeper. -/
theorem step_readsAlike (hd : d.ReadsAlike d' n m) : d.step.ReadsAlike d'.step (n + 1) (m + 1) where
  expression := readAlike_tagged (fun _ => rfl) (fun _ => rfl) (fun _ => rfl) fun _ _ _ h => expressionOfType_eq hd h
  pattern := readAlike_tagged (fun _ => rfl) (fun _ => rfl) (fun _ => rfl) fun _ _ _ h => patternOfType_eq hd h
  statement := readAlike_tagged (fun _ => rfl) (fun _ => rfl) (fun _ => rfl) fun _ _ _ h => statementOfType_eq hd h

theorem ReadsAlike.mono {n' m' : Nat} (hd : d.ReadsAlike d' n m) (hn : n' ≤ n) (hm : m' ≤ m) :
    d.ReadsAlike d' n' m' :=
  ⟨hd.expression.mono hn hm, hd.pattern.mono hn hm, hd.statement.mono hn hm⟩

/-- **Decoders with enough steps for both** read alike what is worded differently in one place. -/
theorem ofFuel_readsAlike (n m : Nat) : (ofFuel n).ReadsAlike (ofFuel m) n m := by
  induction n generalizing m with
  | zero => exact ⟨readAlike_zero_left, readAlike_zero_left, readAlike_zero_left⟩
  | succ n ih =>
    cases m with
    | zero => exact ⟨readAlike_zero_right, readAlike_zero_right, readAlike_zero_right⟩
    | succ m => exact step_readsAlike (ih m)

theorem program_eq (hd : d.ReadsAlike d' n m)
    (h : FieldsAlike (spanFields ++ [.may "body" (.list .statement)]) n m ms ms') :
    d.program ms = d'.program ms' := by
  unfold program
  rw [h.span_eq (by simp), h.fieldOr_eq hd.statement.list (by simp)]

end ScriptDecoder

end StoryCatalog
