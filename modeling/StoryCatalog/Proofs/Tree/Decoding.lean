import StoryCatalog.Proofs.Tree.Schemas

/-!
# Decoders decide what is well-formed

A value can be decoded exactly if it is well-formed in its role. For the decoders that are built in steps this holds
up to the depth of the steps, which is induction on their number; a value is decoded with as many steps as it is deep.

* `ScriptDecoder.ofFuel_decides`: expressions, patterns and statements.
* `MarkupNode.ofJson?_decides`: markup nodes.
-/

namespace StoryCatalog

open Json

/-- Up to a depth, a decoder succeeds exactly with what is well-formed in a role. -/
def Decides {α : Type} (decode : Json → Option α) (role : Role) (n : Nat) : Prop :=
  ∀ j, j.depth ≤ n → ((decode j).isSome ↔ Part.WellFormed (role, j))

section

variable {α β : Type} {decode : Json → Option α} {role : Role} {n m : Nat} {ms : Members} {name : String}

/-! ## Depth -/

theorem depth_le_depthItems {j : Json} {js : List Json} (h : j ∈ js) : j.depth ≤ depthItems js := by
  induction js with
  | nil => cases h
  | cons i js ih =>
    rw [depthItems]
    rcases List.mem_cons.mp h with rfl | h
    · exact Nat.le_max_left _ _
    · exact Nat.le_trans (ih h) (Nat.le_max_right _ _)

theorem depth_le_depthMembers {m : String × Json} (h : m ∈ ms) : m.2.depth ≤ depthMembers ms := by
  induction ms with
  | nil => cases h
  | cons k ms ih =>
    rw [depthMembers]
    rcases List.mem_cons.mp h with rfl | h
    · exact Nat.le_max_left _ _
    · exact Nat.le_trans (ih h) (Nat.le_max_right _ _)

theorem depth_of_member? {j : Json} (h : member? name ms = some (some j)) : j.depth ≤ depthMembers ms := by
  have hj : j ∈ valuesOf name ms := by
    rw [member?_eq_some_some.mp h]
    exact List.mem_singleton_self j
  obtain ⟨m, hm, rfl⟩ := List.mem_map.mp hj
  exact depth_le_depthMembers (List.mem_filter.mp hm |>.1)

/-! ## Decoders in a row -/

section

variable {γ δ ε ζ : Type} {o : Option α} {p : Option β} {q : Option γ} {r : Option δ} {s : Option ε}

theorem isSome_do₂ {f : α → β → ζ} : (do pure (f (← o) (← p))).isSome ↔ o.isSome ∧ p.isSome := by
  cases o <;> cases p <;> simp

theorem isSome_do₃ {f : α → β → γ → ζ} :
    (do pure (f (← o) (← p) (← q))).isSome ↔ o.isSome ∧ p.isSome ∧ q.isSome := by
  cases o <;> cases p <;> cases q <;> simp

theorem isSome_do₄ {f : α → β → γ → δ → ζ} :
    (do pure (f (← o) (← p) (← q) (← r))).isSome ↔ o.isSome ∧ p.isSome ∧ q.isSome ∧ r.isSome := by
  cases o <;> cases p <;> cases q <;> cases r <;> simp

theorem isSome_do₅ {f : α → β → γ → δ → ε → ζ} :
    (do pure (f (← o) (← p) (← q) (← r) (← s))).isSome ↔
      o.isSome ∧ p.isSome ∧ q.isSome ∧ r.isSome ∧ s.isSome := by
  cases o <;> cases p <;> cases q <;> cases r <;> cases s <;> simp

end

/-! ## Small decoders -/

theorem Decides.mono (h : Decides decode role n) (hm : m ≤ n) : Decides decode role m :=
  fun j hj => h j (Nat.le_trans hj hm)

theorem decides_piece (h : ∀ j, role.parts? j = pieceParts? (decode j)) : Decides decode role n :=
  fun j _ => (wellFormed_of_piece (h j)).symm

theorem isSome_mapM_iff {js : List Json} : (js.mapM decode).isSome ↔ ∀ j ∈ js, (decode j).isSome := by
  induction js with
  | nil => simp
  | cons j js ih =>
    rw [List.forall_mem_cons, ← ih, List.mapM_cons]
    cases decode j with
    | none => simp
    | some a => cases js.mapM decode <;> simp

theorem Decides.list (h : Decides decode role n) : Decides (list? decode) (.list role) n := by
  intro j hj
  rw [wellFormed_list]
  cases j with
  | array js =>
    have hlist : list? decode (.array js) = js.mapM decode := rfl
    rw [hlist, isSome_mapM_iff]
    have hitems : ∀ i ∈ js, i.depth ≤ n := by
      intro i hi
      have hi := depth_le_depthItems hi
      rw [depth] at hj
      omega
    constructor
    · exact fun hs => ⟨js, rfl, fun i hi => (h i (hitems i hi)).mp (hs i hi)⟩
    · rintro ⟨is, his, hs⟩ i hi
      cases his
      exact (h i (hitems i hi)).mpr (hs i hi)
  | _ => simp [list?, items?]

theorem Decides.optional (h : Decides decode role n) : Decides (nullable? decode) (.optional role) n := by
  intro j hj
  rw [wellFormed_optional, ← h j hj]
  cases j <;> simp [nullable?]

/-! ## Fields -/

theorem isSome_field?_iff (h : Decides decode role n) (hms : depthMembers ms ≤ n) :
    (field? name decode ms).isSome ↔ (Field.must name role).Fits ms := by
  rw [must_fits, field?]
  rcases hm : member? name ms with _ | _ | j
  · simp
  · simp
  · simpa using h j (Nat.le_trans (depth_of_member? hm) hms)

theorem isSome_fieldOr_iff {absent : α} (h : Decides decode role n) (hms : depthMembers ms ≤ n) :
    (fieldOr name absent decode ms).isSome ↔ (Field.may name role).Fits ms := by
  rw [may_fits, fieldOr]
  rcases hm : member? name ms with _ | _ | j
  · simp
  · simp
  · simpa using h j (Nat.le_trans (depth_of_member? hm) hms)

theorem isSome_optional?_iff (h : Decides decode role n) (hms : depthMembers ms ≤ n) :
    (optional? name decode ms).isSome ↔ (Field.may name (.optional role)).Fits ms :=
  isSome_fieldOr_iff h.optional hms

theorem decides_offset : Decides nat? .offset n := decides_piece fun _ => rfl

theorem decides_text : Decides Json.text? .text n := decides_piece fun _ => rfl

theorem decides_flag : Decides flag? .flag n := decides_piece fun _ => rfl

theorem decides_literalValue : Decides (some ∘ LiteralValue.ofJson) .literalValue n :=
  decides_piece fun _ => rfl

theorem decides_context : Decides (choice? ScriptContext.words) .context n := decides_piece fun _ => rfl

theorem isSome_span_iff : (Span.ofMembers? ms).isSome ↔ Fit spanFields ms := by
  rw [Span.ofMembers?, isSome_do₂, isSome_fieldOr_iff decides_offset (Nat.le_refl _),
    isSome_fieldOr_iff decides_offset (Nat.le_refl _)]
  simp only [spanFields, fit_cons, fit_nil, and_true]

theorem isSome_place_iff : (Span.required? ms).isSome ↔ Fit placeFields ms := by
  rw [Span.required?, isSome_do₂, isSome_field?_iff decides_offset (Nat.le_refl _),
    isSome_field?_iff decides_offset (Nat.le_refl _)]
  simp only [placeFields, fit_cons, fit_nil, and_true]

/-! ## Objects -/

/-- A decoder of objects decides what is well-formed if it does so for their fields. -/
theorem decides_record {decodeFields : Members → Option α} {fields : List Field}
    (hparts : ∀ j, role.parts? j = recordParts? fields j)
    (hdecode : ∀ j, decode j = j.members?.bind decodeFields)
    (h : ∀ ms, depthMembers ms ≤ n → ((decodeFields ms).isSome ↔ Fit fields ms)) :
    Decides decode role (n + 1) := by
  intro j hj
  rw [hdecode, wellFormed_of_record (hparts j)]
  cases j with
  | object ms =>
    have hms : depthMembers ms ≤ n := Nat.le_of_succ_le_succ hj
    constructor
    · exact fun hs => ⟨ms, rfl, (h ms hms).mp hs⟩
    · rintro ⟨ms', hobject, hs⟩
      cases hobject
      exact (h ms hms).mpr hs
  | _ => simp [members?]

theorem object_of_tagged? {tag type : String} {j : Json} (h : tagged? tag j = some (type, ms)) : j = .object ms := by
  unfold tagged? at h
  split at h
  · obtain ⟨ms', hms, h⟩ := Option.bind_eq_some_iff.mp h
    obtain ⟨type', -, h⟩ := Option.bind_eq_some_iff.mp h
    cases h
    cases j with
    | object ms' =>
      cases hms
      rfl
    | _ => cases hms
  · cases h

/-- A decoder of objects with a type decides what is well-formed if it does so for the fields of each type. -/
theorem decides_tagged {ofType : String × Members → Option α} {fields? : String → Option (List Field)}
    (hparts : ∀ j, role.parts? j = taggedParts? fields? j)
    (hdecode : ∀ j, decode j = (tagged? "type" j).bind ofType)
    (h : ∀ type ms, depthMembers ms ≤ n →
      ((ofType (type, ms)).isSome ↔ ∃ fields, fields? type = some fields ∧ Fit fields ms)) :
    Decides decode role (n + 1) := by
  intro j hj
  rw [hdecode, wellFormed_of_tagged (hparts j)]
  cases htype : tagged? "type" j with
  | none => simp
  | some x =>
    obtain ⟨type, ms⟩ := x
    have hms : depthMembers ms ≤ n := by
      rw [object_of_tagged? htype] at hj
      exact Nat.le_of_succ_le_succ hj
    rw [Option.bind_some, h type ms hms]
    constructor
    · exact fun hs => ⟨type, ms, rfl, hs⟩
    · rintro ⟨type', ms', hx, hs⟩
      cases hx
      exact hs

/-! ## Parts of scripts without nesting -/

theorem isSome_identifier_iff : (Identifier.ofMembers? ms).isSome ↔ Fit identifierFields ms := by
  rw [Identifier.ofMembers?, isSome_do₂, isSome_span_iff, isSome_field?_iff decides_text (Nat.le_refl _)]
  simp only [identifierFields, fit_append, fit_cons, fit_nil, and_true]

theorem decides_identifier : Decides Identifier.ofJson? .identifier n :=
  (decides_record (fun _ => rfl) (fun _ => rfl) fun _ _ => isSome_identifier_iff).mono n.le_succ

theorem isSome_literal_iff : (Literal.ofMembers? ms).isSome ↔ Fit literalFields ms := by
  rw [Literal.ofMembers?, isSome_do₂, isSome_span_iff, isSome_fieldOr_iff decides_literalValue (Nat.le_refl _)]
  simp only [literalFields, fit_append, fit_cons, fit_nil, and_true]

theorem decides_literal : Decides Literal.ofJson? .literal n :=
  (decides_record (fun _ => rfl) (fun _ => rfl) fun _ _ => isSome_literal_iff).mono n.le_succ

theorem decides_importedName : Decides ImportedName.ofJson? .importedName n := by
  refine (decides_tagged (fun _ => rfl) (fun _ => rfl) fun type ms _ => ?_).mono n.le_succ
  unfold importedNameFields?
  dsimp only
  split
  · simp [isSome_identifier_iff]
  · simp [isSome_literal_iff]
  · simp

theorem decides_quasi : Decides quasi? .quasi n := by
  refine (decides_record (fun _ => rfl) (fun _ => rfl) fun ms hms => ?_).mono n.le_succ
  have hvalue : Decides (fun v => do optional? "cooked" Json.text? (← v.members?)) .quasiText n := by
    refine (decides_record (fun _ => rfl) (fun _ => rfl) fun vs hvs => ?_).mono n.le_succ
    rw [isSome_optional?_iff decides_text hvs, fit_cons, and_iff_left fit_nil]
  rw [isSome_field?_iff hvalue hms, fit_cons, and_iff_left fit_nil]

theorem decides_importClause : Decides ImportClause.ofJson? .importClause n := by
  refine (decides_tagged (fun _ => rfl) (fun _ => rfl) fun type ms hms => ?_).mono n.le_succ
  unfold importClauseFields?
  dsimp only
  split
  · simp only [isSome_do₃, isSome_span_iff, isSome_field?_iff decides_importedName hms,
      isSome_field?_iff decides_identifier hms]
    simp
  · simp only [isSome_do₂, isSome_span_iff, isSome_field?_iff decides_identifier hms]
    simp
  · simp only [isSome_do₂, isSome_span_iff, isSome_field?_iff decides_identifier hms]
    simp
  · simp

theorem isSome_importDeclaration_iff (hms : depthMembers ms ≤ n) :
    (ImportDeclaration.ofMembers? ms).isSome ↔ Fit (statementFields "ImportDeclaration") ms := by
  rw [ImportDeclaration.ofMembers?, isSome_do₃, isSome_span_iff, isSome_fieldOr_iff decides_importClause.list hms,
    isSome_field?_iff decides_literal hms]
  simp [statementFields]

end

/-! ## Parts of scripts that contain one another -/

namespace ScriptDecoder

variable {d : ScriptDecoder} {n : Nat} {ms : Members}

/-- Up to a depth, the decoders of expressions, patterns and statements succeed exactly with what is well-formed. -/
structure DecidesAll (d : ScriptDecoder) (n : Nat) : Prop where
  expression : Decides d.expression .expression n
  pattern : Decides d.pattern .pattern n
  statement : Decides d.statement .statement n

theorem isSome_function_iff (h : d.DecidesAll n) (hms : depthMembers ms ≤ n) :
    (d.function ms).isSome ↔ Fit functionFields ms := by
  rw [function, isSome_do₄, isSome_span_iff, isSome_optional?_iff decides_identifier hms,
    isSome_fieldOr_iff h.pattern.list hms, isSome_field?_iff h.statement hms]
  simp [functionFields]

theorem isSome_spread_iff (h : d.DecidesAll n) (hms : depthMembers ms ≤ n) :
    (d.spread ms).isSome ↔ Fit spreadFields ms := by
  rw [spread, isSome_do₂, isSome_span_iff, isSome_field?_iff h.expression hms]
  simp [spreadFields]

theorem isSome_rest_iff (h : d.DecidesAll n) (hms : depthMembers ms ≤ n) :
    (d.rest ms).isSome ↔ Fit restFields ms := by
  rw [rest, isSome_do₂, isSome_span_iff, isSome_field?_iff h.pattern hms]
  simp [restFields]

theorem decides_objectMember (h : d.DecidesAll n) : Decides d.objectMember .objectMember n := by
  refine (decides_tagged (fun _ => rfl) (fun _ => rfl) fun type ms hms => ?_).mono n.le_succ
  unfold objectMemberFields?
  dsimp only
  split
  · simp only [isSome_do₅, isSome_span_iff, isSome_field?_iff h.expression hms, isSome_fieldOr_iff decides_flag hms]
    simp [propertyFields]
  · simp [isSome_spread_iff h hms]
  · simp

theorem isSome_object_iff (h : d.DecidesAll n) (hms : depthMembers ms ≤ n) :
    (d.object ms).isSome ↔ Fit (expressionFields "ObjectExpression") ms := by
  rw [object, isSome_do₂, isSome_span_iff, isSome_fieldOr_iff (decides_objectMember h).list hms]
  simp [expressionFields]

theorem decides_patternMember (h : d.DecidesAll n) : Decides d.patternMember .patternMember n := by
  refine (decides_tagged (fun _ => rfl) (fun _ => rfl) fun type ms hms => ?_).mono n.le_succ
  unfold patternMemberFields?
  dsimp only
  split
  · simp only [isSome_do₅, isSome_span_iff, isSome_field?_iff h.expression hms, isSome_field?_iff h.pattern hms,
      isSome_fieldOr_iff decides_flag hms]
    simp [propertyFields]
  · simp [isSome_rest_iff h hms]
  · simp

theorem decides_declarator (h : d.DecidesAll n) : Decides d.declarator .declarator n := by
  refine (decides_record (fun _ => rfl) (fun _ => rfl) fun ms hms => ?_).mono n.le_succ
  rw [isSome_do₃, isSome_span_iff, isSome_field?_iff h.pattern hms, isSome_optional?_iff h.expression hms]
  simp [declaratorFields]

theorem isSome_expressionOfType_iff (h : d.DecidesAll n) (hms : depthMembers ms ≤ n) (type : String) :
    (d.expressionOfType type ms).isSome ↔ Fit (expressionFields type) ms := by
  unfold expressionOfType
  split
  · simp [expressionFields, isSome_identifier_iff]
  · simp [expressionFields, isSome_literal_iff]
  · simp only [isSome_do₃, isSome_span_iff, isSome_fieldOr_iff decides_quasi.list hms,
      isSome_fieldOr_iff h.expression.list hms]
    simp [expressionFields]
  · simp only [isSome_do₂, isSome_span_iff, isSome_fieldOr_iff h.expression.optional.list hms]
    simp [expressionFields]
  · rw [Option.isSome_map, isSome_object_iff h hms]
  · simp only [isSome_do₃, isSome_span_iff, isSome_field?_iff h.expression hms,
      isSome_fieldOr_iff h.expression.list hms]
    simp [expressionFields]
  · simp only [isSome_do₄, isSome_span_iff, isSome_field?_iff h.expression hms, isSome_fieldOr_iff decides_flag hms]
    simp [expressionFields]
  · rw [Option.isSome_map, isSome_function_iff h hms, expressionFields]
  · rw [Option.isSome_map, isSome_function_iff h hms, expressionFields]
  · rw [Option.isSome_map, isSome_function_iff h hms, expressionFields]
  · rw [Option.isSome_map, isSome_spread_iff h hms, expressionFields]
  · simp [expressionFields]

theorem isSome_patternOfType_iff (h : d.DecidesAll n) (hms : depthMembers ms ≤ n) (type : String) :
    (d.patternOfType type ms).isSome ↔ Fit (patternFields type) ms := by
  unfold patternOfType
  split
  · simp [patternFields, isSome_identifier_iff]
  · simp only [isSome_do₂, isSome_span_iff, isSome_fieldOr_iff (decides_patternMember h).list hms]
    simp [patternFields]
  · simp only [isSome_do₂, isSome_span_iff, isSome_fieldOr_iff h.pattern.optional.list hms]
    simp [patternFields]
  · simp only [isSome_do₃, isSome_span_iff, isSome_field?_iff h.pattern hms, isSome_field?_iff h.expression hms]
    simp [patternFields]
  · rw [Option.isSome_map, isSome_rest_iff h hms, patternFields]
  · simp [patternFields]

theorem isSome_statementOfType_iff (h : d.DecidesAll n) (hms : depthMembers ms ≤ n) (type : String) :
    (d.statementOfType type ms).isSome ↔ Fit (statementFields type) ms := by
  unfold statementOfType
  split
  · rw [Option.isSome_map, isSome_importDeclaration_iff hms]
  · simp only [isSome_do₃, isSome_span_iff, isSome_fieldOr_iff decides_text hms,
      isSome_fieldOr_iff (decides_declarator h).list hms]
    simp [statementFields]
  · simp only [isSome_do₂, isSome_span_iff, isSome_optional?_iff h.statement hms]
    simp [statementFields]
  · simp only [isSome_do₂, isSome_span_iff, isSome_field?_iff h.expression hms]
    simp [statementFields]
  · rw [Option.isSome_map, isSome_function_iff h hms, statementFields]
  · simp only [isSome_do₂, isSome_span_iff, isSome_field?_iff h.expression hms]
    simp [statementFields]
  · simp only [isSome_do₂, isSome_span_iff, isSome_fieldOr_iff h.statement.list hms]
    simp [statementFields]
  · simp only [isSome_do₂, isSome_span_iff, isSome_optional?_iff h.expression hms]
    simp [statementFields]
  · simp [statementFields]

/-- **One more step** decodes what is one level deeper. -/
theorem step_decides (h : d.DecidesAll n) : d.step.DecidesAll (n + 1) where
  expression := decides_tagged (fun _ => rfl) (fun _ => rfl) fun type ms hms => by
    simpa using isSome_expressionOfType_iff h hms type
  pattern := decides_tagged (fun _ => rfl) (fun _ => rfl) fun type ms hms => by
    simpa using isSome_patternOfType_iff h hms type
  statement := decides_tagged (fun _ => rfl) (fun _ => rfl) fun type ms hms => by
    simpa using isSome_statementOfType_iff h hms type

theorem DecidesAll.mono {m : Nat} (h : d.DecidesAll n) (hm : m ≤ n) : d.DecidesAll m :=
  ⟨h.expression.mono hm, h.pattern.mono hm, h.statement.mono hm⟩

/-- **Decoders with enough steps** decide what is well-formed. -/
theorem ofFuel_decides (n : Nat) : (ofFuel n).DecidesAll n := by
  induction n with
  | zero =>
    have none : ∀ {α : Type} (role : Role), Decides (fun _ : Json => (none : Option α)) role 0 := by
      intro α role j hj
      cases j <;> simp [depth] at hj
    exact ⟨none _, none _, none _⟩
  | succ n ih => exact step_decides ih

theorem isSome_program_iff (h : d.DecidesAll n) (hms : depthMembers ms ≤ n) :
    (d.program ms).isSome ↔ Fit (spanFields ++ [.may "body" (.list .statement)]) ms := by
  rw [program, isSome_do₂, isSome_span_iff, isSome_fieldOr_iff h.statement.list hms]
  simp

end ScriptDecoder

/-! ## Attributes -/

section

variable {d : ScriptDecoder} {n : Nat} {ms : Members}

theorem isSome_textNode_iff : (TextNode.ofMembers? ms).isSome ↔ Fit textFields ms := by
  rw [TextNode.ofMembers?, isSome_do₂, isSome_place_iff, isSome_fieldOr_iff decides_text (Nat.le_refl _)]
  simp [textFields]

theorem isSome_comment_iff : (Comment.ofMembers? ms).isSome ↔ Fit textFields ms := by
  rw [Comment.ofMembers?, isSome_do₂, isSome_place_iff, isSome_fieldOr_iff decides_text (Nat.le_refl _)]
  simp [textFields]

theorem isSome_tag_iff (h : d.DecidesAll n) (hms : depthMembers ms ≤ n) :
    (ExpressionTag.ofMembers? d ms).isSome ↔ Fit tagFields ms := by
  rw [ExpressionTag.ofMembers?, isSome_do₂, isSome_place_iff, isSome_field?_iff h.expression hms]
  simp [tagFields]

theorem decides_chunk (h : d.DecidesAll n) : Decides (AttributeChunk.ofJson? d) .chunk n := by
  refine (decides_tagged (fun _ => rfl) (fun _ => rfl) fun type ms hms => ?_).mono n.le_succ
  unfold chunkFields?
  dsimp only
  split
  · simp [isSome_textNode_iff]
  · simp [isSome_tag_iff h hms]
  · simp

theorem decides_attributeValue (h : d.DecidesAll n) : Decides (AttributeValue.ofJson? d) .attributeValue n := by
  intro j hj
  rw [Part.wellFormed_iff]
  cases j with
  | object ms =>
    have hms : depthMembers ms ≤ n := Nat.le_of_succ_le hj
    rw [AttributeValue.ofJson?, Option.isSome_map, isSome_tag_iff h hms]
    exact fit_iff
  | array js =>
    have hlist : (AttributeValue.ofJson? d (.array js)).isSome =
        (list? (AttributeChunk.ofJson? d) (.array js)).isSome := Option.isSome_map
    rw [hlist, (decides_chunk h).list _ hj, Part.wellFormed_iff]
    rfl
  | _ => simp [AttributeValue.ofJson?, Role.parts?]

theorem decides_attribute (h : d.DecidesAll n) : Decides (AttributeNode.ofJson? d) .attributeNode n := by
  refine (decides_tagged (fun _ => rfl) (fun _ => rfl) fun type ms hms => ?_).mono n.le_succ
  dsimp only
  split
  · rw [Option.isSome_map, Attribute.ofMembers?, isSome_do₃, isSome_place_iff, isSome_field?_iff decides_text hms,
      isSome_field?_iff (decides_attributeValue h) hms]
    simp [attributeFields]
  · rw [isSome_do₂, isSome_place_iff, isSome_field?_iff h.expression hms]
    simp [attributeFields, tagFields]
  · simp [attributeFields]

/-! ## Markup -/

variable {node : Json → Option MarkupNode}

theorem Fragment.ofJson?_eq (node : Json → Option MarkupNode) (j : Json) : Fragment.ofJson? node j =
    j.members?.bind fun ms => (fieldOr "nodes" [] (list? node) ms).map Fragment.mk := by
  rw [Fragment.ofJson?]
  cases j.members? with
  | none => rfl
  | some ms =>
    change ((fieldOr "nodes" [] (list? node) ms).bind fun ns => some (Fragment.mk ns)) = _
    rw [Option.bind_some, Option.map_eq_bind]
    rfl

theorem decides_fragment (h : Decides node .node n) : Decides (Fragment.ofJson? node) .fragment n := by
  refine (decides_record (fun _ => rfl) (Fragment.ofJson?_eq node) fun ms hms => ?_).mono n.le_succ
  rw [Option.isSome_map, isSome_fieldOr_iff h.list hms]
  simp

theorem isSome_element_iff (hd : d.DecidesAll n) (h : Decides node .node n) (hms : depthMembers ms ≤ n) :
    (Element.ofMembers? d node ms).isSome ↔ Fit elementFields ms := by
  rw [Element.ofMembers?, isSome_do₄, isSome_place_iff, isSome_field?_iff decides_text hms,
    isSome_fieldOr_iff (decides_attribute hd).list hms, isSome_fieldOr_iff (decides_fragment h) hms]
  simp [elementFields]

namespace MarkupNode

theorem nodeFields_of_special {kind : String} (h : specialKinds.contains kind = true) :
    nodeFields kind = elementFields := by
  unfold nodeFields
  split
  all_goals first | rfl | exact absurd h (by decide) | rw [if_pos h]

theorem nodeFields_of_not_modelled {kind : String} (h : isModelled kind = false) :
    nodeFields kind = placeFields := by
  unfold nodeFields
  split
  all_goals first | exact absurd h (by decide) | skip
  rw [isModelled, Bool.or_eq_false_iff] at h
  rw [h.2]
  rfl

theorem isSome_ofKind?_iff (hd : d.DecidesAll n) (h : Decides node .node n) (hms : depthMembers ms ≤ n)
    {kind : String} (hkind : isModelled kind = true) :
    (ofKind? d node kind ms).isSome ↔ Fit (nodeFields kind) ms := by
  unfold ofKind?
  dsimp only
  split
  · simp [nodeFields, isSome_textNode_iff]
  · simp [nodeFields, isSome_comment_iff]
  · simp [nodeFields, isSome_tag_iff hd hms]
  · simp [nodeFields, isSome_tag_iff hd hms]
  · simp [nodeFields, isSome_tag_iff hd hms]
  · simp [nodeFields, isSome_element_iff hd h hms]
  · simp [nodeFields, isSome_element_iff hd h hms]
  · simp only [isSome_do₄, isSome_place_iff, isSome_field?_iff hd.expression hms,
      isSome_fieldOr_iff (decides_fragment h) hms, isSome_optional?_iff (decides_fragment h) hms]
    simp [nodeFields]
  · simp only [isSome_do₄, isSome_place_iff, isSome_field?_iff hd.expression hms,
      isSome_fieldOr_iff (decides_fragment h) hms, isSome_optional?_iff (decides_fragment h) hms]
    simp [nodeFields]
  · simp only [isSome_do₅, isSome_place_iff, isSome_field?_iff hd.expression hms,
      isSome_optional?_iff (decides_fragment h) hms]
    simp [nodeFields]
  · simp only [isSome_do₃, isSome_place_iff, isSome_field?_iff hd.expression hms,
      isSome_fieldOr_iff (decides_fragment h) hms]
    simp [nodeFields]
  · simp only [isSome_do₄, isSome_place_iff, isSome_field?_iff decides_identifier hms,
      isSome_fieldOr_iff hd.pattern.list hms, isSome_fieldOr_iff (decides_fragment h) hms]
    simp [nodeFields]
  · have hspecial : specialKinds.contains kind = true := by simp_all [isModelled, plainKinds]
    rw [hspecial, Bool.true_or, if_pos rfl, Option.isSome_map, isSome_element_iff hd h hms,
      nodeFields_of_special hspecial]

/-- Of the kinds that are not modelled, only that of the special family itself may be decoded. -/
theorem ofKind?_of_not_modelled {kind : String} (h : isModelled kind = false) :
    ofKind? d node kind ms =
      if kind == "SpecialElement" then (Element.ofMembers? d node ms).map (element .special) else none := by
  unfold ofKind?
  dsimp only
  split
  all_goals first | exact absurd h (by decide) | skip
  rw [isModelled, Bool.or_eq_false_iff] at h
  rw [h.2, Bool.false_or]

/-- **A node** is decoded if it is well-formed, whether or not its kind is modelled. -/
theorem decides_decode (hd : d.DecidesAll n) (h : Decides node .node n) : Decides (decode d node) .node (n + 1) := by
  refine decides_tagged (fun _ => rfl) (fun _ => rfl) fun kind ms hms => ?_
  simp only [Function.comp_apply, Option.some.injEq, exists_eq_left']
  by_cases hkind : isModelled kind = true
  · rw [← isSome_ofKind?_iff hd h hms hkind]
    cases ofKind? d node kind ms <;> simp [hkind]
  · rw [Bool.not_eq_true] at hkind
    rw [nodeFields_of_not_modelled hkind, ← isSome_place_iff, hkind]
    cases hn : ofKind? d node kind ms with
    | none => simp
    | some x =>
      -- An element of the special family has its offsets.
      rw [ofKind?_of_not_modelled hkind] at hn
      split at hn
      · have hsome : (Element.ofMembers? d node ms).isSome := by
          rw [← Option.isSome_map, hn]
          rfl
        rw [isSome_element_iff hd h hms, elementFields, fit_append, ← isSome_place_iff] at hsome
        simp [hsome.1]
      · cases hn

/-- **Nodes are decoded** with enough steps exactly if they are well-formed. -/
theorem ofJson?_decides {m : Nat} (hd : d.DecidesAll m) : Decides (ofJson? d n) .node (min n m) := by
  induction n with
  | zero =>
    intro j hj
    cases j <;> simp [depth] at hj
  | succ n ih => exact (decides_decode (hd.mono (Nat.min_le_right n m)) ih).mono (by omega)

end MarkupNode

/-! ## Whole trees -/

theorem decides_script (h : d.DecidesAll n) : Decides (ScriptBlock.ofJson? d) .script n := by
  have hcontent : Decides (fun c => do d.program (← c.members?)) .program n :=
    (decides_record (fun _ => rfl) (fun _ => rfl) fun _ hms => ScriptDecoder.isSome_program_iff h hms).mono n.le_succ
  refine (decides_record (fun _ => rfl) (fun _ => rfl) fun ms hms => ?_).mono n.le_succ
  rw [isSome_do₃, isSome_place_iff, isSome_fieldOr_iff decides_context hms, isSome_field?_iff hcontent hms]
  simp

end

/-- **A program is decoded** exactly if it is well-formed. -/
theorem Program.isSome_ofJson?_iff (j : Json) : (Program.ofJson? j).isSome ↔ Part.WellFormed (.program, j) := by
  have h : Decides (fun i => do (ScriptDecoder.forJson j).program (← i.members?)) .program (j.depth + 1) :=
    decides_record (fun _ => rfl) (fun _ => rfl) fun _ hms =>
      ScriptDecoder.isSome_program_iff (ScriptDecoder.ofFuel_decides j.depth) hms
  exact h j j.depth.le_succ

/-- **A document is decoded** exactly if it is well-formed. -/
theorem Root.isSome_ofJson?_iff (j : Json) : (Root.ofJson? j).isSome ↔ Part.WellFormed (.root, j) := by
  have hd : (ScriptDecoder.forJson j).DecidesAll j.depth := ScriptDecoder.ofFuel_decides j.depth
  have hnode : Decides (MarkupNode.decoderFor j) .node j.depth := (MarkupNode.ofJson?_decides hd).mono (by simp)
  have h : Decides (fun i => do
      let ms ← i.members?
      pure (Root.mk (← Span.required? ms)
        (← fieldOr "fragment" ⟨[]⟩ (Fragment.ofJson? (MarkupNode.decoderFor j)) ms)
        (← optional? "instance" (ScriptBlock.ofJson? (ScriptDecoder.forJson j)) ms)
        (← optional? "module" (ScriptBlock.ofJson? (ScriptDecoder.forJson j)) ms))) .root (j.depth + 1) := by
    refine decides_record (fun _ => rfl) (fun _ => rfl) fun ms hms => ?_
    rw [isSome_do₄, isSome_place_iff, isSome_fieldOr_iff (decides_fragment hnode) hms,
      isSome_optional?_iff (decides_script hd) hms, isSome_optional?_iff (decides_script hd) hms]
    simp
  exact h j j.depth.le_succ

end StoryCatalog
