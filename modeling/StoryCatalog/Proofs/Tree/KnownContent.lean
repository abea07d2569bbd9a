import StoryCatalog.Proofs.Tree.Rewordings

/-!
# Only the known content counts

What a document or a program is decoded to, and whether it is decoded at all, depends on what it holds in the fields
that count. Neither the order of members nor what is given in other fields makes a difference, at any depth.

* `MarkupNode.ofJson?_readAlike`: markup nodes.
* `Program.ofJson?_of_rewords`, `Root.ofJson?_of_rewords`: one change of the wording.
* `decoding_of_rewordings`: **any number of changes** leaves a document and a program as they are.
-/

namespace StoryCatalog

open Json

section

variable {d d' : ScriptDecoder} {n m : Nat} {ms ms' : Members}

/-! ## Attributes -/

theorem textNode_eq (h : FieldsAlike textFields n m ms ms') : TextNode.ofMembers? ms = TextNode.ofMembers? ms' := by
  rw [TextNode.ofMembers?, TextNode.ofMembers?, h.place_eq (by simp [textFields]),
    h.fieldOr_eq readAlike_text (by simp [textFields])]

theorem comment_eq (h : FieldsAlike textFields n m ms ms') : Comment.ofMembers? ms = Comment.ofMembers? ms' := by
  rw [Comment.ofMembers?, Comment.ofMembers?, h.place_eq (by simp [textFields]),
    h.fieldOr_eq readAlike_text (by simp [textFields])]

theorem tag_eq (hd : d.ReadsAlike d' n m) (h : FieldsAlike tagFields n m ms ms') :
    ExpressionTag.ofMembers? d ms = ExpressionTag.ofMembers? d' ms' := by
  rw [ExpressionTag.ofMembers?, ExpressionTag.ofMembers?, h.place_eq (by simp [tagFields]),
    h.field?_eq hd.expression (by simp [tagFields])]

theorem readAlike_chunk (hd : d.ReadsAlike d' n m) :
    ReadAlike (AttributeChunk.ofJson? d) (AttributeChunk.ofJson? d') .chunk n m := by
  refine (readAlike_tagged (fun _ => rfl) (fun _ => rfl) (fun _ => rfl) fun type ms ms' h => ?_).mono
    n.le_succ m.le_succ
  dsimp only
  split
  · exact congrArg (Option.map _) (textNode_eq h)
  · exact congrArg (Option.map _) (tag_eq hd h)
  · rfl

theorem readAlike_attributeValue (hd : d.ReadsAlike d' n m) :
    ReadAlike (AttributeValue.ofJson? d) (AttributeValue.ofJson? d') .attributeValue n m := by
  intro j j' hj hdepth hdepth'
  cases j with
  | object ms =>
    obtain ⟨ms', rfl, hfind⟩ := hj.find rfl
    have h : FieldsAlike tagFields n m ms ms' := ⟨Nat.le_of_succ_le hdepth, Nat.le_of_succ_le hdepth', hfind⟩
    rw [AttributeValue.ofJson?, AttributeValue.ofJson?, tag_eq hd h]
  | array js =>
    obtain ⟨js', rfl, hall⟩ := hj.items rfl
    rw [AttributeValue.ofJson?, AttributeValue.ofJson?,
      (readAlike_chunk hd).mapM_eq hall (Nat.le_of_succ_le hdepth) (Nat.le_of_succ_le hdepth')]
  | _ =>
    obtain rfl | ⟨ms, ms', hms, -⟩ | ⟨js, js', hjs, -⟩ := hj.shape
    · rfl
    · cases hms
    · cases hjs

theorem readAlike_attribute (hd : d.ReadsAlike d' n m) :
    ReadAlike (AttributeNode.ofJson? d) (AttributeNode.ofJson? d') .attributeNode n m := by
  refine (readAlike_tagged (fun _ => rfl) (fun _ => rfl) (fun _ => rfl) fun type ms ms' h => ?_).mono
    n.le_succ m.le_succ
  dsimp only
  split
  · rw [Attribute.ofMembers?, Attribute.ofMembers?, h.place_eq (by simp [attributeFields]),
      h.field?_eq readAlike_text (by simp [attributeFields]),
      h.field?_eq (readAlike_attributeValue hd) (by simp [attributeFields])]
  · rw [h.place_eq (by simp [attributeFields, tagFields]),
      h.field?_eq hd.expression (by simp [attributeFields, tagFields])]
  · rfl

/-! ## Markup -/

variable {node node' : Json → Option MarkupNode}

theorem readAlike_fragment (hnode : ReadAlike node node' .node n m) :
    ReadAlike (Fragment.ofJson? node) (Fragment.ofJson? node') .fragment n m := by
  refine (readAlike_record (fun _ => rfl) (Fragment.ofJson?_eq node) (Fragment.ofJson?_eq node')
    fun ms ms' h => ?_).mono n.le_succ m.le_succ
  rw [h.fieldOr_eq hnode.list (by simp)]

theorem element_eq (hd : d.ReadsAlike d' n m) (hnode : ReadAlike node node' .node n m)
    (h : FieldsAlike elementFields n m ms ms') :
    Element.ofMembers? d node ms = Element.ofMembers? d' node' ms' := by
  rw [Element.ofMembers?, Element.ofMembers?, h.place_eq (by simp [elementFields]),
    h.field?_eq readAlike_text (by simp [elementFields]),
    h.fieldOr_eq (readAlike_attribute hd).list (by simp [elementFields]),
    h.fieldOr_eq (readAlike_fragment hnode) (by simp [elementFields])]

namespace MarkupNode

theorem placeFields_subset (kind : String) : placeFields ⊆ variantFields kind := by
  unfold variantFields nodeFields
  split
  · simp [elementFields]
  · split
    all_goals simp [textFields, tagFields, elementFields]
    split <;> simp

theorem ofKind?_eq (hd : d.ReadsAlike d' n m) (hnode : ReadAlike node node' .node n m) {kind : String}
    (h : FieldsAlike (variantFields kind) n m ms ms') :
    ofKind? d node kind ms = ofKind? d' node' kind ms' := by
  have hfragment := readAlike_fragment hnode
  unfold ofKind?
  dsimp only
  split
  · rw [textNode_eq h]
  · rw [comment_eq h]
  · rw [tag_eq hd h]
  · rw [tag_eq hd h]
  · rw [tag_eq hd h]
  · rw [element_eq hd hnode h]
  · rw [element_eq hd hnode h]
  · rw [h.place_eq (placeFields_subset _), h.field?_eq hd.expression (by simp [variantFields, nodeFields]),
      h.fieldOr_eq hfragment (by simp [variantFields, nodeFields]),
      h.optional?_eq hfragment (by simp [variantFields, nodeFields])]
  · rw [h.place_eq (placeFields_subset _), h.field?_eq hd.expression (by simp [variantFields, nodeFields]),
      h.fieldOr_eq hfragment (by simp [variantFields, nodeFields]),
      h.optional?_eq hfragment (by simp [variantFields, nodeFields])]
  · rw [h.place_eq (placeFields_subset _), h.field?_eq hd.expression (by simp [variantFields, nodeFields]),
      h.optional?_eq hfragment (by simp [variantFields, nodeFields]),
      h.optional?_eq hfragment (by simp [variantFields, nodeFields]),
      h.optional?_eq hfragment (by simp [variantFields, nodeFields])]
  · rw [h.place_eq (placeFields_subset _), h.field?_eq hd.expression (by simp [variantFields, nodeFields]),
      h.fieldOr_eq hfragment (by simp [variantFields, nodeFields])]
  · rw [h.place_eq (placeFields_subset _), h.field?_eq readAlike_identifier (by simp [variantFields, nodeFields]),
      h.fieldOr_eq hd.pattern.list (by simp [variantFields, nodeFields]),
      h.fieldOr_eq hfragment (by simp [variantFields, nodeFields])]
  · split
    case isTrue hspecial =>
      have helement : variantFields kind = elementFields := by
        unfold variantFields
        split
        · rfl
        · exact nodeFields_of_special (by simp_all)
      rw [helement] at h
      rw [element_eq hd hnode h]
    case isFalse => rfl

/-- **A node** is read alike if the nodes inside it are, whether or not its kind is modelled. -/
theorem readAlike_decode (hd : d.ReadsAlike d' n m) (hnode : ReadAlike node node' .node n m) :
    ReadAlike (decode d node) (decode d' node') .node (n + 1) (m + 1) := by
  refine readAlike_tagged (fun _ => rfl) (fun _ => rfl) (fun _ => rfl) fun kind ms ms' h => ?_
  dsimp only
  rw [ofKind?_eq hd hnode h, h.place_eq (placeFields_subset kind)]

/-- **Nodes are read alike** with enough steps for both wordings. -/
theorem ofJson?_readAlike {k l : Nat} (hd : d.ReadsAlike d' k l) (n m : Nat) :
    ReadAlike (ofJson? d n) (ofJson? d' m) .node (min n k) (min m l) := by
  induction n generalizing m with
  | zero => exact readAlike_zero_left.mono (by omega) (Nat.le_refl _)
  | succ n ih =>
    cases m with
    | zero => exact readAlike_zero_right.mono (Nat.le_refl _) (by omega)
    | succ m =>
      have hd' : d.ReadsAlike d' (min n k) (min m l) := hd.mono (by omega) (by omega)
      exact (readAlike_decode hd' (ih m)).mono (by omega) (by omega)

end MarkupNode

/-! ## Whole trees -/

theorem readAlike_script (hd : d.ReadsAlike d' n m) :
    ReadAlike (ScriptBlock.ofJson? d) (ScriptBlock.ofJson? d') .script n m := by
  have hcontent : ReadAlike (fun c => do d.program (← c.members?)) (fun c => do d'.program (← c.members?))
      .program n m :=
    (readAlike_record (fun _ => rfl) (fun _ => rfl) (fun _ => rfl) fun _ _ h =>
      ScriptDecoder.program_eq hd h).mono n.le_succ m.le_succ
  refine (readAlike_record (fun _ => rfl) (fun _ => rfl) (fun _ => rfl) fun ms ms' h => ?_).mono n.le_succ m.le_succ
  rw [h.place_eq (by simp), h.fieldOr_eq readAlike_context (by simp), h.field?_eq hcontent (by simp)]

variable {j j' : Json}

theorem Program.ofJson?_of_alike (h : Alike .program j j') : Program.ofJson? j = Program.ofJson? j' := by
  have hd : (ScriptDecoder.forJson j).ReadsAlike (ScriptDecoder.forJson j') j.depth j'.depth :=
    ScriptDecoder.ofFuel_readsAlike _ _
  have hread : ReadAlike (fun i => do (ScriptDecoder.forJson j).program (← i.members?))
      (fun i => do (ScriptDecoder.forJson j').program (← i.members?)) .program (j.depth + 1) (j'.depth + 1) :=
    readAlike_record (fun _ => rfl) (fun _ => rfl) (fun _ => rfl) fun _ _ h => ScriptDecoder.program_eq hd h
  exact hread j j' h j.depth.le_succ j'.depth.le_succ

/-- The document that is an object with these fields, by the decoders of its parts. -/
def Root.ofMembers? (d : ScriptDecoder) (node : Json → Option MarkupNode) (ms : Members) : Option Root := do
  pure ⟨← Span.required? ms, ← fieldOr "fragment" ⟨[]⟩ (Fragment.ofJson? node) ms,
    ← optional? "instance" (ScriptBlock.ofJson? d) ms, ← optional? "module" (ScriptBlock.ofJson? d) ms⟩

theorem Root.ofJson?_of_alike (h : Alike .root j j') : Root.ofJson? j = Root.ofJson? j' := by
  have hd : (ScriptDecoder.forJson j).ReadsAlike (ScriptDecoder.forJson j') j.depth j'.depth :=
    ScriptDecoder.ofFuel_readsAlike _ _
  have hnode : ReadAlike (MarkupNode.decoderFor j) (MarkupNode.decoderFor j') .node j.depth j'.depth :=
    (MarkupNode.ofJson?_readAlike hd j.depth j'.depth).mono (by simp) (by simp)
  have hread : ReadAlike (fun i => i.members?.bind (ofMembers? (ScriptDecoder.forJson j) (MarkupNode.decoderFor j)))
      (fun i => i.members?.bind (ofMembers? (ScriptDecoder.forJson j') (MarkupNode.decoderFor j')))
      .root (j.depth + 1) (j'.depth + 1) := by
    refine readAlike_record (fun _ => rfl) (fun _ => rfl) (fun _ => rfl) fun ms ms' h => ?_
    rw [ofMembers?, ofMembers?, h.place_eq (by simp), h.fieldOr_eq (readAlike_fragment hnode) (by simp),
      h.optional?_eq (readAlike_script hd) (by simp),
      h.optional?_eq (readAlike_script hd) (by simp)]
  exact hread j j' h j.depth.le_succ j'.depth.le_succ

/-- One change of the wording leaves a program as it is. -/
theorem Program.ofJson?_of_rewords (hj : j.Distinct) (h : Rewords .program j j') :
    Program.ofJson? j' = Program.ofJson? j :=
  (ofJson?_of_alike ⟨hj, .inr h⟩).symm

/-- One change of the wording leaves a document as it is. -/
theorem Root.ofJson?_of_rewords (hj : j.Distinct) (h : Rewords .root j j') : Root.ofJson? j' = Root.ofJson? j :=
  (ofJson?_of_alike ⟨hj, .inr h⟩).symm

/-- What each single change of the wording keeps, any number of changes keep. -/
theorem eq_of_rewordings {α : Type} {read : Json → Option α} {role : Role}
    (hread : ∀ i i', i.Distinct → Rewords role i i' → read i' = read i) (hj : j.Distinct)
    (h : Relation.ReflTransGen (Rewords role) j j') : read j' = read j := by
  have hboth : j'.Distinct ∧ read j' = read j := by
    induction h with
    | refl => exact ⟨hj, rfl⟩
    | tail _ hword ih => exact ⟨hword.distinct ih.1, (hread _ _ ih.1 hword).trans ih.2⟩
  exact hboth.2

end

/-- **Only the known content counts.** However the members of objects are put in another order, anywhere in a tree
without names given twice, and whatever is given to nodes under names that they do not know, a document is decoded to
the same tree or refused as before, and so is a program. -/
theorem decoding_of_rewordings :
    (∀ j j' : Json, j.Distinct → Relation.ReflTransGen (Rewords .root) j j' → Root.ofJson? j' = Root.ofJson? j) ∧
      ∀ j j' : Json, j.Distinct → Relation.ReflTransGen (Rewords .program) j j' →
        Program.ofJson? j' = Program.ofJson? j :=
  ⟨fun _ _ => eq_of_rewordings fun _ _ => Root.ofJson?_of_rewords,
    fun _ _ => eq_of_rewordings fun _ _ => Program.ofJson?_of_rewords⟩

namespace RewordedComponent

/-- A document with one component. -/
def document (component : Members) : Json :=
  .object ([("start", .number (.nat 0)), ("end", .number (.nat 9))] ++
    ("fragment", .object ([] ++ ("nodes", .array ([] ++ .object component :: [])) :: [])) :: [])

/-- The name of a component without content, with its place. -/
def name : Members :=
  [("start", .number (.nat 0)), ("end", .number (.nat 9)), ("name", .string "Story")]

/-- The component as it is given. -/
def component : Members :=
  ("type", .string "Component") :: name

/-- The component with its type at the end. -/
def reordered : Members :=
  name ++ [("type", .string "Component")]

/-- The component with its type at the end, and the line of its name. -/
def widened : Members :=
  ("name_loc", .object [("line", .number (.nat 1))]) :: reordered

/-- The statements of a program that has none. -/
def statements : Members :=
  [("body", .array [])]

theorem distinct_component : (document component).Distinct := by
  simp [document, component, name, distinct_object, distinct_array, Distinct.number, Distinct.string]

theorem reorders_component : Rewords .root (document component) (document reordered) :=
  .inl (.member (.member (.item (.members (List.perm_append_singleton _ _).symm))))

theorem widens_reordered : Rewords .root (document reordered) (document widened) := by
  have hloc : Distinct (.object [("line", .number (.nat 1))]) := by simp [distinct_object, Distinct.number]
  have hnode : Widens .node (.object reordered) (.object widened) := .here rfl (by decide) (by decide) rfl hloc
  have hfragment : Widens .fragment (.object ([] ++ ("nodes", .array ([] ++ .object reordered :: [])) :: []))
      (.object ([] ++ ("nodes", .array ([] ++ .object widened :: [])) :: [])) :=
    .inField rfl (f := .may "nodes" (.list .node)) (by simp) (.inItem rfl hnode)
  exact .inr (.inField rfl (f := .may "fragment" .fragment) (by simp) hfragment)

theorem widens_program :
    Rewords .program (.object statements) (.object (("sourceType", .string "module") :: statements)) :=
  .inr (.here rfl (by decide) (by decide) rfl (.string _))

end RewordedComponent

open RewordedComponent in
/-- A component is decoded as before if its type is moved to its end and it is told where its name stands, and so is a
program that is told to be a module. -/
theorem decoding_of_rewordings_component :
    ((Root.ofJson? (document component)).isSome ∧
      Root.ofJson? (document widened) = Root.ofJson? (document component)) ∧
    (Program.ofJson? (.object statements)).isSome ∧
      Program.ofJson? (.object (("sourceType", .string "module") :: statements)) =
        Program.ofJson? (.object statements) := by
  have hprogram : Distinct (.object statements) := by simp [statements, distinct_object, distinct_array]
  exact ⟨⟨by decide, decoding_of_rewordings.1 _ _ distinct_component
      (.tail (.single reorders_component) widens_reordered)⟩,
    by decide, decoding_of_rewordings.2 _ _ hprogram (.single widens_program)⟩

end StoryCatalog
