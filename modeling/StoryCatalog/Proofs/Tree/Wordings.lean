import Mathlib.Data.List.Nodup
import StoryCatalog.Proofs.Json.Order
import StoryCatalog.Proofs.Tree.Decoding

/-!
# Wordings of a tree

A tree that is given as a JSON value may be worded in many ways: the members of any object may stand in another order,
and a node may have members that nobody asks for. What counts in a wording is what is found in the fields that count.

* `Role.fields?`, `Role.item?`: what counts in an object and in an array.
* `Widens`, `Rewords`: something else in a member that a node does not know, and any single change of the wording.
* `Alike.find`, `Alike.items`: one level of two wordings at a time.
-/

namespace StoryCatalog

open Json

/-- The fields that count in an object with a type, the type among them. Nothing else counts if it cannot be read. -/
def typedFields (fields : String → List Field) (ms : Members) : List Field :=
  .must "type" .text :: ((field? "type" text? ms).map fields).getD []

/-- The fields of a markup node that count for any of its variants. A node of the kind of the special family itself is
an element, if it can be. -/
def variantFields (kind : String) : List Field :=
  if kind = "SpecialElement" then elementFields else nodeFields kind

/-- The fields that count in a node of the tree, given as an object in a role. -/
def Role.fields? : Role → Members → Option (List Field)
  | identifier, _ => some identifierFields
  | literal, _ => some literalFields
  | quasi, _ => some [.must "value" .quasiText]
  | quasiText, _ => some [.may "cooked" (.optional .text)]
  | importedName, ms => some (typedFields (fun type => (importedNameFields? type).getD []) ms)
  | importClause, ms => some (typedFields (fun type => (importClauseFields? type).getD []) ms)
  | expression, ms => some (typedFields expressionFields ms)
  | pattern, ms => some (typedFields patternFields ms)
  | statement, ms => some (typedFields statementFields ms)
  | objectMember, ms => some (typedFields (fun type => (objectMemberFields? type).getD []) ms)
  | patternMember, ms => some (typedFields (fun type => (patternMemberFields? type).getD []) ms)
  | declarator, _ => some declaratorFields
  | chunk, ms => some (typedFields (fun type => (chunkFields? type).getD []) ms)
  | attributeValue, _ => some tagFields
  | attributeNode, ms => some (typedFields attributeFields ms)
  | node, ms => some (typedFields variantFields ms)
  | fragment, _ => some [.may "nodes" (.list .node)]
  | program, _ => some (spanFields ++ [.may "body" (.list .statement)])
  | script, _ => some (placeFields ++ [.may "context" .context, .must "content" .program])
  | root, _ => some (placeFields ++ [.may "fragment" .fragment, .may "instance" (.optional .script),
      .may "module" (.optional .script)])
  | _, _ => none

/-- The role of the items of an array in a role. -/
def Role.item? : Role → Option Role
  | list item => some item
  | attributeValue => some chunk
  | _ => none

/-- One node in a tree has a member more, under a name that the node neither knows nor has, or something else in a
member that it does not know. -/
inductive Widens : Role → Json → Json → Prop where
  | here {role : Role} {ms : Members} {fields : List Field} {name : String} {j : Json}
    (counts : role.fields? ms = some fields) (unknown : ∀ f ∈ fields, f.name ≠ name)
    (fresh : ∀ m ∈ ms, m.1 ≠ name) (sound : j.isSound = true) (distinct : j.Distinct) :
    Widens role (.object ms) (.object ((name, j) :: ms))
  | inOther {role : Role} {before after : Members} {fields : List Field} {name : String} {j j' : Json}
    (counts : role.fields? (before ++ (name, j) :: after) = some fields) (unknown : ∀ f ∈ fields, f.name ≠ name)
    (sound : j'.isSound = j.isSound) (distinct : j'.Distinct) :
    Widens role (.object (before ++ (name, j) :: after)) (.object (before ++ (name, j') :: after))
  | inField {role : Role} {before after : Members} {fields : List Field} {f : Field} {j j' : Json}
    (counts : role.fields? (before ++ (f.name, j) :: after) = some fields) (known : f ∈ fields)
    (h : Widens f.role j j') :
    Widens role (.object (before ++ (f.name, j) :: after)) (.object (before ++ (f.name, j') :: after))
  | inItem {role item : Role} {before after : List Json} {j j' : Json} (items : role.item? = some item)
    (h : Widens item j j') :
    Widens role (.array (before ++ j :: after)) (.array (before ++ j' :: after))
  | inOptional {role : Role} {j j' : Json} (h : Widens role j j') : Widens (.optional role) j j'

/-- A tree is worded differently in one place: the members of an object stand in another order, or a node differs in a
member that it does not know. -/
def Rewords (role : Role) (j j' : Json) : Prop :=
  Reorders j j' ∨ Widens role j j'

/-- A value without names given twice is the same as another, or worded differently in one place. -/
def Alike (role : Role) (j j' : Json) : Prop :=
  j.Distinct ∧ (j = j' ∨ Rewords role j j')

/-! ## Fields that count once -/

/-- No two fields have the same name. -/
def Once (fields : List Field) : Prop :=
  (fields.map (·.name)).Nodup

theorem Once.eq {fields : List Field} (h : Once fields) {f g : Field} (hf : f ∈ fields) (hg : g ∈ fields)
    (hname : g.name = f.name) : g = f :=
  List.inj_on_of_nodup_map h hg hf hname

theorem once_typedFields {fields : String → List Field} (h : ∀ type, Once (.must "type" .text :: fields type))
    (ms : Members) : Once (typedFields fields ms) := by
  unfold typedFields
  cases field? "type" text? ms with
  | none => exact List.nodup_singleton _
  | some type => exact h type

theorem once_importedNameFields (type : String) :
    Once (.must "type" .text :: (importedNameFields? type).getD []) := by
  unfold Once importedNameFields?
  split <;> decide

theorem once_importClauseFields (type : String) :
    Once (.must "type" .text :: (importClauseFields? type).getD []) := by
  unfold Once importClauseFields?
  split <;> decide

theorem once_expressionFields (type : String) : Once (.must "type" .text :: expressionFields type) := by
  unfold Once expressionFields
  split <;> decide

theorem once_patternFields (type : String) : Once (.must "type" .text :: patternFields type) := by
  unfold Once patternFields
  split <;> decide

theorem once_statementFields (type : String) : Once (.must "type" .text :: statementFields type) := by
  unfold Once statementFields
  split <;> decide

theorem once_objectMemberFields (type : String) :
    Once (.must "type" .text :: (objectMemberFields? type).getD []) := by
  unfold Once objectMemberFields?
  split <;> decide

theorem once_patternMemberFields (type : String) :
    Once (.must "type" .text :: (patternMemberFields? type).getD []) := by
  unfold Once patternMemberFields?
  split <;> decide

theorem once_chunkFields (type : String) : Once (.must "type" .text :: (chunkFields? type).getD []) := by
  unfold Once chunkFields?
  split <;> decide

theorem once_attributeFields (type : String) : Once (.must "type" .text :: attributeFields type) := by
  unfold Once attributeFields
  split <;> decide

theorem once_variantFields (kind : String) : Once (.must "type" .text :: variantFields kind) := by
  unfold Once variantFields
  split
  · decide
  · unfold nodeFields
    split
    all_goals first | decide | (split <;> decide)

/-- **No field counts twice.** -/
theorem Role.once {role : Role} {ms : Members} {fields : List Field} (h : role.fields? ms = some fields) :
    Once fields := by
  cases role with
  | importedName => cases h; exact once_typedFields once_importedNameFields ms
  | importClause => cases h; exact once_typedFields once_importClauseFields ms
  | expression => cases h; exact once_typedFields once_expressionFields ms
  | pattern => cases h; exact once_typedFields once_patternFields ms
  | statement => cases h; exact once_typedFields once_statementFields ms
  | objectMember => cases h; exact once_typedFields once_objectMemberFields ms
  | patternMember => cases h; exact once_typedFields once_patternMemberFields ms
  | chunk => cases h; exact once_typedFields once_chunkFields ms
  | attributeNode => cases h; exact once_typedFields once_attributeFields ms
  | node => cases h; exact once_typedFields once_variantFields ms
  | offset | text | flag | literalValue | context | list | optional => cases h
  | _ => cases h; unfold Once; decide

/-! ## What is found in a wording -/

section

variable {role item : Role} {j j' : Json} {ms : Members} {js : List Json} {fields : List Field}

/-- Only objects and arrays can be worded differently. -/
theorem Json.Reorders.shape (h : Reorders j j') :
    (∃ ms ms', j = .object ms ∧ j' = .object ms') ∨ ∃ js js', j = .array js ∧ j' = .array js' := by
  cases h with
  | members => exact .inl ⟨_, _, rfl, rfl⟩
  | item => exact .inr ⟨_, _, rfl, rfl⟩
  | member => exact .inl ⟨_, _, rfl, rfl⟩

namespace Widens

theorem shape (h : Widens role j j') :
    (∃ ms ms', j = .object ms ∧ j' = .object ms') ∨ ∃ js js', j = .array js ∧ j' = .array js' := by
  induction h with
  | here => exact .inl ⟨_, _, rfl, rfl⟩
  | inOther => exact .inl ⟨_, _, rfl, rfl⟩
  | inField => exact .inl ⟨_, _, rfl, rfl⟩
  | inItem => exact .inr ⟨_, _, rfl, rfl⟩
  | inOptional _ ih => exact ih

theorem isSound_eq (h : Widens role j j') : j'.isSound = j.isSound := by
  induction h with
  | here _ _ _ sound => rw [isSound_object, isSound_object, List.all_cons, sound, Bool.true_and]
  | inOther _ _ sound => simp only [isSound_object, List.all_append, List.all_cons, sound]
  | inField _ _ _ ih => simp only [isSound_object, List.all_append, List.all_cons, ih]
  | inItem _ _ ih => simp only [isSound_array, List.all_append, List.all_cons, ih]
  | inOptional _ ih => exact ih

theorem distinct (h : Widens role j j') (hj : j.Distinct) : j'.Distinct := by
  induction h with
  | here _ _ fresh _ distinct =>
    rw [distinct_object] at hj ⊢
    rw [List.map_cons, List.nodup_cons, List.forall_mem_cons]
    refine ⟨⟨fun hm => ?_, hj.1⟩, distinct, hj.2⟩
    obtain ⟨m, hm, hname⟩ := List.mem_map.mp hm
    exact fresh m hm hname
  | inOther _ _ _ distinct =>
    simp only [distinct_object, List.forall_mem_append, List.forall_mem_cons, List.map_append,
      List.map_cons] at hj ⊢
    exact ⟨hj.1, hj.2.1, distinct, hj.2.2.2⟩
  | inField _ _ _ ih =>
    simp only [distinct_object, List.forall_mem_append, List.forall_mem_cons, List.map_append,
      List.map_cons] at hj ⊢
    exact ⟨hj.1, hj.2.1, ih hj.2.2.1, hj.2.2.2⟩
  | inItem _ _ ih =>
    simp only [distinct_array, List.forall_mem_append, List.forall_mem_cons] at hj ⊢
    exact ⟨hj.1, ih hj.2.1, hj.2.2⟩
  | inOptional _ ih => exact ih hj

/-- In an object that is widened, the fields that count hold what they held, or something widened. -/
theorem find_object (h : Widens role (.object ms) j') (hf : role.fields? ms = some fields) :
    ∃ ms', j' = .object ms' ∧ ∀ f ∈ fields, Option.Rel (Option.Rel fun i i' => i = i' ∨ Widens f.role i i')
      (member? f.name ms) (member? f.name ms') := by
  generalize hj : Json.object ms = j at h
  cases h with
  | @here _ ms _ name i counts unknown =>
    cases hj
    obtain rfl := Option.some.inj (hf.symm.trans counts)
    refine ⟨_, rfl, fun f hfield => ?_⟩
    rw [member?_cons_of_ne (fun he => unknown f hfield he.symm)]
    exact find_refl fun _ _ => .inl rfl
  | @inOther _ before after _ name i i' counts unknown =>
    cases hj
    obtain rfl := Option.some.inj (hf.symm.trans counts)
    refine ⟨_, rfl, fun f hfield => ?_⟩
    exact member?_replace (fun _ => .inl rfl) before after name fun hname => absurd hname (unknown f hfield)
  | @inField _ before after _ g i i' counts known hi =>
    cases hj
    obtain rfl := Option.some.inj (hf.symm.trans counts)
    refine ⟨_, rfl, fun f hfield => ?_⟩
    refine member?_replace (fun _ => .inl rfl) before after g.name fun hname => .inr ?_
    rw [(Role.once hf).eq known hfield hname]
    exact hi
  | inItem => cases hj
  | inOptional => cases hf

/-- In an array that is widened, the items are what they were, or widened. -/
theorem items_array (h : Widens role (.array js) j') (hitem : role.item? = some item) :
    ∃ js', j' = .array js' ∧ List.Forall₂ (fun i i' => i = i' ∨ Widens item i i') js js' := by
  generalize hj : Json.array js = j at h
  cases h with
  | here => cases hj
  | inOther => cases hj
  | inField => cases hj
  | @inItem _ _ before after i i' items hi =>
    cases hj
    obtain rfl := Option.some.inj (hitem.symm.trans items)
    exact ⟨_, rfl, forall₂_replace (fun _ => .inl rfl) before after (.inr hi)⟩
  | inOptional => cases hitem

end Widens

theorem Rewords.distinct (h : Rewords role j j') (hj : j.Distinct) : j'.Distinct :=
  h.elim (·.distinct hj) (·.distinct hj)

theorem distinct_of_member? {name : String} (h : (Json.object ms).Distinct) (hj : member? name ms = some (some j)) :
    j.Distinct := by
  have hmem : j ∈ valuesOf name ms := by
    rw [member?_eq_some_some.mp hj]
    exact List.mem_singleton_self j
  obtain ⟨m, hm, rfl⟩ := List.mem_map.mp hmem
  exact (distinct_object.mp h).2 m (List.mem_filter.mp hm).1

namespace Alike

theorem refl (role : Role) (h : j.Distinct) : Alike role j j :=
  ⟨h, .inl rfl⟩

theorem isSound_eq (h : Alike role j j') : j'.isSound = j.isSound := by
  rcases h with ⟨-, rfl | h | h⟩
  · rfl
  · exact h.isSound_eq
  · exact h.isSound_eq

/-- What is alike is the same, or both are objects, or both are arrays. -/
theorem shape (h : Alike role j j') :
    j = j' ∨ (∃ ms ms', j = .object ms ∧ j' = .object ms') ∨ ∃ js js', j = .array js ∧ j' = .array js' := by
  rcases h with ⟨-, h | h | h⟩
  · exact .inl h
  · exact .inr h.shape
  · exact .inr h.shape

/-- What is found in an object, told more closely. -/
theorem find_imp {R S : Json → Json → Prop} {name : String} {o : Option (Option Json)}
    (hms : (Json.object ms).Distinct) (h : Option.Rel (Option.Rel R) (member? name ms) o)
    (hS : ∀ i i', i.Distinct → R i i' → S i i') : Option.Rel (Option.Rel S) (member? name ms) o := by
  rcases find_cases h with ⟨hm, rfl⟩ | ⟨hm, rfl⟩ | ⟨i, i', hm, rfl, hi⟩
  · rw [hm]
    exact .none
  · rw [hm]
    exact .some .none
  · rw [hm]
    exact .some (.some (hS i i' (distinct_of_member? hms hm) hi))

/-- **In objects that are alike**, what is found in the fields that count is alike. -/
theorem find (h : Alike role (.object ms) j') (hf : role.fields? ms = some fields) :
    ∃ ms', j' = .object ms' ∧ ∀ f ∈ fields, Option.Rel (Option.Rel (Alike f.role))
      (member? f.name ms) (member? f.name ms') := by
  rcases h with ⟨hms, rfl | h | h⟩
  · exact ⟨ms, rfl, fun f _ => find_refl fun j hj => refl _ (distinct_of_member? hms hj)⟩
  · obtain ⟨ms', rfl, hfind⟩ := h.find_object
    exact ⟨ms', rfl, fun f _ => find_imp hms (hfind f.name) fun _ _ hi h => ⟨hi, h.imp_right .inl⟩⟩
  · obtain ⟨ms', rfl, hfind⟩ := h.find_object hf
    exact ⟨ms', rfl, fun f hfield => find_imp hms (hfind f hfield) fun _ _ hi h => ⟨hi, h.imp_right .inr⟩⟩

/-- **In arrays that are alike** the items are alike. -/
theorem items (h : Alike role (.array js) j') (hitem : role.item? = some item) :
    ∃ js', j' = .array js' ∧ List.Forall₂ (Alike item) js js' := by
  obtain ⟨hjs, h⟩ := h
  have hdistinct := distinct_array.mp hjs
  rcases h with rfl | h | h
  · exact ⟨js, rfl, List.forall₂_same.mpr fun i hi => refl _ (hdistinct i hi)⟩
  · obtain ⟨js', rfl, hall⟩ := h.items_array
    exact ⟨js', rfl, forall₂_imp_mem hall fun i hi _ _ h => ⟨hdistinct i hi, h.imp_right .inl⟩⟩
  · obtain ⟨js', rfl, hall⟩ := h.items_array hitem
    exact ⟨js', rfl, forall₂_imp_mem hall fun i hi _ _ h => ⟨hdistinct i hi, h.imp_right .inr⟩⟩

theorem members?_eq_none (h : Alike role j j') (hj : j.members? = none) : j'.members? = none := by
  rcases h.shape with rfl | ⟨ms, ms', rfl, rfl⟩ | ⟨js, js', rfl, rfl⟩
  · exact hj
  · cases hj
  · rfl

theorem items?_eq_none (h : Alike role j j') (hj : j.items? = none) : j'.items? = none := by
  rcases h.shape with rfl | ⟨ms, ms', rfl, rfl⟩ | ⟨js, js', rfl, rfl⟩
  · exact hj
  · rfl
  · cases hj

/-- What may be `null` is alike if it is without that. -/
theorem of_optional (h : Alike (.optional role) j j') : Alike role j j' := by
  obtain ⟨hj, h⟩ := h
  refine ⟨hj, h.imp_right fun h => ?_⟩
  rcases h with h | h
  · exact .inl h
  · cases h with
    | here counts => cases counts
    | inOther counts => cases counts
    | inField counts => cases counts
    | inItem items => cases items
    | inOptional h => exact .inr h

end Alike

end

end StoryCatalog
