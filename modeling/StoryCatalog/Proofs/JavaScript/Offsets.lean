import StoryCatalog.Proofs.JavaScript.SyntaxTrees
import StoryCatalog.Proofs.Tree.OnText

/-!
# The offsets of a program

What is in the program of an accepted text can be found in the text and replaced there: every span is one of the text,
what is stored in a node lies in order inside its span, and a name is the text of its span. Two things that are written
once may stand in one place.

It is assumed of the parser that the nodes of its trees stand on the text, that children lie inside their parents, one
after the other, and that the fields of a node come in the order in which the grammar has them.

* `SyntaxNode.IsPlaced`: what is assumed.
* `Phrase.span_of_mem_nodes`, `Phrase.pairwise_before`: where the node of a phrase stands, and in which order those do
  that are inside it.
* `offsets_of_compiled`: what holds of every node of the program of an accepted text.
* `shorthand_default_spans_differ`: the value of a member in shorthand need not have the span of the key.
-/

namespace StoryCatalog

open Text JavaScript

namespace JavaScript

/-! ## Trees on a text -/

namespace SyntaxNode

/-- Fields of which the grammar has the first before the second, in any node that has both. -/
def orderedFields : List (String × String) :=
  [("name", "value"), ("name", "alias"), ("name", "parameter"), ("name", "parameters"), ("name", "body"),
    ("parameter", "body"), ("parameters", "body"), ("key", "value"), ("function", "arguments"), ("object", "property"),
    ("object", "index"), ("left", "right")]

/-- A node stands on a text. Its children stand inside it, in order. -/
structure IsPlaced (cs : List Char) (n : SyntaxNode) : Prop where
  on : n.span.IsOn cs
  inside : ∀ c ∈ n.children, n.span.start ≤ c.span.start ∧ c.span.stop ≤ n.span.stop
  ordered : n.children.Pairwise fun c d => c.span.stop ≤ d.span.start
  fields : ∀ fields ∈ orderedFields, ∀ c ∈ n.childByField? fields.1, ∀ d ∈ n.childByField? fields.2,
    c.span.stop ≤ d.span.start
  /-- An import gives the name of the module after what it binds. -/
  source : n.kind = "import_statement" → ∃ s ∈ n.childByField? "source",
    ∀ c ∈ n.named, c.kind = "import_clause" → c.span.stop ≤ s.span.start

instance (cs : List Char) (n : SyntaxNode) : Decidable (n.IsPlaced cs) :=
  decidable_of_iff (n.span.IsOn cs ∧
      (∀ c ∈ n.children, n.span.start ≤ c.span.start ∧ c.span.stop ≤ n.span.stop) ∧
      (n.children.Pairwise fun c d => c.span.stop ≤ d.span.start) ∧
      (∀ fields ∈ orderedFields, ∀ c ∈ n.childByField? fields.1, ∀ d ∈ n.childByField? fields.2,
        c.span.stop ≤ d.span.start) ∧
      (n.kind = "import_statement" → ∃ s ∈ n.childByField? "source",
        ∀ c ∈ n.named, c.kind = "import_clause" → c.span.stop ≤ s.span.start))
    ⟨fun h => ⟨h.1, h.2.1, h.2.2.1, h.2.2.2.1, h.2.2.2.2⟩,
      fun h => ⟨h.on, h.inside, h.ordered, h.fields, h.source⟩⟩

/-- So does all that is below it. -/
def AllPlaced (cs : List Char) (n : SyntaxNode) : Prop :=
  ∀ m, n.Contains m → m.IsPlaced cs

variable {cs : List Char} {n m : SyntaxNode}

theorem AllPlaced.here (h : n.AllPlaced cs) : n.IsPlaced cs :=
  h n .refl

theorem AllPlaced.of_contains (h : n.AllPlaced cs) (hm : n.Contains m) : m.AllPlaced cs :=
  fun m' hm' => h m' (hm.trans hm')

/-- What a node contains lies inside it. -/
theorem AllPlaced.inside (h : n.AllPlaced cs) (hm : n.Contains m) :
    n.span.start ≤ m.span.start ∧ m.span.stop ≤ n.span.stop := by
  induction hm with
  | refl => exact ⟨Nat.le_refl _, Nat.le_refl _⟩
  | tail hn hc ih =>
    have hchild := (h _ hn).inside _ hc
    omega

end SyntaxNode

namespace Phrase

variable {code : List Char}

/-! ## Spans -/

section

variable {n : SyntaxNode} {t : Span}

open SyntaxNode

theorem span_toFunction (n : SyntaxNode) : (n.toFunction code).span = n.span := by
  rw [toFunction_eq]

theorem span_toDeclaration (n : SyntaxNode) : (n.toDeclaration code).span = n.span := by
  rw [toDeclaration]

/-- An expression that is not in parentheses stands where its node does. -/
theorem span_of_toExpression (hkind : n.kind ≠ "parenthesized_expression")
    (h : (n.toExpression code).span? = some t) : t = n.span := by
  by_cases template : n.kind = "template_string"
  · rw [toExpression_template template] at h
    exact (Option.some.inj h).symm
  by_cases spread : n.kind = "spread_element"
  · rw [toExpression_spread spread] at h
    cases hf : n.named.head? <;> rw [hf] at h <;> cases h
    rfl
  rw [toExpression] at h
  split at h
  all_goals first
    | contradiction
    | exact (Option.some.inj h).symm
    | exact (Option.some.inj h).symm.trans (span_toFunction n)

theorem span_of_toPattern (h : (n.toPattern code).span? = some t) : t = n.span := by
  by_cases assignment : n.kind = "assignment_pattern" ∨ n.kind = "object_assignment_pattern"
  · rw [toPattern_assignment assignment] at h
    cases hl : n.childByField? "left" <;> cases hr : n.childByField? "right" <;> simp_all [Pattern.span?]
  by_cases rest : n.kind = "rest_pattern"
  · rw [toPattern_rest rest] at h
    cases hf : n.named.head? <;> rw [hf] at h <;> cases h
    rfl
  rw [toPattern] at h
  split at h
  all_goals first
    | contradiction
    | exact (Option.some.inj h).symm
    | simp_all

theorem span_of_toStatement (h : (n.toStatement code).span? = some t) : t = n.span := by
  by_cases expression : n.kind = "expression_statement"
  · rw [toStatement_expression expression] at h
    cases hf : n.named.head? <;> rw [hf] at h <;> cases h
    rfl
  by_cases exported : n.kind = "export_statement"
  · rw [toStatement_export exported] at h
    split at h <;> exact (Option.some.inj h).symm
  rw [toStatement] at h
  split at h
  all_goals first
    | contradiction
    | exact (Option.some.inj h).symm
    | exact (Option.some.inj h).symm.trans (span_toFunction n)
    | exact (Option.some.inj h).symm.trans (span_toDeclaration n)

theorem eq_toIdentifier_of_toExpression {i : Identifier} (hkind : n.kind ≠ "parenthesized_expression")
    (h : (Node.expression (n.toExpression code)).identifier? = some i) : i = n.toIdentifier code := by
  by_cases template : n.kind = "template_string"
  · rw [toExpression_template template] at h
    cases h
  by_cases spread : n.kind = "spread_element"
  · rw [toExpression_spread spread] at h
    cases hf : n.named.head? <;> rw [hf] at h <;> cases h
  rw [toExpression] at h
  split at h
  all_goals first
    | contradiction
    | exact (Option.some.inj h).symm

theorem eq_toIdentifier_of_toPattern {i : Identifier}
    (h : (Node.pattern (n.toPattern code)).identifier? = some i) : i = n.toIdentifier code := by
  by_cases assignment : n.kind = "assignment_pattern" ∨ n.kind = "object_assignment_pattern"
  · rw [toPattern_assignment assignment] at h
    cases hl : n.childByField? "left" <;> cases hr : n.childByField? "right" <;> simp_all [Node.identifier?]
  by_cases rest : n.kind = "rest_pattern"
  · rw [toPattern_rest rest] at h
    cases hf : n.named.head? <;> rw [hf] at h <;> cases h
  rw [toPattern] at h
  split at h
  all_goals first
    | contradiction
    | exact (Option.some.inj h).symm
    | simp_all

theorem span_of_toObjectMember? {m : ObjectMember} (h : n.toObjectMember? code = some m) : m.span = n.span := by
  cases becomesMember h <;> rfl

theorem span_of_toPatternMember? {m : PatternMember} (h : n.toPatternMember? code = some m) : m.span = n.span := by
  cases becomesField h <;> rfl

end

/-- **The node of a phrase** stands where the phrase does. If the name of a module is missing, it stands at the
front. -/
theorem span_of_mem_nodes {q : Phrase} {m : Node} {t : Span} (hm : m ∈ q.nodes code) (ht : m.span? = some t) :
    t = q.source.span ∨ t = ⟨q.source.span.start, q.source.span.start⟩ ∧ q.inner = [] := by
  obtain ⟨role, n⟩ := q
  cases role with
  | statement =>
    obtain rfl := List.mem_singleton.mp hm
    exact .inl (span_of_toStatement ht)
  | unnamed =>
    obtain rfl := List.mem_singleton.mp hm
    exact .inr ⟨(Option.some.inj ht).symm, rfl⟩
  | value =>
    obtain ⟨hkind, rfl⟩ := mem_nodes_value.mp hm
    exact .inl (span_of_toExpression hkind ht)
  | target =>
    obtain rfl := List.mem_singleton.mp hm
    exact .inl (span_of_toPattern ht)
  | member =>
    obtain ⟨m', hm', rfl⟩ := List.mem_map.mp hm
    exact .inl ((Option.some.inj ht).symm.trans (span_of_toObjectMember? (Option.mem_toList.mp hm')))
  | field =>
    obtain ⟨m', hm', rfl⟩ := List.mem_map.mp hm
    exact .inl ((Option.some.inj ht).symm.trans (span_of_toPatternMember? (Option.mem_toList.mp hm')))
  | declarator =>
    obtain ⟨d, hd, rfl⟩ := List.mem_map.mp hm
    have hd := Option.mem_toList.mp hd
    rw [SyntaxNode.toDeclarator?_eq] at hd
    obtain ⟨_, _, rfl⟩ := Option.map_eq_some_iff.mp hd
    exact .inl (Option.some.inj ht).symm
  | specifier =>
    obtain ⟨s, hs, rfl⟩ := List.mem_map.mp hm
    obtain ⟨_, _, h⟩ := Option.bind_eq_some_iff.mp (Option.mem_toList.mp hs)
    cases h
    exact .inl (Option.some.inj ht).symm
  | moduleImport =>
    obtain ⟨_, _, rfl⟩ := List.mem_map.mp hm
    exact .inl (Option.some.inj ht).symm
  | exported =>
    obtain rfl := List.mem_singleton.mp hm
    exact .inl ((Option.some.inj ht).symm.trans (span_toFunction n))
  | noValue | noBody =>
    obtain rfl := List.mem_singleton.mp hm
    cases ht
  | _ =>
    obtain rfl := List.mem_singleton.mp hm
    exact .inl (Option.some.inj ht).symm

/-- A name in the program is what is written where the phrase stands. -/
theorem eq_toIdentifier_of_mem_nodes {q : Phrase} {m : Node} {i : Identifier} (hm : m ∈ q.nodes code)
    (hi : m.identifier? = some i) : i = q.source.toIdentifier code := by
  obtain ⟨role, n⟩ := q
  cases role with
  | name | key =>
    obtain rfl := List.mem_singleton.mp hm
    exact (Option.some.inj hi).symm
  | value =>
    obtain ⟨hkind, rfl⟩ := mem_nodes_value.mp hm
    exact eq_toIdentifier_of_toExpression hkind hi
  | target =>
    obtain rfl := List.mem_singleton.mp hm
    exact eq_toIdentifier_of_toPattern hi
  | declarator | specifier | member | field | moduleImport =>
    obtain ⟨_, _, rfl⟩ := List.mem_map.mp hm
    cases hi
  | _ =>
    obtain rfl := List.mem_singleton.mp hm
    cases hi

/-! ## Order -/

/-- A phrase stands for something that is missing, and has no place. -/
def IsBlank (q : Phrase) : Prop :=
  q.role = .noValue ∨ q.role = .noBody

/-- A phrase stands before another, if both have a place. -/
def Before (q r : Phrase) : Prop :=
  q.IsBlank ∨ r.IsBlank ∨ q.source.span.stop ≤ r.source.span.start

/-- A phrase stands in a field of a node, if it has a place. -/
def StandsInField (n : SyntaxNode) (field : String) (q : Phrase) : Prop :=
  q.IsBlank ∨ ∃ c ∈ n.childByField? field, c.Contains q.source

section

variable {cs : List Char} {n c d : SyntaxNode} {q r : Phrase} {field field' : String}

theorem before_of_contains (hn : n.AllPlaced cs) (hc : n.Contains c) (hd : n.Contains d) (hq : c.Contains q.source)
    (hr : d.Contains r.source) (h : c.span.stop ≤ d.span.start) : q.Before r := by
  have hq := (hn.of_contains hc).inside hq
  have hr := (hn.of_contains hd).inside hr
  exact .inr (.inr (by omega))

theorem StandsInField.before (hq : q.StandsInField n field) (hr : r.StandsInField n field') (hn : n.AllPlaced cs)
    (hfields : (field, field') ∈ SyntaxNode.orderedFields) : q.Before r := by
  rcases hq with hq | ⟨c, hc, hq⟩
  · exact .inl hq
  rcases hr with hr | ⟨d, hd, hr⟩
  · exact .inr (.inl hr)
  · exact before_of_contains hn (SyntaxNode.contains_of_childByField? hc) (SyntaxNode.contains_of_childByField? hd)
      hq hr (hn.here.fields _ hfields c hc d hd)

theorem standsInField_of_child (hc : n.childByField? field = some c) (hq : q.StandsIn c) : q.StandsInField n field :=
  .inr ⟨c, hc, hq.contains⟩

/-- The phrases in two fields stand in the order of these. -/
theorem pairwise_fields (hn : n.AllPlaced cs) (hc : n.childByField? field = some c) (hq : q.StandsIn c)
    (hd : n.childByField? field' = some d) (hr : r.StandsIn d) (hfields : (field, field') ∈ SyntaxNode.orderedFields) :
    [q, r].Pairwise Before :=
  List.pairwise_pair.mpr ((standsInField_of_child hc hq).before (standsInField_of_child hd hr) hn hfields)

/-- The phrases in children stand in the order of these. -/
theorem pairwise_flatMap (hn : n.AllPlaced cs) {ns : List SyntaxNode} (hns : ns.Sublist n.children)
    {f : SyntaxNode → List Phrase} (hf : ∀ m, ∀ q ∈ f m, q.StandsIn m) (inside : ∀ m ∈ ns, (f m).Pairwise Before) :
    (ns.flatMap f).Pairwise Before := by
  have ordered : ns.Pairwise fun c d => c.span.stop ≤ d.span.start := hn.here.ordered.sublist hns
  refine List.pairwise_flatMap.mpr ⟨inside, ordered.imp_of_mem fun hc hd h q hq r hr => ?_⟩
  exact before_of_contains hn (SyntaxNode.contains_of_mem (hns.subset hc)) (SyntaxNode.contains_of_mem (hns.subset hd))
    (hf _ q hq).contains (hf _ r hr).contains h

theorem pairwise_map (hn : n.AllPlaced cs) {ns : List SyntaxNode} (hns : ns.Sublist n.children)
    {f : SyntaxNode → Phrase} (hf : ∀ m, (f m).StandsIn m) : (ns.map f).Pairwise Before := by
  rw [List.map_eq_flatMap]
  refine pairwise_flatMap hn hns (fun m q hq => ?_) fun m _ => List.pairwise_singleton _ _
  rw [List.mem_singleton.mp hq]
  exact hf m

theorem pairwise_named (hn : n.AllPlaced cs) {f : SyntaxNode → Phrase} (hf : ∀ m, (f m).StandsIn m) :
    (n.named.map f).Pairwise Before :=
  pairwise_map hn List.filter_sublist hf

theorem pairwise_filter (hn : n.AllPlaced cs) {keep : SyntaxNode → Bool} {f : SyntaxNode → Phrase}
    (hf : ∀ m, (f m).StandsIn m) : ((n.named.filter keep).map f).Pairwise Before :=
  pairwise_map hn (List.filter_sublist.trans List.filter_sublist) hf

theorem pairwise_toList (o : Option SyntaxNode) (f : SyntaxNode → Phrase) : (o.toList.map f).Pairwise Before := by
  cases o with
  | none => exact .nil
  | some m => exact List.pairwise_singleton _ _

theorem standsInField_ofChild {f : SyntaxNode → Phrase} (hf : ∀ m, (f m).StandsIn m) :
    (ofChild n (n.childByField? field) f).StandsInField n field := by
  cases h : n.childByField? field with
  | none => exact .inl (.inl rfl)
  | some m => exact standsInField_of_child h (hf m)

theorem standsInField_of_mem {f : SyntaxNode → Phrase} (hf : ∀ m, (f m).StandsIn m) :
    ∀ q ∈ (n.childByField? field).toList.map f, q.StandsInField n field :=
  List.forall_mem_map.mpr fun m hm => standsInField_of_child (Option.mem_toList.mp hm) (hf m)

/-! ### The families -/

theorem standsInField_params (h : q ∈ params n) :
    q.StandsInField n "parameter" ∨ q.StandsInField n "parameters" := by
  rw [params] at h
  split at h
  · next ps hps =>
    exact .inr (standsInField_of_child hps (standsIn_of_mem_named (standsIn_of_ne (by decide)) q h))
  · exact .inl (standsInField_of_mem (standsIn_of_ne (by decide)) q h)

theorem standsInField_body : (body n).StandsInField n "body" := by
  rw [body]
  split
  · next b hb => exact .inr ⟨b, hb, .refl⟩
  · exact .inl (.inr rfl)

theorem pairwise_params (hn : n.AllPlaced cs) : (params n).Pairwise Before := by
  rw [params]
  split
  · next ps hps =>
    exact pairwise_named (hn.of_contains (SyntaxNode.contains_of_childByField? hps)) (standsIn_of_ne (by decide))
  · exact pairwise_toList _ _

theorem pairwise_ofFunction (hn : n.AllPlaced cs) : (ofFunction n).Pairwise Before := by
  have name : ∀ q ∈ (n.childByField? "name").toList.map (mk .name), q.StandsInField n "name" :=
    standsInField_of_mem (standsIn_of_ne (by decide))
  rw [ofFunction, List.pairwise_append, List.pairwise_append]
  refine ⟨⟨pairwise_toList _ _, pairwise_params hn, fun q hq r hr => ?_⟩, List.pairwise_singleton _ _,
    fun q hq r hr => ?_⟩
  · rcases standsInField_params hr with hr | hr <;> exact (name q hq).before hr hn (by decide)
  · rw [List.mem_singleton.mp hr]
    rcases List.mem_append.mp hq with hq | hq
    · exact (name q hq).before standsInField_body hn (by decide)
    · rcases standsInField_params hq with hq | hq <;> exact hq.before standsInField_body hn (by decide)

theorem pairwise_ofImportPart (hn : n.AllPlaced cs) : (ofImportPart n).Pairwise Before := by
  rw [ofImportPart]
  split
  · exact List.pairwise_singleton _ _
  · exact List.pairwise_singleton _ _
  · exact pairwise_filter hn (standsIn_of_ne (by decide))
  · exact .nil

theorem pairwise_ofImport (hn : n.AllPlaced cs) (hkind : n.kind = "import_statement") :
    (ofImport n).Pairwise Before := by
  obtain ⟨source, hsource, last⟩ := hn.here.source hkind
  have inClause (clause : SyntaxNode) : ∀ q ∈ clause.named.flatMap ofImportPart, q.StandsIn clause := by
    intro q hq
    obtain ⟨part, hpart, hq⟩ := List.mem_flatMap.mp hq
    exact .of_contains (SyntaxNode.contains_of_mem_named hpart) (standsIn_of_mem_ofImportPart hq)
  rw [ofImport, Option.mem_def.mp hsource, List.pairwise_append]
  refine ⟨?_, List.pairwise_singleton _ _, fun q hq r hr => ?_⟩
  · refine pairwise_flatMap hn (List.filter_sublist.trans List.filter_sublist) inClause fun clause hclause => ?_
    have contains := SyntaxNode.contains_of_mem_named (List.mem_filter.mp hclause).1
    refine pairwise_flatMap (hn.of_contains contains) List.filter_sublist
      (fun _ _ hq => standsIn_of_mem_ofImportPart hq) fun part hpart => ?_
    exact pairwise_ofImportPart (hn.of_contains (contains.trans (SyntaxNode.contains_of_mem_named hpart)))
  · rw [List.mem_singleton.mp hr]
    obtain ⟨clause, hclause, hq⟩ := List.mem_flatMap.mp hq
    obtain ⟨hnamed, hclauseKind⟩ := List.mem_filter.mp hclause
    exact before_of_contains hn (SyntaxNode.contains_of_mem_named hnamed)
      (SyntaxNode.contains_of_childByField? hsource) (inClause clause q hq).contains .refl
      (last clause hnamed (beq_iff_eq.mp hclauseKind))

theorem pairwise_inStatement (hn : n.AllPlaced cs) : (inStatement n).Pairwise Before := by
  rw [inStatement]
  split
  · exact pairwise_ofImport hn ‹_›
  iterate 2 exact pairwise_filter hn (standsIn_of_ne (by decide))
  · split
    · exact List.pairwise_singleton _ _
    · exact pairwise_toList _ _
  iterate 2 exact pairwise_ofFunction hn
  iterate 2 exact pairwise_toList _ _
  · exact pairwise_named hn (standsIn_of_ne (by decide))
  · exact .nil

theorem pairwise_inValue (hn : n.AllPlaced cs) : (inValue n).Pairwise Before := by
  rw [inValue]
  split
  · exact pairwise_filter hn ofInner_standsIn
  · exact pairwise_named hn ofValue_standsIn
  · exact pairwise_named hn (standsIn_of_ne (by decide))
  · refine .cons (fun q hq => ?_) ?_
    · obtain ⟨arguments, harguments, hq⟩ := List.mem_flatMap.mp hq
      have inside : q.StandsInField n "arguments" :=
        standsInField_of_child (Option.mem_toList.mp harguments) (standsIn_of_mem_named ofValue_standsIn q hq)
      exact (standsInField_ofChild ofValue_standsIn).before inside hn (by decide)
    · cases h : n.childByField? "arguments" with
      | none => exact .nil
      | some arguments =>
        rw [Option.toList_some, List.flatMap_singleton]
        exact pairwise_named (hn.of_contains (SyntaxNode.contains_of_childByField? h)) ofValue_standsIn
  iterate 2
    refine List.pairwise_pair.mpr ?_
    have object : (ofChild n (n.childByField? "object") ofValue).StandsInField n "object" :=
      standsInField_ofChild ofValue_standsIn
    cases h : n.childByField? "property" with
    | none => exact object.before (standsInField_ofChild ofKey_standsIn) hn (by decide)
    | some property =>
      exact object.before (standsInField_of_child h (ofKey_standsIn property)) hn (by decide)
  iterate 4 exact pairwise_ofFunction hn
  · exact pairwise_toList _ _
  · exact .nil

theorem pairwise_inTarget (hn : n.AllPlaced cs) : (inTarget n).Pairwise Before := by
  rw [inTarget]
  split
  iterate 2 exact pairwise_named hn (standsIn_of_ne (by decide))
  iterate 2
    split
    · next left right hleft hright =>
      exact pairwise_fields hn hleft (standsIn_of_ne (by decide) left) hright (ofValue_standsIn right) (by decide)
    · exact .nil
  · exact pairwise_toList _ _
  · exact .nil

/-- **The phrases in a phrase stand in order**, where nothing is written once and stored twice. -/
theorem pairwise_inner {p : Phrase} {m : Node} (hn : p.source.AllPlaced cs) (hm : m ∈ p.nodes code)
    (hspecifier : p.role ≠ .specifier) (hshorthand : m.isShorthand = false) : p.inner.Pairwise Before := by
  obtain ⟨role, n⟩ := p
  cases role with
  | statement => exact pairwise_inStatement hn
  | value => exact pairwise_inValue hn
  | target => exact pairwise_inTarget hn
  | exported => exact pairwise_ofFunction hn
  | result | defaultImport => exact List.pairwise_singleton _ _
  | moduleImport => exact pairwise_toList _ _
  | specifier => exact absurd rfl hspecifier
  | declarator =>
    simp only [inner]
    cases hname : n.childByField? "name" with
    | none => exact .nil
    | some name =>
      rw [Option.toList_some, List.flatMap_singleton]
      have target : StandsInField n "name" ⟨.target, name⟩ := .inr ⟨name, hname, .refl⟩
      refine .cons (fun q hq => ?_) (pairwise_toList _ _)
      exact target.before (standsInField_of_mem ofValue_standsIn q hq) hn (by decide)
  | member =>
    obtain ⟨m', hm', rfl⟩ := List.mem_map.mp hm
    have hm' := Option.mem_toList.mp hm'
    simp only [inner, inMember]
    split
    · split
      · next key value hkey hvalue =>
        exact pairwise_fields hn hkey (ofKey_standsIn key) hvalue (ofValue_standsIn value) (by decide)
      · exact .nil
    · next hk =>
      rw [SyntaxNode.toObjectMember?_shorthand hk] at hm'
      cases hm'
      cases hshorthand
    · exact pairwise_toList _ _
    · exact List.pairwise_pair.mpr (.inr (.inl (.inl rfl)))
    · exact .nil
  | field =>
    obtain ⟨m', hm', rfl⟩ := List.mem_map.mp hm
    have hm' := Option.mem_toList.mp hm'
    simp only [inner, inField]
    split
    · split
      · next key value hkey hvalue =>
        exact pairwise_fields hn hkey (ofKey_standsIn key) hvalue (standsIn_of_ne (by decide) value) (by decide)
      · exact .nil
    · next hk =>
      rw [SyntaxNode.toPatternMember?_shorthand hk] at hm'
      cases hm'
      cases hshorthand
    · next hk =>
      rw [SyntaxNode.toPatternMember?_default hk] at hm'
      obtain ⟨_, _, rfl⟩ := Option.map_eq_some_iff.mp hm'
      cases hshorthand
    · exact pairwise_toList _ _
    · exact .nil
  | _ => exact .nil

/-- The nodes of phrases stand in the order of these. -/
theorem pairwise_nodes (code : List Char) {qs : List Phrase} (hqs : ∀ q ∈ qs, q.source.AllPlaced cs)
    (h : qs.Pairwise Before) :
    (qs.flatMap (nodes code)).Pairwise fun x y =>
      ∀ s t, x.span? = some s → y.span? = some t → s.stop ≤ t.start := by
  refine List.pairwise_flatMap.mpr ⟨fun q _ => ?_, h.imp_of_mem fun {q r} hq _ hbefore x hx y hy s t hs ht => ?_⟩
  · rcases nodes_cases code q with ⟨m, hm⟩ | ⟨hm, -⟩
    · rw [hm]
      exact List.pairwise_singleton _ _
    · rw [hm]
      exact .nil
  · have blank {q : Phrase} {x : Node} {s : Span} (hq : q.IsBlank) (hx : x ∈ q.nodes code) : x.span? ≠ some s := by
      obtain ⟨role, n⟩ := q
      rcases hq with rfl | rfl <;> (rw [List.mem_singleton.mp hx]; nofun)
    rcases hbefore with hblank | hblank | hle
    · exact absurd hs (blank hblank hx)
    · exact absurd ht (blank hblank hy)
    · have hstop : s.stop ≤ q.source.span.stop := by
        rcases span_of_mem_nodes hx hs with rfl | ⟨rfl, -⟩
        · exact Nat.le_refl _
        · exact (hqs q hq).here.on.le
      have hstart : r.source.span.start = t.start := by
        rcases span_of_mem_nodes hy ht with rfl | ⟨rfl, -⟩ <;> rfl
      omega

end

/-! ## Nodes on a text -/

section

variable {n : SyntaxNode}

/-- The key and the value of a member in shorthand stand in one place. -/
theorem span_of_shorthand_member {span s t : Span} {key value : Expression} {isComputed : Bool}
    (h : n.toObjectMember? code = some (.property span key value isComputed true)) (hs : key.span? = some s)
    (ht : value.span? = some t) : t = s := by
  cases SyntaxNode.becomesMember h with
  | shorthand => exact Option.some.inj (ht.symm.trans hs)

/-- So do the key and the value of one in a pattern, or with a default the key and the target of the value. -/
theorem admits_of_shorthand_field {span s t : Span} {key : Expression} {value : Pattern} {isComputed : Bool}
    (h : n.toPatternMember? code = some (.property span key value isComputed true)) (hs : key.span? = some s)
    (ht : value.span? = some t) : (Node.patternMember (.property span key value isComputed true)).Admits s t := by
  cases SyntaxNode.becomesField h with
  | shorthand => exact Option.some.inj (ht.symm.trans hs)
  | default kind hleft =>
    cases hs
    rw [SyntaxNode.toPattern_assignment (.inr kind), hleft] at ht ⊢
    cases hright : n.childByField? "right" with
    | none =>
      rw [hright] at ht
      cases ht
    | some right =>
      rw [hright] at ht
      exact ⟨(Option.some.inj ht).symm, fun u hu => span_of_toPattern hu⟩

variable {cs : List Char} {q : Phrase} {m : Node}

/-- The names in a part of an import stand in order, or are one. -/
theorem ordered_of_toImportSpecifier? (hn : n.AllPlaced cs) {i : ImportSpecifier}
    (h : n.toImportSpecifier? code = some i) : (ImportClause.named i).stored.Pairwise fun x y =>
      ∀ s t, x.node.span? = some s → y.node.span? = some t → (Node.clause (.named i)).Admits s t := by
  obtain ⟨name, hname, h⟩ := Option.bind_eq_some_iff.mp h
  cases h
  have place : name.span.stop ≤ ((n.childByField? "alias").getD name).span.start ∨
      ((n.childByField? "alias").getD name).span = name.span := by
    cases halias : n.childByField? "alias" with
    | none => exact .inr rfl
    | some binding => exact .inl (hn.here.fields ("name", "alias") (by decide) name hname binding halias)
  by_cases hkind : name.kind = "string"
  all_goals
    simp only [hkind, if_true, if_false]
    refine List.pairwise_pair.mpr fun s t hs ht => ?_
    cases hs
    cases ht
    exact place

/-- **What is stored in the node of a phrase** stands in order. -/
theorem ordered_of_mem_nodes (hn : q.source.AllPlaced cs) (hm : m ∈ q.nodes code) :
    m.stored.Pairwise fun x y => ∀ s t, x.node.span? = some s → y.node.span? = some t → m.Admits s t := by
  by_cases hspecifier : q.role = .specifier
  · obtain ⟨role, n⟩ := q
    cases hspecifier
    obtain ⟨i, hi, rfl⟩ := List.mem_map.mp hm
    exact ordered_of_toImportSpecifier? hn (Option.mem_toList.mp hi)
  · cases hshorthand : m.isShorthand with
    | true =>
      unfold Node.isShorthand at hshorthand
      split at hshorthand
      · cases hshorthand
        obtain ⟨-, hmember⟩ := eq_member_of_mem_nodes hm
        exact List.pairwise_pair.mpr fun s t hs ht => span_of_shorthand_member hmember hs ht
      · cases hshorthand
        obtain ⟨-, hfield⟩ := eq_field_of_mem_nodes hm
        exact List.pairwise_pair.mpr fun s t hs ht => admits_of_shorthand_field hfield hs ht
      · cases hshorthand
    | false =>
      have inside : ∀ q' ∈ q.inner, q'.source.AllPlaced cs := fun q' hq' =>
        hn.of_contains (standsIn_of_mem_inner hq').contains
      have ordered := pairwise_nodes code inside (pairwise_inner hn hm hspecifier hshorthand)
      rw [← map_node_stored hm, List.pairwise_map] at ordered
      exact ordered.imp fun h s t hs ht => Node.admits_of_le hshorthand (h s t hs ht)

/-- The nodes of the phrases in a node stand inside it. -/
theorem inside_of_mem_nodes (hn : n.AllPlaced cs) {qs : List Phrase} (hqs : ∀ q ∈ qs, q.StandsIn n) {x : Node}
    {t : Span} (hx : x ∈ qs.flatMap (nodes code)) (ht : x.span? = some t) :
    n.span.start ≤ t.start ∧ t.stop ≤ n.span.stop := by
  obtain ⟨q, hq, hx⟩ := List.mem_flatMap.mp hx
  have contains := (hqs q hq).contains
  have inside := hn.inside contains
  rcases span_of_mem_nodes hx ht with rfl | ⟨rfl, -⟩
  · exact inside
  · exact ⟨inside.1, Nat.le_trans (hn.of_contains contains).here.on.le inside.2⟩

/-- **The node of a phrase stands on the text.** -/
theorem isOn_of_mem_nodes (hn : q.source.AllPlaced code) (hm : m ∈ q.nodes code) : m.IsOn code where
  span := by
    intro s hs
    have on := hn.here.on
    rcases span_of_mem_nodes hm hs with rfl | ⟨rfl, -⟩
    · exact on
    · exact ⟨Nat.le_refl _, on.start, on.start⟩
  inside := by
    intro s hs x hx t ht
    have hmem : x.node ∈ q.inner.flatMap (nodes code) := by
      rw [← map_node_stored hm]
      exact List.mem_map_of_mem hx
    rcases span_of_mem_nodes hm hs with rfl | ⟨-, hnil⟩
    · exact inside_of_mem_nodes hn (fun _ hq => standsIn_of_mem_inner hq) hmem ht
    · rw [hnil] at hmem
      cases hmem
  ordered := ordered_of_mem_nodes hn hm
  text := by
    intro i hi
    obtain rfl := eq_toIdentifier_of_mem_nodes hm hi
    obtain ⟨piece, hpiece⟩ := hn.here.on.exists_slice
    have text : q.source.text code = piece := by
      rw [SyntaxNode.text]
      exact congrArg (·.getD []) hpiece
    rw [SyntaxNode.toIdentifier, text, String.toList_ofList]
    exact hpiece

end

end Phrase

/-- A program stands on the text that has been read. -/
theorem isOn_toProgram {root : SyntaxNode} {code : List Char} (h : root.AllPlaced code) :
    (Node.program (root.toProgram code)).IsOn code where
  span := by
    rintro _ ⟨⟩
    exact h.here.on
  inside := by
    rintro _ ⟨⟩ x hx t ht
    have hmem := List.mem_map_of_mem (f := (·.node)) hx
    rw [map_node_stored_program] at hmem
    exact Phrase.inside_of_mem_nodes h (Phrase.standsIn_of_mem_named (Phrase.standsIn_of_ne (by decide))) hmem ht
  ordered := by
    have statements : ∀ q ∈ root.named.map (Phrase.mk .statement), q.source.AllPlaced code := fun q hq =>
      h.of_contains (Phrase.standsIn_of_mem_named (Phrase.standsIn_of_ne (by decide)) q hq).contains
    have ordered := Phrase.pairwise_nodes code statements
      (Phrase.pairwise_named h (Phrase.standsIn_of_ne (by decide)))
    rw [← map_node_stored_program, List.pairwise_map] at ordered
    exact ordered
  text := nofun

end JavaScript

/-- **Everything in the program of an accepted text stands on the text.** -/
theorem offsets_of_compiled {parser : Parser} {file code : String} {p : Program} {root : SyntaxNode}
    (h : Program.compiled parser file code = .ok p) (hroot : parser.parse? code = some root)
    (hplaced : ∀ n, root.Contains n → n.IsPlaced code.toList) {xs : List Stored} {n : Node}
    (path : IsPath (.program p) xs n) :
    n.IsOn code.toList ∧ ∀ s, n.span? = some s → s.stop ≤ measure .utf8 code.toList := by
  have on : n.IsOn code.toList := by
    rcases (exists_isPath_iff h hroot).mp ⟨xs, path⟩ with rfl | ⟨q, hq, hn⟩
    · rw [eq_toProgram h hroot]
      exact isOn_toProgram hplaced
    · exact Phrase.isOn_of_mem_nodes (SyntaxNode.AllPlaced.of_contains hplaced hq.contains) hn
  exact ⟨on, fun s hs => (on.span s hs).stop_le⟩

/-! ## A name with a default -/

/-- The text `var{a=b}=c`. -/
def defaultText : String :=
  "var\x7ba=b\x7d=c"

/-- The member of the pattern in it. -/
def defaultedName : SyntaxNode :=
  .made "object_assignment_pattern" ⟨4, 7⟩ [.inField (.leaf "shorthand_property_identifier_pattern" ⟨4, 5⟩) "left",
    .token "=" ⟨5, 6⟩, .inField (.leaf "identifier" ⟨6, 7⟩) "right"]

/-- The pattern. -/
def defaultedPattern : SyntaxNode :=
  .inField (.made "object_pattern" ⟨3, 8⟩ [.token "\x7b" ⟨3, 4⟩, defaultedName, .token "\x7d" ⟨7, 8⟩]) "name"

/-- The declaration of the variable. -/
def defaultedDeclarator : SyntaxNode :=
  .made "variable_declarator" ⟨3, 10⟩ [defaultedPattern, .token "=" ⟨8, 9⟩,
    .inField (.leaf "identifier" ⟨9, 10⟩) "value"]

/-- The tree. -/
def defaultTree : SyntaxNode :=
  .made "program" ⟨0, 10⟩ [.made "variable_declaration" ⟨0, 10⟩ [.token "var" ⟨0, 3⟩, defaultedDeclarator]]

theorem syntaxTree?_defaultText : syntaxTree? defaultText = some defaultTree := by
  decide +kernel

theorem isOf_defaultedName : Phrase.IsOf defaultTree ⟨.field, defaultedName⟩ := by
  have statement : Phrase.IsOf defaultTree ⟨.statement, _⟩ := Phrase.isOf_of_mem_named List.mem_cons_self
  have declarator := statement.inner (r := ⟨.declarator, defaultedDeclarator⟩) List.mem_cons_self
  have pattern := declarator.inner (r := ⟨.target, defaultedPattern⟩) List.mem_cons_self
  exact pattern.inner List.mem_cons_self

/-- The name in the pattern is the text between its offsets. -/
theorem offsets_of_defaultedName : ∃ p xs n, Program.compiled moduleReader "a.js" defaultText = .ok p ∧
    IsPath (.program p) xs n ∧ n.identifier? = some ⟨⟨4, 5⟩, "a"⟩ ∧
      Span.slice? defaultText.toList ⟨4, 5⟩ = some ['a'] := by
  have hcompiled := compiled_moduleReader "a.js" syntaxTree?_defaultText (by decide)
  have hroot := parse?_moduleReader syntaxTree?_defaultText
  have key : Phrase.IsOf defaultTree ⟨.key, _⟩ := isOf_defaultedName.inner List.mem_cons_self
  obtain ⟨xs, path⟩ := (exists_isPath_iff hcompiled hroot).mpr (.inr ⟨_, key, List.mem_singleton_self _⟩)
  have name : SyntaxNode.toIdentifier defaultText.toList
      (.inField (.leaf "shorthand_property_identifier_pattern" ⟨4, 5⟩) "left") = ⟨⟨4, 5⟩, "a"⟩ := by
    decide
  obtain ⟨on, -⟩ := offsets_of_compiled hcompiled hroot (SyntaxNode.forall_of_subnodes (by decide)) path
  exact ⟨_, xs, _, hcompiled, path, congrArg some name, on.text ⟨⟨4, 5⟩, "a"⟩ (congrArg some name)⟩

/-- The spans of the key and the value of a member in shorthand. -/
def Node.shorthandSpans? : Node → Option (Option Span × Option Span)
  | objectMember (.property _ key value _ true) => some (key.span?, value.span?)
  | patternMember (.property _ key value _ true) => some (key.span?, value.span?)
  | _ => none

/-- **The value of a member in shorthand need not have the span of the key**: with a default it is the whole
member. -/
theorem shorthand_default_spans_differ : ¬∀ p, Program.compiled moduleReader "a.js" defaultText = .ok p →
    ∀ xs n s t, IsPath (.program p) xs n → n.shorthandSpans? = some (s, t) → s = t := by
  intro shared
  have hcompiled := compiled_moduleReader "a.js" syntaxTree?_defaultText (by decide)
  have hroot := parse?_moduleReader syntaxTree?_defaultText
  have member : defaultedName.toPatternMember? defaultText.toList = some (.property ⟨4, 7⟩ _ _ false true) :=
    SyntaxNode.toPatternMember?_default rfl
  have value : (defaultedName.toPattern defaultText.toList).span? = some ⟨4, 7⟩ := by
    rw [SyntaxNode.toPattern_assignment (.inr rfl)]
    rfl
  have node := List.mem_map_of_mem (f := Node.patternMember) (Option.mem_toList.mpr member)
  obtain ⟨xs, path⟩ := (exists_isPath_iff hcompiled hroot).mpr (.inr ⟨_, isOf_defaultedName, node⟩)
  have spans := shared _ hcompiled xs _ _ _ path rfl
  rw [value] at spans
  cases spans

end StoryCatalog
