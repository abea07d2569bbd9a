import StoryCatalog.Proofs.JavaScript.Phrases

/-!
# The phrases of a program

The nodes of a program are the program itself and those of the phrases of its tree: the statements at the top of the
tree, the phrases inside them, and so on. Each of them stands in the tree, inside the one around it.

* `Phrase.Holds`, `Phrase.IsOf`: the phrases inside a phrase, and those of a tree.
* `Phrase.standsIn_of_mem_inner`: where a phrase stands.
* `exists_isPath_toProgram_iff`: the nodes of a program.
-/

namespace StoryCatalog.JavaScript

namespace Phrase

variable {code : List Char}

/-! ## Paths -/

/-- A phrase holds another: the other is inside it, or inside a phrase inside it, and so on. -/
def Holds : Phrase → Phrase → Prop :=
  Relation.ReflTransGen fun p q => q ∈ p.inner

theorem inMember_eq_nil {n : SyntaxNode} (h : n.toObjectMember? code = none) : inMember n = [] := by
  rw [inMember]
  split
  next hk =>
    rw [SyntaxNode.toObjectMember?_pair hk] at h
    split
    next hkey hvalue => simp [hkey, hvalue] at h
    next => rfl
  next hk => simp [SyntaxNode.toObjectMember?, hk] at h
  next hk =>
    rw [SyntaxNode.toObjectMember?_spread hk, Option.map_eq_none_iff] at h
    rw [h]
    rfl
  next hk => simp [SyntaxNode.toObjectMember?_method hk] at h
  next => rfl

theorem inField_eq_nil {n : SyntaxNode} (h : n.toPatternMember? code = none) : inField n = [] := by
  rw [inField]
  split
  next hk =>
    rw [SyntaxNode.toPatternMember?_pair hk] at h
    split
    next hkey hvalue => simp [hkey, hvalue] at h
    next => rfl
  next hk => simp [SyntaxNode.toPatternMember?, hk] at h
  next hk =>
    rw [SyntaxNode.toPatternMember?, hk] at h
    rw [Option.map_eq_none_iff.mp h]
    rfl
  next hk =>
    rw [SyntaxNode.toPatternMember?_rest hk, Option.map_eq_none_iff] at h
    rw [h]
    rfl
  next => rfl

/-- A phrase has one node, or it has none and no phrases inside it. -/
theorem nodes_cases (code : List Char) (q : Phrase) : (∃ m, q.nodes code = [m]) ∨ q.nodes code = [] ∧ q.inner = [] := by
  have optional {α : Type} {k : α → Node} {o : Option α} (hnodes : q.nodes code = o.toList.map k)
      (hinner : o = none → q.inner = []) : (∃ m, q.nodes code = [m]) ∨ q.nodes code = [] ∧ q.inner = [] := by
    cases o with
    | none => exact .inr ⟨hnodes, hinner rfl⟩
    | some a => exact .inl ⟨k a, hnodes⟩
  obtain ⟨role, n⟩ := q
  cases role with
  | declarator =>
    refine optional rfl fun h => ?_
    rw [SyntaxNode.toDeclarator?_eq, Option.map_eq_none_iff] at h
    rw [inner, h]
    rfl
  | specifier =>
    refine optional rfl fun h => ?_
    have hname : n.childByField? "name" = none := by
      cases hc : n.childByField? "name" with
      | none => rfl
      | some name => simp [SyntaxNode.toImportSpecifier?, hc] at h
    rw [inner, hname]
    rfl
  | moduleImport =>
    refine optional rfl fun h => ?_
    rw [inner, h]
    rfl
  | member => exact optional rfl inMember_eq_nil
  | field => exact optional rfl inField_eq_nil
  | value =>
    by_cases h : n.kind = "parenthesized_expression"
    · exact .inr ⟨if_pos h, by simp [inner, inValue, h]⟩
    · exact .inl ⟨_, if_neg h⟩
  | _ => exact .inl ⟨_, rfl⟩

theorem eq_of_mem_nodes {q : Phrase} {m m' : Node} (h : m ∈ q.nodes code) (h' : m' ∈ q.nodes code) : m = m' := by
  rcases q.nodes_cases code with ⟨o, ho⟩ | ⟨hnil, -⟩
  · rw [ho, List.mem_singleton] at h h'
    rw [h, h']
  · rw [hnil] at h
    cases h

/-- A phrase inside another has a node that is stored in the node of the other. -/
theorem exists_stored {p q : Phrase} {n m : Node} (hq : q ∈ p.inner) (hn : n ∈ p.nodes code)
    (hm : m ∈ q.nodes code) : ∃ x ∈ n.stored, x.node = m := by
  have hmem : m ∈ n.stored.map (·.node) := by
    rw [map_node_stored hn]
    exact List.mem_flatMap_of_mem hq hm
  exact List.mem_map.mp hmem

/-- **A path leads to the node of each phrase that is held.** -/
theorem exists_isPath {p q : Phrase} (h : p.Holds q) {n m : Node} (hn : n ∈ p.nodes code) (hm : m ∈ q.nodes code) :
    ∃ xs, IsPath n xs m := by
  induction h using Relation.ReflTransGen.head_induction_on generalizing n with
  | refl => exact ⟨[], eq_of_mem_nodes hn hm ▸ .here n⟩
  | @head p p' hinner hholds ih =>
    rcases p'.nodes_cases code with ⟨n', hn'⟩ | ⟨hnodes, hnil⟩
    · have hmem : n' ∈ p'.nodes code := hn' ▸ List.mem_singleton_self n'
      obtain ⟨xs, path⟩ := ih hmem
      obtain ⟨x, hx, rfl⟩ := exists_stored hinner hn hmem
      exact ⟨x :: xs, .into hx path⟩
    · -- A phrase without a node holds nothing but itself.
      rcases hholds.cases_head with rfl | ⟨p'', hp'', -⟩
      · rw [hnodes] at hm
        cases hm
      · rw [hnil] at hp''
        cases hp''

/-- **A path leads to nothing but nodes of phrases that are held.** -/
theorem exists_of_isPath {p : Phrase} {n m : Node} {xs : List Stored} (h : IsPath n xs m) (hn : n ∈ p.nodes code) :
    ∃ q, p.Holds q ∧ m ∈ q.nodes code := by
  induction h generalizing p with
  | here n => exact ⟨p, .refl, hn⟩
  | @into n m x xs stored rest ih =>
    have hmem : x.node ∈ n.stored.map (·.node) := List.mem_map_of_mem stored
    rw [map_node_stored hn, List.mem_flatMap] at hmem
    obtain ⟨p', hinner, hx⟩ := hmem
    obtain ⟨q, hq, hm⟩ := ih hx
    exact ⟨q, .head hinner hq, hm⟩

/-! ## Where phrases stand in the tree -/

/-- A phrase stands in a node. If it is in quotes, it is a string, or the name of the module of an import. -/
structure StandsIn (n : SyntaxNode) (q : Phrase) : Prop where
  contains : n.Contains q.source
  quoted : q.role = .quoted → q.source.kind = "string" ∨
    ∃ d, n.Contains d ∧ d.kind = "import_statement" ∧ d.childByField? "source" = some q.source

section

variable {n : SyntaxNode}

theorem StandsIn.of_contains {m : SyntaxNode} {q : Phrase} (h : n.Contains m) (hq : q.StandsIn m) : q.StandsIn n where
  contains := h.trans hq.contains
  quoted hrole := (hq.quoted hrole).imp_right fun ⟨d, hd, himport⟩ => ⟨d, h.trans hd, himport⟩

theorem standsIn_of_ne {role : Role} (h : role ≠ .quoted) (n : SyntaxNode) : StandsIn n ⟨role, n⟩ :=
  ⟨.refl, fun hrole => absurd hrole h⟩

theorem ofValue_standsIn (n : SyntaxNode) : (ofValue n).StandsIn n := by
  rw [ofValue]
  cases h : n.bare? with
  | none => exact standsIn_of_ne (by decide) n
  | some e => exact .of_contains (SyntaxNode.contains_of_bare? h) (standsIn_of_ne (by decide) e)

theorem ofInner_standsIn (n : SyntaxNode) : (ofInner n).StandsIn n := by
  rw [ofInner]
  cases h : n.named.head? with
  | none => exact standsIn_of_ne (by decide) n
  | some e => exact .of_contains (SyntaxNode.contains_of_head?_named h) (ofValue_standsIn e)

theorem ofKey_standsIn (n : SyntaxNode) : (ofKey n).StandsIn n := by
  rw [ofKey]
  split
  iterate 3 exact standsIn_of_ne (by decide) n
  · exact ofInner_standsIn n
  · exact ofValue_standsIn n

section

variable {f : SyntaxNode → Phrase} (hf : ∀ m : SyntaxNode, (f m).StandsIn m)
include hf

theorem ofChild_standsIn {c : Option SyntaxNode} (hc : ∀ m ∈ c, n.Contains m) : (ofChild n c f).StandsIn n := by
  cases c with
  | none => exact standsIn_of_ne (by decide) n
  | some m => exact .of_contains (hc m rfl) (hf m)

/-- The phrases of some nodes stand where these do. -/
theorem standsIn_of_mem_map {ns : List SyntaxNode} (hns : ∀ m ∈ ns, n.Contains m) : ∀ q ∈ ns.map f, q.StandsIn n :=
  List.forall_mem_map.mpr fun m hm => .of_contains (hns m hm) (hf m)

theorem standsIn_of_mem_named : ∀ q ∈ n.named.map f, q.StandsIn n :=
  standsIn_of_mem_map hf fun _ hm => SyntaxNode.contains_of_mem_named hm

theorem standsIn_of_mem_filter {keep : SyntaxNode → Bool} : ∀ q ∈ (n.named.filter keep).map f, q.StandsIn n :=
  standsIn_of_mem_map hf fun _ hm => SyntaxNode.contains_of_mem_named (List.mem_filter.mp hm).1

theorem standsIn_of_mem_head? : ∀ q ∈ n.named.head?.toList.map f, q.StandsIn n :=
  standsIn_of_mem_map hf fun _ hm => SyntaxNode.contains_of_head?_named (Option.mem_toList.mp hm)

theorem standsIn_of_mem_field {field : String} : ∀ q ∈ (n.childByField? field).toList.map f, q.StandsIn n :=
  standsIn_of_mem_map hf fun _ hm => SyntaxNode.contains_of_childByField? (Option.mem_toList.mp hm)

end

variable {q : Phrase}

open SyntaxNode (contains_of_childByField?)

/-- A child in a field, as anything but a name in quotes. -/
theorem standsIn_of_childByField? {m : SyntaxNode} {field : String} {role : Role} (h : n.childByField? field = some m)
    (hrole : role ≠ .quoted) : StandsIn n ⟨role, m⟩ :=
  .of_contains (contains_of_childByField? h) (standsIn_of_ne hrole m)

theorem standsIn_of_mem_ofFunction (h : q ∈ ofFunction n) : q.StandsIn n := by
  rw [ofFunction, List.mem_append, List.mem_append, List.mem_singleton] at h
  rcases h with (h | h) | rfl
  · exact standsIn_of_mem_field (standsIn_of_ne (by decide)) q h
  · rw [params] at h
    split at h
    · next ps hps =>
      exact .of_contains (contains_of_childByField? hps) (standsIn_of_mem_named (standsIn_of_ne (by decide)) q h)
    · exact standsIn_of_mem_field (standsIn_of_ne (by decide)) q h
  · rw [body]
    split
    · next b hb => exact standsIn_of_childByField? hb (by split <;> decide)
    · exact standsIn_of_ne (by decide) n

theorem standsIn_of_mem_ofImportPart (h : q ∈ ofImportPart n) : q.StandsIn n := by
  rw [ofImportPart] at h
  split at h
  iterate 2
    rw [List.mem_singleton.mp h]
    exact standsIn_of_ne (by decide) n
  · exact standsIn_of_mem_filter (standsIn_of_ne (by decide)) q h
  · cases h

theorem standsIn_of_mem_ofImport (hkind : n.kind = "import_statement") (h : q ∈ ofImport n) : q.StandsIn n := by
  rw [ofImport, List.mem_append, List.mem_flatMap, List.mem_singleton] at h
  rcases h with ⟨clause, hclause, h⟩ | rfl
  · obtain ⟨part, hpart, h⟩ := List.mem_flatMap.mp h
    exact .of_contains (SyntaxNode.contains_of_mem_named (List.mem_filter.mp hclause).1)
      (.of_contains (SyntaxNode.contains_of_mem_named hpart) (standsIn_of_mem_ofImportPart h))
  · split
    · next source hsource =>
      exact ⟨contains_of_childByField? hsource, fun _ => .inr ⟨n, .refl, hkind, hsource⟩⟩
    · exact standsIn_of_ne (by decide) n

theorem ofExported_standsIn : (ofExported n).StandsIn n := by
  rw [ofExported]
  split
  · next d hd => split <;> exact standsIn_of_childByField? hd (by decide)
  · exact ofChild_standsIn ofValue_standsIn fun _ => contains_of_childByField?

theorem standsIn_of_mem_inStatement (h : q ∈ inStatement n) : q.StandsIn n := by
  rw [inStatement] at h
  split at h
  · exact standsIn_of_mem_ofImport ‹_› h
  iterate 2 exact standsIn_of_mem_filter (standsIn_of_ne (by decide)) q h
  · split at h
    · rw [List.mem_singleton.mp h]
      exact ofExported_standsIn
    · exact standsIn_of_mem_field (standsIn_of_ne (by decide)) q h
  iterate 2 exact standsIn_of_mem_ofFunction h
  iterate 2 exact standsIn_of_mem_head? ofValue_standsIn q h
  · exact standsIn_of_mem_named (standsIn_of_ne (by decide)) q h
  · cases h

theorem standsIn_of_mem_inValue (h : q ∈ inValue n) : q.StandsIn n := by
  rw [inValue] at h
  split at h
  · exact standsIn_of_mem_filter ofInner_standsIn q h
  · exact standsIn_of_mem_named ofValue_standsIn q h
  · exact standsIn_of_mem_named (standsIn_of_ne (by decide)) q h
  · rw [List.mem_cons, List.mem_flatMap] at h
    rcases h with rfl | ⟨arguments, harguments, h⟩
    · exact ofChild_standsIn ofValue_standsIn fun _ => contains_of_childByField?
    · exact .of_contains (contains_of_childByField? (Option.mem_toList.mp harguments))
        (standsIn_of_mem_named ofValue_standsIn q h)
  iterate 2
    rw [List.mem_cons, List.mem_singleton] at h
    rcases h with rfl | rfl
    · exact ofChild_standsIn ofValue_standsIn fun _ => contains_of_childByField?
    · refine ofChild_standsIn ofKey_standsIn fun m hm => ?_
      rcases Option.or_eq_some_iff.mp hm with hm | ⟨-, hm⟩ <;> exact contains_of_childByField? hm
  iterate 4 exact standsIn_of_mem_ofFunction h
  · exact standsIn_of_mem_head? ofValue_standsIn q h
  · cases h

theorem standsIn_of_mem_inTarget (h : q ∈ inTarget n) : q.StandsIn n := by
  rw [inTarget] at h
  split at h
  iterate 2 exact standsIn_of_mem_named (standsIn_of_ne (by decide)) q h
  iterate 2
    split at h
    · next left right hleft hright =>
      rw [List.mem_cons, List.mem_singleton] at h
      rcases h with rfl | rfl
      · exact standsIn_of_childByField? hleft (by decide)
      · exact .of_contains (contains_of_childByField? hright) (ofValue_standsIn right)
    · cases h
  · exact standsIn_of_mem_head? (standsIn_of_ne (by decide)) q h
  · cases h

theorem standsIn_of_mem_inMember (h : q ∈ inMember n) : q.StandsIn n := by
  rw [inMember] at h
  split at h
  · split at h
    · next key value hkey hvalue =>
      rw [List.mem_cons, List.mem_singleton] at h
      rcases h with rfl | rfl
      · exact .of_contains (contains_of_childByField? hkey) (ofKey_standsIn key)
      · exact .of_contains (contains_of_childByField? hvalue) (ofValue_standsIn value)
    · cases h
  · simp only [List.mem_cons, List.not_mem_nil, or_false, or_self] at h
    rw [h]
    exact standsIn_of_ne (by decide) n
  · exact standsIn_of_mem_head? ofValue_standsIn q h
  · rw [List.mem_cons, List.mem_singleton] at h
    rcases h with rfl | rfl
    · exact ofChild_standsIn ofKey_standsIn fun _ => contains_of_childByField?
    · exact standsIn_of_ne (by decide) n
  · cases h

theorem standsIn_of_mem_inField (h : q ∈ inField n) : q.StandsIn n := by
  rw [inField] at h
  split at h
  · split at h
    · next key value hkey hvalue =>
      rw [List.mem_cons, List.mem_singleton] at h
      rcases h with rfl | rfl
      · exact .of_contains (contains_of_childByField? hkey) (ofKey_standsIn key)
      · exact standsIn_of_childByField? hvalue (by decide)
    · cases h
  · rw [List.mem_cons, List.mem_singleton] at h
    rcases h with rfl | rfl <;> exact standsIn_of_ne (by decide) n
  · obtain ⟨left, hleft, h⟩ := List.mem_flatMap.mp h
    rw [List.mem_cons, List.mem_singleton] at h
    rcases h with rfl | rfl
    · exact standsIn_of_childByField? (Option.mem_toList.mp hleft) (by decide)
    · exact standsIn_of_ne (by decide) n
  · exact standsIn_of_mem_head? (standsIn_of_ne (by decide)) q h
  · cases h

/-- **A phrase stands in the node of which the phrase around it is made.** -/
theorem standsIn_of_mem_inner {p : Phrase} (h : q ∈ p.inner) : q.StandsIn p.source := by
  obtain ⟨role, n⟩ := p
  cases role with
  | statement => exact standsIn_of_mem_inStatement h
  | result =>
    rw [List.mem_singleton.mp h]
    exact ofValue_standsIn n
  | declarator =>
    obtain ⟨name, hname, h⟩ := List.mem_flatMap.mp h
    rcases List.mem_cons.mp h with rfl | h
    · exact standsIn_of_childByField? (Option.mem_toList.mp hname) (by decide)
    · exact standsIn_of_mem_field ofValue_standsIn q h
  | defaultImport =>
    rw [List.mem_singleton.mp h]
    exact standsIn_of_ne (by decide) n
  | moduleImport => exact standsIn_of_mem_head? (standsIn_of_ne (by decide)) q h
  | specifier =>
    obtain ⟨name, hname, h⟩ := List.mem_flatMap.mp h
    have contains : n.Contains name := contains_of_childByField? (Option.mem_toList.mp hname)
    rw [List.mem_cons, List.mem_singleton] at h
    rcases h with rfl | rfl
    · by_cases hkind : name.kind = "string"
      · exact ⟨contains, fun _ => .inl hkind⟩
      · exact .of_contains contains (standsIn_of_ne (by simp [hkind]) name)
    · cases halias : n.childByField? "alias" with
      | none => exact .of_contains contains (standsIn_of_ne (by decide) name)
      | some binding => exact standsIn_of_childByField? halias (by decide)
  | exported => exact standsIn_of_mem_ofFunction h
  | value => exact standsIn_of_mem_inValue h
  | member => exact standsIn_of_mem_inMember h
  | target => exact standsIn_of_mem_inTarget h
  | field => exact standsIn_of_mem_inField h
  | _ => cases h

end

theorem Holds.contains {p q : Phrase} (h : p.Holds q) : p.source.Contains q.source := by
  induction h with
  | refl => exact .refl
  | tail _ hinner ih => exact ih.trans (standsIn_of_mem_inner hinner).contains

/-- A phrase is one of a tree: a statement at the top of it, or inside one. -/
def IsOf (root : SyntaxNode) (q : Phrase) : Prop :=
  ∃ s ∈ root.named, Holds ⟨.statement, s⟩ q

section

variable {root : SyntaxNode} {q r : Phrase}

theorem isOf_of_mem_named {s : SyntaxNode} (h : s ∈ root.named) : IsOf root ⟨.statement, s⟩ :=
  ⟨s, h, .refl⟩

theorem IsOf.inner (h : q.IsOf root) (hr : r ∈ q.inner) : r.IsOf root := by
  obtain ⟨s, hs, hq⟩ := h
  exact ⟨s, hs, hq.tail hr⟩

theorem IsOf.contains (h : q.IsOf root) : root.Contains q.source := by
  obtain ⟨s, hs, hq⟩ := h
  exact (SyntaxNode.contains_of_mem_named hs).trans hq.contains

theorem IsOf.standsIn (h : q.IsOf root) : q.StandsIn root := by
  obtain ⟨s, hs, hq⟩ := h
  rcases hq.cases_tail with rfl | ⟨p, hp, hinner⟩
  · exact .of_contains (SyntaxNode.contains_of_mem_named hs) (standsIn_of_ne (by decide) s)
  · exact .of_contains (IsOf.contains ⟨s, hs, hp⟩) (standsIn_of_mem_inner hinner)

end

/-! ## Expressions -/

/-- An expression is the node of what is written as one, of a name in another place, of a name in quotes, of a function
that is exported, or of nothing at all. -/
theorem cases_of_expression {q : Phrase} {e : Expression} (h : .expression e ∈ q.nodes code) :
    (q.role = .value ∧ q.source.kind ≠ "parenthesized_expression" ∧ e = q.source.toExpression code) ∨
      (q.role = .key ∧ e = .identifier (q.source.toIdentifier code)) ∨
      (q.role = .quoted ∧ e = .literal (q.source.toTextLiteral code)) ∨
      (q.role = .unnamed ∧ e = .literal ⟨⟨q.source.span.start, q.source.span.start⟩, .other .null⟩) ∨
      (q.role = .exported ∧ e = .function .declaration (q.source.toFunction code)) ∨
      q.role = .noValue ∧ e = .unknown := by
  obtain ⟨role, n⟩ := q
  cases role with
  | value =>
    obtain ⟨hkind, he⟩ := mem_nodes_value.mp h
    exact .inl ⟨rfl, hkind, Node.expression.inj he⟩
  | declarator | specifier | member | field | moduleImport =>
    obtain ⟨_, _, he⟩ := List.mem_map.mp h
    cases he
  | _ => simp_all [nodes]

/-- An expression that only nodes of one kind become is the node of one of these, if it is no string. -/
theorem value_of_soleKind? {q : Phrase} {e : Expression} {kind : String} (h : .expression e ∈ q.nodes code)
    (sole : SyntaxNode.soleKind? e = some kind) (hkind : kind ≠ "string") :
    q.role = .value ∧ q.source.kind = kind ∧ e = q.source.toExpression code := by
  obtain ⟨hrole, hne, he⟩ | ⟨-, rfl⟩ | ⟨-, rfl⟩ | ⟨-, rfl⟩ | ⟨-, rfl⟩ | ⟨-, rfl⟩ := cases_of_expression h
  · exact ⟨hrole, SyntaxNode.kind_of_soleKind? hne he sole, he⟩
  · cases sole
  · exact absurd (Option.some.inj sole).symm hkind
  all_goals cases sole

/-- A pattern is the node of what is written as one. -/
theorem eq_target_of_mem_nodes {q : Phrase} {p : Pattern} (h : .pattern p ∈ q.nodes code) :
    q.role = .target ∧ p = q.source.toPattern code := by
  obtain ⟨role, n⟩ := q
  cases role with
  | target => exact ⟨rfl, Node.pattern.inj (List.mem_singleton.mp h)⟩
  | value =>
    obtain ⟨-, he⟩ := mem_nodes_value.mp h
    cases he
  | declarator | specifier | member | field | moduleImport =>
    obtain ⟨_, _, he⟩ := List.mem_map.mp h
    cases he
  | _ => cases List.mem_singleton.mp h

theorem eq_member_of_mem_nodes {q : Phrase} {m : ObjectMember} (h : .objectMember m ∈ q.nodes code) :
    q.role = .member ∧ q.source.toObjectMember? code = some m := by
  obtain ⟨role, n⟩ := q
  cases role with
  | member =>
    obtain ⟨m', hm', he⟩ := List.mem_map.mp h
    cases he
    exact ⟨rfl, Option.mem_toList.mp hm'⟩
  | value =>
    obtain ⟨-, he⟩ := mem_nodes_value.mp h
    cases he
  | declarator | specifier | field | moduleImport =>
    obtain ⟨_, _, he⟩ := List.mem_map.mp h
    cases he
  | _ => cases List.mem_singleton.mp h

theorem eq_field_of_mem_nodes {q : Phrase} {m : PatternMember} (h : .patternMember m ∈ q.nodes code) :
    q.role = .field ∧ q.source.toPatternMember? code = some m := by
  obtain ⟨role, n⟩ := q
  cases role with
  | field =>
    obtain ⟨m', hm', he⟩ := List.mem_map.mp h
    cases he
    exact ⟨rfl, Option.mem_toList.mp hm'⟩
  | value =>
    obtain ⟨-, he⟩ := mem_nodes_value.mp h
    cases he
  | declarator | specifier | member | moduleImport =>
    obtain ⟨_, _, he⟩ := List.mem_map.mp h
    cases he
  | _ => cases List.mem_singleton.mp h

end Phrase

/-! ## Programs -/

theorem map_node_stored_program (code : List Char) (root : SyntaxNode) :
    (Node.program (root.toProgram code)).stored.map (·.node) =
      (root.named.map (Phrase.mk .statement)).flatMap (Phrase.nodes code) := by
  rw [Node.stored, map_node_allWalked, SyntaxNode.toProgram, SyntaxNode.toStatements_eq, List.map_map,
    Phrase.flatMap_nodes (f := Phrase.mk .statement) fun _ => rfl]
  rfl

/-- **The nodes of a program** are the program itself, and those of the phrases of its tree. -/
theorem exists_isPath_toProgram_iff {code : List Char} {root : SyntaxNode} {m : Node} :
    (∃ xs, IsPath (.program (root.toProgram code)) xs m) ↔
      m = .program (root.toProgram code) ∨ ∃ q : Phrase, q.IsOf root ∧ m ∈ q.nodes code := by
  have stored := map_node_stored_program code root
  rw [Phrase.flatMap_nodes (g := fun s => .statement (s.toStatement code)) fun _ => rfl] at stored
  constructor
  · rintro ⟨xs, path⟩
    cases path with
    | here => exact .inl rfl
    | @into _ _ x _ hx rest =>
      have hmem : x.node ∈ root.named.map fun s => Node.statement (s.toStatement code) := by
        rw [← stored]
        exact List.mem_map_of_mem hx
      obtain ⟨s, hs, hnode⟩ := List.mem_map.mp hmem
      have hn : x.node ∈ Phrase.nodes code ⟨.statement, s⟩ := hnode ▸ List.mem_singleton_self _
      obtain ⟨q, hq, hm⟩ := Phrase.exists_of_isPath rest hn
      exact .inr ⟨q, ⟨s, hs, hq⟩, hm⟩
  · rintro (rfl | ⟨q, ⟨s, hs, hq⟩, hm⟩)
    · exact ⟨[], .here _⟩
    · have hmem : Node.statement (s.toStatement code) ∈ (Node.program (root.toProgram code)).stored.map (·.node) := by
        rw [stored]
        exact List.mem_map_of_mem hs
      obtain ⟨x, hx, hnode⟩ := List.mem_map.mp hmem
      obtain ⟨xs, path⟩ := Phrase.exists_isPath hq (List.mem_singleton_self _) hm
      exact ⟨x :: xs, .into hx (hnode ▸ path)⟩

end StoryCatalog.JavaScript
