import StoryCatalog.Proofs.RelatedLists
import StoryCatalog.Proofs.Tree.Decoding
import StoryCatalog.Proofs.Tree.MarkupTrees

/-!
# Decoded markup

A list of markup nodes is decoded item by item, or not at all. It is refused exactly if something in it is malformed,
at any depth. An item of a kind that is modelled becomes a node of the variant for this kind, and one of any other
kind is kept as foreign, whatever it holds.

* `MarkupNode.ofKind?_reads`: what a node of a kind is made of.
* `MarkupNode.decode_reads`: what a node is made of.
* `nodes_outcome`: what becomes of a list of markup nodes.
-/

namespace StoryCatalog

open Json

namespace MarkupNode

/-- The name of the variant for a kind that is modelled. -/
def variantName (kind : String) : String :=
  if specialKinds.contains kind then "SpecialElement" else kind

/-- A node says what the fields of an object say: where it stands, and which variant or foreign kind it is. -/
structure ReadsAs (n : MarkupNode) (kind : String) (ms : Members) : Prop where
  place : Span.required? ms = some n.span
  modelled : isModelled kind = true → n.kind.name = variantName kind
  foreign : isModelled kind = false → kind ≠ "SpecialElement" → n = .foreign kind n.span

/-- A node is in another, at any depth. -/
def Below : MarkupNode → MarkupNode → Prop :=
  Relation.ReflTransGen fun x y => y ∈ x.content

end MarkupNode

/-! ## Content -/

/-- Every node of a fragment is one that a decoder gives. -/
def Fragment.DecodedBy (node : Json → Option MarkupNode) (f : Fragment) : Prop :=
  ∀ n ∈ f.nodes, ∃ j, node j = some n

section

variable {d : ScriptDecoder} {node : Json → Option MarkupNode} {ms : Members} {name : String} {f : Fragment}

theorem fieldOr_cases {α : Type} {absent a : α} {decode : Json → Option α}
    (h : fieldOr name absent decode ms = some a) : a = absent ∨ ∃ j, decode j = some a := by
  rw [fieldOr, Option.bind_eq_bind, Option.bind_eq_some_iff] at h
  obtain ⟨_ | j, -, h⟩ := h
  · cases h
    exact Or.inl rfl
  · exact Or.inr ⟨j, h⟩

theorem forall₂_of_mapM {α β : Type} {f : α → Option β} {as : List α} {bs : List β} (h : as.mapM f = some bs) :
    List.Forall₂ (fun a b => f a = some b) as bs := by
  induction as generalizing bs with
  | nil =>
    cases h
    exact .nil
  | cons a as ih =>
    simp only [List.mapM_cons, Option.bind_eq_bind, Option.bind_eq_some_iff, Option.pure_def,
      Option.some.injEq] at h
    obtain ⟨b, hb, bs, hbs, rfl⟩ := h
    exact .cons hb (ih hbs)

/-- A list is decoded item by item. -/
theorem forall₂_of_list? {α : Type} {item : Json → Option α} {j : Json} {as : List α} (h : list? item j = some as) :
    ∃ js, j = .array js ∧ List.Forall₂ (fun i a => item i = some a) js as := by
  cases j with
  | array js => exact ⟨js, rfl, forall₂_of_mapM h⟩
  | _ => cases h

theorem decodedBy_of_ofJson? {j : Json} (h : Fragment.ofJson? node j = some f) : f.DecodedBy node := by
  simp only [Fragment.ofJson?, Option.bind_eq_bind, Option.bind_eq_some_iff, Option.pure_def,
    Option.some.injEq] at h
  obtain ⟨ms, -, ns, hns, rfl⟩ := h
  intro n hn
  rcases fieldOr_cases hns with rfl | ⟨i, hi⟩
  · cases hn
  · obtain ⟨js, -, hall⟩ := forall₂_of_list? hi
    obtain ⟨k, -, hk⟩ := exists_of_mem_right hall hn
    exact ⟨k, hk⟩

theorem decodedBy_of_field (h : fieldOr name ⟨[]⟩ (Fragment.ofJson? node) ms = some f) : f.DecodedBy node := by
  rcases fieldOr_cases h with rfl | ⟨j, h⟩
  · intro n hn
    cases hn
  · exact decodedBy_of_ofJson? h

theorem decodedBy_of_optional {b : Option Fragment} (h : optional? name (Fragment.ofJson? node) ms = some b) :
    ∀ n ∈ b.toList.flatMap (·.nodes), ∃ j, node j = some n := by
  cases b with
  | none => exact List.forall_mem_nil _
  | some f =>
    rw [Option.toList_some, List.flatMap_singleton]
    rcases fieldOr_cases h with hnone | ⟨j, hj⟩
    · cases hnone
    · unfold nullable? at hj
      split at hj
      · cases hj
      · obtain ⟨f', hf, hsome⟩ := Option.map_eq_some_iff.mp hj
        cases hsome
        exact decodedBy_of_ofJson? hf

namespace MarkupNode

variable {kind : String} {n : MarkupNode}

/-- **What a node of a kind is made of.** -/
theorem ofKind?_reads (h : ofKind? d node kind ms = some n) :
    Span.required? ms = some n.span ∧ n.kind.name = variantName kind ∧ ∀ m ∈ n.content, ∃ j, node j = some m := by
  unfold ofKind? at h
  dsimp only at h
  split at h
  all_goals
    simp only [Option.map_eq_some_iff, TextNode.ofMembers?, Comment.ofMembers?, ExpressionTag.ofMembers?,
      Element.ofMembers?, Option.bind_eq_bind, Option.bind_eq_some_iff, Option.pure_def, Option.some.injEq] at h
  · obtain ⟨_, ⟨span, hspan, data, -, rfl⟩, rfl⟩ := h
    exact ⟨hspan, rfl, List.forall_mem_nil _⟩
  · obtain ⟨_, ⟨span, hspan, data, -, rfl⟩, rfl⟩ := h
    exact ⟨hspan, rfl, List.forall_mem_nil _⟩
  · obtain ⟨_, ⟨span, hspan, e, -, rfl⟩, rfl⟩ := h
    exact ⟨hspan, rfl, List.forall_mem_nil _⟩
  · obtain ⟨_, ⟨span, hspan, e, -, rfl⟩, rfl⟩ := h
    exact ⟨hspan, rfl, List.forall_mem_nil _⟩
  · obtain ⟨_, ⟨span, hspan, e, -, rfl⟩, rfl⟩ := h
    exact ⟨hspan, rfl, List.forall_mem_nil _⟩
  · obtain ⟨_, ⟨span, hspan, name, -, as, -, f, hf, rfl⟩, rfl⟩ := h
    exact ⟨hspan, rfl, decodedBy_of_field hf⟩
  · obtain ⟨_, ⟨span, hspan, name, -, as, -, f, hf, rfl⟩, rfl⟩ := h
    exact ⟨hspan, rfl, decodedBy_of_field hf⟩
  · obtain ⟨span, hspan, e, -, f, hf, b, hb, rfl⟩ := h
    exact ⟨hspan, rfl, List.forall_mem_append.mpr ⟨decodedBy_of_field hf, decodedBy_of_optional hb⟩⟩
  · obtain ⟨span, hspan, e, -, f, hf, b, hb, rfl⟩ := h
    exact ⟨hspan, rfl, List.forall_mem_append.mpr ⟨decodedBy_of_field hf, decodedBy_of_optional hb⟩⟩
  · obtain ⟨span, hspan, e, -, a, ha, b, hb, c, hc, rfl⟩ := h
    refine ⟨hspan, rfl, ?_⟩
    rw [content, List.flatMap_append, List.flatMap_append]
    exact List.forall_mem_append.mpr ⟨List.forall_mem_append.mpr
      ⟨decodedBy_of_optional ha, decodedBy_of_optional hb⟩, decodedBy_of_optional hc⟩
  · obtain ⟨span, hspan, e, -, f, hf, rfl⟩ := h
    exact ⟨hspan, rfl, decodedBy_of_field hf⟩
  · obtain ⟨span, hspan, id, -, ps, -, f, hf, rfl⟩ := h
    exact ⟨hspan, rfl, decodedBy_of_field hf⟩
  · split at h
    · rename_i hkind
      simp only [Option.map_eq_some_iff, Option.bind_eq_some_iff, Option.some.injEq] at h
      obtain ⟨_, ⟨span, hspan, name, -, as, -, f, hf, rfl⟩, rfl⟩ := h
      refine ⟨hspan, ?_, decodedBy_of_field hf⟩
      rw [variantName]
      rcases Bool.or_eq_true_iff.mp hkind with hkind | hkind
      · rw [if_pos hkind]
        rfl
      · rw [beq_iff_eq.mp hkind]
        rfl
    · cases h

/-- A node of a kind is not foreign. -/
theorem ne_foreign_of_ofKind? (h : ofKind? d node kind ms = some n) (k : String) (s : Span) : n ≠ .foreign k s := by
  rintro rfl
  obtain ⟨-, hname, -⟩ := ofKind?_reads h
  have hname : "Unknown" = variantName kind := hname
  unfold variantName at hname
  split at hname
  · exact absurd hname (by decide)
  · cases hname
    cases h

/-- **What a node is made of**: its kind, if that is modelled, or its offsets only. -/
theorem decode_reads {j : Json} (h : decode d node j = some n) :
    ∃ kind ms, tagged? "type" j = some (kind, ms) ∧ n.ReadsAs kind ms ∧
      (∀ m ∈ n.content, ∃ i, node i = some m) ∧ ∀ k s, n = .foreign k s → isModelled k = false := by
  obtain ⟨⟨kind, ms⟩, htype, h⟩ := Option.bind_eq_some_iff.mp h
  refine ⟨kind, ms, htype, ?_⟩
  dsimp only at h
  split at h
  · rename_i n' hn
    cases h
    obtain ⟨hplace, hname, hcontent⟩ := ofKind?_reads hn
    refine ⟨⟨hplace, fun _ => hname, fun hkind hother => ?_⟩, hcontent,
      fun k s hk => absurd hk (ne_foreign_of_ofKind? hn k s)⟩
    rw [ofKind?_of_not_modelled hkind, if_neg (by simpa using hother)] at hn
    cases hn
  · split at h
    · cases h
    · rename_i hkind
      rw [Bool.not_eq_true] at hkind
      obtain ⟨span, hspan, rfl⟩ := Option.map_eq_some_iff.mp h
      refine ⟨⟨hspan, fun hmodelled => ?_, fun _ _ => rfl⟩, List.forall_mem_nil _, fun k s hk => ?_⟩
      · rw [hkind] at hmodelled
        cases hmodelled
      · cases hk
        exact hkind

/-- **No foreign node** in a decoded one is of a kind that is modelled. -/
theorem not_modelled_of_below {fuel : Nat} {j : Json} (h : ofJson? d fuel j = some n) {m : MarkupNode}
    (hm : n.Below m) {k : String} {s : Span} (hk : m = .foreign k s) : isModelled k = false := by
  induction fuel generalizing j n with
  | zero => cases h
  | succ fuel ih =>
    obtain ⟨kind, ms, -, -, hcontent, hforeign⟩ := decode_reads h
    rcases Relation.ReflTransGen.cases_head hm with rfl | ⟨c, hc, hm⟩
    · exact hforeign k s hk
    · obtain ⟨i, hi⟩ := hcontent c hc
      exact ih hi hm

/-- A node of a kind that is neither modelled nor that of the special family needs nothing but its offsets. -/
theorem decode_of_other {j : Json} {span : Span} (htype : tagged? "type" j = some (kind, ms))
    (hkind : isModelled kind = false) (hother : kind ≠ "SpecialElement") (hspan : Span.required? ms = some span) :
    decode d node j = some (.foreign kind span) := by
  rw [decode, htype, Option.bind_eq_bind, Option.bind_some]
  dsimp only
  rw [ofKind?_of_not_modelled hkind, if_neg (by simpa using hother), hkind, hspan]
  rfl

end MarkupNode

end

/-- **What becomes of a list of markup nodes**, decoded with at least as many steps as it is deep. It is refused
exactly if something is malformed that is decoded in it. If it is not, there is one node for each item, in order: at
the given offsets, of the variant for a kind that is modelled, and foreign for any other kind but that of the special
family itself. An item of such a kind is decoded whatever else it holds. No foreign node, at any depth, is of a kind
that is modelled. -/
theorem nodes_outcome {steps fuel : Nat} {v : Json} (hsteps : v.depth ≤ steps) (hfuel : v.depth ≤ fuel) :
    let node := MarkupNode.ofJson? (.ofFuel steps) fuel
    (list? node v = none ↔ ∃ x, Part.Inside (.list .node, v) x ∧ x.Malformed) ∧
      (∀ ns, list? node v = some ns →
        (∃ js, v = .array js ∧
          List.Forall₂ (fun j n => ∃ kind ms, tagged? "type" j = some (kind, ms) ∧ n.ReadsAs kind ms) js ns) ∧
        ∀ n ∈ ns, ∀ kind span, n.Below (.foreign kind span) → MarkupNode.isModelled kind = false) ∧
      ∀ js j kind ms span, v = .array js → j ∈ js → tagged? "type" j = some (kind, ms) →
        MarkupNode.isModelled kind = false → kind ≠ "SpecialElement" → Span.required? ms = some span →
          node j = some (.foreign kind span) := by
  intro node
  have hdecides : Decides (list? node) (.list .node) v.depth :=
    ((MarkupNode.ofJson?_decides (ScriptDecoder.ofFuel_decides steps)).mono (by omega)).list
  obtain ⟨fuel, rfl⟩ : ∃ k, fuel = k + 1 := Nat.exists_eq_succ_of_ne_zero fun h => by
    rw [h] at hfuel
    cases v <;> simp [depth] at hfuel
  refine ⟨?_, fun ns hns => ?_, fun js j kind ms span hv hj htype hkind hother hspan => ?_⟩
  · rw [← Option.not_isSome_iff_eq_none, hdecides v (Nat.le_refl _), Part.WellFormed]
    simp
  · obtain ⟨js, hv, hall⟩ := forall₂_of_list? hns
    refine ⟨⟨js, hv, hall.imp fun j n hn => ?_⟩, fun n hn kind span hbelow => ?_⟩
    · obtain ⟨kind, ms, htype, hreads, -⟩ := MarkupNode.decode_reads hn
      exact ⟨kind, ms, htype, hreads⟩
    · obtain ⟨j, -, hj⟩ := exists_of_mem_right hall hn
      exact MarkupNode.not_modelled_of_below hj hbelow rfl
  · exact MarkupNode.decode_of_other htype hkind hother hspan

/-- A node of a kind with fields besides its offsets. -/
def nodeOfKind (kind : String) (more : Members) : Json :=
  .object (("type", .string kind) :: ("start", .number (.nat 0)) :: ("end", .number (.nat 1)) :: more)

/-- A component with these nodes in it. -/
def componentAround (ns : List Json) : Json :=
  nodeOfKind "Component" [("name", .string "A"), ("fragment", .object [("nodes", .array ns)])]

/-- A component inside a component must have a name, while nothing is asked of what stands in a tag of a kind that is
not modelled. -/
theorem component_refused_tag_kept :
    list? (MarkupNode.ofJson? (.ofFuel 9) 9) (.array [componentAround [nodeOfKind "Component" []]]) = none ∧
      MarkupNode.ofJson? (.ofFuel 9) 9 (nodeOfKind "ConstTag" [("name", .null)]) =
        some (.foreign "ConstTag" ⟨0, 1⟩) := by
  constructor
  · refine (nodes_outcome (by decide) (by decide)).1.mpr ⟨(.node, nodeOfKind "Component" []), ?_, rfl⟩
    have hitem : Part.Holds (.list .node, .array [componentAround [nodeOfKind "Component" []]])
        (.node, componentAround [nodeOfKind "Component" []]) := ⟨_, rfl, List.mem_singleton_self _⟩
    have hfragment : Part.Holds (.node, componentAround [nodeOfKind "Component" []])
        (.fragment, .object [("nodes", .array [nodeOfKind "Component" []])]) := ⟨_, rfl, by simp [Field.may]⟩
    have hnodes : Part.Holds (.fragment, .object [("nodes", .array [nodeOfKind "Component" []])])
        (.list .node, .array [nodeOfKind "Component" []]) := ⟨_, rfl, by simp [Field.may]⟩
    have hinner : Part.Holds (.list .node, .array [nodeOfKind "Component" []]) (.node, nodeOfKind "Component" []) :=
      ⟨_, rfl, List.mem_singleton_self _⟩
    exact .head hitem (.head hfragment (.head hnodes (.single hinner)))
  · exact (nodes_outcome (by decide) (by decide)).2.2 _ _ _ _ _ rfl (List.mem_singleton_self _) rfl rfl
      (by decide) rfl

end StoryCatalog
