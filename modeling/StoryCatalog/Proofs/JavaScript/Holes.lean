import StoryCatalog.Proofs.JavaScript.SyntaxTrees

/-!
# Holes of arrays

Between two commas of an array there may be nothing. Such a hole has no node in the syntax tree, so it is not in the
array that is lowered either, be it a literal or a pattern, and every element after it comes further to the front. A
comment in HTML, on the other hand, is a node like any other, and becomes an element that is not known. Otherwise the
elements stay in order.

It is assumed of the parser that it makes an array of brackets and, between these, elements with commas after them; an
element may be left out, and the last comma may be, after an element.

* `SyntaxNode.slots?`, `DropsHoles`: what is written between the commas of an array, and its elements.
* `arrays_of_compiled`: the arrays of the program of an accepted text.
* `positions_are_not_kept`: with a hole an element need not stay in its place.
-/

namespace StoryCatalog

open JavaScript

/-! ## Slots -/

namespace JavaScript.SyntaxNode

/-- A node is a comment, be it one of JavaScript or one in HTML. -/
def isComment (n : SyntaxNode) : Bool :=
  n.kind == "comment" || n.kind == "html_comment"

/-- A node is a token. -/
def isToken (n : SyntaxNode) (word : String) : Bool :=
  !n.isNamed && n.kind == word

/-- What stands in the slots that end with commas. There need be no comma after the last element. -/
def slotsAmong? : List SyntaxNode → Option (List (Option SyntaxNode))
  | [] => some []
  | [e] => if e.isNamed then some [some e] else if e.isToken "," then some [none] else none
  | e :: c :: ns =>
    if e.isNamed then if c.isToken "," then (slotsAmong? ns).map (some e :: ·) else none
    else if e.isToken "," then (slotsAmong? (c :: ns)).map (none :: ·)
    else none

/-- What stands in the slots of an array; `none` if it is not in brackets, or has no comma between two elements. -/
def slots? (n : SyntaxNode) : Option (List (Option SyntaxNode)) :=
  match n.children.filter (!·.isComment) with
  | [] => none
  | opening :: ns =>
    if opening.isToken "[" && ns.getLast?.any (·.isToken "]") then slotsAmong? ns.dropLast else none

/-- A node is an array, be it a literal or a pattern. -/
def IsArray (n : SyntaxNode) : Prop :=
  n.kind = "array" ∨ n.kind = "array_pattern"

instance : DecidablePred IsArray :=
  fun n => inferInstanceAs (Decidable (n.kind = "array" ∨ n.kind = "array_pattern"))

variable {n : SyntaxNode} {ns : List SyntaxNode} {slots : List (Option SyntaxNode)}

theorem isNamed_eq_false_of_isToken {word : String} (h : n.isToken word = true) : n.isNamed = false := by
  rw [isToken, Bool.and_eq_true, Bool.not_eq_true'] at h
  exact h.1

/-- The elements between commas are what is named there. -/
theorem filter_isNamed_of_slotsAmong? (h : slotsAmong? ns = some slots) :
    ns.filter (·.isNamed) = slots.reduceOption := by
  induction ns using slotsAmong?.induct generalizing slots with
  | case1 =>
    cases h
    rfl
  | case2 e named =>
    rw [slotsAmong?, if_pos named] at h
    cases h
    simp [named]
  | case3 e unnamed comma =>
    rw [slotsAmong?, if_neg unnamed, if_pos comma] at h
    cases h
    simp [unnamed]
  | case4 e unnamed noComma =>
    rw [slotsAmong?, if_neg unnamed, if_neg noComma] at h
    cases h
  | case5 e c ns named comma ih =>
    rw [slotsAmong?, if_pos named, if_pos comma] at h
    obtain ⟨slots', hslots', rfl⟩ := Option.map_eq_some_iff.mp h
    simp [named, isNamed_eq_false_of_isToken comma, ih hslots']
  | case6 e c ns named noComma =>
    rw [slotsAmong?, if_pos named, if_neg noComma] at h
    cases h
  | case7 e c ns unnamed comma ih =>
    rw [slotsAmong?, if_neg unnamed, if_pos comma] at h
    obtain ⟨slots', hslots', rfl⟩ := Option.map_eq_some_iff.mp h
    rw [List.filter_cons_of_neg unnamed, ih hslots', List.reduceOption_cons_of_none]
  | case8 e c ns unnamed noComma =>
    rw [slotsAmong?, if_neg unnamed, if_neg noComma] at h
    cases h

/-- **The elements of an array** are its named children, the comments apart. -/
theorem filter_named_of_slots? (h : n.slots? = some slots) :
    n.named.filter (·.kind != "html_comment") = slots.reduceOption := by
  have named : n.named.filter (·.kind != "html_comment") =
      (n.children.filter (!·.isComment)).filter (·.isNamed) := by
    rw [SyntaxNode.named, List.filter_filter, List.filter_filter]
    refine List.filter_congr fun c _ => ?_
    rw [isComment, Bool.not_or, Bool.and_comm, Bool.and_assoc]
    rfl
  rw [slots?] at h
  split at h
  · cases h
  · next opening ns hchildren =>
    split at h
    · next brackets =>
      rw [Bool.and_eq_true, Option.any_eq_true] at brackets
      obtain ⟨hopening, closing, hlast, hclosing⟩ := brackets
      have hne : ns ≠ [] := by
        rintro rfl
        cases hlast
      have split : ns.dropLast ++ [closing] = ns := by
        rw [← List.dropLast_append_getLast hne, List.dropLast_concat]
        congr 2
        rw [List.getLast?_eq_some_getLast hne] at hlast
        exact (Option.some.inj hlast).symm
      rw [named, hchildren, List.filter_cons_of_neg (by simp [isNamed_eq_false_of_isToken hopening]), ← split,
        List.filter_append, filter_isNamed_of_slotsAmong? h,
        List.filter_cons_of_neg (by simp [isNamed_eq_false_of_isToken hclosing]), List.filter_nil, List.append_nil]
    · cases h

end JavaScript.SyntaxNode

/-! ## Elements -/

section

variable {β : Type} {toNode : SyntaxNode → β} {n : SyntaxNode} {slots : List (Option SyntaxNode)}
  {elements : List (Option β)}

/-- The elements of an array are those of its slots that are no holes, and the comments in HTML, in order. -/
structure DropsHoles (toNode : SyntaxNode → β) (n : SyntaxNode) (slots : List (Option SyntaxNode))
    (elements : List (Option β)) : Prop where
  elements_eq : elements = n.named.map fun c => some (toNode c)
  slots_eq : n.named.filter (·.kind != "html_comment") = slots.reduceOption
  /-- An element comes after as many elements as there are before it in the slots, if there are no such comments. -/
  getElem? : (∀ c ∈ n.named, c.kind ≠ "html_comment") → ∀ i e, slots[i]? = some (some e) →
    elements[(slots.take i).reduceOption.length]? = some (some (toNode e))
  /-- Only without holes and such comments there is one element for each slot. -/
  keeps_iff : elements = slots.map (·.map toNode) ↔ none ∉ slots ∧ ∀ c ∈ n.named, c.kind ≠ "html_comment"

theorem map_some_reduceOption (h : none ∉ slots) :
    (slots.reduceOption.map fun e => some (toNode e)) = slots.map (·.map toNode) := by
  induction slots with
  | nil => rfl
  | cons slot slots ih =>
    cases slot with
    | none => exact absurd List.mem_cons_self h
    | some e => simp [ih (List.not_mem_of_not_mem_cons h)]

theorem dropsHoles (toNode : SyntaxNode → β) (h : n.slots? = some slots) :
    DropsHoles toNode n slots (n.named.map fun c => some (toNode c)) := by
  have slots_eq := SyntaxNode.filter_named_of_slots? h
  have bare (hbare : ∀ c ∈ n.named, c.kind ≠ "html_comment") : n.named = slots.reduceOption := by
    rw [← slots_eq, List.filter_eq_self.mpr fun c hc => bne_iff_ne.mpr (hbare c hc)]
  refine ⟨rfl, slots_eq, fun hbare i e hi => ?_, fun heq => ?_, fun ⟨hnone, hbare⟩ => ?_⟩
  · obtain ⟨hlt, hget⟩ := List.getElem?_eq_some_iff.mp hi
    have hsplit : slots.reduceOption = (slots.take i).reduceOption ++ e :: (slots.drop (i + 1)).reduceOption := by
      conv_lhs => rw [← List.take_append_drop i slots, List.drop_eq_getElem_cons hlt, hget]
      rw [List.reduceOption_append, List.reduceOption_cons_of_some]
    rw [bare hbare, hsplit, List.map_append, List.getElem?_append_right (by simp)]
    simp
  · have hnone : none ∉ slots := by
      intro hmem
      have : none ∈ n.named.map fun c => some (toNode c) := heq ▸ List.mem_map_of_mem hmem
      simp at this
    -- Then there are as many elements as slots, so the filter that drops the comments drops nothing.
    have hlength : (n.named.filter (·.kind != "html_comment")).length = n.named.length := by
      rw [slots_eq, ← List.length_map (fun e => some (toNode e)), map_some_reduceOption hnone, ← heq, List.length_map]
    refine ⟨hnone, fun c hc => ?_⟩
    exact bne_iff_ne.mp (List.length_filter_eq_length_iff.mp hlength c hc)
  · rw [bare hbare]
    exact map_some_reduceOption hnone

theorem DropsHoles.none_notMem (h : DropsHoles toNode n slots elements) : none ∉ elements := by
  rw [h.elements_eq]
  simp

end

/-! ## Programs -/

/-- The arrays of one kind in a program are those of a syntax tree, without their holes: each that is read is there,
and no others are. -/
structure ArraysWithoutHoles {β : Type} (root : SyntaxNode) (p : Program) (role : JavaScript.Role) (kind : String)
    (node : Span → List (Option β) → Node) (toNode : SyntaxNode → β) : Prop where
  there : ∀ n, Phrase.IsOf root ⟨role, n⟩ → n.kind = kind → ∃ slots xs elements, n.slots? = some slots ∧
    IsPath (.program p) xs (node n.span elements) ∧ DropsHoles toNode n slots elements
  written : ∀ xs span elements, IsPath (.program p) xs (node span elements) → ∃ n slots,
    Phrase.IsOf root ⟨role, n⟩ ∧ n.kind = kind ∧ n.span = span ∧ n.slots? = some slots ∧
      DropsHoles toNode n slots elements

namespace ArraysWithoutHoles

variable {β : Type} {parser : Parser} {file code : String} {p : Program} {root : SyntaxNode} {role : JavaScript.Role}
  {kind : String} {node : Span → List (Option β) → Node} {toNode : SyntaxNode → β}

/-- It is enough that the nodes of this kind in this role, and no other phrases, have arrays of their named children
for their nodes. -/
theorem of_nodes (h : Program.compiled parser file code = .ok p) (hroot : parser.parse? code = some root)
    (hslots : ∀ n, root.Contains n → n.kind = kind → n.slots?.isSome = true)
    (hprogram : ∀ span elements, node span elements ≠ .program p)
    (hnode : ∀ n : SyntaxNode, n.kind = kind →
      node n.span (n.named.map fun c => some (toNode c)) ∈ Phrase.nodes code.toList ⟨role, n⟩)
    (honly : ∀ (q : Phrase) span elements, node span elements ∈ q.nodes code.toList → q.role = role ∧
      q.source.kind = kind ∧ q.source.span = span ∧ elements = q.source.named.map fun c => some (toNode c)) :
    ArraysWithoutHoles root p role kind node toNode where
  there := by
    intro n hq hkind
    obtain ⟨slots, hs⟩ := Option.isSome_iff_exists.mp (hslots n hq.contains hkind)
    obtain ⟨xs, path⟩ := (exists_isPath_iff h hroot).mpr (.inr ⟨_, hq, hnode n hkind⟩)
    exact ⟨slots, xs, _, hs, path, dropsHoles toNode hs⟩
  written := by
    intro xs span elements path
    obtain ⟨⟨_, n⟩, hq, hn⟩ := exists_phrase_of_isPath h hroot path (hprogram span elements)
    obtain ⟨rfl, hkind, rfl, rfl⟩ := honly _ span elements hn
    obtain ⟨slots, hs⟩ := Option.isSome_iff_exists.mp (hslots n hq.contains hkind)
    exact ⟨n, slots, hq, hkind, rfl, hs, dropsHoles toNode hs⟩

/-- An array with a hole is not there with `none` for it. -/
theorem not_kept (h : ArraysWithoutHoles root p role kind node toNode) {span : Span} {slots : List (Option SyntaxNode)}
    (hnone : none ∈ slots) : ¬∃ xs, IsPath (.program p) xs (node span (slots.map (·.map toNode))) := by
  rintro ⟨xs, path⟩
  obtain ⟨_, _, _, _, _, _, hdrops⟩ := h.written xs span _ path
  exact hdrops.none_notMem (List.mem_map_of_mem hnone)

end ArraysWithoutHoles

section

variable {parser : Parser} {file code : String} {p : Program} {root : SyntaxNode}

theorem arraysWithoutHoles_value (h : Program.compiled parser file code = .ok p)
    (hroot : parser.parse? code = some root)
    (hslots : ∀ n, root.Contains n → n.kind = "array" → n.slots?.isSome = true) :
    ArraysWithoutHoles root p .value "array" (fun span elements => .expression (.array span elements))
      (·.toExpression code.toList) := by
  refine .of_nodes h hroot hslots nofun (fun n hkind => ?_) fun q span elements hn => ?_
  · rw [Phrase.mem_nodes_value, SyntaxNode.toExpression_array hkind, hkind]
    exact ⟨by decide, rfl⟩
  · obtain ⟨hrole, array, he⟩ := Phrase.value_of_soleKind? hn rfl (by decide)
    rw [SyntaxNode.toExpression_array array] at he
    cases he
    exact ⟨hrole, array, rfl, rfl⟩

theorem arraysWithoutHoles_target (h : Program.compiled parser file code = .ok p)
    (hroot : parser.parse? code = some root)
    (hslots : ∀ n, root.Contains n → n.kind = "array_pattern" → n.slots?.isSome = true) :
    ArraysWithoutHoles root p .target "array_pattern" (fun span elements => .pattern (.array span elements))
      (·.toPattern code.toList) := by
  refine .of_nodes h hroot hslots nofun (fun n hkind => ?_) fun q span elements hn => ?_
  · rw [Phrase.nodes_target, SyntaxNode.toPattern_array hkind]
    exact List.mem_singleton_self _
  · obtain ⟨hrole, he⟩ := Phrase.eq_target_of_mem_nodes hn
    have array : q.source.kind = "array_pattern" := SyntaxNode.kind_of_toPattern_array he.symm
    rw [SyntaxNode.toPattern_array array] at he
    cases he
    exact ⟨hrole, array, rfl, rfl⟩

/-- **The arrays of a program**, literals and patterns, have the elements of the arrays of the syntax tree, in order,
without their holes and with the comments in HTML between them. There is one element for each slot, in its place,
exactly if there are neither; otherwise those after a hole have moved towards the front. -/
theorem arrays_of_compiled (h : Program.compiled parser file code = .ok p) (hroot : parser.parse? code = some root)
    (hslots : ∀ n, root.Contains n → n.IsArray → n.slots?.isSome = true) :
    ArraysWithoutHoles root p .value "array" (fun span elements => .expression (.array span elements))
        (·.toExpression code.toList) ∧
      ArraysWithoutHoles root p .target "array_pattern" (fun span elements => .pattern (.array span elements))
        (·.toPattern code.toList) :=
  ⟨arraysWithoutHoles_value h hroot fun n hn hkind => hslots n hn (.inl hkind),
    arraysWithoutHoles_target h hroot fun n hn hkind => hslots n hn (.inr hkind)⟩

end

/-! ## Arrays with a hole -/

/-- The array in `[a,,b]`. -/
def holedLiteral : SyntaxNode :=
  .made "array" ⟨0, 6⟩ [.token "[" ⟨0, 1⟩, .leaf "identifier" ⟨1, 2⟩, .token "," ⟨2, 3⟩, .token "," ⟨3, 4⟩,
    .leaf "identifier" ⟨4, 5⟩, .token "]" ⟨5, 6⟩]

/-- The tree of `[a,,b]`. -/
def holedLiteralTree : SyntaxNode :=
  .made "program" ⟨0, 6⟩ [.made "expression_statement" ⟨0, 6⟩ [holedLiteral]]

/-- The pattern in `var[a,,b]=c`. -/
def holedPattern : SyntaxNode :=
  .inField (.made "array_pattern" ⟨3, 9⟩ [.token "[" ⟨3, 4⟩, .leaf "identifier" ⟨4, 5⟩, .token "," ⟨5, 6⟩,
    .token "," ⟨6, 7⟩, .leaf "identifier" ⟨7, 8⟩, .token "]" ⟨8, 9⟩]) "name"

/-- The declaration of a variable in `var[a,,b]=c`. -/
def holedDeclarator : SyntaxNode :=
  .made "variable_declarator" ⟨3, 11⟩ [holedPattern, .token "=" ⟨9, 10⟩,
    .inField (.leaf "identifier" ⟨10, 11⟩) "value"]

/-- The tree of `var[a,,b]=c`. -/
def holedPatternTree : SyntaxNode :=
  .made "program" ⟨0, 11⟩ [.made "variable_declaration" ⟨0, 11⟩ [.token "var" ⟨0, 3⟩, holedDeclarator]]

theorem syntaxTree?_holedLiteral : syntaxTree? "[a,,b]" = some holedLiteralTree := by
  decide +kernel

theorem syntaxTree?_holedPattern : syntaxTree? "var[a,,b]=c" = some holedPatternTree := by
  decide +kernel

/-- The array is read. -/
theorem isOf_holedLiteral : Phrase.IsOf holedLiteralTree ⟨.value, holedLiteral⟩ :=
  Phrase.isOf_of_expressionStatement List.mem_cons_self rfl rfl (SyntaxNode.bare?_of_ne (by decide))

/-- So is the pattern. -/
theorem isOf_holedPattern : Phrase.IsOf holedPatternTree ⟨.target, holedPattern⟩ := by
  have statement : Phrase.IsOf holedPatternTree ⟨.statement, _⟩ := Phrase.isOf_of_mem_named List.mem_cons_self
  have declarator := statement.inner (r := ⟨.declarator, holedDeclarator⟩) List.mem_cons_self
  exact declarator.inner List.mem_cons_self

theorem compiled_holedLiteral (file : String) :
    Program.compiled moduleReader file "[a,,b]" = .ok (holedLiteralTree.toProgram "[a,,b]".toList) :=
  compiled_moduleReader file syntaxTree?_holedLiteral (by decide)

theorem compiled_holedPattern (file : String) :
    Program.compiled moduleReader file "var[a,,b]=c" = .ok (holedPatternTree.toProgram "var[a,,b]=c".toList) :=
  compiled_moduleReader file syntaxTree?_holedPattern (by decide)

/-- In both arrays the name after the hole has moved to the place of the hole. -/
theorem arrays_of_holedTexts :
    (∃ p xs elements, Program.compiled moduleReader "a.js" "[a,,b]" = .ok p ∧
      IsPath (.program p) xs (.expression (.array ⟨0, 6⟩ elements)) ∧
        elements[1]? = some (some (.identifier ⟨⟨4, 5⟩, "b"⟩))) ∧
    ∃ p xs elements, Program.compiled moduleReader "a.js" "var[a,,b]=c" = .ok p ∧
      IsPath (.program p) xs (.pattern (.array ⟨3, 9⟩ elements)) ∧
        elements[1]? = some (some (.identifier ⟨⟨7, 8⟩, "b"⟩)) := by
  constructor
  · obtain ⟨literals, -⟩ := arrays_of_compiled (compiled_holedLiteral "a.js")
      (parse?_moduleReader syntaxTree?_holedLiteral) (SyntaxNode.forall_of_subnodes (by decide))
    obtain ⟨slots, xs, elements, hslots, path, drops⟩ := literals.there _ isOf_holedLiteral rfl
    obtain rfl : [some (.leaf "identifier" ⟨1, 2⟩), none, some (.leaf "identifier" ⟨4, 5⟩)] = slots :=
      Option.some.inj hslots
    have name : (SyntaxNode.leaf "identifier" ⟨4, 5⟩).toExpression "[a,,b]".toList = .identifier ⟨⟨4, 5⟩, "b"⟩ :=
      (SyntaxNode.toExpression_identifier rfl).trans (congrArg Expression.identifier (by decide))
    refine ⟨_, xs, elements, compiled_holedLiteral "a.js", path, ?_⟩
    rw [← name]
    exact drops.getElem? (by decide) 2 _ rfl
  · obtain ⟨-, patterns⟩ := arrays_of_compiled (compiled_holedPattern "a.js")
      (parse?_moduleReader syntaxTree?_holedPattern) (SyntaxNode.forall_of_subnodes (by decide))
    obtain ⟨slots, xs, elements, hslots, path, drops⟩ := patterns.there _ isOf_holedPattern rfl
    obtain rfl : [some (.leaf "identifier" ⟨4, 5⟩), none, some (.leaf "identifier" ⟨7, 8⟩)] = slots :=
      Option.some.inj hslots
    have name : (SyntaxNode.leaf "identifier" ⟨7, 8⟩).toPattern "var[a,,b]=c".toList = .identifier ⟨⟨7, 8⟩, "b"⟩ :=
      (SyntaxNode.toPattern_identifier rfl).trans (congrArg Pattern.identifier (by decide))
    refine ⟨_, xs, elements, compiled_holedPattern "a.js", path, ?_⟩
    rw [← name]
    exact drops.getElem? (by decide) 2 _ rfl

/-- **Positions are not kept**: an array with a hole, be it a literal or a pattern, need not be in the program with
one element for each slot and `none` for the hole. -/
theorem positions_are_not_kept :
    (¬∀ (code : String) (p : Program), Program.compiled moduleReader "a.js" code = .ok p →
      ∀ root ∈ moduleReader.parse? code, ∀ n slots, Phrase.IsOf root ⟨.value, n⟩ → n.kind = "array" →
        n.slots? = some slots → ∃ xs, IsPath (.program p) xs
          (.expression (.array n.span (slots.map (·.map (·.toExpression code.toList)))))) ∧
    ¬∀ (code : String) (p : Program), Program.compiled moduleReader "a.js" code = .ok p →
      ∀ root ∈ moduleReader.parse? code, ∀ n slots, Phrase.IsOf root ⟨.target, n⟩ → n.kind = "array_pattern" →
        n.slots? = some slots → ∃ xs, IsPath (.program p) xs
          (.pattern (.array n.span (slots.map (·.map (·.toPattern code.toList))))) := by
  constructor
  · intro kept
    have hroot := parse?_moduleReader syntaxTree?_holedLiteral
    have hcompiled := compiled_holedLiteral "a.js"
    have literals := arraysWithoutHoles_value hcompiled hroot (SyntaxNode.forall_of_subnodes (by decide))
    exact literals.not_kept (by decide) (kept _ _ hcompiled _ hroot _ _ isOf_holedLiteral rfl rfl)
  · intro kept
    have hroot := parse?_moduleReader syntaxTree?_holedPattern
    have hcompiled := compiled_holedPattern "a.js"
    have patterns := arraysWithoutHoles_target hcompiled hroot (SyntaxNode.forall_of_subnodes (by decide))
    exact patterns.not_kept (by decide) (kept _ _ hcompiled _ hroot _ _ isOf_holedPattern rfl rfl)

end StoryCatalog
