import StoryCatalog.Proofs.Tree.Contents

/-!
# What a walk does not meet

Wherever a node is stored in another, a path leads to it: from node to node, each stored directly in the one
before. A walk meets what it can reach over fields that it goes to. Three fields it leaves out by design hold
nothing further: the module name of an import, a name in an import that is a string literal, and the value of
a member written in shorthand if this is an identifier, which is then the key once more. Only a value in
shorthand that is anything else, such as a name with a default, is lost, and all that is stored in it.

* `Node.mem_preorder_outline_iff`: what a walk meets, by the paths to it.
* `losesNothing_of_noneLost`, `noneLost_of_losesNothing`: a walk loses what is in a lost value and nothing
  else.
* `losesNothing_iff`: the exact condition.
* `default_is_lost`: the default of a name in shorthand is not met.
-/

namespace StoryCatalog

/-! ## Paths -/

/-- A path from a node to one that is stored in it, over the fields of `xs`. -/
inductive IsPath : Node → List Stored → Node → Prop where
  | here (n : Node) : IsPath n [] n
  | into {n m : Node} {x : Stored} {xs : List Stored} (stored : x ∈ n.stored)
    (rest : IsPath x.node xs m) : IsPath n (x :: xs) m

/-- A walk goes along a path. -/
def IsWalked (xs : List Stored) : Prop :=
  ∀ x ∈ xs, x.slot = .walked

theorem isPath_append {xs ys : List Stored} {n m : Node} {x : Stored}
    (h : IsPath n (xs ++ x :: ys) m) : IsPath n (xs ++ [x]) x.node ∧ IsPath x.node ys m := by
  induction xs generalizing n with
  | nil =>
    obtain _ | ⟨stored, rest⟩ := h
    exact ⟨.into stored (.here x.node), rest⟩
  | cons y xs ih =>
    obtain _ | ⟨stored, rest⟩ := h
    obtain ⟨first, last⟩ := ih rest
    exact ⟨.into stored first, last⟩

theorem IsPath.mem_stored {xs : List Stored} {n m : Node} {x : Stored} (h : IsPath n (xs ++ [x]) m) :
    ∃ o : Node, x ∈ o.stored := by
  induction xs generalizing n with
  | nil =>
    obtain _ | ⟨stored, -⟩ := h
    exact ⟨n, stored⟩
  | cons y xs ih =>
    obtain _ | ⟨-, rest⟩ := h
    exact ih rest

theorem mem_walkedNodes_iff {ss : List Stored} {n : Node} :
    n ∈ walkedNodes ss ↔ ⟨.walked, n⟩ ∈ ss := by
  unfold walkedNodes
  simp only [List.mem_map, List.mem_filter, decide_eq_true_eq]
  constructor
  · rintro ⟨⟨_, _⟩, ⟨hx, rfl⟩, rfl⟩
    exact hx
  · intro hn
    exact ⟨_, ⟨hn, rfl⟩, rfl⟩

/-- **What a walk meets** are the nodes to which it can go along a path. -/
theorem Node.mem_preorder_outline_iff {n m : Node} :
    m ∈ n.outline.preorder ↔ ∃ xs, IsPath n xs m ∧ IsWalked xs := by
  rw [unfolds_outline.mem_preorder_iff]
  constructor
  · intro h
    induction h using Relation.ReflTransGen.head_induction_on with
    | refl => exact ⟨[], .here m, by simp [IsWalked]⟩
    | head hc _ ih =>
      obtain ⟨xs, hp, hw⟩ := ih
      rw [Node.children_eq, mem_walkedNodes_iff] at hc
      exact ⟨_, .into hc hp, List.forall_mem_cons.mpr ⟨rfl, hw⟩⟩
  · rintro ⟨xs, hp, hw⟩
    induction hp with
    | here n => exact .refl
    | into stored _ ih =>
      obtain ⟨hx, hw⟩ := List.forall_mem_cons.mp hw
      refine .head ?_ (ih hw)
      rw [Node.children_eq, mem_walkedNodes_iff, ← hx]
      exact stored

/-! ## Losses -/

namespace Stored

/-- The exceptions by design: fields that a walk leaves out and that hold nothing further. -/
def isExempt (x : Stored) : Bool :=
  match x.slot with
  | .walked => false
  | .moduleName => true
  | .quotedName => true
  | .shorthandValue => x.node.kind = .identifier

/-- A value written in shorthand that is no identifier. -/
def isLost (x : Stored) : Bool :=
  x.slot = .shorthandValue && x.node.kind ≠ .identifier

/-- What can be stored in the fields that a walk leaves out. -/
inductive Fits : Stored → Prop where
  | walked (n : Node) : Fits ⟨.walked, n⟩
  | moduleName (l : Literal) : Fits ⟨.moduleName, .expression (.literal l)⟩
  | quotedName (l : Literal) : Fits ⟨.quotedName, .expression (.literal l)⟩
  | objectValue (e : Expression) : Fits ⟨.shorthandValue, .expression e⟩
  | patternValue (p : Pattern) : Fits ⟨.shorthandValue, .pattern p⟩

end Stored

theorem fits_allWalked {x : Stored} {ns : List Node} (h : x ∈ allWalked ns) : x.Fits := by
  obtain ⟨n, -, rfl⟩ := List.mem_map.mp h
  exact .walked n

theorem fits_of_mem_stored {n : Node} {x : Stored} (h : x ∈ n.stored) : x.Fits := by
  cases n with
  | statement s =>
    cases s with
    | imports d =>
      rcases List.mem_append.mp h with h | h
      · exact fits_allWalked h
      · obtain rfl := List.mem_singleton.mp h
        exact .moduleName d.source
    | unknown => cases h
    | _ => exact fits_allWalked h
  | clause c =>
    rcases c with ⟨_, i | l, b⟩ | _ | _
    · exact fits_allWalked h
    · rcases List.mem_cons.mp h with rfl | h
      · exact .quotedName l
      · exact fits_allWalked h
    · exact fits_allWalked h
    · exact fits_allWalked h
  | objectMember m =>
    cases m with
    | property _ key value _ isShorthand =>
      rcases List.mem_pair.mp h with rfl | rfl
      · exact .walked _
      · cases isShorthand
        · exact .walked _
        · exact .objectValue value
    | spread => exact fits_allWalked h
  | patternMember m =>
    cases m with
    | property _ key value _ isShorthand =>
      rcases List.mem_pair.mp h with rfl | rfl
      · exact .walked _
      · cases isShorthand
        · exact .walked _
        · exact .patternValue value
    | rest => exact fits_allWalked h
  | identifier => cases h
  | _ => exact fits_allWalked h

/-- Nothing is stored in an exception. -/
theorem stored_of_isExempt {x : Stored} (h : x.Fits) (he : x.isExempt = true) : x.node.stored = [] := by
  cases h with
  | walked => cases he
  | moduleName => rfl
  | quotedName => rfl
  | objectValue e =>
    cases e with
    | identifier => rfl
    | function form => cases form <;> cases he
    | _ => cases he
  | patternValue p =>
    cases p with
    | identifier => rfl
    | _ => cases he

/-- A node of one of the families of markup nodes, statements, expressions and patterns. -/
def Node.isSyntax : Node → Bool
  | markup _ | statement _ | expression _ | pattern _ => true
  | _ => false

theorem isSyntax_of_isLost {x : Stored} (h : x.Fits) (hl : x.isLost = true) :
    x.node.isSyntax = true ∧ x.isExempt = false ∧ x.slot ≠ .walked := by
  cases h with
  | objectValue e => simpa [Stored.isLost, Stored.isExempt, Node.isSyntax] using hl
  | patternValue p => simpa [Stored.isLost, Stored.isExempt, Node.isSyntax] using hl
  | _ => cases hl

/-- A field that a walk leaves out is an exception, or its value is lost. -/
theorem isExempt_or_isLost {x : Stored} (h : x.slot ≠ .walked) :
    x.isExempt = true ∨ x.isLost = true := by
  obtain ⟨_ | _ | _ | _, n⟩ := x
  · exact absurd rfl h
  · exact .inl rfl
  · exact .inl rfl
  · by_cases hk : n.kind = .identifier
    · exact .inl (by simp [Stored.isExempt, hk])
    · exact .inr (by simp [Stored.isLost, hk])

namespace Node

/-- A walk over a node goes along the path to each node of the four families that is stored in it, the
exceptions aside. -/
def LosesNothing (n : Node) : Prop :=
  ∀ xs m, IsPath n xs m → m.isSyntax = true → (∀ x ∈ xs.getLast?, x.isExempt = false) → IsWalked xs

/-- No value that is stored in a node is lost. -/
def NoneLost (n : Node) : Prop :=
  ∀ xs x, IsPath n (xs ++ [x]) x.node → x.isLost = false

end Node

variable {n : Node}

theorem losesNothing_of_noneLost (h : n.NoneLost) : n.LosesNothing := by
  intro xs m hp _ hlast x hx
  obtain ⟨before, after, rfl⟩ := List.append_of_mem hx
  obtain ⟨first, rest⟩ := isPath_append hp
  by_contra hw
  rcases isExempt_or_isLost hw with he | hl
  · -- Nothing is stored in the exception, so the path ends there.
    obtain ⟨o, ho⟩ := first.mem_stored
    have hleaf := stored_of_isExempt (fits_of_mem_stored ho) he
    cases rest with
    | here => simp [he] at hlast
    | into stored =>
      rw [hleaf] at stored
      cases stored
  · rw [h before x first] at hl
    cases hl

theorem noneLost_of_losesNothing (h : n.LosesNothing) : n.NoneLost := by
  intro xs x hp
  by_contra hl
  rw [Bool.not_eq_false] at hl
  obtain ⟨o, ho⟩ := hp.mem_stored
  obtain ⟨hs, he, hw⟩ := isSyntax_of_isLost (fits_of_mem_stored ho) hl
  exact hw (h _ _ hp hs (by simp [he]) x (by simp))

/-- **When a walk loses nothing.** It goes to what is stored directly in a node, without the fields that it
leaves out, and meets what it can reach in this way. It reaches every markup node, statement, expression and
pattern that is stored anywhere, the exceptions aside, exactly if no value written in shorthand is anything
but an identifier. -/
theorem losesNothing_iff (n : Node) :
    (∀ m : Node, m.children = walkedNodes m.stored) ∧
      (∀ m, m ∈ n.outline.preorder ↔ ∃ xs, IsPath n xs m ∧ IsWalked xs) ∧
      (n.LosesNothing ↔ n.NoneLost) :=
  ⟨Node.children_eq, fun _ => Node.mem_preorder_outline_iff, noneLost_of_losesNothing,
    losesNothing_of_noneLost⟩

/-- The module `const { a = b } = c`. -/
def defaultInShorthand : Program :=
  ⟨⟨0, 19⟩, [.declaration ⟨⟨0, 19⟩, "const",
    [⟨⟨6, 19⟩,
      .object ⟨6, 15⟩ [.property ⟨8, 13⟩ (.identifier ⟨⟨8, 9⟩, "a"⟩)
        (.assignment ⟨8, 13⟩ (.identifier ⟨⟨8, 9⟩, "a"⟩) (.identifier ⟨⟨12, 13⟩, "b"⟩)) false true],
      some (.identifier ⟨⟨18, 19⟩, "c"⟩)⟩]⟩]⟩

/-- The default of a name in shorthand is not met. -/
theorem default_is_lost :
    ¬∀ n xs m, IsPath n xs m → m.isSyntax = true → (∀ x ∈ xs.getLast?, x.isExempt = false) →
      m ∈ n.outline.preorder := by
  intro h
  have hp : IsPath (.program defaultInShorthand) _
      (.pattern (.assignment ⟨8, 13⟩ (.identifier ⟨⟨8, 9⟩, "a"⟩) (.identifier ⟨⟨12, 13⟩, "b"⟩))) :=
    .into List.mem_cons_self <| .into List.mem_cons_self <| .into List.mem_cons_self <|
      .into List.mem_cons_self <| .into (List.mem_cons_of_mem _ List.mem_cons_self) <| .here _
  have hm := h _ _ _ hp rfl (by simp [Stored.isExempt, memberValue, Node.kind, Pattern.kind])
  have hk : NodeKind.assignmentPattern ∈
      (Node.program defaultInShorthand).outline.preorder.map Node.kind := List.mem_map_of_mem hm
  exact absurd hk (by decide)

end StoryCatalog
