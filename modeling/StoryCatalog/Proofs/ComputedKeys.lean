import StoryCatalog.Proofs.Compiled.Completeness
import StoryCatalog.Proofs.Compiled.Parts
import StoryCatalog.Proofs.Story.Coherence
import StoryCatalog.Proofs.Story.TextArrays

/-!
# Computed keys in patterns

A property of an object literal is looked up among the members whose keys are not computed. Patterns are not looked
up like this: what `{ [Story]: S }` binds depends on the value of `Story`, but both the scripts of a document and a
compiled module take it to bind the marker. Which member is taken is told by the spelling of the keys alone.

* `binding?_eq_some_iff`: which identifier of a pattern is taken.
* `binding?_filter_isStatic`: it is the one that a lookup among the other members finds, unless a computed key comes
  first.
* `readDefineMeta_eq_error_iff`, `locate_eq_storyIdentifier_iff`: when a pattern is treated as having no marker.
* `marker_is_spelled`: where the marker of a document or of a compiled module comes from.
* `computed_marker_is_taken`: a computed key is taken for the name it is spelled with.
-/

namespace StoryCatalog

open Rose

namespace PatternMember

/-- A member binds an identifier, and its key is spelled like this name. The key may be computed. -/
inductive Binds (name : String) (i : Identifier) : PatternMember → Prop where
  | identifier (span keySpan : Span) (isComputed isShorthand : Bool) :
    Binds name i (.property span (.identifier ⟨keySpan, name⟩) (.identifier i) isComputed isShorthand)
  | string (span keySpan : Span) (isComputed isShorthand : Bool) :
    Binds name i (.property span (.literal ⟨keySpan, .text name⟩) (.identifier i) isComputed isShorthand)

/-- Whether a member has a key that is not computed. -/
def isStatic : PatternMember → Bool
  | .property _ _ _ isComputed _ => !isComputed
  | .rest .. => false

/-- The first member that binds an identifier by a key of this spelling has a computed key. -/
def ComputedFirst (name : String) (ms : List PatternMember) : Prop :=
  ∃ m, ms.find? (fun m => (m.bindingOf? name).isSome) = some m ∧ m.isStatic = false

/-- An identifier is taken from a pattern for a name: it is bound by the first member whose key is spelled like the
name and that binds one. -/
def Takes (name : String) (ms : List PatternMember) (m : PatternMember) (i : Identifier) : Prop :=
  ∃ before after, ms = before ++ m :: after ∧ m.Binds name i ∧ ∀ b ∈ before, ∀ j, ¬b.Binds name j

variable {name : String} {ms : List PatternMember} {m : PatternMember} {i : Identifier}

theorem identifier?_eq_some_iff {p : Pattern} : p.identifier? = some i ↔ p = .identifier i := by
  cases p <;> simp [Pattern.identifier?]

theorem bindingOf?_eq_some_iff : m.bindingOf? name = some i ↔ m.Binds name i := by
  constructor
  · intro h
    unfold bindingOf? at h
    split at h
    · rename_i span key value isComputed isShorthand
      by_cases hkey : key.keyName? = some name
      · rw [if_pos hkey] at h
        obtain rfl := identifier?_eq_some_iff.mp h
        obtain ⟨keySpan, rfl | rfl⟩ := Expression.keyName?_eq_some_iff.mp hkey
        · exact .identifier span keySpan isComputed isShorthand
        · exact .string span keySpan isComputed isShorthand
      · rw [if_neg hkey] at h
        cases h
    · cases h
  · rintro (_ | _) <;> simp [bindingOf?, Expression.keyName?, Literal.text?, Pattern.identifier?]

theorem bindingOf?_eq_none_iff : m.bindingOf? name = none ↔ ∀ i, ¬m.Binds name i := by
  simp only [← bindingOf?_eq_some_iff, Option.eq_none_iff_forall_ne_some, ne_eq]

/-- A pattern is treated as having no such member if it has none, computed or not. -/
theorem binding?_eq_none_iff : binding? name ms = none ↔ ∀ m ∈ ms, ∀ i, ¬m.Binds name i := by
  simp only [binding?, List.findSome?_eq_none_iff, bindingOf?_eq_none_iff]

/-- **Which identifier is taken.** -/
theorem binding?_eq_some_iff : binding? name ms = some i ↔ ∃ m, Takes name ms m i := by
  simp only [binding?, List.findSome?_eq_some_iff, bindingOf?_eq_some_iff, bindingOf?_eq_none_iff, Takes]
  constructor
  · rintro ⟨before, m, after, h⟩
    exact ⟨m, before, after, h⟩
  · rintro ⟨m, before, after, h⟩
    exact ⟨before, m, after, h⟩

/-- It is taken from a member with a computed key exactly if such a member comes first. -/
theorem Takes.isStatic_iff (h : Takes name ms m i) : m.isStatic = true ↔ ¬ComputedFirst name ms := by
  obtain ⟨before, after, rfl, hm, hbefore⟩ := h
  have hfind : (before ++ m :: after).find? (fun m => (m.bindingOf? name).isSome) = some m := by
    refine List.find?_eq_some_iff_append.mpr ⟨?_, before, after, rfl, fun b hb => ?_⟩
    · rw [bindingOf?_eq_some_iff.mpr hm]
      rfl
    · rw [bindingOf?_eq_none_iff.mpr (hbefore b hb)]
      rfl
  unfold ComputedFirst
  simp [hfind]

/-- **Unless a computed key comes first**, the lookup finds what it would find among the other members. -/
theorem binding?_filter_isStatic (h : ¬ComputedFirst name ms) :
    binding? name (ms.filter (·.isStatic)) = binding? name ms := by
  cases hms : binding? name ms with
  | none =>
    rw [binding?_eq_none_iff] at hms ⊢
    exact fun m hm => hms m (List.mem_of_mem_filter hm)
  | some i =>
    obtain ⟨m, htakes⟩ := binding?_eq_some_iff.mp hms
    have hstatic := htakes.isStatic_iff.mpr h
    obtain ⟨before, after, rfl, hm, hbefore⟩ := htakes
    refine binding?_eq_some_iff.mpr ⟨m, before.filter (·.isStatic), after.filter (·.isStatic), ?_, hm, ?_⟩
    · rw [List.filter_append, List.filter_cons_of_pos hstatic]
    · exact fun b hb => hbefore b (List.mem_of_mem_filter hb)

/-- An identifier is taken from a pattern for a name by the spelling of its keys. If no computed key comes first, it
is taken from a member whose key is not computed, and members whose keys are make no difference. -/
def SpelledBy (name : String) (ms : List PatternMember) (i : Identifier) : Prop :=
  ∃ m, Takes name ms m i ∧ (m.isStatic = true ↔ ¬ComputedFirst name ms) ∧
    (¬ComputedFirst name ms → binding? name (ms.filter (·.isStatic)) = some i)

theorem spelledBy_of_binding? (h : binding? name ms = some i) : SpelledBy name ms i := by
  obtain ⟨m, htakes⟩ := binding?_eq_some_iff.mp h
  exact ⟨m, htakes, htakes.isStatic_iff, fun hfirst => (binding?_filter_isStatic hfirst).trans h⟩

end PatternMember

open PatternMember

/-- What a script says of a call of `defineMeta` with an object literal: it has no marker exactly if no member of the
pattern, computed or not, binds one. -/
theorem readDefineMeta_eq_error_iff (file : String) (f : ScriptFacts) (span : Span) (ms : List PatternMember) (o : ObjectLiteral)
    (more : List Expression) :
    f.readDefineMeta file (.object span ms) (.object o :: more) = .error (.noStoryComponentDestructured file) ↔
      ∀ m ∈ ms, ∀ i, ¬m.Binds "Story" i := by
  rw [← binding?_eq_none_iff]
  unfold ScriptFacts.readDefineMeta
  cases hb : binding? "Story" ms with
  | none => simp [Expression.object?, hb]
  | some i => simp [Expression.object?, hb]

/-- A module is reported to have no marker exactly if the last declarator that destructures the result of `defineMeta`
has no member, computed or not, that binds one. -/
theorem locate_eq_storyIdentifier_iff (file package : String) (p : Program) :
    p.locate file package = .error (.compiledNodeNotFound file .storyIdentifier) ↔
      ∃ d ms, (p.definitions package).getLast? = some (d, ms) ∧ ∀ m ∈ ms, ∀ i, ¬m.Binds "Story" i := by
  rw [Program.locate_eq_error_iff]
  constructor
  · rintro ⟨node, hnode, hlacks, hfirst⟩
    cases hnode
    have hdefinitions : p.definitions package ≠ [] := hfirst .defineMetaDeclaration (by decide)
    obtain ⟨⟨d, ms⟩, hlast⟩ := Option.isSome_iff_exists.mp (List.getLast?_isSome.mpr hdefinitions)
    exact ⟨d, ms, hlast, binding?_eq_none_iff.mp (hlacks d ms hlast)⟩
  · rintro ⟨d, ms, hlast, hnone⟩
    have hmem := List.mem_of_getLast? hlast
    refine ⟨_, rfl, fun d' ms' hlast' => ?_, fun node hrank => ?_⟩
    · cases hlast.symm.trans hlast'
      exact binding?_eq_none_iff.mpr hnone
    · cases node with
      | defineMetaImport =>
        obtain ⟨before, b, after, i, hms, hi, -⟩ := mem_definitionsFrom_iff.mp hmem
        intro hlacks
        refine hlacks i ?_
        rw [hms]
        exact List.mem_append_left _ (mem_of_lastImport hi)
      | defineMetaDeclaration => exact List.ne_nil_of_mem hmem
      | _ => exact absurd hrank (by decide)

/-- **Where a marker comes from.** The tag of a document and the located identifier of a compiled module are taken
from a pattern by the spelling of its keys: from the first member that binds an identifier by a key which is spelled
`Story`. This one is not computed exactly if no computed one comes first, and then computed members make no
difference. A pattern is treated as having none, by both, exactly if it has none, computed or not. -/
theorem marker_is_spelled (file package : String) :
    (∀ (r : Root) (f : ScriptFacts) (tag : String), ScriptFacts.resolve file package r = .ok f → f.storyTag = some tag →
      ∃ s ∈ r.scripts, ∃ b object story span members, Node.declarator b ∈ s.outline.preorder ∧
        b.Defines object story ∧ f.metaObject = some object ∧ story.name = tag ∧ b.id = .object span members ∧
          SpelledBy "Story" members story) ∧
    (∀ (p : Program) (x : CompiledParts), p.locate file package = .ok x →
      ∃ b ∈ x.defineMetaDeclaration.declarators, ∃ span members, b.id = .object span members ∧
        SpelledBy "Story" members x.storyIdentifier) ∧
    (∀ (f : ScriptFacts) (span : Span) (ms : List PatternMember) (o : ObjectLiteral) (more : List Expression),
      f.readDefineMeta file (.object span ms) (.object o :: more) = .error (.noStoryComponentDestructured file) ↔
        ∀ m ∈ ms, ∀ i, ¬m.Binds "Story" i) ∧
    ∀ p : Program, p.locate file package = .error (.compiledNodeNotFound file .storyIdentifier) ↔
      ∃ d ms, (p.definitions package).getLast? = some (d, ms) ∧ ∀ m ∈ ms, ∀ i, ¬m.Binds "Story" i := by
  refine ⟨fun r f tag hf htag => ?_, fun p x hx => ?_, readDefineMeta_eq_error_iff file,
    locate_eq_storyIdentifier_iff file package⟩
  · rcases ScriptFacts.definedOnce_of_resolve hf with
      ⟨hnone, -⟩ | ⟨s, hs, b, object, story, hb, hdefines, hstory, hobject⟩
    · rw [htag] at hnone
      cases hnone
    · have hname : story.name = tag := Option.some.inj (hstory.symm.trans htag)
      obtain ⟨span, members, callSpan, callee, more, hid, hinit, hbinding⟩ := id hdefines
      exact ⟨s, hs, b, object, story, span, members, hb, hdefines, hobject, hname, hid,
        spelledBy_of_binding? hbinding⟩
  · obtain ⟨before, b, after, i, members, hms, -, ⟨hid, -⟩, hbinding⟩ := exists_mention_of_locate hx
    have hmention : .declares x.defineMetaDeclaration b ∈ p.mentions package := by
      rw [hms]
      exact List.mem_append_right _ List.mem_cons_self
    obtain ⟨span, hid⟩ := hid
    exact ⟨b, mem_declarators_of_mention hmention, span, members, hid, spelledBy_of_binding? hbinding⟩

/-- The member `Story: tag` or `[Story]: tag` of a pattern. -/
def storyMember (tag : String) (isComputed : Bool) : PatternMember :=
  .property ⟨0, 0⟩ (.identifier ⟨⟨0, 0⟩, "Story"⟩) (.identifier ⟨⟨0, 0⟩, tag⟩) isComputed false

/-- The declarator of `const {...} = a({})` with some members in the pattern. -/
def storyDeclarator (ms : List PatternMember) : Declarator :=
  ⟨⟨0, 0⟩, .object ⟨0, 0⟩ ms,
    some (.call ⟨0, 0⟩ (.identifier ⟨⟨0, 0⟩, "a"⟩) [.object ⟨⟨0, 0⟩, []⟩])⟩

/-- A script, or a compiled module, that imports `defineMeta` as `a` and has this declarator. -/
def storyStatements (ms : List PatternMember) : List Statement :=
  [importMeta "a", .declaration ⟨⟨0, 0⟩, "const", [storyDeclarator ms]⟩,
    .defaultExport ⟨⟨0, 0⟩, .function .declaration
      ⟨⟨0, 0⟩, some ⟨⟨0, 0⟩, "X_stories"⟩, [], .block ⟨0, 0⟩ []⟩⟩]

/-- With `{ Story: S, [Story]: T }` the marker is `S`, from the member whose key is not computed. -/
theorem marker_of_twoMembers :
    let ms := [storyMember "S" false, storyMember "T" true]
    ¬ComputedFirst "Story" ms ∧
    (∃ f, ScriptFacts.resolve "f" "p" (scripted (storyStatements ms)) = .ok f ∧ f.storyTag = some "S" ∧
      ∃ s ∈ (scripted (storyStatements ms)).scripts, ∃ b object story span members,
        Node.declarator b ∈ s.outline.preorder ∧ b.Defines object story ∧ f.metaObject = some object ∧
          story.name = "S" ∧ b.id = .object span members ∧ SpelledBy "Story" members story) ∧
    ∃ x, (Program.mk ⟨0, 0⟩ (storyStatements ms)).locate "f" "p" = .ok x ∧
      ∃ b ∈ x.defineMetaDeclaration.declarators, ∃ span members, b.id = .object span members ∧
        SpelledBy "Story" members x.storyIdentifier := by
  intro ms
  obtain ⟨hdocuments, hmodules, -⟩ := marker_is_spelled "f" "p"
  obtain ⟨f, hf, htag⟩ : ∃ f, ScriptFacts.resolve "f" "p" (scripted (storyStatements ms)) = .ok f ∧
    f.storyTag = some "S" := ⟨_, rfl, rfl⟩
  obtain ⟨x, hx⟩ : ∃ x, (Program.mk ⟨0, 0⟩ (storyStatements ms)).locate "f" "p" = .ok x := ⟨_, rfl⟩
  refine ⟨?_, ⟨f, hf, htag, hdocuments _ f "S" hf htag⟩, x, hx, hmodules _ x hx⟩
  rintro ⟨m, hm, hstatic⟩
  cases hm
  exact absurd hstatic (by decide)

theorem eq_storyDeclarator {b : Declarator} {s : ScriptBlock} {tag : String} {isComputed : Bool}
    (hs : s ∈ (scripted (storyStatements [storyMember tag isComputed])).scripts)
    (h : Node.declarator b ∈ s.outline.preorder) : b = storyDeclarator [storyMember tag isComputed] := by
  obtain rfl := List.mem_singleton.mp hs
  simpa [storyStatements, importMeta, storyMember, storyDeclarator, ScriptBlock.outline, Program.outline,
    statementOutlines, Statement.parts, ImportClause.parts, Node.leaf, declaratorOutlines, Declarator.parts,
    Pattern.parts, patternMemberOutlines, PatternMember.parts, expressionOutlines, Expression.parts, memberOutlines,
    Function.parts, patternOutlines, preorderAll, preorder] using h

/-- The pattern `{ [Story]: tag }` has no member whose key is not computed. -/
theorem not_isStatic_of_computed {span : Span} {ms : List PatternMember} {m : PatternMember} {tag : String}
    (h : (storyDeclarator [storyMember tag true]).id = .object span ms) (hm : m ∈ ms) : ¬m.isStatic = true := by
  cases h
  rw [List.mem_singleton.mp hm]
  exact Bool.false_ne_true

/-- **A computed key is taken for the name it is spelled with**, in documents and in compiled modules: the marker need
not come from a member whose key is not computed, and a pattern without such a member is not treated as having
none. -/
theorem computed_marker_is_taken :
    (¬∀ (file package : String) (r : Root) (f : ScriptFacts) (tag : String), ScriptFacts.resolve file package r = .ok f →
      f.storyTag = some tag → ∃ s ∈ r.scripts, ∃ b span members, Node.declarator b ∈ s.outline.preorder ∧
        b.id = .object span members ∧ ∃ m ∈ members, m.isStatic = true ∧ ∃ i, m.Binds "Story" i ∧ i.name = tag) ∧
    (¬∀ (file package : String) (p : Program) (x : CompiledParts), p.locate file package = .ok x →
      ∃ b ∈ x.defineMetaDeclaration.declarators, ∃ span members, b.id = .object span members ∧
        ∃ m ∈ members, m.isStatic = true ∧ m.Binds "Story" x.storyIdentifier) ∧
    ¬∀ (file : String) (f : ScriptFacts) (span : Span) (ms : List PatternMember) (o : ObjectLiteral) (more : List Expression),
      (∀ m ∈ ms, m.isStatic = true → ∀ i, ¬m.Binds "Story" i) →
        f.readDefineMeta file (.object span ms) (.object o :: more) = .error (.noStoryComponentDestructured file) := by
  refine ⟨fun h => ?_, fun h => ?_, fun h => ?_⟩
  · obtain ⟨f, hf, htag⟩ : ∃ f, ScriptFacts.resolve "f" "p" (scripted (storyStatements [storyMember "S" true])) = .ok f ∧
      f.storyTag = some "S" := ⟨_, rfl, rfl⟩
    obtain ⟨s, hs, b, span, members, hb, hid, m, hm, hstatic, -⟩ := h _ _ _ _ _ hf htag
    rw [eq_storyDeclarator hs hb] at hid
    exact not_isStatic_of_computed hid hm hstatic
  · obtain ⟨x, hx, hdeclarators⟩ : ∃ x,
      (Program.mk ⟨0, 0⟩ (storyStatements [storyMember "S" true])).locate "f" "p" = .ok x ∧
        x.defineMetaDeclaration.declarators = [storyDeclarator [storyMember "S" true]] := ⟨_, rfl, rfl⟩
    obtain ⟨b, hb, span, members, hid, m, hm, hstatic, -⟩ := h _ _ _ _ hx
    rw [hdeclarators] at hb
    rw [List.mem_singleton.mp hb] at hid
    exact not_isStatic_of_computed hid hm hstatic
  · have herror := h "f" .none ⟨0, 0⟩ [storyMember "S" true] ⟨⟨0, 0⟩, []⟩ []
      (fun m hm hstatic => absurd hstatic (not_isStatic_of_computed rfl hm))
    cases herror

end StoryCatalog
