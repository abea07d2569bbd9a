import Mathlib.Data.List.Basic
import StoryCatalog.Story.RawSource
import StoryCatalog.Proofs.Text.Slices
import StoryCatalog.Proofs.Tree.MarkupTrees

/-!
# Where the source of a story comes from

`RawSource.Recovers` says which text is the source of a story, case by case and without running
anything: what the slice of the marker ends in, which snippet it refers to, which snippet of the
document is the first with that name, and what stands between the first and the last node of a body.

* `findSnippet_of_isFirstSnippet`, `findSnippet_of_hasNoSnippet`: the search for a snippet takes the
  first with the name in the preorder of the whole markup.
* `body_eq_iff`: the source of a body.
* `recover_outcome`: the source of a story is the one that `Recovers` says, and a snippet is missing
  exactly if a marker that closes itself refers to one that is nowhere in the document.
-/

namespace StoryCatalog

open Rose

/-! ## Snippets -/

/-- The first snippet with a name among markup nodes. -/
def IsFirstSnippet (ns : List MarkupNode) (name : String) (s : Snippet) : Prop :=
  ∃ before after, ns = before ++ .snippet s :: after ∧ s.name = name ∧
    ∀ s', .snippet s' ∈ before → s'.name ≠ name

/-- No snippet among markup nodes has a name. -/
def HasNoSnippet (ns : List MarkupNode) (name : String) : Prop :=
  ∀ s, .snippet s ∈ ns → s.name ≠ name

/-- The first snippet with a name among markup nodes. -/
def firstSnippet? (ns : List MarkupNode) (name : String) : Option Snippet :=
  (ns.filterMap (·.snippet?)).find? (·.name == name)

theorem MarkupNode.snippet?_eq_some_iff {n : MarkupNode} {s : Snippet} :
    n.snippet? = some s ↔ n = .snippet s := by
  cases n <;> simp [snippet?]

theorem any_snippet?_iff {n : MarkupNode} {name : String} :
    n.snippet?.any (·.name == name) = true ↔ ∃ s, n = .snippet s ∧ s.name = name := by
  simp [Option.any_eq_true, MarkupNode.snippet?_eq_some_iff]

theorem firstSnippet?_eq_some_iff {ns : List MarkupNode} {name : String} {s : Snippet} :
    firstSnippet? ns name = some s ↔ IsFirstSnippet ns name s := by
  unfold firstSnippet?
  rw [List.find?_filterMap, Option.bind_eq_some_iff]
  simp only [List.find?_eq_some_iff_append, any_snippet?_iff, MarkupNode.snippet?_eq_some_iff,
    Bool.not_eq_true', Bool.eq_false_iff, ne_eq]
  constructor
  · rintro ⟨_, ⟨⟨_, rfl, hs⟩, before, after, hns, hb⟩, ⟨⟩⟩
    exact ⟨before, after, hns, hs, fun s' hs' he => hb _ hs' ⟨s', rfl, he⟩⟩
  · rintro ⟨before, after, hns, hs, hb⟩
    refine ⟨_, ⟨⟨s, rfl, hs⟩, before, after, hns, ?_⟩, rfl⟩
    rintro _ hn ⟨s', rfl, he⟩
    exact hb s' hn he

theorem firstSnippet?_eq_none_iff {ns : List MarkupNode} {name : String} :
    firstSnippet? ns name = none ↔ HasNoSnippet ns name := by
  unfold firstSnippet? HasNoSnippet
  rw [List.find?_eq_none]
  simp only [List.mem_filterMap, MarkupNode.snippet?_eq_some_iff, beq_iff_eq]
  constructor
  · intro h s hs
    exact h s ⟨_, hs, rfl⟩
  · rintro h s ⟨_, hs, rfl⟩
    exact h s hs

namespace RawSource

/-- The snippets of a fragment are those of its markup, in preorder. -/
theorem snippets_eq (f : Fragment) :
    snippets f = (preorderAll f.trees).filterMap (·.snippet?) := by
  unfold snippets
  rw [collect_eq_filter, ← restrict_outline, preorderAll_restrict, List.filterMap_filterMap,
    List.filterMap_filter]
  refine List.filterMap_congr fun n _ => ?_
  cases n with
  | markup n =>
    cases n with
    | tag form _ => cases form <;> rfl
    | element form _ => cases form <;> rfl
    | _ => rfl
  | _ => simp [Node.markup?]

variable {r : RawSource}

theorem findSnippet_of_isFirstSnippet {name : String} {s : Snippet} (story : String)
    (h : IsFirstSnippet (preorderAll r.document.root.fragment.trees) name s) :
    r.findSnippet name story = .ok s := by
  have hs := firstSnippet?_eq_some_iff.mpr h
  unfold firstSnippet? at hs
  rw [findSnippet, snippets_eq, hs]

theorem findSnippet_of_hasNoSnippet {name : String} (story : String)
    (h : HasNoSnippet (preorderAll r.document.root.fragment.trees) name) :
    r.findSnippet name story = .error (.snippetNotFound r.document.file name story) := by
  have hs := firstSnippet?_eq_none_iff.mpr h
  unfold firstSnippet? at hs
  rw [findSnippet, snippets_eq, hs]

/-! ## Bodies -/

/-- The source of a body: none if it has no nodes, else the slice from the start of its first node to
the end of its last one, in shape; a failure if there is no such slice. -/
inductive BodyGives (r : RawSource) (f : Fragment) : Except Failure (Option String) → Prop where
  | empty (nodes : f.nodes = []) : BodyGives r f (.ok none)
  | slice (first last : MarkupNode) (t : String) (head : f.nodes.head? = some first)
    (getLast : f.nodes.getLast? = some last)
    (slice : r.document.IsSlice ⟨first.span.start, last.span.stop⟩ t) :
    BodyGives r f (.ok (some (r.normalization.apply t)))
  | outOfBounds (first last : MarkupNode) (head : f.nodes.head? = some first)
    (getLast : f.nodes.getLast? = some last)
    (noSlice : ∀ t, ¬r.document.IsSlice ⟨first.span.start, last.span.stop⟩ t) :
    BodyGives r f (.error (.spanOutOfBounds r.document.file ⟨first.span.start, last.span.stop⟩))

theorem body_of_gives {f : Fragment} {a : Except Failure (Option String)} (h : r.BodyGives f a) :
    r.body f = a := by
  unfold body Fragment.contentSpan
  cases h with
  | empty nodes => rw [nodes]; rfl
  | slice first last t head getLast slice =>
    rw [head, getLast]
    simp [Document.text_of_isSlice slice, Except.map]
  | outOfBounds first last head getLast noSlice =>
    rw [head, getLast]
    simp [Document.text_of_not_isSlice noSlice, Except.map]

theorem exists_bodyGives (r : RawSource) (f : Fragment) : ∃ a, r.BodyGives f a := by
  cases hh : f.nodes.head? with
  | none => exact ⟨_, .empty (List.head?_eq_none_iff.mp hh)⟩
  | some first =>
    cases hl : f.nodes.getLast? with
    | none => exact ⟨_, .empty (List.getLast?_eq_none_iff.mp hl)⟩
    | some last =>
      by_cases hs : ∃ t, r.document.IsSlice ⟨first.span.start, last.span.stop⟩ t
      · obtain ⟨t, ht⟩ := hs
        exact ⟨_, .slice first last t hh hl ht⟩
      · exact ⟨_, .outOfBounds first last hh hl (not_exists.mp hs)⟩

/-- **The source of a body.** -/
theorem body_eq_iff {f : Fragment} {a : Except Failure (Option String)} :
    r.body f = a ↔ r.BodyGives f a := by
  refine ⟨?_, body_of_gives⟩
  rintro rfl
  obtain ⟨a, ha⟩ := exists_bodyGives r f
  rwa [body_of_gives ha]

/-! ## Markers -/

/-- The attribute `children` of an element is a single identifier in braces with this name. -/
def NamesChildren (e : Element) (name : String) : Prop :=
  ∃ (t : ExpressionTag) (i : Identifier), t.expression = .identifier i ∧ i.name = name ∧
    (e.attribute? "children" = some (.expression t) ∨
      e.attribute? "children" = some (.sequence [.expression t]))

/-- The snippet that a marker without content refers to: the one its attribute `children` names, else
the one that stands in for all stories without content. -/
inductive RefersTo (r : RawSource) (e : Element) (name : String) : Prop where
  | children (h : NamesChildren e name)
  | template (h : ∀ n, ¬NamesChildren e n) (template : r.templateSnippet = some name)

/-- A text ends in the end of a tag that closes itself, blanks aside. -/
def ClosesItself (t : String) : Prop :=
  ∃ front blanks, t.toList = front ++ ['/', '>'] ++ blanks ∧ ∀ c ∈ blanks, Text.isBlank c = true

/-- The source of the story with a marker, and the failures on the way to it. -/
inductive Recovers (r : RawSource) (e : Element) (story : String) :
    Except Failure (Option String) → Prop where
  | outOfBounds (noSlice : ∀ t, ¬r.document.IsSlice e.span t) :
    Recovers r e story (.error (.spanOutOfBounds r.document.file e.span))
  | snippet (t : String) (slice : r.document.IsSlice e.span t) (closed : ClosesItself t) (name : String)
    (refers : r.RefersTo e name) (s : Snippet)
    (first : IsFirstSnippet (preorderAll r.document.root.fragment.trees) name s)
    (a : Except Failure (Option String)) (body : r.BodyGives s.body a) : Recovers r e story a
  | snippetMissing (t : String) (slice : r.document.IsSlice e.span t) (closed : ClosesItself t)
    (name : String) (refers : r.RefersTo e name)
    (missing : HasNoSnippet (preorderAll r.document.root.fragment.trees) name) :
    Recovers r e story (.error (.snippetNotFound r.document.file name story))
  | placeholder (t : String) (slice : r.document.IsSlice e.span t) (closed : ClosesItself t)
    (noReference : ∀ name, ¬r.RefersTo e name) :
    Recovers r e story
      (.ok (some ("<" ++ r.component.getD "UnknownComponent" ++ " \x7b...args\x7d />")))
  | inlineChildren (t : String) (slice : r.document.IsSlice e.span t) (closed : ¬ClosesItself t)
    (s : Snippet) (first : IsFirstSnippet e.fragment.nodes "children" s)
    (a : Except Failure (Option String)) (body : r.BodyGives s.body a) : Recovers r e story a
  | content (t : String) (slice : r.document.IsSlice e.span t) (closed : ¬ClosesItself t)
    (noChildren : HasNoSnippet e.fragment.nodes "children") (a : Except Failure (Option String))
    (body : r.BodyGives e.fragment a) : Recovers r e story a

theorem expression?_eq_some_iff {e : Element} {name : String} {x : Expression} :
    e.expression? name = some x ↔
      ∃ t : ExpressionTag, t.expression = x ∧ (e.attribute? name = some (.expression t) ∨
        e.attribute? name = some (.sequence [.expression t])) := by
  unfold Element.expression?
  constructor
  · intro h
    split at h
    · next t ht => exact ⟨t, Option.some.inj h, .inl ht⟩
    · next t ht => exact ⟨t, Option.some.inj h, .inr ht⟩
    · cases h
  · rintro ⟨t, rfl, h | h⟩ <;> rw [h]

theorem identifier?_eq_some_iff {x : Expression} {i : Identifier} :
    x.identifier? = some i ↔ x = .identifier i := by
  cases x <;> simp [Expression.identifier?]

theorem childrenSnippet?_eq_some_iff {e : Element} {name : String} :
    e.childrenSnippet? = some name ↔ NamesChildren e name := by
  unfold Element.childrenSnippet? NamesChildren
  simp only [Option.map_eq_some_iff, Option.bind_eq_some_iff, expression?_eq_some_iff,
    identifier?_eq_some_iff]
  constructor
  · rintro ⟨i, ⟨x, ⟨t, rfl, h⟩, hx⟩, hi⟩
    exact ⟨t, i, hx, hi, h⟩
  · rintro ⟨t, i, hx, hi, h⟩
    exact ⟨i, ⟨_, ⟨t, rfl, h⟩, hx⟩, hi⟩

theorem standIn?_eq_some_iff {e : Element} {name : String} :
    r.standIn? e = some name ↔ r.RefersTo e name := by
  unfold standIn?
  cases h : e.childrenSnippet? with
  | some n =>
    have hn := childrenSnippet?_eq_some_iff.mp h
    rw [Option.some_or]
    constructor
    · intro hs
      cases hs
      exact .children hn
    · rintro (hc | ⟨hc, -⟩)
      · exact h.symm.trans (childrenSnippet?_eq_some_iff.mpr hc)
      · exact absurd hn (hc n)
  | none =>
    have hn : ∀ n, ¬NamesChildren e n := by
      intro n hc
      rw [childrenSnippet?_eq_some_iff.mpr hc] at h
      cases h
    rw [Option.none_or]
    constructor
    · exact .template hn
    · rintro (hc | ⟨-, ht⟩)
      · exact absurd hc (hn name)
      · exact ht

theorem isSelfClosing_eq {e : Element} {t : String} (h : r.document.IsSlice e.span t) :
    ∃ b, r.document.isSelfClosing e = .ok b ∧ (b = true ↔ ClosesItself t) := by
  refine ⟨_, ?_, Text.isSuffixOf_trimEnd_iff (e := ['/']) (c := '>') rfl⟩
  rw [Document.isSelfClosing, Document.text_of_isSlice h]
  rfl

theorem isSelfClosing_of_closesItself {e : Element} {t : String} (h : r.document.IsSlice e.span t)
    (hc : ClosesItself t) : r.document.isSelfClosing e = .ok true := by
  obtain ⟨b, hb, hiff⟩ := isSelfClosing_eq h
  rw [hb, hiff.mpr hc]

theorem isSelfClosing_of_not_closesItself {e : Element} {t : String}
    (h : r.document.IsSlice e.span t) (hc : ¬ClosesItself t) :
    r.document.isSelfClosing e = .ok false := by
  obtain ⟨b, hb, hiff⟩ := isSelfClosing_eq h
  rw [hb, Bool.eq_false_iff.mpr fun ht => hc (hiff.mp ht)]

theorem recover_of_recovers {e : Element} {story : String} {a : Except Failure (Option String)}
    (h : r.Recovers e story a) : r.recover e story = a := by
  unfold recover
  cases h with
  | outOfBounds noSlice =>
    rw [Document.isSelfClosing, Document.text_of_not_isSlice noSlice]
    rfl
  | snippet t slice closed name refers s first a body =>
    rw [isSelfClosing_of_closesItself slice closed, standIn?_eq_some_iff.mpr refers]
    change (r.findSnippet name story >>= fun s => r.body s.body) = a
    rw [findSnippet_of_isFirstSnippet story first]
    exact body_of_gives body
  | snippetMissing t slice closed name refers missing =>
    rw [isSelfClosing_of_closesItself slice closed, standIn?_eq_some_iff.mpr refers]
    change (r.findSnippet name story >>= fun s => r.body s.body) = _
    rw [findSnippet_of_hasNoSnippet story missing]
    rfl
  | placeholder t slice closed noReference =>
    have hs : r.standIn? e = none :=
      Option.eq_none_iff_forall_not_mem.mpr fun n hn => noReference n (standIn?_eq_some_iff.mp hn)
    rw [isSelfClosing_of_closesItself slice closed, hs]
    rfl
  | inlineChildren t slice closed s first a body =>
    have hs : inlineChildren? e.fragment = some s := firstSnippet?_eq_some_iff.mpr first
    rw [isSelfClosing_of_not_closesItself slice closed, hs, ← body_of_gives body]
    rfl
  | content t slice closed noChildren a body =>
    have hs : inlineChildren? e.fragment = none := firstSnippet?_eq_none_iff.mpr noChildren
    rw [isSelfClosing_of_not_closesItself slice closed, hs, ← body_of_gives body]
    rfl

theorem exists_recovers (r : RawSource) (e : Element) (story : String) :
    ∃ a, r.Recovers e story a := by
  by_cases hs : ∃ t, r.document.IsSlice e.span t
  · obtain ⟨t, ht⟩ := hs
    by_cases hc : ClosesItself t
    · by_cases hr : ∃ name, r.RefersTo e name
      · obtain ⟨name, hr⟩ := hr
        cases hf : firstSnippet? (preorderAll r.document.root.fragment.trees) name with
        | some s =>
          obtain ⟨a, ha⟩ := exists_bodyGives r s.body
          exact ⟨a, .snippet t ht hc name hr s (firstSnippet?_eq_some_iff.mp hf) a ha⟩
        | none => exact ⟨_, .snippetMissing t ht hc name hr (firstSnippet?_eq_none_iff.mp hf)⟩
      · exact ⟨_, .placeholder t ht hc (not_exists.mp hr)⟩
    · cases hf : firstSnippet? e.fragment.nodes "children" with
      | some s =>
        obtain ⟨a, ha⟩ := exists_bodyGives r s.body
        exact ⟨a, .inlineChildren t ht hc s (firstSnippet?_eq_some_iff.mp hf) a ha⟩
      | none =>
        obtain ⟨a, ha⟩ := exists_bodyGives r e.fragment
        exact ⟨a, .content t ht hc (firstSnippet?_eq_none_iff.mp hf) a ha⟩
  · exact ⟨_, .outOfBounds (not_exists.mp hs)⟩

theorem recover_eq_iff {e : Element} {story : String} {a : Except Failure (Option String)} :
    r.recover e story = a ↔ r.Recovers e story a := by
  refine ⟨?_, recover_of_recovers⟩
  rintro rfl
  obtain ⟨a, ha⟩ := exists_recovers r e story
  rwa [recover_of_recovers ha]

theorem not_bodyGives_snippetNotFound {f : Fragment} {file name story : String} :
    ¬r.BodyGives f (.error (.snippetNotFound file name story)) := by
  intro h
  cases h

/-- **The source of a story**, and when a snippet is missing: exactly if a marker that closes itself
refers to one and no snippet anywhere in the markup of the document has its name. -/
theorem recover_outcome (r : RawSource) (e : Element) (story : String) :
    (∀ a, r.recover e story = a ↔ r.Recovers e story a) ∧
      ∀ file name story', r.recover e story = .error (.snippetNotFound file name story') ↔
        file = r.document.file ∧ story' = story ∧ (∃ t, r.document.IsSlice e.span t ∧ ClosesItself t) ∧ r.RefersTo e name ∧
          HasNoSnippet (preorderAll r.document.root.fragment.trees) name := by
  refine ⟨fun a => recover_eq_iff, fun file name story' => ?_⟩
  rw [recover_eq_iff]
  constructor
  · intro h
    cases h with
    | snippetMissing t slice closed _ refers missing => exact ⟨rfl, rfl, ⟨t, slice, closed⟩, refers, missing⟩
    | snippet _ _ _ _ _ _ _ _ body => exact absurd body not_bodyGives_snippetNotFound
    | inlineChildren _ _ _ _ _ _ body => exact absurd body not_bodyGives_snippetNotFound
    | content _ _ _ _ _ body => exact absurd body not_bodyGives_snippetNotFound
  · rintro ⟨rfl, rfl, ⟨t, slice, closed⟩, refers, missing⟩
    exact .snippetMissing t slice closed name refers missing

end RawSource

end StoryCatalog
