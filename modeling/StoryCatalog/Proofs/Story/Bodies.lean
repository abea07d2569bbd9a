import StoryCatalog.Proofs.Story.RawSources
import StoryCatalog.Proofs.Text.Layouts

/-!
# What a story shows

The source of a story is a placeholder, or it is made of one fragment, its body: that of a snippet, or the
content of the marker. Which fragment this is does not depend on how the source is brought into shape.

* `recover_of_isBody`, `recover_of_isPlaceholder`, `recover_ok_cases`: a source that is recovered is that of
  the body or the placeholder.
* `body_eq_ok_iff`: a body without nodes has no source, any other the text between its first and last node.
* `recover_empty_iff`: a source is missing exactly if the body has no nodes, and it is empty exactly if the
  body holds nothing but blanks.
* `exists_recover_of_extendedBy`: a source that is recovered from a document is recovered, in another shape,
  from one that has all its slices and first snippets.
-/

namespace StoryCatalog

open Rose

/-- A text stands between the start of the first node of a fragment and the end of its last one. -/
def Document.IsContent (d : Document) (f : Fragment) (t : String) : Prop :=
  ∃ first last, f.nodes.head? = some first ∧ f.nodes.getLast? = some last ∧
    d.IsSlice ⟨first.span.start, last.span.stop⟩ t

theorem apply_eq_empty_iff {n : Normalization} {t : String} :
    n.apply t = "" ↔ Text.isBlankText t.toList = true := by
  rw [← String.toList_inj]
  cases n with
  | dedent =>
    rw [Normalization.apply, Text.toList_onText]
    exact Text.dedent_eq_nil_iff
  | singleLine =>
    rw [Normalization.apply, Text.toList_onText]
    exact Text.oneLine_eq_nil_iff

namespace RawSource

/-- The fragment that the story with a marker shows. -/
inductive IsBody (r : RawSource) (e : Element) : Fragment → Prop where
  | snippet (t : String) (slice : r.document.IsSlice e.span t) (closed : ClosesItself t) (name : String)
    (refers : r.RefersTo e name) (s : Snippet)
    (first : IsFirstSnippet (preorderAll r.document.root.fragment.trees) name s) : IsBody r e s.body
  | inlineChildren (t : String) (slice : r.document.IsSlice e.span t) (closed : ¬ClosesItself t)
    (s : Snippet) (first : IsFirstSnippet e.fragment.nodes "children" s) : IsBody r e s.body
  | content (t : String) (slice : r.document.IsSlice e.span t) (closed : ¬ClosesItself t)
    (noChildren : HasNoSnippet e.fragment.nodes "children") : IsBody r e e.fragment

/-- The story with a marker shows a placeholder: the marker closes itself and refers to no snippet. -/
def IsPlaceholder (r : RawSource) (e : Element) : Prop :=
  (∃ t, r.document.IsSlice e.span t ∧ ClosesItself t) ∧ ∀ name, ¬r.RefersTo e name

/-- The body of the story with a marker has no nodes. -/
def ShowsNothing (r : RawSource) (e : Element) : Prop :=
  ∃ f, r.IsBody e f ∧ f.nodes = []

/-- The body of the story with a marker has nodes, and nothing but blanks stands in them. -/
def ShowsBlanks (r : RawSource) (e : Element) : Prop :=
  ∃ f t, r.IsBody e f ∧ r.document.IsContent f t ∧ Text.isBlankText t.toList = true

variable {r : RawSource} {e : Element} {f : Fragment} {story : String} {o : Option String}

/-! ## Bodies and placeholders -/

theorem recover_of_isBody (h : r.IsBody e f) (story : String) : r.recover e story = r.body f := by
  obtain ⟨a, ha⟩ := exists_bodyGives r f
  rw [body_of_gives ha]
  apply recover_of_recovers
  cases h with
  | snippet t slice closed name refers s first =>
    exact .snippet t slice closed name refers s first a ha
  | inlineChildren t slice closed s first => exact .inlineChildren t slice closed s first a ha
  | content t slice closed noChildren => exact .content t slice closed noChildren a ha

theorem recover_of_isPlaceholder (h : r.IsPlaceholder e) (story : String) :
    r.recover e story = .ok (some r.placeholder) := by
  obtain ⟨⟨t, slice, closed⟩, noReference⟩ := h
  exact recover_of_recovers (.placeholder t slice closed noReference)

/-- **A source that is recovered** is that of the body or the placeholder. -/
theorem recover_ok_cases (h : r.recover e story = .ok o) :
    (∃ f, r.IsBody e f ∧ r.body f = .ok o) ∨ (r.IsPlaceholder e ∧ o = some r.placeholder) := by
  cases recover_eq_iff.mp h with
  | snippet t slice closed name refers s first _ body =>
    exact .inl ⟨s.body, .snippet t slice closed name refers s first, body_of_gives body⟩
  | placeholder t slice closed noReference => exact .inr ⟨⟨⟨t, slice, closed⟩, noReference⟩, rfl⟩
  | inlineChildren t slice closed s first _ body =>
    exact .inl ⟨s.body, .inlineChildren t slice closed s first, body_of_gives body⟩
  | content t slice closed noChildren _ body =>
    exact .inl ⟨e.fragment, .content t slice closed noChildren, body_of_gives body⟩

/-- **The source of a body**, if it has one. -/
theorem body_eq_ok_iff :
    r.body f = .ok o ↔
      (f.nodes = [] ∧ o = none) ∨
        ∃ t, r.document.IsContent f t ∧ o = some (r.normalization.apply t) := by
  rw [body_eq_iff]
  constructor
  · intro h
    cases h with
    | empty nodes => exact .inl ⟨nodes, rfl⟩
    | slice first last t head getLast slice => exact .inr ⟨t, ⟨first, last, head, getLast, slice⟩, rfl⟩
  · rintro (⟨nodes, rfl⟩ | ⟨t, ⟨first, last, head, getLast, slice⟩, rfl⟩)
    · exact .empty nodes
    · exact .slice first last t head getLast slice

theorem placeholder_ne_empty (r : RawSource) : r.placeholder ≠ "" := by
  intro h
  have hl := congrArg String.toList h
  rw [placeholder, String.toList_append, String.toList_append] at hl
  cases hl

/-! ## Sources without text -/

/-- **When a source is missing and when it is empty.** -/
theorem recover_empty_iff (h : r.recover e story = .ok o) :
    (o = none ↔ r.ShowsNothing e) ∧ (o = some "" ↔ r.ShowsBlanks e) := by
  have ofBody : ∀ {f}, r.IsBody e f → r.body f = .ok o := fun hf => by
    rw [← recover_of_isBody hf story, h]
  refine ⟨⟨?_, ?_⟩, ?_, ?_⟩
  · rintro rfl
    rcases recover_ok_cases h with ⟨f, hf, hb⟩ | ⟨-, ho⟩
    · rcases body_eq_ok_iff.mp hb with ⟨hn, -⟩ | ⟨t, -, ht⟩
      · exact ⟨f, hf, hn⟩
      · cases ht
    · cases ho
  · rintro ⟨f, hf, hn⟩
    have hb := ofBody hf
    rw [body_eq_ok_iff.mpr (.inl ⟨hn, rfl⟩)] at hb
    exact (Except.ok.inj hb).symm
  · rintro rfl
    rcases recover_ok_cases h with ⟨f, hf, hb⟩ | ⟨-, ho⟩
    · rcases body_eq_ok_iff.mp hb with ⟨-, ho⟩ | ⟨t, hc, ht⟩
      · cases ho
      · exact ⟨f, t, hf, hc, apply_eq_empty_iff.mp (Option.some.inj ht).symm⟩
    · exact absurd (Option.some.inj ho).symm r.placeholder_ne_empty
  · rintro ⟨f, t, hf, hc, ht⟩
    have hb := ofBody hf
    rw [body_eq_ok_iff.mpr (.inr ⟨t, hc, rfl⟩), apply_eq_empty_iff.mpr ht] at hb
    exact (Except.ok.inj hb).symm

/-! ## Two ways to recover a source -/

/-- What one way to recover sources finds in its document, the other finds in its own: they stand for the
same snippet and component, and the second document has the slices and the first snippets of the first. -/
structure ExtendedBy (r r' : RawSource) : Prop where
  templateSnippet : r'.templateSnippet = r.templateSnippet
  component : r'.component = r.component
  slices : ∀ span t, r.document.IsSlice span t → r'.document.IsSlice span t
  snippets : ∀ name s, IsFirstSnippet (preorderAll r.document.root.fragment.trees) name s →
    IsFirstSnippet (preorderAll r'.document.root.fragment.trees) name s

variable {r' : RawSource}

theorem ExtendedBy.refersTo_iff (h : r.ExtendedBy r') {name : String} :
    r'.RefersTo e name ↔ r.RefersTo e name := by
  constructor
  · rintro (hc | ⟨hn, ht⟩)
    · exact .children hc
    · exact .template hn (h.templateSnippet ▸ ht)
  · rintro (hc | ⟨hn, ht⟩)
    · exact .children hc
    · exact .template hn (h.templateSnippet.trans ht)

theorem ExtendedBy.isBody (h : r.ExtendedBy r') (hf : r.IsBody e f) : r'.IsBody e f := by
  cases hf with
  | snippet t slice closed name refers s first =>
    exact .snippet t (h.slices _ _ slice) closed name (h.refersTo_iff.mpr refers) s (h.snippets _ _ first)
  | inlineChildren t slice closed s first =>
    exact .inlineChildren t (h.slices _ _ slice) closed s first
  | content t slice closed noChildren => exact .content t (h.slices _ _ slice) closed noChildren

theorem ExtendedBy.isPlaceholder (h : r.ExtendedBy r') (hp : r.IsPlaceholder e) :
    r'.IsPlaceholder e := by
  obtain ⟨⟨t, slice, closed⟩, noReference⟩ := hp
  exact ⟨⟨t, h.slices _ _ slice, closed⟩, fun name hr => noReference name (h.refersTo_iff.mp hr)⟩

theorem ExtendedBy.placeholder_eq (h : r.ExtendedBy r') : r'.placeholder = r.placeholder := by
  rw [placeholder, placeholder, h.component]

/-- One source in two shapes: missing, a placeholder, or a slice of the text. -/
inductive SameSource (d : Document) (placeholder : String) (n n' : Normalization) :
    Option String → Option String → Prop where
  | missing : SameSource d placeholder n n' none none
  | placeholder : SameSource d placeholder n n' (some placeholder) (some placeholder)
  | slice (span : Span) (t : String) (slice : d.IsSlice span t) :
    SameSource d placeholder n n' (some (n.apply t)) (some (n'.apply t))

theorem SameSource.eq {d : Document} {placeholder : String} {n : Normalization} {o o' : Option String}
    (h : SameSource d placeholder n n o o') : o = o' := by
  cases h <;> rfl

/-- **A source that is recovered in one way** is recovered in the other way too, in its shape. -/
theorem exists_recover_of_extendedBy (h : r.ExtendedBy r') (ho : r.recover e story = .ok o)
    (story' : String) :
    ∃ o', r'.recover e story' = .ok o' ∧
      SameSource r.document r.placeholder r.normalization r'.normalization o o' := by
  rcases recover_ok_cases ho with ⟨f, hf, hb⟩ | ⟨hp, rfl⟩
  · rw [recover_of_isBody (h.isBody hf)]
    rcases body_eq_ok_iff.mp hb with ⟨hn, rfl⟩ | ⟨t, ⟨first, last, head, getLast, slice⟩, rfl⟩
    · exact ⟨none, body_eq_ok_iff.mpr (.inl ⟨hn, rfl⟩), .missing⟩
    · refine ⟨_, body_eq_ok_iff.mpr (.inr ⟨t, ⟨first, last, head, getLast, ?_⟩, rfl⟩), ?_⟩
      · exact h.slices _ _ slice
      · exact .slice _ t slice
  · rw [recover_of_isPlaceholder (h.isPlaceholder hp), h.placeholder_eq]
    exact ⟨_, rfl, .placeholder⟩

theorem recover_of_extendedBy (h : r.ExtendedBy r') (hn : r'.normalization = r.normalization)
    (ho : r.recover e story = .ok o) (story' : String) : r'.recover e story' = .ok o := by
  obtain ⟨o', ho', hs⟩ := exists_recover_of_extendedBy h ho story'
  rw [hn] at hs
  rw [ho', hs.eq]

end RawSource

end StoryCatalog
