import StoryCatalog.Proofs.Story.Extractions
import StoryCatalog.Proofs.Story.Scripts

/-!
# What an extraction is influenced by

The walk through the scripts leaves the markup out, and the walk through the markup leaves the scripts out. So
what the scripts say depends on the scripts alone, and they influence the stories only through what they say of
the marker, the template snippet and the component.

* `walk_visit_outline`: the walk for the stories leaves the scripts out.
* `Agrees.visit_inStep`: at each node two extractions with plans that agree do the same.
* `facts_mediate`: scripts and markup meet in the facts only.
-/

namespace StoryCatalog

open Rose

/-- Two documents have the same file and the same scripts. -/
structure Document.SharesScripts (d' d : Document) : Prop where
  file : d'.file = d.file
  moduleScript : d'.root.moduleScript = d.root.moduleScript
  instanceScript : d'.root.instanceScript = d.root.instanceScript

/-- Two documents have the same file, text and markup. -/
structure Document.SharesMarkup (d' d : Document) : Prop where
  file : d'.file = d.file
  source : d'.source = d.source
  encoding : d'.encoding = d.encoding
  fragment : d'.root.fragment = d.root.fragment

/-- Two facts say the same of the marker, the template snippet and the component. -/
structure ScriptFacts.SameForStories (f' f : ScriptFacts) : Prop where
  markerTag : f'.markerTag = f.markerTag
  templateSnippet : f'.templateSnippet = f.templateSnippet
  component : f'.component? = f.component?

/-- Two plans lead to the same stories: they have one marker tag, and sources are recovered alike. -/
structure ExtractionPlan.Agrees (plan' plan : ExtractionPlan) : Prop where
  markerTag : plan'.markerTag = plan.markerTag
  file : plan'.rawSource.document.file = plan.rawSource.document.file
  recover : ∀ e name, plan'.rawSource.recover e name = plan.rawSource.recover e name

/-! ## Markup -/

namespace Extraction

theorem ignores_script (plan : ExtractionPlan) (x : Extraction) (s : ScriptBlock) :
    walk (visit plan) () x s.outline = (x, none) := rfl

theorem walkAll_scripts (plan : ExtractionPlan) (x : Extraction) (ss : List ScriptBlock) :
    walkAll (visit plan) () x (ss.map (·.outline)) = (x, none) := by
  induction ss with
  | nil => rfl
  | cons s ss ih =>
    rw [List.map_cons, walkAll, ignores_script]
    exact ih

/-- **The walk for the stories leaves the scripts out.** -/
theorem walk_visit_outline (plan : ExtractionPlan) (x : Extraction) (r : Root) :
    r.outline.walk (visit plan) () x = walkAll (visit plan) () x [r.fragment.outline] := by
  have houtline : r.outline.walk (visit plan) () x =
      walkAll (visit plan) () x (r.scripts.map (·.outline) ++ [r.fragment.outline]) := by
    rw [Root.scripts, List.map_append]
    rfl
  rw [houtline, walkAll_append, walkAll_scripts]

end Extraction

namespace ExtractionPlan.Agrees

variable {plan plan' : ExtractionPlan}

theorem readMarker (h : plan'.Agrees plan) (x : Extraction) (e : Element) :
    x.readMarker plan' e = x.readMarker plan e := by
  unfold Extraction.readMarker
  simp only [h.recover, h.file]

/-- **At each node** two extractions with plans that agree do the same. -/
theorem visit_inStep (h : plan'.Agrees plan) (n : Node) :
    InStep (· = ·) (Extraction.visit plan') (Extraction.visit plan) n := by
  rintro k x _ rfl
  have hvisit : Extraction.visit plan' k n x = Extraction.visit plan k n x := by
    unfold Extraction.visit
    simp only [h.markerTag, h.readMarker]
  rw [hvisit]
  exact ⟨rfl, rfl⟩

/-- Plans that agree lead to the same catalog of documents with the same markup. -/
theorem catalogBy_eq (h : plan'.Agrees plan) {d d' : Document} (hfile : d'.file = d.file)
    (hf : d'.root.fragment = d.root.fragment) (hash : HashKind) (unifiesIds : Bool) :
    d'.catalogBy hash unifiesIds plan' = d.catalogBy hash unifiesIds plan := by
  have hevery : Every (InStep (· = ·) (Extraction.visit plan') (Extraction.visit plan))
      [d.root.fragment.outline] := fun n _ => h.visit_inStep n
  have hwalk := walkAll_inStep hevery ()
    (rfl : Extraction.start d.file hash unifiesIds = .start d.file hash unifiesIds)
  unfold Document.catalogBy
  rw [Extraction.walk_visit_outline, Extraction.walk_visit_outline, hfile, hf, Prod.ext hwalk.1 hwalk.2]

end ExtractionPlan.Agrees

/-! ## Documents -/

/-- Sources are recovered from the text and the markup of a document. -/
theorem RawSource.recover_of_sharesMarkup {d d' : Document} (h : d'.SharesMarkup d)
    (template component : Option String) (n : Normalization) (e : Element) (story : String) :
    recover ⟨d', template, component, n⟩ e story = recover ⟨d, template, component, n⟩ e story := by
  obtain ⟨file, source, ⟨span, fragment, _, _⟩, encoding⟩ := d
  obtain ⟨file', source', ⟨span', fragment', _, _⟩, encoding'⟩ := d'
  obtain ⟨hfile, hsource, hencoding, hfragment⟩ := h
  cases hfile
  cases hsource
  cases hencoding
  cases hfragment
  rfl

theorem extractionPlan_agrees {d d' : Document} {f f' : ScriptFacts} (h : d'.SharesMarkup d)
    (hf : f'.SameForStories f) : (d'.extractionPlan f').Agrees (d.extractionPlan f) where
  markerTag := hf.markerTag
  file := h.file
  recover := by
    intro e name
    unfold Document.extractionPlan
    rw [hf.templateSnippet, hf.component]
    exact RawSource.recover_of_sharesMarkup h _ _ _ e name

/-- **Scripts and markup meet in the facts only.** Documents with the same file and scripts have the same facts,
or fail alike. Documents with the same file, text and markup have the same stories, or fail alike, if the facts
of both say the same of the marker, the template snippet and the component. Whether the older dialect is
tolerated and what the index carries makes no difference. -/
theorem facts_mediate (d d' : Document) :
    (d'.SharesScripts d → ∀ package,
      ScriptFacts.resolve d'.file package d'.root = ScriptFacts.resolve d.file package d.root) ∧
    (d'.SharesMarkup d → ∀ config config' : Config,
      config'.idHash = config.idHash → config'.unifyIdSets = config.unifyIdSets →
      ∀ f f', ScriptFacts.resolve d.file config.packageName d.root = .ok f →
        ScriptFacts.resolve d'.file config'.packageName d'.root = .ok f' → f'.SameForStories f →
        d'.extract config' = d.extract config) ∧
    ∀ (config : Config) (legacy raw : Bool),
      d.extract { config with legacyTemplate := legacy, includeRawSourceInIndex := raw } =
        d.extract config := by
  refine ⟨?_, ?_, fun config legacy raw => rfl⟩
  · intro h package
    rw [h.file]
    exact ScriptFacts.resolve_eq_of_scripts d.file package h.moduleScript h.instanceScript
  · intro h config config' hhash hunify f f' hf hf' hsame
    have hagrees := extractionPlan_agrees h hsame
    rw [extract_eq_catalogBy hf, extract_eq_catalogBy hf', hhash, hunify,
      hagrees.catalogBy_eq h.file h.fragment]

/-- The document `twoStories` with a script that imports `defineMeta` and does not call it. -/
def withIdleScript : Document :=
  { twoStories with root := { twoStories.root with
      moduleScript := (scripted [importMeta "a"]).moduleScript } }

/-- A script that says nothing of the marker changes no story. -/
theorem idleScript_changes_nothing :
    withIdleScript.extract { Config.default with packageName := "p" } =
        twoStories.extract { Config.default with packageName := "p" } ∧
      ScriptFacts.resolve withIdleScript.file "p" withIdleScript.root =
        ScriptFacts.resolve withIdleScript.file "p" { withIdleScript.root with fragment := ⟨[]⟩ } := by
  obtain ⟨f, hf, hd⟩ : ∃ f, ScriptFacts.resolve withIdleScript.file "p" withIdleScript.root = .ok f ∧
      f.SameForStories .none := ⟨_, rfl, ⟨rfl, rfl, rfl⟩⟩
  refine ⟨(facts_mediate twoStories withIdleScript).2.1 ⟨rfl, rfl, rfl, rfl⟩ _ _ rfl rfl .none f rfl hf hd, ?_⟩
  exact (facts_mediate { withIdleScript with root := { withIdleScript.root with fragment := ⟨[]⟩ } }
    withIdleScript).1 ⟨rfl, rfl, rfl⟩ "p"

end StoryCatalog
