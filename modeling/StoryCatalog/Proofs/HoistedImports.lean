import StoryCatalog.Proofs.Compiled.HoistedModules
import StoryCatalog.Proofs.Story.HoistedScripts

/-!
# When imports may be hoisted

Imports are not hoisted before a script or a compiled module is read: the name for `defineMeta` is learned and
used in one pass. Moving the import declarations to the front changes nothing if whatever they overtake is read
alike before and after, and it may change the outcome otherwise.

* `hoisting_changes_nothing`: documents and modules whose imports may be hoisted.
* `hoisting_may_matter`: a declarator that calls `defineMeta` before it is imported.
-/

namespace StoryCatalog

/-- **Hoisting imports changes nothing** if every statement that is overtaken by an import from the package is read
alike: no import from the package stands in it, and what a declarator in it calls is the name that `defineMeta`
is known under there exactly if it is the name after all imports of the script. For a compiled module this
concerns only what the walk for its parts looks at. -/
theorem hoisting_changes_nothing (file package : String) :
    (∀ r : Root, r.Hoistable file package →
      (ScriptFacts.resolve file package r.hoisted).toOption = (ScriptFacts.resolve file package r).toOption) ∧
    ∀ p : Program, p.Hoistable package → p.hoisted.locate file package = p.locate file package :=
  ⟨fun _ h => resolve_hoisted h, fun _ h => locate_hoisted h⟩

/-- A script that destructures the result of another function before it imports `defineMeta`. -/
def makesFirst : List Statement :=
  [destructure "make" "T", importMeta "a", destructure "a" "S"]

theorem makesFirst_hoistable {met : Statement → List Node}
    (h : ∀ n ∈ met (destructure "make" "T"), n.ReadsAlike "p" none (some "a")) :
    Hoistable "p" met none makesFirst := by
  intro before s after hss hs hafter
  rcases before with _ | ⟨b, _ | ⟨c, _ | ⟨d, rest⟩⟩⟩
  · cases hss
    exact h
  · cases hss
    cases hs
  · cases hss
    cases hafter
  · have hlength := congrArg List.length hss
    simp [makesFirst] at hlength

/-- What is overtaken there calls neither name, so hoisting changes nothing. -/
theorem makesFirst_hoists :
    (ScriptFacts.resolve "f" "p" (scripted makesFirst).hoisted).toOption =
        (ScriptFacts.resolve "f" "p" (scripted makesFirst)).toOption ∧
      (Program.mk ⟨0, 0⟩ makesFirst).hoisted.locate "f" "p" = (Program.mk ⟨0, 0⟩ makesFirst).locate "f" "p" := by
  have hmake : ∀ name, some "make" = some name → (none = some name ↔ some "a" = some name) := by
    rintro name ⟨⟩
    decide
  have hscript : ∀ n ∈ (Node.statement (destructure "make" "T")).outline.preorder,
      n.ReadsAlike "p" none (some "a") := by
    refine List.forall_mem_cons.mpr ⟨trivial, List.forall_mem_cons.mpr ⟨hmake, ?_⟩⟩
    simp [declaratorOutlines, Declarator.parts, Pattern.parts, patternMemberOutlines, PatternMember.parts,
      Expression.parts, expressionOutlines, memberOutlines, Rose.preorderAll, Rose.preorder,
      Node.ReadsAlike]
  have hmodule : ∀ n ∈ (destructure "make" "T").inspected, n.ReadsAlike "p" none (some "a") :=
    List.forall_mem_cons.mpr ⟨trivial, List.forall_mem_cons.mpr ⟨hmake, List.forall_mem_nil _⟩⟩
  refine ⟨(hoisting_changes_nothing "f" "p").1 _ ?_, (hoisting_changes_nothing "f" "p").2 _ ?_⟩
  · intro before s after hs f hf
    rcases before with _ | ⟨b, rest⟩
    · cases hs
      cases hf
      exact makesFirst_hoistable hscript
    · have hlength := congrArg List.length hs
      simp [scripted, Root.scripts] at hlength
  · exact makesFirst_hoistable hmodule

/-- **Hoisting imports may matter.** If `defineMeta` is called before it is imported, the call is recognized only
once the import has been moved to the front. -/
theorem hoisting_may_matter :
    (¬ ∀ file package (r : Root),
      (ScriptFacts.resolve file package r.hoisted).toOption = (ScriptFacts.resolve file package r).toOption) ∧
    ¬ ∀ file package (p : Program),
      (p.hoisted.locate file package).toOption = (p.locate file package).toOption := by
  constructor
  · intro h
    have hs := congrArg (·.bind (·.storyTag)) (h "f" "p" (scripted [destructure "a" "S", importMeta "a"]))
    exact absurd (show some "S" = none from hs) (by decide)
  · intro h
    have hs := congrArg Option.isSome (h "f" "p" ⟨⟨0, 0⟩, [destructure "a" "S", importMeta "a",
      .defaultExport ⟨⟨0, 0⟩, .function .declaration
        ⟨⟨0, 0⟩, some ⟨⟨0, 0⟩, "X_stories"⟩, [], .block ⟨0, 0⟩ []⟩⟩]⟩)
    exact absurd (show true = false from hs) (by decide)

example :
    let r := scripted [.block ⟨0, 0⟩ [importMeta "a"], importMeta "b"]
    (ScriptFacts.resolve "f" "p" r).toOption.bind (·.defineMetaAlias) = some "b" ∧
      (ScriptFacts.resolve "f" "p" r.hoisted).toOption.bind (·.defineMetaAlias) = some "a" := ⟨rfl, rfl⟩

end StoryCatalog
