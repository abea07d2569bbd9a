import StoryCatalog.Proofs.Compiled.Inventories

/-!
# Which located parts belong together

A compiled module mentions `defineMeta` in import declarations and in declarators. The located declaration and
the identifier bound to `Story` come from one declarator, which calls `defineMeta` by the name of the last import
before it. The located import is the last one of the whole module, so all three parts belong together unless
`defineMeta` is imported under another name after that declarator.

* `exists_mention_of_locate`: the declarator that the located declaration and identifier come from.
* `belongTogether_of_knownOnlyAs`: with one name for `defineMeta` they belong together.
* `parts_of_locate`: where the located parts come from, and when they belong together.
* `parts_may_be_mixed`: with an import under another name they do not.
-/

namespace StoryCatalog

open Rose

/-- A declarator of the located declaration destructures the result of what the located import names, and binds the
located identifier to `Story`. -/
def CompiledParts.BelongTogether (x : CompiledParts) : Prop :=
  ∃ b ∈ x.defineMetaDeclaration.declarators, ∃ members,
    b.Destructures x.defineMetaImport.binding.name members ∧
      PatternMember.binding? "Story" members = some x.storyIdentifier

section

variable {file package : String} {p : Program}

theorem importsMeta_of_mention {i : ImportSpecifier} (h : .imports i ∈ p.mentions package) :
    ImportsMeta package p.outline.preorder i := by
  obtain ⟨n, hn, hi⟩ := List.mem_flatMap.mp h
  have hp := reachAll_subset _ _ hn
  rw [preorderAll, preorderAll, List.append_nil] at hp
  unfold Node.mentions at hi
  split at hi
  · rename_i d
    obtain ⟨j, hj, hij⟩ := List.mem_map.mp hi
    cases hij
    exact ⟨d, hp, hj⟩
  · obtain ⟨b, -, hb⟩ := List.mem_map.mp hi
    cases hb
  · cases hi

theorem mem_declarators_of_mention {d : VariableDeclaration} {b : Declarator}
    (h : .declares d b ∈ p.mentions package) : b ∈ d.declarators := by
  obtain ⟨n, -, hb⟩ := List.mem_flatMap.mp h
  unfold Node.mentions at hb
  split at hb
  · obtain ⟨i, -, hi⟩ := List.mem_map.mp hb
    cases hi
  · obtain ⟨b', hb', hbb⟩ := List.mem_map.mp hb
    cases hbb
    exact hb'
  · cases hb

/-- The located import is the last one that is mentioned. -/
theorem lastImport_of_locate {x : CompiledParts} (h : p.locate file package = .ok x) :
    lastImport (p.mentions package) = some x.defineMetaImport :=
  (Program.locate_eq_ok_iff.mp h).1

/-- The located declaration and the located identifier come from one declarator. -/
theorem exists_mention_of_locate {x : CompiledParts} (h : p.locate file package = .ok x) :
    ∃ before b after i members, p.mentions package = before ++ .declares x.defineMetaDeclaration b :: after ∧
      lastImport before = some i ∧ b.Destructures i.binding.name members ∧
        PatternMember.binding? "Story" members = some x.storyIdentifier := by
  obtain ⟨-, ⟨members, hlast, hs⟩, -⟩ := Program.locate_eq_ok_iff.mp h
  obtain ⟨before, b, after, i, hms, hi, hb⟩ := mem_definitionsFrom_iff.mp (List.mem_of_getLast? hlast)
  exact ⟨before, b, after, i, members, hms, hi, hb, hs⟩

/-- The parts belong together if the declarator calls what the located import names. -/
theorem belongTogether_of_mention {x : CompiledParts} {before after : List Mention} {b : Declarator}
    {members : List PatternMember} (hms : p.mentions package = before ++ .declares x.defineMetaDeclaration b :: after)
    (hb : b.Destructures x.defineMetaImport.binding.name members)
    (hs : PatternMember.binding? "Story" members = some x.storyIdentifier) : x.BelongTogether := by
  have hmention : .declares x.defineMetaDeclaration b ∈ p.mentions package := by
    rw [hms]
    exact List.mem_append_right _ List.mem_cons_self
  exact ⟨b, mem_declarators_of_mention hmention, members, hb, hs⟩

/-- **Located parts belong together** if a module imports `defineMeta` under one name only. -/
theorem belongTogether_of_knownOnlyAs {x : CompiledParts} {name : String} (h : p.locate file package = .ok x)
    (hn : KnownOnlyAs package name p.outline.preorder) : x.BelongTogether := by
  obtain ⟨before, b, after, i, members, hms, hi, hb, hs⟩ := exists_mention_of_locate h
  have hx := hn _ (importsMeta_of_mention (mem_of_lastImport (lastImport_of_locate h)))
  have hbefore : .imports i ∈ p.mentions package := by
    rw [hms]
    exact List.mem_append_left _ (mem_of_lastImport hi)
  rw [hn i (importsMeta_of_mention hbefore), ← hx] at hb
  exact belongTogether_of_mention hms hb hs

/-- **Where the located parts come from, and when they belong together.** The import is one of `defineMeta` from the
package. The declaration has a declarator that destructures the result of what the last import before it names, and
binds the identifier to `Story`. The located import is the last one after this declarator, if there is one, and else
that before it. So the declarator calls what the located import names exactly if the last import after it goes by
the same name, and then all parts belong together. -/
theorem parts_of_locate {x : CompiledParts} (h : p.locate file package = .ok x) :
    ImportsMeta package p.outline.preorder x.defineMetaImport ∧
      ∃ before b after i members,
        p.mentions package = before ++ .declares x.defineMetaDeclaration b :: after ∧
          lastImport before = some i ∧ b.Destructures i.binding.name members ∧
            PatternMember.binding? "Story" members = some x.storyIdentifier ∧
              x.defineMetaImport = (lastImport after).getD i ∧
                (b.calledName? = some x.defineMetaImport.binding.name ↔
                  ∀ j, lastImport after = some j → j.binding.name = i.binding.name) ∧
                    (b.calledName? = some x.defineMetaImport.binding.name → x.BelongTogether) := by
  have hlast := lastImport_of_locate h
  obtain ⟨before, b, after, i, members, hms, hi, hb, hs⟩ := exists_mention_of_locate h
  have hget : x.defineMetaImport = (lastImport after).getD i := by
    have hall : lastImport (p.mentions package) = (lastImport after).or (some i) := by
      rw [hms, ← List.singleton_append, ← List.append_assoc, lastImport_append, lastImport_append, hi]
      rfl
    rw [hall, Option.or_some] at hlast
    exact (Option.some.inj hlast).symm
  refine ⟨importsMeta_of_mention (mem_of_lastImport (lastImport_of_locate h)), before, b, after, i, members, hms,
    hi, hb, hs, hget, ?_, fun hc => belongTogether_of_mention hms ⟨hb.1, hc⟩ hs⟩
  rw [hb.2, hget]
  cases lastImport after with
  | none => simp
  | some j =>
    simp only [Option.getD_some, Option.some.injEq, forall_eq']
    exact eq_comm

end

/-- A module that imports `defineMeta` as `a`, destructures `Story` from a call of `a`, imports `defineMeta` again as
`b`, and has a stories function as its default export. -/
def importedTwice : Program :=
  ⟨⟨0, 0⟩, [importMeta "a", destructure "a" "S", importMeta "b",
    .defaultExport ⟨⟨0, 0⟩, .function .declaration
      ⟨⟨0, 0⟩, some ⟨⟨0, 0⟩, "X_stories"⟩, [], .block ⟨0, 0⟩ []⟩⟩]⟩

/-- The declarator is found by the first import, and the second is located. -/
theorem parts_of_importedTwice :
    ∃ x, importedTwice.locate "f" "p" = .ok x ∧
      ImportsMeta "p" importedTwice.outline.preorder x.defineMetaImport ∧
        x.defineMetaImport.binding.name = "b" := by
  obtain ⟨x, hx, hn⟩ : ∃ x, importedTwice.locate "f" "p" = .ok x ∧
    x.defineMetaImport.binding.name = "b" := ⟨_, rfl, rfl⟩
  exact ⟨x, hx, (parts_of_locate hx).1, hn⟩

/-- **Located parts need not belong together**: with an import under another name after it, the declaration is not
one that calls what the located import names. -/
theorem parts_may_be_mixed :
    ¬ ∀ (p : Program) (file package : String) (x : CompiledParts), p.locate file package = .ok x →
      x.BelongTogether := by
  intro h
  obtain ⟨b, hb, members, hd, -⟩ := h importedTwice "f" "p" _ rfl
  rw [List.mem_singleton] at hb
  rw [hb] at hd
  have hcalled : some "a" = some "b" := hd.2
  exact absurd hcalled (by decide)

end StoryCatalog
