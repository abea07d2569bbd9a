import StoryCatalog.Proofs.Story.Scripts

/-!
# Coherent facts

If the scripts of a document say something at all, the facts belong together: the tag and the meta object come
from one declarator that destructures `Story` from a call of `defineMeta`, and a declarator that calls it by the
name it was imported under is either of this form or the reading fails.

* `visit_cases`: what a node can change.
* `resolve_coheres`: the facts of a document are coherent.
-/

namespace StoryCatalog

open Rose

/-- A declarator destructures `Story` from the result of a function that is given an object literal. A member of
its pattern counts by the name of its key. -/
def Declarator.Defines (b : Declarator) (object : ObjectLiteral) (story : Identifier) : Prop :=
  ∃ patternSpan members callSpan callee more,
    b.id = .object patternSpan members ∧
      b.init = some (.call callSpan (.identifier callee) (.object object :: more)) ∧
        PatternMember.binding? "Story" members = some story

namespace ScriptFacts

variable {file package : String}

/-- The tag and the meta object come from one declarator in the scripts, or there is neither. -/
def DefinedOnce (r : Root) (f : ScriptFacts) : Prop :=
  f.storyTag = .none ∧ f.metaObject = .none ∨
    ∃ s ∈ r.scripts, ∃ b object story, Node.declarator b ∈ s.outline.preorder ∧ b.Defines object story ∧
      f.storyTag = some story.name ∧ f.metaObject = some object

/-- What the scripts of a document say belongs together. -/
structure Coheres (package : String) (r : Root) (f : ScriptFacts) : Prop where
  /-- Whatever is imported from the package at the top of a script is named. -/
  imports_named : ∀ s ∈ r.scripts, ∀ d, .imports d ∈ s.content.body → d.source.text? = some package →
    ∀ c ∈ d.clauses, ∃ i, c = .named i
  definedOnce : f.DefinedOnce r
  /-- There is a tag only if `defineMeta` is imported. -/
  alias_of_storyTag : f.storyTag.isSome = true → f.defineMetaAlias.isSome = true
  /-- If a script imports `defineMeta` under one name only, each declarator that calls it by this name, at its top
  and after the import, destructures `Story`. -/
  declarations_define : ∀ s ∈ r.scripts, ∀ before d after i,
    s.content.body = before ++ .imports d :: after → i ∈ d.metaSpecifiers package →
    KnownOnlyAs package i.binding.name s.outline.preorder →
    ∀ t ∈ after, ∀ v, t.variables? = some v → ∀ b ∈ v.declarators,
      b.calledName? = some i.binding.name → ∃ object story, b.Defines object story

/-! ## A node -/

theorem object?_eq_some_iff {e : Expression} {o : ObjectLiteral} : e.object? = some o ↔ e = .object o := by
  cases e <;> simp [Expression.object?]

theorem readDefineMeta_eq_ok {f g : ScriptFacts} {id : Pattern} {es : List Expression}
    (h : f.readDefineMeta file id es = .ok g) :
    ∃ span members object more story, id = .object span members ∧ es = .object object :: more ∧
      PatternMember.binding? "Story" members = some story ∧
        g = { f with storyTag := some story.name, metaObject := some object } := by
  unfold readDefineMeta at h
  split at h
  · rename_i span members
    split at h
    · cases h
    · rename_i object hobject
      obtain ⟨e, he, ho⟩ := Option.bind_eq_some_iff.mp hobject
      obtain ⟨more, rfl⟩ := List.head?_eq_some_iff.mp he
      obtain rfl := object?_eq_some_iff.mp ho
      split at h
      · cases h
      · rename_i story hstory
        cases h
        exact ⟨span, members, object, more, story, rfl, rfl, hstory, rfl⟩
  · cases h

/-- What a declarator is read as defining it defines. -/
theorem exists_defines {f g : ScriptFacts} {b : Declarator} {name : String} (hb : b.calledName? = some name)
    (h : f.readDefineMeta file b.id (b.init.elim [] arguments) = .ok g) :
    ∃ object story, b.Defines object story ∧
      g = { f with storyTag := some story.name, metaObject := some object } := by
  obtain ⟨span, members, object, more, story, hid, hes, hstory, hg⟩ := readDefineMeta_eq_ok h
  obtain ⟨e, he, hname⟩ := Declarator.calledName?_eq_some_iff.mp hb
  rw [he] at hes
  cases e with
  | call callSpan callee es =>
    cases callee with
    | identifier i =>
      cases (show es = _ from hes)
      exact ⟨object, story, ⟨span, members, callSpan, i, more, hid, he, hstory⟩, hg⟩
    | _ => cases hname
  | _ => cases hname

theorem readCall_frame (f : ScriptFacts) (e : Expression) :
    (f.readCall e).defineMetaAlias = f.defineMetaAlias ∧
      (f.readCall e).storyTag = f.storyTag ∧ (f.readCall e).metaObject = f.metaObject := by
  unfold readCall
  split
  · split <;> exact ⟨rfl, rfl, rfl⟩
  · exact ⟨rfl, rfl, rfl⟩

theorem readExport_frame (f : ScriptFacts) (s : Option Statement) :
    (f.readExport s).defineMetaAlias = f.defineMetaAlias ∧
      (f.readExport s).storyTag = f.storyTag ∧ (f.readExport s).metaObject = f.metaObject := by
  unfold readExport
  split <;> exact ⟨rfl, rfl, rfl⟩

/-- **What a node can change** of the name for `defineMeta`, the tag and the meta object: an import declaration
the first, a declarator that defines the stories the other two. -/
theorem visit_cases (k : Unit) (n : Node) (f : ScriptFacts) :
    ((visit file package k n f).1.defineMetaAlias = f.defineMetaAlias ∧
      (visit file package k n f).1.storyTag = f.storyTag ∧ (visit file package k n f).1.metaObject = f.metaObject) ∨
    (∃ d, n = .statement (.imports d) ∧ f.readImport file package d = .ok (visit file package k n f).1) ∨
    ∃ b object story name, n = .declarator b ∧ f.defineMetaAlias = some name ∧ b.Defines object story ∧
      (visit file package k n f).1 = { f with storyTag := some story.name, metaObject := some object } := by
  cases n with
  | statement s =>
    cases s with
    | imports d =>
      rw [visit]
      cases hd : f.readImport file package d with
      | error c => exact Or.inl ⟨rfl, rfl, rfl⟩
      | ok g => exact Or.inr (Or.inl ⟨d, rfl, hd⟩)
    | namedExport span s => exact Or.inl (readExport_frame f s)
    | _ => exact Or.inl ⟨rfl, rfl, rfl⟩
  | declarator b =>
    rw [visit]
    rcases readDeclarator_cases file f b with ⟨name, ha, hb, hread⟩ | ⟨-, hread⟩
    · rw [hread]
      cases hg : f.readDefineMeta file b.id (b.init.elim [] arguments) with
      | error c => exact Or.inl ⟨rfl, rfl, rfl⟩
      | ok g =>
        obtain ⟨object, story, hdefines, rfl⟩ := exists_defines hb hg
        exact Or.inr (Or.inr ⟨b, object, story, name, rfl, ha, hdefines, rfl⟩)
    · rw [hread]
      exact Or.inl ⟨rfl, rfl, rfl⟩
  | expression e => exact Or.inl (readCall_frame f e)
  | _ => exact Or.inl ⟨rfl, rfl, rfl⟩

/-! ## Scripts -/

/-- The name for `defineMeta` stays if whatever is imported as `defineMeta` is bound to this name. -/
theorem alias_walkAll (file : String) {name : String} {ts : List (Rose Node)}
    (h : KnownOnlyAs package name (preorderAll ts)) {f : ScriptFacts}
    (hf : f.defineMetaAlias = some name) :
    (walkAll (visit file package) () f ts).1.defineMetaAlias = some name := by
  refine walkAll_keeps (P := fun f : ScriptFacts => f.defineMetaAlias = some name) (fun n hn k f hf => ?_) () hf
  rcases visit_cases k n f with ⟨ha, -, -⟩ | ⟨d, rfl, hd⟩ | ⟨b, object, story, name', -, -, -, hg⟩
  · exact ha.trans hf
  · rw [alias_readImport hd]
    rcases aliasAfter_imports_cases f.defineMetaAlias d with ⟨-, ha⟩ | ⟨i, hi, ha⟩
    · exact ha.trans hf
    · rw [ha, h i ⟨d, hn, hi⟩]
  · rw [hg]
    exact hf

theorem mem_regions_iff {r : Root} {n : Node} :
    n ∈ preorderAll (regions r) ↔ ∃ s ∈ r.scripts, n ∈ s.outline.preorder := by
  rw [regions, preorderAll_map, List.mem_flatMap]

/-- What each node of the scripts keeps is true of the facts if it is true of none. -/
theorem of_resolve {P : ScriptFacts → Prop} {r : Root} {f : ScriptFacts} (h : resolve file package r = .ok f)
    (hnone : P ScriptFacts.none)
    (hkeeps : ∀ s ∈ r.scripts, ∀ n ∈ s.outline.preorder, Keeps P (visit file package) n) : P f := by
  rw [resolve_eq_answer, answer_eq_ok_iff] at h
  have hevery : Every (Keeps P (visit file package)) (regions r) := by
    intro n hn
    obtain ⟨s, hs, hns⟩ := mem_regions_iff.mp hn
    exact hkeeps s hs n hns
  have hP := walkAll_keeps hevery () hnone
  rwa [h] at hP

theorem definedOnce_of_resolve {r : Root} {f : ScriptFacts} (h : resolve file package r = .ok f) :
    f.DefinedOnce r := by
  refine of_resolve h (Or.inl ⟨rfl, rfl⟩) fun s hs n hn k f hf => ?_
  unfold DefinedOnce at hf ⊢
  rcases visit_cases k n f with ⟨-, ht, ho⟩ | ⟨d, rfl, hd⟩ | ⟨b, object, story, name, rfl, -, hb, hg⟩
  · rw [ht, ho]
    exact hf
  · rw [readImport_eq_ok hd]
    exact hf
  · rw [hg]
    exact Or.inr ⟨s, hs, b, object, story, hn, hb, rfl, rfl⟩

/-- There is a tag only if `defineMeta` is imported. -/
theorem alias_of_resolve {r : Root} {f : ScriptFacts} (h : resolve file package r = .ok f) :
    f.storyTag.isSome = true → f.defineMetaAlias.isSome = true := by
  refine of_resolve (P := fun f => f.storyTag.isSome = true → f.defineMetaAlias.isSome = true) h
    (fun h => h) fun s hs n hn k f hf => ?_
  intro ht
  rcases visit_cases k n f with ⟨ha, ht', -⟩ | ⟨d, rfl, hd⟩ | ⟨b, object, story, name, rfl, ha, -, hg⟩
  · rw [ht'] at ht
    rw [ha]
    exact hf ht
  · rw [readImport_eq_ok hd] at ht
    rw [alias_readImport hd]
    rcases aliasAfter_imports_cases f.defineMetaAlias d with ⟨-, ha⟩ | ⟨i, hi, ha⟩
    · rw [ha]
      exact hf ht
    · rw [ha]
      rfl
  · rw [hg, ha]
    rfl

theorem mem_statementOutlines_iff {ss : List Statement} {n : Node} :
    n ∈ preorderAll (statementOutlines ss) ↔ ∃ t ∈ ss, n ∈ (Node.statement t).outline.preorder := by
  rw [statementOutlines_eq, List.map_map, preorderAll_map, List.mem_flatMap]
  rfl

theorem statementOutlines_subset {ss ts : List Statement} (h : ss ⊆ ts) :
    preorderAll (statementOutlines ss) ⊆ preorderAll (statementOutlines ts) := by
  intro n hn
  obtain ⟨t, ht, hn⟩ := mem_statementOutlines_iff.mp hn
  exact mem_statementOutlines_iff.mpr ⟨t, h ht, hn⟩

theorem statementOutlines_subset_script (s : ScriptBlock) :
    preorderAll (statementOutlines s.content.body) ⊆ s.outline.preorder := by
  intro n hn
  rw [ScriptBlock.outline, Program.outline, preorder, preorderAll, preorderAll, List.append_nil, preorder]
  exact List.mem_cons_of_mem _ (List.mem_cons_of_mem _ hn)

/-- The name for `defineMeta` after some statements, if it is imported under no other name. -/
theorem alias_foldlM {name : String} {ss : List Statement} {f g : ScriptFacts}
    (h : ss.foldlM (readStatement file package) f = .ok g)
    (hn : KnownOnlyAs package name (preorderAll (statementOutlines ss)))
    (hf : f.defineMetaAlias = some name) : g.defineMetaAlias = some name := by
  rw [foldlM_readStatement_eq, answer_eq_ok_iff] at h
  have halias := alias_walkAll file hn hf
  rwa [h] at halias

/-! ## Declarators at the top of a script -/

/-- Below a statement with variables stand its declarators, perhaps with the declaration above them. -/
theorem outline_of_variables {t : Statement} {v : VariableDeclaration} (hv : t.variables? = some v) :
    let declared := (Node.statement (.declaration v)).outline
    declared = .node (.statement (.declaration v)) (declaratorOutlines v.declarators) ∧
      ((Node.statement t).outline = declared ∨
        ∃ span s, (Node.statement t).outline = .node (.statement (.namedExport span s)) [declared]) := by
  obtain ⟨span, kind, bs⟩ := v
  unfold Statement.variables? at hv
  split at hv
  · cases hv
    exact ⟨rfl, Or.inl rfl⟩
  · cases hv
    exact ⟨rfl, Or.inr ⟨_, _, rfl⟩⟩
  · cases hv

/-- What is in the declarators of a statement is in the statement. -/
theorem preorderAll_subset_variables {t : Statement} {v : VariableDeclaration}
    (hv : t.variables? = some v) :
    preorderAll (declaratorOutlines v.declarators) ⊆ (Node.statement t).outline.preorder := by
  intro n hn
  obtain ⟨hdeclared, hbare | ⟨span, s, hexported⟩⟩ := outline_of_variables hv
  · rw [hbare, hdeclared, preorder]
    exact List.mem_cons_of_mem _ hn
  · rw [hexported, hdeclared, preorder, preorderAll, preorder]
    exact List.mem_cons_of_mem _ (List.mem_append_left _ (List.mem_cons_of_mem _ hn))

/-- The facts after a statement with variables are those after its declarators. -/
theorem readStatement_variables {t : Statement} {v : VariableDeclaration} (hv : t.variables? = some v)
    (f : ScriptFacts) : ∃ f', f'.defineMetaAlias = f.defineMetaAlias ∧
      f.readStatement file package t =
        answer (walkAll (visit file package) () f' (declaratorOutlines v.declarators)) := by
  have hdescend : ∀ f, walk (visit file package) () f
      (.node (.statement (.declaration v)) (declaratorOutlines v.declarators)) =
        walkAll (visit file package) () f (declaratorOutlines v.declarators) := fun f => rfl
  unfold readStatement
  obtain ⟨hdeclared, hbare | ⟨span, s, hexported⟩⟩ := outline_of_variables hv
  · rw [hbare, hdeclared, hdescend]
    exact ⟨f, rfl, rfl⟩
  · refine ⟨f.readExport s, (readExport_frame f s).1, ?_⟩
    have hwalk : walk (visit file package) () f (.node (.statement (.namedExport span s))
        [.node (.statement (.declaration v)) (declaratorOutlines v.declarators)]) =
        walkAll (visit file package) () (f.readExport s)
          [.node (.statement (.declaration v)) (declaratorOutlines v.declarators)] := rfl
    rw [hexported, hdeclared, hwalk, walkAll_singleton, hdescend]

/-- Declarators that are read without failure destructure `Story` if they call `defineMeta`. -/
theorem exists_defines_of_declarators {name : String} {bs : List Declarator} {f g : ScriptFacts}
    (h : answer (walkAll (visit file package) () f (declaratorOutlines bs)) = .ok g)
    (hn : KnownOnlyAs package name (preorderAll (declaratorOutlines bs)))
    (hf : f.defineMetaAlias = some name) {b : Declarator} (hb : b ∈ bs)
    (hc : b.calledName? = some name) : ∃ object story, b.Defines object story := by
  obtain ⟨first, second, rfl⟩ := List.append_of_mem hb
  rw [declaratorOutlines_eq, List.map_map] at h hn
  rw [answer_walkAll_map] at h
  obtain ⟨f₁, f₂, hfirst, hread, -⟩ := exists_of_foldlM_append h
  rw [← answer_walkAll_map, answer_eq_ok_iff] at hfirst
  rw [List.map_append, preorderAll_append] at hn
  have ha := alias_walkAll file (hn.mono (List.subset_append_left _ _)) hf
  rw [hfirst] at ha
  have hvisit : visit file package () (.declarator b) f₁ =
      f₁.settled (f₁.readDefineMeta file b.id (b.init.elim [] arguments)) := by
    rw [visit, readDeclarator_of_calls file ha hc]
  rw [Function.comp, Node.outline, walk, hvisit] at hread
  cases hdefine : f₁.readDefineMeta file b.id (b.init.elim [] arguments) with
  | error c =>
    rw [hdefine] at hread
    cases hread
  | ok f₃ =>
    obtain ⟨object, story, hdefines, -⟩ := exists_defines hc hdefine
    exact ⟨object, story, hdefines⟩

/-- Statements that are read without failure declare variables that destructure `Story` if they call `defineMeta`. -/
theorem exists_defines_of_statements {name : String} {ss : List Statement} {f g : ScriptFacts}
    (h : ss.foldlM (readStatement file package) f = .ok g)
    (hn : KnownOnlyAs package name (preorderAll (statementOutlines ss)))
    (hf : f.defineMetaAlias = some name) {t : Statement} (ht : t ∈ ss) {v : VariableDeclaration}
    (hv : t.variables? = some v) {b : Declarator} (hb : b ∈ v.declarators)
    (hc : b.calledName? = some name) : ∃ object story, b.Defines object story := by
  obtain ⟨between, later, rfl⟩ := List.append_of_mem ht
  obtain ⟨f₁, f₂, hbetween, hstatement, -⟩ := exists_of_foldlM_append h
  have hsubset : preorderAll (declaratorOutlines v.declarators) ⊆
      preorderAll (statementOutlines (between ++ t :: later)) := by
    intro n hn
    exact mem_statementOutlines_iff.mpr ⟨t, ht, preorderAll_subset_variables hv hn⟩
  have ha₁ := alias_foldlM hbetween (hn.mono (statementOutlines_subset (List.subset_append_left _ _))) hf
  obtain ⟨f₃, ha₃, hvariables⟩ := readStatement_variables hv f₁
  rw [hvariables] at hstatement
  exact exists_defines_of_declarators hstatement (hn.mono hsubset) (ha₃.trans ha₁) hb hc

/-- What is read at an import declaration at the top of a script, and after it. -/
theorem exists_readImport_of_resolve {r : Root} {f : ScriptFacts} (h : resolve file package r = .ok f)
    {s : ScriptBlock} (hs : s ∈ r.scripts) {before after : List Statement} {d : ImportDeclaration}
    (hbody : s.content.body = before ++ .imports d :: after) :
    ∃ f₀ f₁ f₂ : ScriptFacts, f₀.readImport file package d = .ok f₁ ∧
      after.foldlM (readStatement file package) f₁ = .ok f₂ := by
  rw [resolve_eq_foldlM] at h
  obtain ⟨first, second, hscripts⟩ := List.append_of_mem hs
  rw [hscripts] at h
  obtain ⟨g, g', -, hscript, -⟩ := exists_of_foldlM_append h
  rw [readScript, hbody] at hscript
  obtain ⟨f₀, f₁, -, hd, hafter⟩ := exists_of_foldlM_append hscript
  rw [readStatement_imports] at hd
  exact ⟨f₀, f₁, g', hd, hafter⟩

/-- **The facts of a document are coherent.** -/
theorem resolve_coheres {r : Root} {f : ScriptFacts} (h : resolve file package r = .ok f) :
    f.Coheres package r := by
  refine ⟨?_, definedOnce_of_resolve h, alias_of_resolve h, ?_⟩
  · intro s hs d hd
    obtain ⟨before, after, hbody⟩ := List.append_of_mem hd
    obtain ⟨f₀, f₁, -, hread, -⟩ := exists_readImport_of_resolve h hs hbody
    exact exists_readImport_iff.mp ⟨f₁, hread⟩
  · intro s hs before d after i hbody hi hname t ht v hv b hb hc
    obtain ⟨f₀, f₁, f₂, hread, hafter⟩ := exists_readImport_of_resolve h hs hbody
    have hbelow := hname.mono (statementOutlines_subset_script s)
    rw [hbody] at hbelow
    have hd : Node.statement (.imports d) ∈ preorderAll (statementOutlines (before ++ .imports d :: after)) :=
      mem_statementOutlines_iff.mpr ⟨.imports d, by simp, List.mem_cons_self⟩
    have hafter' : after ⊆ before ++ .imports d :: after := by
      intro u hu
      simp [hu]
    have ha : f₁.defineMetaAlias = some i.binding.name := by
      rw [alias_readImport hread]
      rcases aliasAfter_imports_cases f₀.defineMetaAlias d with ⟨hnone, -⟩ | ⟨j, hj, ha⟩
      · rw [hnone] at hi
        cases hi
      · rw [ha, hbelow j ⟨d, hd, hj⟩]
    exact exists_defines_of_statements hafter (hbelow.mono (statementOutlines_subset hafter')) ha ht hv hb hc

/-- The facts of a script that imports `defineMeta` as `a` and destructures `Story` as `S`. -/
theorem destructured_coheres :
    ∃ f, resolve "f" "p" (scripted [importMeta "a", destructure "a" "S"]) = .ok f ∧
      f.storyTag = some "S" ∧ f.Coheres "p" (scripted [importMeta "a", destructure "a" "S"]) := by
  obtain ⟨f, hf, ht⟩ : ∃ f, resolve "f" "p" (scripted [importMeta "a", destructure "a" "S"]) = .ok f ∧
    f.storyTag = some "S" := ⟨_, rfl, rfl⟩
  exact ⟨f, hf, ht, resolve_coheres hf⟩

end ScriptFacts

end StoryCatalog
