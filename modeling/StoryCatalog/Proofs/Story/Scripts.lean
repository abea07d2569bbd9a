import StoryCatalog.Story.ScriptFacts
import StoryCatalog.Proofs.Tree.Contents
import StoryCatalog.Proofs.Tree.Imports
import StoryCatalog.Proofs.Tree.SideBySide

/-!
# Reading the scripts of a document

What the scripts of a document say is read off the statements of the module script and then off those of the
instance script, one after the other. The markup is left out, whatever it holds.

* `resolve_eq_of_scripts`: what the scripts say does not depend on the markup.
* `resolve_of_file`: nor does it depend on the file.
* `resolve_eq_foldlM`: the scripts are read statement by statement.
* `exists_readImport_iff`: which import declarations are accepted.
* `readImport_withNames`: they concern the imported names only.
* `readDeclarator_cases`: which declarators say something.
-/

namespace StoryCatalog

open Rose

/-- The script regions of a document, in the order of a walk. -/
def Root.scripts (r : Root) : List ScriptBlock :=
  r.moduleScript.toList ++ r.instanceScript.toList

/-- A document without markup whose module script has these statements. -/
def scripted (ss : List Statement) : Root :=
  ⟨⟨0, 0⟩, ⟨[]⟩, none, some ⟨⟨0, 0⟩, .perModule, ⟨⟨0, 0⟩, ss⟩⟩⟩

/-- The names that the exports of the story package are imported under. -/
structure ImportedNames where
  defineMeta : Option String
  story : Option String
  metaTag : Option String

namespace ScriptFacts

variable {file package : String}

/-! ## Regions -/

/-- The outlines of the script regions of a document. -/
def regions (r : Root) : List (Rose Node) :=
  r.scripts.map (·.outline)

theorem walk_outline_eq (file package : String) (r : Root) (f : ScriptFacts) :
    r.outline.walk (visit file package) () f = walkAll (visit file package) () f (regions r) := by
  -- The fragment comes last and is left out, whatever it holds.
  have markup : ∀ g, walkAll (visit file package) () g [r.fragment.outline] = (g, .none) := fun _ => rfl
  have houtline : r.outline.walk (visit file package) () f =
      walkAll (visit file package) () f (regions r ++ [r.fragment.outline]) := by
    rw [regions, Root.scripts, List.map_append]
    rfl
  rw [houtline, walkAll_append]
  rcases walkAll (visit file package) () f (regions r) with ⟨g, _ | c⟩
  · exact markup g
  · rfl

/-- What the scripts of a document say is what a walk through them answers. -/
theorem resolve_eq_answer (file package : String) (r : Root) :
    resolve file package r = answer (walkAll (visit file package) () ScriptFacts.none (regions r)) := by
  unfold resolve
  rw [walk_outline_eq]
  rcases walkAll (visit file package) () ScriptFacts.none (regions r) with ⟨f, _ | c⟩ <;> rfl

/-- What the scripts of a document say does not depend on its markup. -/
theorem resolve_eq_of_scripts (file package : String) {r r' : Root}
    (hm : r'.moduleScript = r.moduleScript) (hi : r'.instanceScript = r.instanceScript) :
    resolve file package r' = resolve file package r := by
  rw [resolve_eq_answer, resolve_eq_answer, regions, Root.scripts, hm, hi]
  rfl

/-! ## Statements -/

/-- The facts after a statement. -/
def readStatement (file package : String) (f : ScriptFacts) (s : Statement) : Except Failure ScriptFacts :=
  answer ((Node.statement s).outline.walk (visit file package) () f)

/-- The facts after a script. -/
def readScript (file package : String) (f : ScriptFacts) (s : ScriptBlock) : Except Failure ScriptFacts :=
  s.content.body.foldlM (readStatement file package) f

theorem foldlM_readStatement_eq (f : ScriptFacts) (ss : List Statement) :
    ss.foldlM (readStatement file package) f = answer (walkAll (visit file package) () f (statementOutlines ss)) := by
  rw [statementOutlines_eq, List.map_map, answer_walkAll_map]
  rfl

theorem answer_walk_script (f : ScriptFacts) (s : ScriptBlock) :
    answer (s.outline.walk (visit file package) () f) = f.readScript file package s := by
  have hscript : s.outline.walk (visit file package) () f =
      walkAll (visit file package) () f [s.content.outline] := rfl
  have hprogram : s.content.outline.walk (visit file package) () f =
      walkAll (visit file package) () f (statementOutlines s.content.body) := rfl
  rw [hscript, walkAll_singleton, hprogram, readScript, foldlM_readStatement_eq]

/-- **The scripts are read statement by statement.** -/
theorem resolve_eq_foldlM (file package : String) (r : Root) :
    resolve file package r = r.scripts.foldlM (readScript file package) ScriptFacts.none := by
  rw [resolve_eq_answer, regions, answer_walkAll_map]
  simp only [answer_walk_script]

theorem readStatement_imports (f : ScriptFacts) (d : ImportDeclaration) :
    f.readStatement file package (.imports d) = f.readImport file package d := by
  have hvisit : visit file package () (.statement (.imports d)) f = f.settled (f.readImport file package d) := rfl
  rw [readStatement, Node.outline, walk, hvisit]
  cases f.readImport file package d <;> rfl

/-! ## Imports -/

theorem exists_readClause_named (file package : String) (f : ScriptFacts) (i : ImportSpecifier) :
    ∃ g, f.readClause file package (.named i) = .ok g := by
  simp only [readClause]
  split <;> exact ⟨_, rfl⟩

theorem exists_foldlM_readClause_iff {f : ScriptFacts} {cs : List ImportClause} :
    (∃ g, cs.foldlM (readClause file package) f = .ok g) ↔ ∀ c ∈ cs, ∃ i, c = .named i := by
  induction cs generalizing f with
  | nil => simp [pure, Except.pure]
  | cons c cs ih =>
    rw [List.foldlM_cons, List.forall_mem_cons]
    cases c with
    | named i =>
      obtain ⟨g, hg⟩ := exists_readClause_named file package f i
      rw [hg]
      simp only [ImportClause.named.injEq, exists_eq', true_and]
      exact ih
    | defaultExport span i => simp [readClause, bind, Except.bind]
    | wholeModule span i => simp [readClause, bind, Except.bind]

/-- **An import declaration is accepted** if it names what it imports, or imports from elsewhere. -/
theorem exists_readImport_iff {f : ScriptFacts} {d : ImportDeclaration} :
    (∃ g, f.readImport file package d = .ok g) ↔
      (d.source.text? = some package → ∀ c ∈ d.clauses, ∃ i, c = .named i) := by
  unfold readImport
  by_cases hs : d.source.text? = some package
  · rw [if_pos hs, exists_foldlM_readClause_iff]
    simp [hs]
  · simp [hs]

/-- The name for `defineMeta` after a clause. -/
theorem alias_readClause {f g : ScriptFacts} {c : ImportClause} (h : f.readClause file package c = .ok g) :
    g.defineMetaAlias = ((Sighting.definesMeta? c).map (·.binding.name)).or f.defineMetaAlias := by
  cases c with
  | named i =>
    simp only [readClause] at h
    split at h
    all_goals
      cases h
      simp_all [Sighting.definesMeta?]
  | defaultExport span i => cases h
  | wholeModule span i => cases h

theorem alias_foldlM_readClause {f g : ScriptFacts} {cs : List ImportClause}
    (h : cs.foldlM (readClause file package) f = .ok g) :
    g.defineMetaAlias =
      ((cs.filterMap Sighting.definesMeta?).getLast?.map (·.binding.name)).or f.defineMetaAlias := by
  induction cs generalizing f with
  | nil =>
    cases h
    rfl
  | cons c cs ih =>
    rw [List.foldlM_cons] at h
    obtain ⟨f', hc, hcs⟩ := exists_of_bind h
    rw [ih hcs, alias_readClause hc]
    cases hd : Sighting.definesMeta? c with
    | none => rw [List.filterMap_cons_none hd, Option.map_none, Option.none_or]
    | some i =>
      rw [List.filterMap_cons_some hd, List.getLast?_cons, Option.map_some, Option.map_some, Option.some_or,
        Option.some_or]
      cases (cs.filterMap Sighting.definesMeta?).getLast? <;> rfl

/-- The name for `defineMeta` after an import declaration. -/
theorem alias_readImport {f g : ScriptFacts} {d : ImportDeclaration}
    (h : f.readImport file package d = .ok g) :
    g.defineMetaAlias = aliasAfter package f.defineMetaAlias [.imports d] := by
  unfold readImport at h
  rw [aliasAfter_imports, ImportDeclaration.metaSpecifiers]
  by_cases hs : d.source.text? = some package
  · rw [if_pos hs] at h
    rw [if_pos hs]
    exact alias_foldlM_readClause h
  · rw [if_neg hs] at h
    cases h
    rw [if_neg hs]
    rfl

/-! ## Imported names -/

/-- The facts with other imported names. -/
def withNames (f : ScriptFacts) (g : ImportedNames) : ScriptFacts :=
  { f with defineMetaAlias := g.defineMeta, legacyStoryTag := g.story, legacyMetaTag := g.metaTag }

/-- The imported names among the facts. -/
def importedNames (f : ScriptFacts) : ImportedNames :=
  ⟨f.defineMetaAlias, f.legacyStoryTag, f.legacyMetaTag⟩

theorem withNames_importedNames (f : ScriptFacts) : f.withNames f.importedNames = f := rfl

/-- The imported names after an import declaration. -/
def learnImport (file package : String) (g : ImportedNames) (d : ImportDeclaration) :
    Except Failure ImportedNames :=
  ((none.withNames g).readImport file package d).map importedNames

theorem readClause_withNames (f : ScriptFacts) (g : ImportedNames) (c : ImportClause) :
    (f.withNames g).readClause file package c =
      ((none.withNames g).readClause file package c).map fun x => f.withNames x.importedNames := by
  cases c with
  | named i =>
    simp only [readClause]
    split <;> rfl
  | _ => rfl

theorem foldlM_readClause_withNames (f : ScriptFacts) (g : ImportedNames) (cs : List ImportClause) :
    cs.foldlM (readClause file package) (f.withNames g) =
      (cs.foldlM (readClause file package) (none.withNames g)).map fun x => f.withNames x.importedNames := by
  induction cs generalizing g with
  | nil => rfl
  | cons c cs ih =>
    have hnone : (none.withNames g).readClause file package c = _ := readClause_withNames none g c
    rw [List.foldlM_cons, List.foldlM_cons, readClause_withNames f g c]
    cases hc : (none.withNames g).readClause file package c with
    | error e => rfl
    | ok x =>
      rw [hc] at hnone
      rw [show x = none.withNames x.importedNames from Except.ok.inj hnone]
      exact ih x.importedNames

/-- **An import declaration concerns the imported names only.** -/
theorem readImport_withNames (f : ScriptFacts) (g : ImportedNames) (d : ImportDeclaration) :
    (f.withNames g).readImport file package d = (learnImport file package g d).map f.withNames := by
  unfold learnImport readImport
  by_cases hs : d.source.text? = some package
  · rw [if_pos hs, if_pos hs, foldlM_readClause_withNames]
    cases d.clauses.foldlM (readClause file package) (none.withNames g) <;> rfl
  · rw [if_neg hs, if_neg hs]
    rfl

theorem readImport_eq_ok {f g : ScriptFacts} {d : ImportDeclaration}
    (h : f.readImport file package d = .ok g) : g = f.withNames g.importedNames := by
  rw [← withNames_importedNames f, readImport_withNames] at h
  cases hl : learnImport file package f.importedNames d with
  | error c =>
    rw [hl] at h
    cases h
  | ok names =>
    rw [hl] at h
    cases h
    rfl

/-! ## Declarators -/

variable {f : ScriptFacts} {b : Declarator} {name : String}

/-- A declarator that calls `defineMeta` by the name it is known under has to define the stories. -/
theorem readDeclarator_of_calls (file : String) (ha : f.defineMetaAlias = some name)
    (hb : b.calledName? = some name) :
    f.readDeclarator file b = some (f.readDefineMeta file b.id (b.init.elim [] arguments)) := by
  obtain ⟨e, he, hc⟩ := Declarator.calledName?_eq_some_iff.mp hb
  simp [readDeclarator, callsDefineMeta, he, hc, ha]

/-- Any other declarator says nothing. -/
theorem readDeclarator_of_not_calls (file : String)
    (h : ∀ n, b.calledName? = some n → f.defineMetaAlias ≠ some n) :
    f.readDeclarator file b = .none := by
  unfold readDeclarator
  cases he : b.init with
  | none => rfl
  | some e =>
    have hcalls : f.callsDefineMeta e = false := by
      cases ha : f.defineMetaAlias with
      | none => simp [callsDefineMeta, ha]
      | some n =>
        have hne : e.calleeName? ≠ some n := by
          intro hc
          exact h n (Declarator.calledName?_eq_some_iff.mpr ⟨e, he, hc⟩) ha
        simp [callsDefineMeta, ha, hne]
    simp [hcalls]

/-- **Which declarators say something**: those that call `defineMeta` by the name it is known under. -/
theorem readDeclarator_cases (file : String) (f : ScriptFacts) (b : Declarator) :
    (∃ n, f.defineMetaAlias = some n ∧ b.calledName? = some n ∧
      f.readDeclarator file b = some (f.readDefineMeta file b.id (b.init.elim [] arguments))) ∨
    (∀ n, b.calledName? = some n → f.defineMetaAlias ≠ some n) ∧ f.readDeclarator file b = .none := by
  by_cases h : ∃ n, f.defineMetaAlias = some n ∧ b.calledName? = some n
  · obtain ⟨n, ha, hb⟩ := h
    exact Or.inl ⟨n, ha, hb, readDeclarator_of_calls file ha hb⟩
  · have hn : ∀ n, b.calledName? = some n → f.defineMetaAlias ≠ some n := fun n hb ha => h ⟨n, ha, hb⟩
    exact Or.inr ⟨hn, readDeclarator_of_not_calls file hn⟩

/-! ## Files -/

theorem readClause_of_file (file' : String) {f g : ScriptFacts} {c : ImportClause}
    (h : f.readClause file package c = .ok g) : f.readClause file' package c = .ok g := by
  cases c with
  | named i => exact h
  | _ => cases h

theorem readImport_of_file (file' : String) {f g : ScriptFacts} {d : ImportDeclaration}
    (h : f.readImport file package d = .ok g) : f.readImport file' package d = .ok g := by
  unfold readImport at h ⊢
  split at h
  · rename_i hs
    rw [if_pos hs]
    generalize d.clauses = clauses at h
    induction clauses generalizing f with
    | nil => exact h
    | cons c clauses ih =>
      rw [List.foldlM_cons] at h ⊢
      obtain ⟨f', hc, h⟩ := exists_of_bind h
      rw [readClause_of_file file' hc]
      exact ih h
  · rename_i hs
    rw [if_neg hs]
    exact h

theorem readDefineMeta_of_file (file' : String) {f g : ScriptFacts} {id : Pattern} {es : List Expression}
    (h : f.readDefineMeta file id es = .ok g) : f.readDefineMeta file' id es = .ok g := by
  unfold readDefineMeta at h ⊢
  split at h
  · split at h
    · cases h
    · split at h
      · cases h
      · exact h
  · cases h

/-- A visitor that does not stop at a node does there what it does for any other file. -/
theorem visit_of_file (file' : String) (k : Unit) (n : Node) (f : ScriptFacts)
    (h : ∀ c, (visit file package k n f).2 ≠ .stop c) : visit file' package k n f = visit file package k n f := by
  cases n with
  | statement s =>
    cases s with
    | imports d =>
      rw [visit] at h
      rw [visit, visit]
      cases hd : f.readImport file package d with
      | error c =>
        rw [hd] at h
        exact absurd rfl (h c)
      | ok g => rw [readImport_of_file file' hd]
    | _ => rfl
  | declarator b =>
    rw [visit] at h
    rw [visit, visit]
    rcases readDeclarator_cases file f b with ⟨name, ha, hb, hread⟩ | ⟨hn, hread⟩
    · rw [hread] at h
      rw [hread, readDeclarator_of_calls file' ha hb]
      cases hd : f.readDefineMeta file b.id (b.init.elim [] arguments) with
      | error c =>
        rw [hd] at h
        exact absurd rfl (h c)
      | ok g => rw [readDefineMeta_of_file file' hd]
    · rw [hread, readDeclarator_of_not_calls file' hn]
  | _ => rfl

/-- **What the scripts of a document say** is the same whichever file they stand in. -/
theorem resolve_of_file (file' : String) {r : Root} {f : ScriptFacts} (h : resolve file package r = .ok f) :
    resolve file' package r = .ok f := by
  rw [resolve_eq_answer, answer_eq_ok_iff] at h ⊢
  exact walkAll_of_unstopped (visit_of_file file') h

end ScriptFacts

end StoryCatalog
