import StoryCatalog.Proofs.Story.Scripts
import StoryCatalog.Proofs.Tree.Hoisting

/-!
# Scripts with hoisted imports

The reading of a script learns names from import declarations and reads every other statement by the name for
`defineMeta`. So hoisting the imports of a script changes nothing if no statement that an import from the package
overtakes is read by that name, or holds such an import.

* `statementReader`: the reading of a script as a pass over its statements.
* `readScript_hoisted`: a script that is hoistable where reading comes to it says the same with hoisted imports.
* `resolve_hoisted`: what the scripts of a document say, with the imports of each script hoisted.
-/

namespace StoryCatalog

open Rose

/-- A script region with the import declarations moved to the front. -/
def ScriptBlock.hoisted (s : ScriptBlock) : ScriptBlock :=
  { s with content := { s.content with body := hoistImports s.content.body } }

/-- A document with the import declarations of each script moved to the front. -/
def Root.hoisted (r : Root) : Root :=
  { r with
    instanceScript := r.instanceScript.map (·.hoisted)
    moduleScript := r.moduleScript.map (·.hoisted) }

theorem Root.scripts_hoisted (r : Root) : r.hoisted.scripts = r.scripts.map (·.hoisted) := by
  unfold Root.scripts Root.hoisted
  rw [List.map_append, Option.toList_map, Option.toList_map]

namespace ScriptFacts

variable {file package : String}

/-! ## A statement -/

theorem readDefineMeta_withNames (f : ScriptFacts) (g : ImportedNames) (id : Pattern)
    (es : List Expression) :
    (f.withNames g).readDefineMeta file id es = (f.readDefineMeta file id es).map (·.withNames g) := by
  unfold readDefineMeta
  split
  · split
    · rfl
    · split <;> rfl
  · rfl

theorem readExport_withNames (f : ScriptFacts) (g : ImportedNames) (s : Option Statement) :
    (f.withNames g).readExport s = (f.readExport s).withNames g := by
  unfold readExport
  split <;> rfl

theorem readCall_withNames (f : ScriptFacts) (g : ImportedNames) (e : Expression) :
    (f.withNames g).readCall e = (f.readCall e).withNames g := by
  unfold readCall
  split
  · split <;> rfl
  · rfl

/-- Two facts differ in the imported names only. -/
def DifferInNames (g h : ImportedNames) (x y : ScriptFacts) : Prop :=
  ∃ f : ScriptFacts, x = f.withNames g ∧ y = f.withNames h

/-- **A node that is read alike** is read alike by facts that differ in the imported names only. -/
theorem visit_inStep {g h : ImportedNames} {n : Node} (hn : n.ReadsAlike package g.defineMeta h.defineMeta) :
    InStep (DifferInNames g h) (visit file package) (visit file package) n := by
  rintro k x y ⟨f, rfl, rfl⟩
  rcases n with _ | _ | _ | _ | _ | _ | t | _ | b | e | _ | _ | _ | _
  case statement =>
    cases t with
    | imports d =>
      have hd : ∀ f, readImport file package f d = .ok f := fun f => if_neg hn
      simp only [visit, hd, settled, and_true]
      exact ⟨f, rfl, rfl⟩
    | namedExport span s =>
      simp only [visit, readExport_withNames, and_true]
      exact ⟨f.readExport s, rfl, rfl⟩
    | _ => exact ⟨⟨f, rfl, rfl⟩, rfl⟩
  case declarator =>
    rcases readDeclarator_cases file (f.withNames g) b with ⟨name, hg, hb, hread⟩ | ⟨hg, hread⟩
    · have hread' := readDeclarator_of_calls (f := f.withNames h) file ((hn name hb).mp hg) hb
      simp only [visit, hread, hread', readDefineMeta_withNames]
      cases f.readDefineMeta file b.id (b.init.elim [] arguments) with
      | error c => exact ⟨⟨f, rfl, rfl⟩, rfl⟩
      | ok f' => exact ⟨⟨f', rfl, rfl⟩, rfl⟩
    · have hh : ∀ name, b.calledName? = some name → (f.withNames h).defineMetaAlias ≠ some name :=
        fun name hb hh => hg name hb ((hn name hb).mpr hh)
      simp only [visit, hread, readDeclarator_of_not_calls file hh, and_true]
      exact ⟨f, rfl, rfl⟩
  case expression =>
    simp only [visit, readCall_withNames, and_true]
    exact ⟨f.readCall e, rfl, rfl⟩
  all_goals exact ⟨⟨f, rfl, rfl⟩, rfl⟩

/-- A statement that is read alike has the same effect on facts that differ in the imported names only, or is
refused for the same cause. -/
theorem readStatement_alike {g h : ImportedNames} {s : Statement}
    (hs : ∀ n ∈ (Node.statement s).outline.preorder, n.ReadsAlike package g.defineMeta h.defineMeta)
    (f : ScriptFacts) :
    (∃ c, (f.withNames g).readStatement file package s = .error c ∧
      (f.withNames h).readStatement file package s = .error c) ∨
    ∃ f' : ScriptFacts, (f.withNames g).readStatement file package s = .ok (f'.withNames g) ∧
      (f.withNames h).readStatement file package s = .ok (f'.withNames h) := by
  have hevery : Every (InStep (DifferInNames g h) (visit file package) (visit file package))
      [(Node.statement s).outline] := by
    intro n hn
    rw [preorderAll, preorderAll, List.append_nil] at hn
    exact visit_inStep (hs n hn)
  have hdiffer : DifferInNames g h (f.withNames g) (f.withNames h) := ⟨f, rfl, rfl⟩
  have hwalk := walk_inStep hevery () hdiffer
  unfold readStatement
  rcases hx : (Node.statement s).outline.walk (visit file package) () (f.withNames g) with ⟨x, o⟩
  rcases hy : (Node.statement s).outline.walk (visit file package) () (f.withNames h) with ⟨y, o'⟩
  rw [hx, hy] at hwalk
  obtain ⟨⟨f', hxf, hyf⟩, ho⟩ := hwalk
  simp only at hxf hyf ho
  subst hxf hyf ho
  cases o with
  | none => exact Or.inr ⟨f', rfl, rfl⟩
  | some c => exact Or.inl ⟨c, rfl, rfl⟩

/-- **The reading of a script** as a pass over its statements that learns names from imports. -/
def statementReader (file package : String) : ImportReader package ScriptFacts ImportedNames Failure where
  read := readStatement file package
  names := importedNames
  put := withNames
  learn := learnImport file package
  known := ImportedNames.defineMeta
  met := fun s => (Node.statement s).outline.preorder
  put_names := withNames_importedNames
  read_imports := by
    intro f g d
    rw [readStatement_imports, readImport_withNames]
  learn_other := by
    intro g d hd
    rw [learnImport, readImport, if_neg hd]
    rfl
  known_learn := by
    intro g d h hl
    unfold learnImport at hl
    cases hr : (none.withNames g).readImport file package d with
    | error c =>
      rw [hr] at hl
      cases hl
    | ok f =>
      rw [hr] at hl
      cases hl
      exact alias_readImport hr
  read_alike := fun g h s _ hs f => readStatement_alike hs f

/-! ## A script -/

/-- The imports of a script that is read without failure can be learned from in any state. -/
theorem exists_learnAll {ss : List Statement} {f f' : ScriptFacts}
    (h : ss.foldlM (readStatement file package) f = .ok f') (g : ImportedNames) :
    ∃ g', (statementReader file package).learnAll g ss = .ok g' := by
  have haccepted : ∀ d ∈ ss.filterMap (·.import?), d.source.text? = some package →
      ∀ c ∈ d.clauses, ∃ i, c = .named i := by
    intro d hd
    obtain ⟨s, hs, hsd⟩ := List.mem_filterMap.mp hd
    obtain rfl := Statement.import?_eq_some_iff.mp hsd
    obtain ⟨before, after, rfl⟩ := List.append_of_mem hs
    obtain ⟨f₀, f₁, -, hread, -⟩ := exists_of_foldlM_append h
    rw [readStatement_imports] at hread
    exact exists_readImport_iff.mp ⟨f₁, hread⟩
  unfold ImportReader.learnAll
  generalize ss.filterMap (·.import?) = ds at haccepted
  induction ds generalizing g with
  | nil => exact ⟨g, rfl⟩
  | cons d ds ih =>
    obtain ⟨hd, hds⟩ := List.forall_mem_cons.mp haccepted
    obtain ⟨f₁, hf₁⟩ := exists_readImport_iff (f := none.withNames g).mpr hd
    have hlearn : learnImport file package g d = .ok f₁.importedNames := by
      rw [learnImport, hf₁]
      rfl
    rw [List.foldlM_cons]
    change ∃ g', (learnImport file package g d >>= _) = .ok g'
    rw [hlearn]
    exact ih f₁.importedNames hds

/-- A script is hoistable where the facts are `f`: what is met of a statement that an import from the package
overtakes is read alike before and after. -/
def Hoistable (package : String) (f : ScriptFacts) (s : ScriptBlock) : Prop :=
  StoryCatalog.Hoistable package (fun t => (Node.statement t).outline.preorder) f.defineMetaAlias
    s.content.body

/-- **A script with hoisted imports** says what the script says, or both fail. -/
theorem readScript_hoisted {f : ScriptFacts} {s : ScriptBlock} (h : f.Hoistable package s) :
    (f.readScript file package s.hoisted).toOption = (f.readScript file package s).toOption := by
  cases hl : (statementReader file package).learnAll f.importedNames s.content.body with
  | ok g =>
    have hh := ImportReader.foldlM_hoistImports (R := statementReader file package) (x := f) h hl
    exact congrArg Except.toOption hh
  | error c =>
    have hc : f.readScript file package s.hoisted = .error c :=
      ImportReader.foldlM_hoistImports_of_error (R := statementReader file package) (x := f) hl
    rw [hc]
    cases hr : f.readScript file package s with
    | error c' => rfl
    | ok f' =>
      obtain ⟨g', hg'⟩ := exists_learnAll hr f.importedNames
      rw [hl] at hg'
      cases hg'

end ScriptFacts

/-! ## A document -/

/-- Each script of a document is hoistable where reading comes to it. -/
def Root.Hoistable (file package : String) (r : Root) : Prop :=
  ∀ before s after, r.scripts = before ++ s :: after →
    ∀ f, before.foldlM (ScriptFacts.readScript file package) .none = .ok f → f.Hoistable package s

/-- **What the scripts of a document say** is the same with the imports of each script hoisted, or both readings
fail. -/
theorem resolve_hoisted {file package : String} {r : Root} (h : r.Hoistable file package) :
    (ScriptFacts.resolve file package r.hoisted).toOption = (ScriptFacts.resolve file package r).toOption := by
  rw [ScriptFacts.resolve_eq_foldlM, ScriptFacts.resolve_eq_foldlM, Root.scripts_hoisted]
  exact toOption_foldlM_map fun before s after hs f hf =>
    ScriptFacts.readScript_hoisted (h before s after hs f hf)

end StoryCatalog
