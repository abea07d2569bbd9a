import StoryCatalog.Proofs.Compiled.Sightings
import StoryCatalog.Proofs.Tree.Hoisting

/-!
# Compiled modules with hoisted imports

The walk through a compiled module learns one import of `defineMeta` and reads every other statement by its
name. So hoisting the imports of a module changes nothing if no statement that an import from the package overtakes
destructures the result of what the one import names and not the other, or holds such an import.

* `see_alike`: what is seen of a node that is read alike.
* `sightReader`: the walk as a pass over the statements of a module.
* `locate_hoisted`: the parts of a module with hoisted imports.
-/

namespace StoryCatalog

open Rose

/-- A compiled module with the import declarations moved to the front. -/
def Program.hoisted (p : Program) : Program :=
  { p with body := hoistImports p.body }

/-- Whether a declarator has an object pattern. -/
def Declarator.isObject (b : Declarator) : Bool :=
  match b.id with
  | .object .. => true
  | _ => false

/-- What the walk looks at when it comes to a node: the node, and the declarators of a declaration that have object
patterns. -/
def Node.inspected : Node → List Node
  | .statement (.declaration d) =>
    .statement (.declaration d) :: (d.declarators.filter (·.isObject)).map .declarator
  | n => [n]

/-- What the walk looks at in a statement. -/
def Statement.inspected (t : Statement) : List Node :=
  (reachAll Sighting.skips [(Node.statement t).outline]).flatMap (·.inspected)

/-- What the walk looks at in a statement that an import from the package overtakes is read alike before and
after. -/
def Program.Hoistable (package : String) (p : Program) : Prop :=
  StoryCatalog.Hoistable package (·.inspected) none p.body

namespace Sighting

variable {package : String}

/-- What has been seen, with another import. -/
def withImport (s : Sighting) (g : Option ImportSpecifier) : Sighting :=
  { s with defineMetaImport := g }

/-- The name of an import. -/
def importName (g : Option ImportSpecifier) : Option String :=
  g.map (·.binding.name)

/-- The import after an import declaration. -/
def learnImport (package : String) (g : Option ImportSpecifier) (d : ImportDeclaration) :
    Option ImportSpecifier :=
  (d.metaSpecifiers package).getLast?.or g

/-! ## A node -/

theorem callsDefineMeta_withImport_iff {s : Sighting} {g : Option ImportSpecifier} {e : Expression} :
    (s.withImport g).callsDefineMeta e = true ↔ ∃ n, e.calleeName? = some n ∧ importName g = some n := by
  rw [callsDefineMeta_iff]
  constructor
  · rintro ⟨i, hi, he⟩
    exact ⟨i.binding.name, he, congrArg importName hi⟩
  · rintro ⟨n, he, hn⟩
    obtain ⟨i, hi, rfl⟩ := Option.map_eq_some_iff.mp hn
    exact ⟨i, hi, he⟩

theorem sawStories_withImport (s : Sighting) (g : Option ImportSpecifier) (f : Function) :
    (s.withImport g).sawStories f = (s.sawStories f).withImport g := by
  have hstories : (s.withImport g).storiesFunction = s.storiesFunction := rfl
  unfold sawStories
  rw [hstories]
  by_cases hs : (s.storiesFunction.isNone && isStoriesFunction f) = true
  · rw [if_pos hs, if_pos hs]
    rfl
  · rw [if_neg hs, if_neg hs]

theorem sawFunction_withImport (s : Sighting) (g : Option ImportSpecifier) (f : Function) :
    (s.withImport g).sawFunction f = (s.sawFunction f).withImport g := by
  rw [sawFunction_eq, sawFunction_eq]
  cases f.name? with
  | none => exact sawStories_withImport s g f
  | some name => exact sawStories_withImport (s.bind name f) g f

/-- A declarator with an object pattern has to be read alike, any other is. -/
theorem sawDeclarator_alike {g h : Option ImportSpecifier} {b : Declarator}
    (hb : b.isObject = true → ∀ n, b.calledName? = some n → (importName g = some n ↔ importName h = some n))
    (d : VariableDeclaration) (s : Sighting) :
    ∃ s' : Sighting, sawDeclarator d (s.withImport g) b = s'.withImport g ∧
      sawDeclarator d (s.withImport h) b = s'.withImport h := by
  obtain ⟨span, id, init⟩ := b
  cases init with
  | none => exact ⟨s, by cases id <;> rfl, by cases id <;> rfl⟩
  | some e =>
    cases id with
    | object patternSpan members =>
      have hcalls : (s.withImport g).callsDefineMeta e = (s.withImport h).callsDefineMeta e := by
        rw [Bool.eq_iff_iff, callsDefineMeta_withImport_iff, callsDefineMeta_withImport_iff]
        refine exists_congr fun n => and_congr_right fun he => ?_
        exact hb rfl n he
      unfold sawDeclarator
      simp only [hcalls]
      by_cases hc : (s.withImport h).callsDefineMeta e = true
      · simp only [hc, if_true]
        exact ⟨{ s with
          defineMetaDeclaration := some d
          storyIdentifier := PatternMember.binding? "Story" members }, rfl, rfl⟩
      · simp only [hc]
        exact ⟨s, rfl, rfl⟩
    | identifier i =>
      simp only [sawDeclarator]
      cases e.function? with
      | none => exact ⟨s, rfl, rfl⟩
      | some f => exact ⟨s.bind i.name f, rfl, rfl⟩
    | _ => exact ⟨s, rfl, rfl⟩

theorem sawDeclarators_alike {g h : Option ImportSpecifier} {bs : List Declarator}
    (hbs : ∀ b ∈ bs, b.isObject = true → ∀ n, b.calledName? = some n →
      (importName g = some n ↔ importName h = some n))
    (d : VariableDeclaration) (s : Sighting) :
    ∃ s' : Sighting, bs.foldl (sawDeclarator d) (s.withImport g) = s'.withImport g ∧
      bs.foldl (sawDeclarator d) (s.withImport h) = s'.withImport h := by
  induction bs generalizing s with
  | nil => exact ⟨s, rfl, rfl⟩
  | cons b bs ih =>
    obtain ⟨hb, hbs⟩ := List.forall_mem_cons.mp hbs
    obtain ⟨s₁, hg, hh⟩ := sawDeclarator_alike hb d s
    rw [List.foldl_cons, List.foldl_cons, hg, hh]
    exact ih hbs s₁

/-- **What is seen of a node that is read alike** does not depend on the import. -/
theorem see_alike {g h : Option ImportSpecifier} {n : Node}
    (hn : ∀ m ∈ n.inspected, m.ReadsAlike package (importName g) (importName h)) (s : Sighting) :
    ∃ s' : Sighting, see package (s.withImport g) n = s'.withImport g ∧
      see package (s.withImport h) n = s'.withImport h := by
  rcases n with _ | _ | _ | _ | _ | _ | t | _ | _ | e | _ | _ | _ | _
  case statement =>
    cases t with
    | imports d =>
      have hd := metaSpecifiers_of_other (hn _ List.mem_cons_self)
      refine ⟨s, ?_, ?_⟩ <;> simp [see, visit, sawImport_eq, hd, withImport]
    | declaration d =>
      refine sawDeclarators_alike (fun b hb ho => ?_) d s
      exact hn _ (List.mem_cons_of_mem _ (List.mem_map_of_mem (List.mem_filter.mpr ⟨hb, ho⟩)))
    | function f => exact ⟨s.sawFunction f, sawFunction_withImport s g f, sawFunction_withImport s h f⟩
    | defaultExport d =>
      rw [see, see, visit_defaultExport, visit_defaultExport]
      cases d.declaration.function? with
      | none => exact ⟨{ s with defaultExport := some d }, rfl, rfl⟩
      | some f =>
        refine ⟨{ s with defaultExport := some d }.sawFunction f, ?_, ?_⟩
        · exact sawFunction_withImport { s with defaultExport := some d } g f
        · exact sawFunction_withImport { s with defaultExport := some d } h f
    | _ => exact ⟨s, rfl, rfl⟩
  case expression =>
    cases e with
    | function form f =>
      cases form with
      | declaration => exact ⟨s.sawFunction f, sawFunction_withImport s g f, sawFunction_withImport s h f⟩
      | _ => exact ⟨s, rfl, rfl⟩
    | _ => exact ⟨s, rfl, rfl⟩
  all_goals exact ⟨s, rfl, rfl⟩

theorem foldl_see_alike {g h : Option ImportSpecifier} {ns : List Node}
    (hns : ∀ m ∈ ns.flatMap (·.inspected), m.ReadsAlike package (importName g) (importName h))
    (s : Sighting) :
    ∃ s' : Sighting, ns.foldl (see package) (s.withImport g) = s'.withImport g ∧
      ns.foldl (see package) (s.withImport h) = s'.withImport h := by
  induction ns generalizing s with
  | nil => exact ⟨s, rfl, rfl⟩
  | cons n ns ih =>
    rw [List.flatMap_cons, List.forall_mem_append] at hns
    obtain ⟨hn, hns⟩ := hns
    obtain ⟨s₁, hg, hh⟩ := see_alike hn s
    rw [List.foldl_cons, List.foldl_cons, hg, hh]
    exact ih hns s₁

/-! ## A module -/

/-- What has been seen after a statement. -/
def seeStatement (package : String) (s : Sighting) (t : Statement) : Except Empty Sighting :=
  answer ((Node.statement t).outline.walk (visit package) () s)

theorem seeStatement_eq (s : Sighting) (t : Statement) :
    seeStatement package s t =
      .ok ((reachAll skips [(Node.statement t).outline]).foldl (see package) s) := by
  rw [seeStatement, walk_visit]
  rfl

/-- **The walk through a compiled module** as a pass over its statements that learns an import. -/
def sightReader (package : String) :
    ImportReader package Sighting (Option ImportSpecifier) Empty where
  read := seeStatement package
  names := defineMetaImport
  put := withImport
  learn := fun g d => .ok (learnImport package g d)
  known := importName
  met := (·.inspected)
  put_names := fun s => rfl
  read_imports := by
    intro s g d
    have hwalk : seeStatement package (s.withImport g) (.imports d) =
        .ok ((s.withImport g).sawImport package d) := rfl
    rw [hwalk, sawImport_eq]
    rfl
  learn_other := by
    intro g d hd
    rw [learnImport, metaSpecifiers_of_other hd]
    rfl
  known_learn := by
    intro g d h hl
    cases hl
    rw [aliasAfter_imports, learnImport, importName, Option.map_or]
    rfl
  read_alike := by
    intro g h t _ ht s
    obtain ⟨s', hg, hh⟩ := foldl_see_alike ht s
    exact Or.inr ⟨s', by rw [seeStatement_eq, hg], by rw [seeStatement_eq, hh]⟩

theorem answer_walk_outline (package : String) (p : Program) :
    answer (p.outline.walk (visit package) () nothing) =
      p.body.foldlM (seeStatement package) nothing := by
  have hprogram : p.outline.walk (visit package) () nothing =
      walkAll (visit package) () nothing (statementOutlines p.body) := rfl
  rw [hprogram, statementOutlines_eq, List.map_map, answer_walkAll_map]
  rfl

theorem exists_learnAll_sight (package : String) (g : Option ImportSpecifier) (ss : List Statement) :
    ∃ h, (sightReader package).learnAll g ss = .ok h := by
  cases hl : (sightReader package).learnAll g ss with
  | error e => exact e.elim
  | ok h => exact ⟨h, rfl⟩

end Sighting

/-- **The parts of a compiled module** are the same with its imports hoisted, or the same part is missing. -/
theorem locate_hoisted {file package : String} {p : Program} (h : p.Hoistable package) :
    p.hoisted.locate file package = p.locate file package := by
  obtain ⟨g, hg⟩ := Sighting.exists_learnAll_sight package none p.body
  have hbody := ImportReader.foldlM_hoistImports (R := Sighting.sightReader package)
    (x := Sighting.nothing) h hg
  have hanswer : answer (p.hoisted.outline.walk (Sighting.visit package) () .nothing) =
      answer (p.outline.walk (Sighting.visit package) () .nothing) := by
    rw [Sighting.answer_walk_outline, Sighting.answer_walk_outline]
    exact hbody
  rw [Sighting.walk_visit, Sighting.walk_visit] at hanswer
  unfold Program.locate
  rw [Sighting.walk_visit, Sighting.walk_visit]
  exact congrArg (Sighting.parts file) (Except.ok.inj hanswer)

end StoryCatalog
