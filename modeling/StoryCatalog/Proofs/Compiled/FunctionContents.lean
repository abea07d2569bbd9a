import StoryCatalog.Proofs.Compiled.StoriesFunctions
import StoryCatalog.Proofs.Tree.Refilling

/-!
# Function contents do not matter

The walk through a compiled module enters no function and tells functions by their names. So it sees in a refilled
module what it sees in the module, refilled: the import and the identifier of `Story` are the same, and the
declaration, the default export and the stories function are the same ones with other function contents.

* `Sighting.see_refill`: one step of the walk.
* `Sighting.parts_refill`: the parts of what has been seen.
* `Program.locate_refill`: the parts of a refilled module.
* `contents_change_nothing`: modules that differ in function contents only.
-/

namespace StoryCatalog

open Rose

/-- The parts of a module with other function contents. -/
def CompiledParts.refill (g : Function → FunctionContents) (x : CompiledParts) : CompiledParts :=
  ⟨x.defineMetaImport, x.defineMetaDeclaration.refill g, x.storyIdentifier, x.defaultExport.refill g,
    x.storiesFunction.refill g⟩

/-- What has been seen of a module with other function contents. -/
def Sighting.refill (g : Function → FunctionContents) (s : Sighting) : Sighting :=
  ⟨s.defineMetaImport, s.defineMetaDeclaration.map (·.refill g), s.storyIdentifier,
    s.defaultExport.map (·.refill g), s.storiesFunction.map (·.refill g), s.bindings.map (Prod.map id (·.refill g))⟩

section

variable (g : Function → FunctionContents)

/-! ## What the walk looks at -/

theorem Expression.function?_refill (e : Expression) : (e.refill g).function? = e.function?.map (·.refill g) := by
  cases e <;> rfl

theorem Expression.identifier?_refill (e : Expression) : (e.refill g).identifier? = e.identifier? := by
  cases e <;> rfl

theorem Expression.keyName?_refill (e : Expression) : (e.refill g).keyName? = e.keyName? := by
  cases e <;> rfl

theorem Expression.calleeName?_refill (e : Expression) : (e.refill g).calleeName? = e.calleeName? := by
  cases e with
  | call _ callee _ => rw [Expression.refill, calleeName?, calleeName?, callee.identifier?_refill]
  | _ => rfl

theorem Pattern.identifier?_refill (p : Pattern) : (p.refill g).identifier? = p.identifier? := by
  cases p <;> rfl

theorem PatternMember.binding?_refill (name : String) (ms : List PatternMember) :
    binding? name (ms.map (·.refill g)) = binding? name ms := by
  have hmember : ∀ m : PatternMember, (m.refill g).bindingOf? name = m.bindingOf? name := by
    intro m
    cases m with
    | property _ key value _ _ =>
      rw [PatternMember.refill, bindingOf?, bindingOf?, key.keyName?_refill, value.identifier?_refill]
    | rest => rfl
  rw [binding?, List.findSome?_map]
  exact congrArg (List.findSome? · ms) (funext hmember)

theorem DefaultExport.declaration_refill (d : DefaultExport) : (d.refill g).declaration = d.declaration.refill g := by
  cases d
  rfl

namespace Sighting

variable {package : String}

theorem skips_refill (n : Node) : skips (n.refill g) = skips n := by
  cases n with
  | statement t =>
    cases t with
    | defaultExport d =>
      have hskips : skips (Node.refill g (.statement (.defaultExport d))) =
          (d.refill g).declaration.function?.isSome := rfl
      rw [hskips, d.declaration_refill, d.declaration.function?_refill, Option.isSome_map]
      rfl
    | namedExport _ t => cases t <;> rfl
    | _ => rfl
  | expression e => cases e <;> rfl
  | _ => rfl

theorem skips_of_isFunction {n : Node} (h : n.isFunction = true) : skips n = true := by
  cases n with
  | statement t =>
    cases t with
    | function => rfl
    | _ => cases h
  | expression e =>
    cases e with
    | function => rfl
    | _ => cases h
  | _ => cases h

/-! ## What the walk sees -/

theorem sawStories_refill (s : Sighting) (f : Function) :
    (s.refill g).sawStories (f.refill g) = (s.sawStories f).refill g := by
  have hnone : (s.refill g).storiesFunction.isNone = s.storiesFunction.isNone := Option.isNone_map
  have hname : isStoriesFunction (f.refill g) = isStoriesFunction f := rfl
  unfold sawStories
  rw [hnone, hname]
  split <;> rfl

theorem sawFunction_refill (s : Sighting) (f : Function) :
    (s.refill g).sawFunction (f.refill g) = (s.sawFunction f).refill g := by
  have hname : (f.refill g).name? = f.name? := rfl
  rw [sawFunction_eq, sawFunction_eq, hname]
  cases f.name? with
  | none => exact sawStories_refill g s f
  | some name => exact sawStories_refill g (s.bind name f) f

theorem callsDefineMeta_refill (s : Sighting) (e : Expression) :
    (s.refill g).callsDefineMeta (e.refill g) = s.callsDefineMeta e := by
  unfold callsDefineMeta
  rw [e.calleeName?_refill]
  rfl

theorem sawDeclarator_refill (d : VariableDeclaration) (s : Sighting) (b : Declarator) :
    sawDeclarator (d.refill g) (s.refill g) (b.refill g) = (sawDeclarator d s b).refill g := by
  obtain ⟨span, id, init⟩ := b
  cases init with
  | none => cases id <;> rfl
  | some e =>
    cases id with
    | identifier i =>
      simp only [sawDeclarator, Declarator.refill, Pattern.refill, refillOptional, e.function?_refill]
      cases e.function? <;> rfl
    | object patternSpan members =>
      simp only [sawDeclarator, Declarator.refill, Pattern.refill, refillOptional, callsDefineMeta_refill,
        refillPatternMembers_eq, PatternMember.binding?_refill]
      split <;> rfl
    | _ => rfl

theorem sawVariables_refill (s : Sighting) (d : VariableDeclaration) :
    (s.refill g).sawVariables (d.refill g) = (s.sawVariables d).refill g := by
  have hdeclarators : (d.refill g).declarators = d.declarators.map (·.refill g) := by
    cases d
    exact refillDeclarators_eq g _
  rw [sawVariables, hdeclarators, sawVariables, List.foldl_map]
  generalize d.declarators = bs
  induction bs generalizing s with
  | nil => rfl
  | cons b bs ih => rw [List.foldl_cons, List.foldl_cons, sawDeclarator_refill, ih]

/-- **One step of the walk** does in a refilled module what it does in the module. -/
theorem see_refill (s : Sighting) (n : Node) :
    see package (s.refill g) (n.refill g) = (see package s n).refill g := by
  rcases n with _ | _ | _ | _ | _ | _ | t | _ | _ | e | _ | _ | _ | _
  case statement =>
    cases t with
    | imports d =>
      have hleft : see package (s.refill g) (Node.refill g (.statement (.imports d))) =
          (s.refill g).sawImport package d := rfl
      have hright : see package s (.statement (.imports d)) = s.sawImport package d := rfl
      rw [hleft, hright, sawImport_eq, sawImport_eq]
      rfl
    | declaration d => exact sawVariables_refill g s d
    | namedExport _ t => cases t <;> rfl
    | function f => exact sawFunction_refill g s f
    | defaultExport d =>
      have hleft : Node.refill g (.statement (.defaultExport d)) = .statement (.defaultExport (d.refill g)) := rfl
      rw [hleft, see, see, visit_defaultExport, visit_defaultExport, d.declaration_refill,
        d.declaration.function?_refill]
      cases d.declaration.function? with
      | none => rfl
      | some f => exact sawFunction_refill g { s with defaultExport := some d } f
    | _ => rfl
  case expression =>
    cases e with
    | function form f =>
      cases form with
      | declaration => exact sawFunction_refill g s f
      | _ => rfl
    | _ => rfl
  all_goals rfl

theorem foldl_see_refill (s : Sighting) (ns : List Node) :
    (ns.map (·.refill g)).foldl (see package) (s.refill g) = (ns.foldl (see package) s).refill g := by
  induction ns generalizing s with
  | nil => rfl
  | cons n ns ih => rw [List.map_cons, List.foldl_cons, List.foldl_cons, see_refill, ih]

/-! ## The parts -/

theorem require_map {α β : Type} (file : String) (node : CompiledNode) (o : Option α) (f : α → β) :
    require file node (o.map f) = f <$> require file node o := by
  cases o <;> rfl

theorem exportedFunction?_refill (s : Sighting) (d : DefaultExport) :
    (s.refill g).exportedFunction? (d.refill g) = (s.exportedFunction? d).map (·.refill g) := by
  have hlookup : ∀ (bs : List (String × Function)) (name : String),
      (bs.map (Prod.map id (·.refill g))).lookup name = (bs.lookup name).map (·.refill g) := by
    intro bs name
    induction bs with
    | nil => rfl
    | cons b bs ih =>
      rw [List.map_cons, List.lookup_cons, List.lookup_cons, ih]
      have hname : (name == (Prod.map id (·.refill g) b : String × Function).1) = (name == b.1) := rfl
      rw [hname]
      cases name == b.1 <;> rfl
  rw [exportedFunction?, exportedFunction?, d.declaration_refill, d.declaration.identifier?_refill]
  cases d.declaration.identifier? with
  | none => rfl
  | some i => exact hlookup s.bindings i.name

/-- **The parts of what has been seen** of a refilled module. -/
theorem parts_refill (file : String) (s : Sighting) :
    (s.refill g).parts file = (·.refill g) <$> s.parts file := by
  have hfunction : ∀ d, (s.refill g).storiesFunction.or ((s.refill g).exportedFunction? (d.refill g)) =
      (s.storiesFunction.or (s.exportedFunction? d)).map (·.refill g) := by
    intro d
    rw [exportedFunction?_refill, Option.map_or]
    rfl
  have himport : (s.refill g).defineMetaImport = s.defineMetaImport := rfl
  have hdeclaration : (s.refill g).defineMetaDeclaration = s.defineMetaDeclaration.map (·.refill g) := rfl
  have hstory : (s.refill g).storyIdentifier = s.storyIdentifier := rfl
  have hexport : (s.refill g).defaultExport = s.defaultExport.map (·.refill g) := rfl
  unfold parts
  simp only [himport, hdeclaration, hstory, hexport, require_map, bind_map_left, map_bind, map_pure, hfunction]
  rfl

end Sighting

/-- **The parts of a refilled module** are its parts, refilled. -/
theorem Program.locate_refill (file package : String) (p : Program) :
    (p.refill g).locate file package = (p.locate file package).map (·.refill g) := by
  have hreach := (Node.program p).reach_refill g (Sighting.skips_refill g)
    (fun _ => Sighting.skips_of_isFunction) rfl
  have hwalk : (p.refill g).outline.walk (Sighting.visit package) () .nothing =
      ((p.outline.walk (Sighting.visit package) () .nothing).1.refill g, none) := by
    have hleft : reachAll Sighting.skips [(p.refill g).outline] = (p.outline.reach Sighting.skips).map (·.refill g) :=
      (List.append_nil _).trans hreach
    have hright : reachAll Sighting.skips [p.outline] = p.outline.reach Sighting.skips := List.append_nil _
    rw [Sighting.walk_visit, Sighting.walk_visit, hleft, hright]
    exact Prod.ext (Sighting.foldl_see_refill g .nothing _) rfl
  unfold locate
  rw [hwalk]
  exact Sighting.parts_refill g file _

end

/-! ## Contents left out -/

/-- A module with nothing in its functions. -/
def Program.hollow (p : Program) : Program :=
  p.refill fun _ => ⟨[], .unknown⟩

/-- The parts of a module with nothing in its functions. -/
def CompiledParts.hollow (x : CompiledParts) : CompiledParts :=
  x.refill fun _ => ⟨[], .unknown⟩

/-- **Function contents do not matter.** If the contents of the functions in a module are replaced, its parts are the
same ones, with these contents replaced, or the same part is missing. Two modules that differ in function contents
only have parts that differ in function contents only, or lack the same part. -/
theorem contents_change_nothing (file package : String) (p : Program) :
    (∀ g : Function → FunctionContents,
        (p.refill g).locate file package = (p.locate file package).map (·.refill g)) ∧
      ∀ q : Program, q.hollow = p.hollow →
        (q.locate file package).map (·.hollow) = (p.locate file package).map (·.hollow) := by
  refine ⟨fun g => p.locate_refill g file package, fun q h => ?_⟩
  have hp := p.locate_refill (fun _ => ⟨[], .unknown⟩) file package
  have hq := q.locate_refill (fun _ => ⟨[], .unknown⟩) file package
  exact hq.symm.trans ((congrArg (·.locate file package) h).trans hp)

/-- A module whose default export is a stories function with these contents. -/
def moduleOf (contents : FunctionContents) : Program :=
  moduleWith [.defaultExport ⟨⟨0, 0⟩, .function .declaration
    ⟨⟨0, 0⟩, some ⟨⟨0, 0⟩, "X_stories"⟩, contents.params, contents.body⟩⟩]

/-- Contents that import `defineMeta` again, destructure its result again and declare another stories function. -/
def misleadingContents : FunctionContents :=
  ⟨[.identifier ⟨⟨0, 0⟩, "X_stories"⟩], .block ⟨0, 0⟩ [importMeta "b", destructure "b" "T",
    .function (idleFunction (some "Y_stories"))]⟩

/-- Such contents mislead no one. -/
theorem locate_misleadingContents :
    ((moduleOf misleadingContents).locate "f" "p").map (·.hollow) =
      ((moduleOf ⟨[], .block ⟨0, 0⟩ []⟩).locate "f" "p").map (·.hollow) :=
  (contents_change_nothing "f" "p" _).2 _ rfl

end StoryCatalog
