import Mathlib.Data.List.Flatten
import StoryCatalog.Proofs.Compiled.Inventories

/-!
# Which function is located

The located stories function is the first one that is declared under a name ending in `_stories`, wherever the walk
comes to it, and only without such a one the function that the default export names. So it is the exported function
unless another function under such a name is declared before it, or in place of it, or a block binds the exported
name again.

* `Program.bindings_eq`: what is bound to names, statement by statement.
* `lastBinding?_eq`: the last binding of a name that is bound once at the top.
* `exported_iff_located`: when the exported function is the located one.
* `helper_is_located`: a helper in a block is located in its place.
-/

namespace StoryCatalog

open Rose

/-- A name that ends as those of stories functions do. -/
def IsStoriesName (name : String) : Prop :=
  "_stories".toList <:+ name.toList

/-- The functions that a statement binds to names, in it and in what the walk reaches below it. -/
def Statement.bindings (t : Statement) : List (String × Function) :=
  t.reached.flatMap (·.bindings)

/-- The functions that a statement at the top of a module binds there, itself or in the declaration it exports. -/
def Statement.topBindings : Statement → List (String × Function)
  | .namedExport _ (some t) => (Node.statement t).bindings
  | t => (Node.statement t).bindings

/-- The function that is bound to a name last. -/
def boundLast? (name : String) (bs : List (String × Function)) : Option Function :=
  (bs.filter (·.1 == name)).getLast?.map (·.2)

namespace Program

/-- The functions that a module binds to names at its top. -/
def topBindings (p : Program) : List (String × Function) :=
  p.body.flatMap (·.topBindings)

/-- The functions that a module declares under a stories name. -/
def storiesFunctions (p : Program) : List Function :=
  p.declaredFunctions.filter Sighting.isStoriesFunction

/-- The function that a default export exports: the one it declares, or the one bound to the name it exports, if
this name is bound once at the top of the module. -/
inductive Exports (p : Program) (e : DefaultExport) (f : Function) : Prop
  | itself (h : e.declaration.function? = some f)
  | byName (i : Identifier) (hi : e.declaration.identifier? = some i)
      (hf : p.topBindings.filter (·.1 == i.name) = [(i.name, f)])

/-- A name is bound to a function at the top of a module, and to no other after that. -/
def KeepsBinding (p : Program) (name : String) (f : Function) : Prop :=
  ∃ before t after, p.body = before ++ t :: after ∧ (name, f) ∈ t.topBindings ∧
    ∀ g, boundLast? name (after.flatMap (·.bindings)) = some g → g = f

end Program

/-- A function has a stories name, or the name has by which it is exported. -/
def HasStoriesName (e : DefaultExport) (f : Function) : Prop :=
  (∃ name, f.name? = some name ∧ IsStoriesName name) ∨
    ∃ i, e.declaration.identifier? = some i ∧ IsStoriesName i.name

/-! ## Bindings -/

section

variable {name : String} {bs more : List (String × Function)}

theorem boundLast?_append : boundLast? name (bs ++ more) = (boundLast? name more).or (boundLast? name bs) := by
  rw [boundLast?, List.filter_append, List.getLast?_append, Option.map_or]
  rfl

theorem lookup_reverse_eq : bs.reverse.lookup name = boundLast? name bs := by
  induction bs using List.reverseRecOn with
  | nil => rfl
  | append_singleton bs b ih =>
    obtain ⟨other, f⟩ := b
    rw [boundLast?_append, List.reverse_append, List.reverse_singleton, List.singleton_append, List.lookup_cons, ih]
    by_cases h : name = other
    · simp [boundLast?, h]
    · have hne : (name == other) = false := beq_false_of_ne h
      have hen : (other == name) = false := beq_false_of_ne (Ne.symm h)
      simp [boundLast?, hne, hen]

end

/-- A node that binds functions to names is not gone through. -/
theorem skips_of_bindings {n : Node} (h : n.bindings ≠ []) : Sighting.skips n = true := by
  rcases n with _ | _ | _ | _ | _ | _ | t | _ | _ | e | _ | _ | _ | _
  case statement =>
    cases t with
    | declaration => rfl
    | function => rfl
    | defaultExport d =>
      cases hf : d.declaration.function? with
      | none => simp [hf] at h
      | some f => simp [Sighting.skips, hf]
    | _ => exact absurd rfl h
  case expression =>
    cases e with
    | function => rfl
    | _ => exact absurd rfl h
  all_goals exact absurd rfl h

/-- A statement that binds functions at the top binds no others below. -/
theorem Statement.bindings_eq_topBindings {t : Statement} (h : t.topBindings ≠ []) :
    t.bindings = t.topBindings := by
  have plain : ∀ u : Statement, (Node.statement u).bindings ≠ [] → u.bindings = (Node.statement u).bindings := by
    intro u hu
    rw [Statement.bindings, Statement.reached_of_skips (skips_of_bindings hu), List.flatMap_singleton]
  cases t with
  | namedExport span t =>
    cases t with
    | none => exact absurd rfl h
    | some t =>
      have hreached : (Statement.namedExport span (some t)).reached =
          .statement (.namedExport span (some t)) :: t.reached := Statement.reached_eq _
      rw [Statement.bindings, hreached]
      exact plain t h
  | _ => exact plain _ h

variable {file package : String} {p : Program}

/-- **What is bound to names**, statement by statement. -/
theorem Program.bindings_eq (p : Program) : p.bindings = p.body.flatMap (·.bindings) := by
  rw [Program.bindings, p.reached_eq, List.flatMap_cons, List.flatMap_assoc]
  rfl

/-- A statement that binds a name, which is bound once at the top, binds it to nothing else. -/
theorem Program.boundLast?_of_topBinding {name : String} {f : Function} {t : Statement}
    (h : p.topBindings.filter (·.1 == name) = [(name, f)]) (ht : t ∈ p.body) (hf : (name, f) ∈ t.topBindings) :
    boundLast? name t.bindings = some f := by
  have hsub : (t.topBindings.filter (·.1 == name)).Sublist [(name, f)] := by
    rw [← h, Program.topBindings, ← List.flatMap_singleton Statement.topBindings t]
    exact ((List.singleton_sublist.mpr ht).flatMap _).filter _
  have hmem : (name, f) ∈ t.topBindings.filter (·.1 == name) :=
    List.mem_filter.mpr ⟨hf, beq_self_eq_true name⟩
  rw [Statement.bindings_eq_topBindings (List.ne_nil_of_mem hf), boundLast?,
    hsub.eq_of_length_le (List.length_pos_of_mem hmem)]
  rfl

/-- **The last binding of a name** that is bound once at the top is that one if no statement after it binds the name
to another function. -/
theorem Program.boundLast?_eq_some_iff {name : String} {f : Function}
    (h : p.topBindings.filter (·.1 == name) = [(name, f)]) :
    boundLast? name p.bindings = some f ↔ p.KeepsBinding name f := by
  have split : ∀ {before t after}, p.body = before ++ t :: after → (name, f) ∈ t.topBindings →
      (boundLast? name p.bindings = some f ↔
        ∀ g, boundLast? name (after.flatMap (·.bindings)) = some g → g = f) := by
    intro before t after hbody hf
    have ht : t ∈ p.body := by
      rw [hbody]
      exact List.mem_append_right _ List.mem_cons_self
    rw [p.bindings_eq, hbody, List.flatMap_append, List.flatMap_cons, boundLast?_append, boundLast?_append,
      Program.boundLast?_of_topBinding h ht hf]
    cases boundLast? name (after.flatMap (·.bindings)) <;> simp
  constructor
  · intro hlast
    have hmem : (name, f) ∈ p.topBindings := by
      have hf : (name, f) ∈ p.topBindings.filter (·.1 == name) := by
        rw [h]
        exact List.mem_singleton_self _
      exact (List.mem_filter.mp hf).1
    obtain ⟨t, ht, hf⟩ := List.mem_flatMap.mp hmem
    obtain ⟨before, after, hbody⟩ := List.append_of_mem ht
    exact ⟨before, t, after, hbody, hf, (split hbody hf).mp hlast⟩
  · rintro ⟨before, t, after, hbody, hf, hafter⟩
    exact (split hbody hf).mpr hafter

/-- **When the exported function is the located one**: no other function is the first that is declared under a stories
name, and if none is declared under such a name, no statement after the one that binds the exported name binds it to
another function. -/
theorem exported_iff_located {x : CompiledParts} {e : DefaultExport} {f : Function}
    (h : p.locate file package = .ok x) (he : p.defaultExports = [e]) (hf : p.Exports e f) :
    x.storiesFunction = f ↔ (∀ g, p.storiesFunctions.head? = some g → g = f) ∧
      (p.storiesFunctions = [] → ∀ i, e.declaration.identifier? = some i → p.KeepsBinding i.name f) := by
  obtain ⟨-, -, hexport, hlocated⟩ := Program.locate_eq_ok_iff.mp h
  rw [he, List.getLast?_singleton, Option.some.injEq] at hexport
  rw [← hexport, Program.firstStories?, ← List.head?_filter] at hlocated
  change p.storiesFunctions.head?.or _ = _ at hlocated
  cases hs : p.storiesFunctions with
  | cons g gs =>
    rw [hs, List.head?_cons, Option.some_or, Option.some.injEq] at hlocated
    simp [hlocated]
  | nil =>
    rw [hs, List.head?_nil, Option.none_or, Option.bind_eq_some_iff] at hlocated
    obtain ⟨i, hi, hlast⟩ := hlocated
    rw [Program.lastBinding?, lookup_reverse_eq] at hlast
    cases hf with
    | itself hf =>
      -- An expression is not a name and a function at once.
      cases hd : e.declaration <;> simp [hd, Expression.identifier?, Expression.function?] at hi hf
    | byName j hj hf =>
      obtain rfl : i = j := Option.some.inj (hi.symm.trans hj)
      rw [hi, ← Option.some.injEq, ← hlast, Program.boundLast?_eq_some_iff hf]
      simp

/-! ## Small modules -/

/-- A function with this name, or none, that does nothing. -/
def idleFunction (name : Option String) : Function :=
  ⟨⟨0, 0⟩, name.map (⟨⟨0, 0⟩, ·⟩), [], .block ⟨0, 0⟩ []⟩

/-- A module with these statements after an import of `defineMeta` and a declaration that destructures its result. -/
def moduleWith (ts : List Statement) : Program :=
  ⟨⟨0, 0⟩, importMeta "a" :: destructure "a" "S" :: ts⟩

/-- A module that exports by name the arrow function it binds to a stories name, and declares a function that is no
stories function in a block. -/
def boundArrow : Program :=
  moduleWith [.declaration ⟨⟨0, 0⟩, "const", [⟨⟨0, 0⟩, .identifier ⟨⟨0, 0⟩, "X_stories"⟩,
    some (.function .arrow (idleFunction none))⟩]⟩,
    .block ⟨0, 0⟩ [.function (idleFunction (some "helper"))],
    .defaultExport ⟨⟨0, 0⟩, .identifier ⟨⟨0, 0⟩, "X_stories"⟩⟩]

/-- The arrow function is located. -/
theorem located_boundArrow :
    ∃ x, boundArrow.locate "f" "p" = .ok x ∧ x.storiesFunction = idleFunction none := by
  obtain ⟨x, hx⟩ : ∃ x, boundArrow.locate "f" "p" = .ok x := ⟨_, rfl⟩
  have hexport : boundArrow.defaultExports = [⟨⟨0, 0⟩, .identifier ⟨⟨0, 0⟩, "X_stories"⟩⟩] := rfl
  refine ⟨x, hx, (exported_iff_located hx hexport (.byName ⟨⟨0, 0⟩, "X_stories"⟩ rfl rfl)).mpr
    ⟨fun g hg => ?_, fun _ i hi => ?_⟩⟩
  · cases hg
  · cases hi
    refine ⟨[importMeta "a", destructure "a" "S"], _, _, rfl, List.mem_singleton_self _, fun g hg => ?_⟩
    cases hg

/-- A module with a helper under a stories name in a block before the function that it exports. -/
def helperInBlock : Program :=
  moduleWith [.block ⟨0, 0⟩ [.function (idleFunction (some "helper_stories"))],
    .defaultExport ⟨⟨0, 0⟩, .function .declaration (idleFunction (some "X_stories"))⟩]

/-- **The located function need not be the exported one**: a helper in a block is located in its place. -/
theorem helper_is_located :
    ¬ ∀ (p : Program) (file package : String) (x : CompiledParts) (e : DefaultExport) (f : Function),
      p.locate file package = .ok x → p.defaultExports = [e] → p.Exports e f → HasStoriesName e f →
        x.storiesFunction = f := by
  intro h
  have hname : IsStoriesName "X_stories" := ⟨['X'], rfl⟩
  have hlocated := h helperInBlock "f" "p" _ _ _ rfl rfl (.itself rfl) (Or.inl ⟨"X_stories", rfl, hname⟩)
  have hnames : some "helper_stories" = some "X_stories" := congrArg Function.name? hlocated
  exact absurd hnames (by decide)

end StoryCatalog
