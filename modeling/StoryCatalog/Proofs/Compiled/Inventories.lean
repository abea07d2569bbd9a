import Mathlib.Data.List.Induction
import StoryCatalog.Proofs.Compiled.Sightings

/-!
# The inventory of a compiled module

The walk through a compiled module keeps the last import of `defineMeta`, the last declarator that is given its
result, the last default export, the first function that is declared under a stories name, and every function that
gets a name. So what has been seen of a module can be read off five lists.

* `mem_definitionsFrom_iff`: which declarators are given the result of `defineMeta`.
* `Inventory.see`: what a node adds to what has been seen.
* `Program.reached_eq`: what the walk reaches, statement by statement.
* `Program.inventory`: what has been seen of a compiled module.
* `Sighting.parts_eq_ok_iff`: when all five parts have been found.
* `Program.locate_eq_ok_iff`: the parts of a compiled module, read off its inventory.
-/

namespace StoryCatalog

open Rose

/-! ## The lists -/

/-- What a compiled module mentions: that `defineMeta` is imported, or a declarator of a declaration. -/
inductive Mention where
  | imports (i : ImportSpecifier)
  | declares (d : VariableDeclaration) (b : Declarator)

/-- The import that is mentioned. -/
def Mention.import? : Mention → Option ImportSpecifier
  | imports i => some i
  | declares .. => none

/-- The last import among some mentions. -/
def lastImport (ms : List Mention) : Option ImportSpecifier :=
  (ms.filterMap (·.import?)).getLast?

/-- What a node mentions. -/
def Node.mentions (package : String) : Node → List Mention
  | .statement (.imports d) => (d.metaSpecifiers package).map .imports
  | .statement (.declaration d) => d.declarators.map (.declares d)
  | _ => []

/-- What a compiled module mentions where the walk goes, in its order. -/
def Program.mentions (package : String) (p : Program) : List Mention :=
  (reachAll Sighting.skips [p.outline]).flatMap (·.mentions package)

/-- The default export that a node is. -/
@[simp] def Node.defaultExport? : Node → Option DefaultExport
  | .statement (.defaultExport d) => some d
  | _ => none

/-- The function that a node declares or exports. -/
@[simp] def Node.declaredFunction? : Node → Option Function
  | .statement (.function f) => some f
  | .statement (.defaultExport d) => d.declaration.function?
  | .expression (.function .declaration f) => some f
  | _ => none

/-- A function with its name. -/
def Function.named? (f : Function) : Option (String × Function) :=
  f.name?.map (·, f)

/-- The name and the function that a declarator binds to it. -/
def Declarator.bound? (b : Declarator) : Option (String × Function) :=
  match b.id, b.init with
  | .identifier i, some e => e.function?.map (i.name, ·)
  | _, _ => none

/-- The functions that a node binds to names, in order. -/
@[simp] def Node.bindings : Node → List (String × Function)
  | .statement (.declaration d) => d.declarators.filterMap (·.bound?)
  | n => (n.declaredFunction?.bind (·.named?)).toList

/-- The pattern of a declarator that destructures the result of what an import names. -/
def Declarator.definedBy? (b : Declarator) (g : Option ImportSpecifier) : Option (List PatternMember) :=
  match b.id with
  | .object _ members => if g.any (b.calledName? == some ·.binding.name) then some members else none
  | _ => none

/-- The declarations with a declarator that destructures the result of what the last import before it names, each
with the pattern. Before the first mention the last import is `g`. -/
def definitionsFrom (g : Option ImportSpecifier) : List Mention → List (VariableDeclaration × List PatternMember)
  | [] => []
  | .imports i :: ms => definitionsFrom (some i) ms
  | .declares d b :: ms => ((b.definedBy? g).map (d, ·)).toList ++ definitionsFrom g ms

/-- What the walk through a compiled module reaches in a statement, in its order. -/
def Statement.reached (t : Statement) : List Node :=
  reachAll Sighting.skips [(Node.statement t).outline]

namespace Program

/-- What the walk through a compiled module reaches, in its order. -/
def reached (p : Program) : List Node :=
  reachAll Sighting.skips [p.outline]

/-- The declarations that destructure the result of `defineMeta`, each with the pattern. -/
def definitions (package : String) (p : Program) : List (VariableDeclaration × List PatternMember) :=
  definitionsFrom none (p.mentions package)

/-- The default exports of a compiled module. -/
def defaultExports (p : Program) : List DefaultExport :=
  p.reached.filterMap (·.defaultExport?)

/-- The functions that a compiled module declares or exports. -/
def declaredFunctions (p : Program) : List Function :=
  p.reached.filterMap (·.declaredFunction?)

/-- The functions that a compiled module binds to names. -/
def bindings (p : Program) : List (String × Function) :=
  p.reached.flatMap (·.bindings)

end Program

/-! ## Mentions -/

section

variable {ms more : List Mention} {i : ImportSpecifier}

theorem lastImport_append : lastImport (ms ++ more) = (lastImport more).or (lastImport ms) := by
  rw [lastImport, List.filterMap_append, List.getLast?_append]
  rfl

theorem lastImport_imports (is : List ImportSpecifier) : lastImport (is.map .imports) = is.getLast? := by
  rw [lastImport, List.filterMap_map]
  exact congrArg List.getLast? List.filterMap_some

theorem mem_of_lastImport (h : lastImport ms = some i) : .imports i ∈ ms := by
  obtain ⟨m, hm, hi⟩ := List.mem_filterMap.mp (List.mem_of_getLast? h)
  cases m with
  | imports j =>
    cases hi
    exact hm
  | declares d b => cases hi

end

/-! ## Definitions -/

theorem Declarator.definedBy?_eq_some_iff {b : Declarator} {g : Option ImportSpecifier}
    {members : List PatternMember} :
    b.definedBy? g = some members ↔ ∃ i, g = some i ∧ b.Destructures i.binding.name members := by
  unfold Declarator.definedBy? Declarator.Destructures
  cases b.id with
  | object span ms =>
    cases g with
    | none => simp
    | some i => simp [and_comm]
  | _ => simp

theorem definitionsFrom_append (g : Option ImportSpecifier) (ms more : List Mention) :
    definitionsFrom g (ms ++ more) =
      definitionsFrom g ms ++ definitionsFrom ((lastImport ms).or g) more := by
  induction ms generalizing g with
  | nil => rfl
  | cons m ms ih =>
    have hlast : lastImport (m :: ms) = (lastImport ms).or m.import? := by
      rw [← List.singleton_append, lastImport_append]
      cases m <;> rfl
    rw [List.cons_append, hlast]
    cases m with
    | imports i =>
      rw [definitionsFrom, definitionsFrom, ih, Option.or_assoc]
      rfl
    | declares d b =>
      rw [definitionsFrom, definitionsFrom, ih, Option.or_assoc, List.append_assoc]
      rfl

theorem definitionsFrom_imports (g : Option ImportSpecifier) (is : List ImportSpecifier) :
    definitionsFrom g (is.map .imports) = [] := by
  induction is generalizing g with
  | nil => rfl
  | cons i is ih => exact ih (some i)

/-- **Which declarators are given the result of `defineMeta`**: those that call it by the name of the last import
before them. -/
theorem mem_definitionsFrom_iff {ms : List Mention} {d : VariableDeclaration} {members : List PatternMember} :
    (d, members) ∈ definitionsFrom none ms ↔
      ∃ before b after i, ms = before ++ .declares d b :: after ∧ lastImport before = some i ∧
        b.Destructures i.binding.name members := by
  induction ms using List.reverseRecOn with
  | nil => simp [definitionsFrom]
  | append_singleton ms m ih =>
    rw [definitionsFrom_append, List.mem_append, ih, Option.or_none]
    constructor
    · rintro (⟨before, b, after, i, rfl, hi, hb⟩ | hm)
      · exact ⟨before, b, after ++ [m], i, by simp, hi, hb⟩
      · cases m with
        | imports j => cases hm
        | declares d' b =>
          simp only [definitionsFrom, List.append_nil, Option.mem_toList, Option.map_eq_some_iff,
            Prod.mk.injEq] at hm
          obtain ⟨members', hb, rfl, rfl⟩ := hm
          obtain ⟨i, hi, hb⟩ := Declarator.definedBy?_eq_some_iff.mp hb
          exact ⟨ms, b, [], i, rfl, hi, hb⟩
    · rintro ⟨before, b, after, i, hms, hi, hb⟩
      -- The declarator is the last mention, or it stands among those before it.
      rcases List.eq_nil_or_concat after with rfl | ⟨after, m', rfl⟩
      · obtain ⟨rfl, hm⟩ := List.append_inj' hms rfl
        obtain rfl := (List.cons.inj hm).1
        right
        simp [definitionsFrom, Declarator.definedBy?_eq_some_iff.mpr ⟨i, hi, hb⟩]
      · rw [List.concat_eq_append, ← List.cons_append, ← List.append_assoc] at hms
        obtain ⟨rfl, -⟩ := List.append_inj' hms rfl
        exact Or.inl ⟨before, b, after, i, rfl, hi, hb⟩

namespace Sighting

variable {package : String} {s : Sighting}

/-! ## What the handlers add -/

theorem sawDeclarator_of_defined {b : Declarator} {members : List PatternMember}
    (h : b.definedBy? s.defineMetaImport = some members) (d : VariableDeclaration) :
    sawDeclarator d s b =
      { s with defineMetaDeclaration := some d, storyIdentifier := PatternMember.binding? "Story" members } := by
  obtain ⟨i, hi, ⟨span, hid⟩, hc⟩ := Declarator.definedBy?_eq_some_iff.mp h
  obtain ⟨e, he, hname⟩ := Declarator.calledName?_eq_some_iff.mp hc
  have hcalls : s.callsDefineMeta e = true := callsDefineMeta_iff.mpr ⟨i, hi, hname⟩
  simp only [sawDeclarator, hid, he, hcalls, if_true]

theorem sawDeclarator_of_not_defined {b : Declarator} (h : b.definedBy? s.defineMetaImport = none)
    (d : VariableDeclaration) :
    sawDeclarator d s b = { s with bindings := b.bound?.toList ++ s.bindings } := by
  obtain ⟨span, id, init⟩ := b
  cases init with
  | none => cases id <;> rfl
  | some e =>
    cases id with
    | identifier i =>
      simp only [sawDeclarator, Declarator.bound?]
      cases e.function? <;> rfl
    | object patternSpan members =>
      have hcalls : s.callsDefineMeta e = false := by
        rw [Bool.eq_false_iff, Ne, callsDefineMeta_iff]
        rintro ⟨i, hi, hname⟩
        have hb : Declarator.Destructures ⟨span, .object patternSpan members, some e⟩ i.binding.name members :=
          ⟨⟨patternSpan, rfl⟩, hname⟩
        rw [Declarator.definedBy?_eq_some_iff.mpr ⟨i, hi, hb⟩] at h
        cases h
      simp only [sawDeclarator, hcalls]
      rfl
    | _ => rfl

/-! ## The inventory -/

/-- What has been seen is what was mentioned, exported, declared and bound to names. -/
structure Inventory (ms : List Mention) (es : List DefaultExport) (fs : List Function)
    (bs : List (String × Function)) (s : Sighting) : Prop where
  defineMetaImport : s.defineMetaImport = lastImport ms
  defineMetaDeclaration : s.defineMetaDeclaration = (definitionsFrom none ms).getLast?.map (·.1)
  storyIdentifier : s.storyIdentifier =
    (definitionsFrom none ms).getLast?.bind fun x => PatternMember.binding? "Story" x.2
  defaultExport : s.defaultExport = es.getLast?
  storiesFunction : s.storiesFunction = fs.find? isStoriesFunction
  bindings : s.bindings = bs.reverse

namespace Inventory

variable {ms : List Mention} {es : List DefaultExport} {fs : List Function} {bs : List (String × Function)}

theorem nothing : Inventory [] [] [] [] Sighting.nothing :=
  ⟨rfl, rfl, rfl, rfl, rfl, rfl⟩

theorem sawImport (h : Inventory ms es fs bs s) (d : ImportDeclaration) :
    Inventory (ms ++ (d.metaSpecifiers package).map .imports) es fs bs (s.sawImport package d) := by
  have hdefinitions : definitionsFrom none (ms ++ (d.metaSpecifiers package).map .imports) =
      definitionsFrom none ms := by
    rw [definitionsFrom_append, definitionsFrom_imports, List.append_nil]
  rw [sawImport_eq]
  refine { h with defineMetaImport := ?_, defineMetaDeclaration := ?_, storyIdentifier := ?_ }
  · rw [lastImport_append, lastImport_imports, ← h.defineMetaImport]
  · rw [hdefinitions, ← h.defineMetaDeclaration]
  · rw [hdefinitions, ← h.storyIdentifier]

theorem sawDeclarator (h : Inventory ms es fs bs s) (d : VariableDeclaration) (b : Declarator) :
    Inventory (ms ++ [.declares d b]) es fs (bs ++ b.bound?.toList) (Sighting.sawDeclarator d s b) := by
  have hlast : lastImport (ms ++ [.declares d b]) = lastImport ms := lastImport_append
  have hdefinitions : definitionsFrom none (ms ++ [.declares d b]) =
      definitionsFrom none ms ++ ((b.definedBy? s.defineMetaImport).map (d, ·)).toList := by
    rw [definitionsFrom_append, Option.or_none, ← h.defineMetaImport, definitionsFrom, definitionsFrom,
      List.append_nil]
  cases hb : b.definedBy? s.defineMetaImport with
  | some members =>
    have hbound : b.bound? = none := by
      obtain ⟨i, -, ⟨span, hid⟩, -⟩ := Declarator.definedBy?_eq_some_iff.mp hb
      unfold Declarator.bound?
      rw [hid]
    rw [hb, Option.map_some, Option.toList_some] at hdefinitions
    rw [sawDeclarator_of_defined hb, hbound, Option.toList_none, List.append_nil]
    refine { h with defineMetaImport := ?_, defineMetaDeclaration := ?_, storyIdentifier := ?_ }
    · exact h.defineMetaImport.trans hlast.symm
    · rw [hdefinitions, List.getLast?_concat]
      rfl
    · rw [hdefinitions, List.getLast?_concat]
      rfl
  | none =>
    rw [hb, Option.map_none, Option.toList_none, List.append_nil] at hdefinitions
    rw [sawDeclarator_of_not_defined hb]
    refine { h with
      defineMetaImport := h.defineMetaImport.trans hlast.symm
      defineMetaDeclaration := by rw [hdefinitions]; exact h.defineMetaDeclaration
      storyIdentifier := by rw [hdefinitions]; exact h.storyIdentifier
      bindings := ?_ }
    rw [List.reverse_append, ← h.bindings]
    cases b.bound? <;> rfl

theorem sawDeclarators (h : Inventory ms es fs bs s) (d : VariableDeclaration) (ds : List Declarator) :
    Inventory (ms ++ ds.map (.declares d)) es fs (bs ++ ds.filterMap (·.bound?))
      (ds.foldl (Sighting.sawDeclarator d) s) := by
  induction ds generalizing ms bs s with
  | nil =>
    rw [List.map_nil, List.filterMap_nil, List.append_nil, List.append_nil]
    exact h
  | cons b ds ih =>
    have hb := ih (h.sawDeclarator d b)
    rw [List.append_assoc, List.append_assoc] at hb
    rw [List.map_cons, List.filterMap_cons]
    cases hbound : b.bound? <;> rw [hbound] at hb <;> exact hb

theorem sawStories (h : Inventory ms es fs bs s) (f : Function) :
    Inventory ms es (fs ++ [f]) bs (s.sawStories f) := by
  have hfind : (fs ++ [f]).find? isStoriesFunction =
      s.storiesFunction.or (if isStoriesFunction f then some f else none) := by
    rw [List.find?_append, ← h.storiesFunction, List.find?_singleton]
  unfold Sighting.sawStories
  by_cases hs : (s.storiesFunction.isNone && isStoriesFunction f) = true
  · obtain ⟨hnone, hf⟩ := Bool.and_eq_true_iff.mp hs
    rw [if_pos hs]
    refine { h with storiesFunction := ?_ }
    rw [hfind, Option.isNone_iff_eq_none.mp hnone, hf]
    rfl
  · rw [if_neg hs]
    refine { h with storiesFunction := ?_ }
    rw [hfind]
    cases hg : s.storiesFunction with
    | some g => rfl
    | none =>
      rw [hg, Option.isNone_none, Bool.true_and, Bool.not_eq_true] at hs
      rw [hs]
      rfl

theorem sawFunction (h : Inventory ms es fs bs s) (f : Function) :
    Inventory ms es (fs ++ [f]) (bs ++ f.named?.toList) (s.sawFunction f) := by
  rw [sawFunction_eq]
  unfold Function.named?
  cases f.name? with
  | none =>
    rw [Option.map_none, Option.toList_none, List.append_nil]
    exact h.sawStories f
  | some name =>
    have hbind : Inventory ms es fs (bs ++ [(name, f)]) (s.bind name f) := by
      refine { h with bindings := ?_ }
      rw [List.reverse_append, ← h.bindings]
      rfl
    exact hbind.sawStories f

theorem sawDefaultExport (h : Inventory ms es fs bs s) (d : DefaultExport) :
    Inventory ms (es ++ [d]) fs bs { s with defaultExport := some d } :=
  { h with defaultExport := List.getLast?_concat.symm }

/-- **What has been seen after a node**, from what was seen before and what the node adds. -/
theorem see (h : Inventory ms es fs bs s) (n : Node) :
    Inventory (ms ++ n.mentions package) (es ++ n.defaultExport?.toList) (fs ++ n.declaredFunction?.toList)
      (bs ++ n.bindings) (see package s n) := by
  -- Most nodes add nothing, and leave all as it is.
  have other (hm : n.mentions package = []) (he : n.defaultExport? = none)
      (hf : n.declaredFunction? = none) (hb : n.bindings = []) (hs : Sighting.see package s n = s) :
      Inventory (ms ++ n.mentions package) (es ++ n.defaultExport?.toList)
        (fs ++ n.declaredFunction?.toList) (bs ++ n.bindings) (Sighting.see package s n) := by
    rw [hm, he, hf, hb, hs, Option.toList_none, Option.toList_none, List.append_nil, List.append_nil,
      List.append_nil, List.append_nil]
    exact h
  rcases n with _ | _ | _ | _ | _ | _ | t | _ | _ | e | _ | _ | _ | _
  case statement =>
    cases t with
    | imports d => simpa [Node.mentions, Sighting.see, visit, sawVariables] using h.sawImport d
    | declaration d => simpa [Node.mentions, Sighting.see, visit, sawVariables] using h.sawDeclarators d d.declarators
    | function f => simpa [Node.mentions, Sighting.see, visit, sawVariables] using h.sawFunction f
    | defaultExport d =>
      rw [Sighting.see, visit_defaultExport]
      cases hf : d.declaration.function? with
      | none => simpa [Node.mentions, hf] using h.sawDefaultExport d
      | some f => simpa [Node.mentions, hf] using (h.sawDefaultExport d).sawFunction f
    | _ => exact other rfl rfl rfl rfl rfl
  case expression =>
    cases e with
    | function form f =>
      cases form with
      | declaration => simpa [Node.mentions, Sighting.see, visit, sawVariables] using h.sawFunction f
      | _ => exact other rfl rfl rfl rfl rfl
    | _ => exact other rfl rfl rfl rfl rfl
  all_goals exact other rfl rfl rfl rfl rfl

/-- What has been seen after some nodes. -/
theorem foldl_see (h : Inventory ms es fs bs s) (ns : List Node) :
    Inventory (ms ++ ns.flatMap (·.mentions package)) (es ++ ns.filterMap (·.defaultExport?))
      (fs ++ ns.filterMap (·.declaredFunction?)) (bs ++ ns.flatMap (·.bindings))
      (ns.foldl (Sighting.see package) s) := by
  induction ns generalizing ms es fs bs s with
  | nil => simpa using h
  | cons n ns ih =>
    have hsee : Inventory (ms ++ n.mentions package) _ _ _ _ := h.see n
    have hn := ih hsee
    simp only [List.append_assoc] at hn
    rw [List.flatMap_cons, List.flatMap_cons, List.filterMap_cons, List.filterMap_cons, List.foldl_cons]
    cases he : n.defaultExport? <;> cases hf : n.declaredFunction? <;> rw [he, hf] at hn <;> exact hn

end Inventory

end Sighting

/-- An inventory says all about what has been seen. -/
theorem Sighting.Inventory.unique {ms : List Mention} {es : List DefaultExport} {fs : List Function}
    {bs : List (String × Function)} {s s' : Sighting} (h : Sighting.Inventory ms es fs bs s)
    (h' : Sighting.Inventory ms es fs bs s') : s = s' := by
  cases s
  cases s'
  rw [Sighting.mk.injEq]
  exact ⟨h.defineMetaImport.trans h'.defineMetaImport.symm,
    h.defineMetaDeclaration.trans h'.defineMetaDeclaration.symm,
    h.storyIdentifier.trans h'.storyIdentifier.symm, h.defaultExport.trans h'.defaultExport.symm,
    h.storiesFunction.trans h'.storiesFunction.symm, h.bindings.trans h'.bindings.symm⟩

/-! ## What the walk reaches -/

theorem Statement.reached_eq (t : Statement) :
    t.reached = .statement t :: if Sighting.skips (.statement t) then [] else reachAll Sighting.skips t.parts := by
  rw [Statement.reached, Node.outline, reachAll, reach, reachAll, List.append_nil]
  rfl

/-- A statement that is not gone through is reached alone. -/
theorem Statement.reached_of_skips {t : Statement} (h : Sighting.skips (.statement t) = true) :
    t.reached = [.statement t] := by
  rw [t.reached_eq, if_pos h]

theorem reachAll_statementOutlines (ts : List Statement) :
    reachAll Sighting.skips (statementOutlines ts) = ts.flatMap (·.reached) := by
  induction ts with
  | nil => rfl
  | cons t ts ih =>
    rw [statementOutlines, reachAll, reach, ih, List.flatMap_cons, t.reached_eq]

/-! ## The parts -/

/-- All five parts have been found. -/
theorem Sighting.parts_eq_ok_iff {file : String} {s : Sighting} {x : CompiledParts} :
    s.parts file = .ok x ↔ s.defineMetaImport = some x.defineMetaImport ∧
      s.defineMetaDeclaration = some x.defineMetaDeclaration ∧
        s.storyIdentifier = some x.storyIdentifier ∧ s.defaultExport = some x.defaultExport ∧
          s.storiesFunction.or (s.exportedFunction? x.defaultExport) = some x.storiesFunction := by
  unfold parts
  constructor
  · intro h
    obtain ⟨i, hi, h⟩ := exists_of_bind h
    obtain ⟨d, hd, h⟩ := exists_of_bind h
    obtain ⟨story, hs, h⟩ := exists_of_bind h
    obtain ⟨e, he, h⟩ := exists_of_bind h
    obtain ⟨f, hf, h⟩ := exists_of_bind h
    cases h
    exact ⟨require_eq_ok_iff.mp hi, require_eq_ok_iff.mp hd, require_eq_ok_iff.mp hs, require_eq_ok_iff.mp he,
      require_eq_ok_iff.mp hf⟩
  · rintro ⟨hi, hd, hs, he, hf⟩
    rw [require_eq_ok_iff.mpr hi, require_eq_ok_iff.mpr hd, require_eq_ok_iff.mpr hs, require_eq_ok_iff.mpr he]
    change (require file .storiesFunction (s.storiesFunction.or (s.exportedFunction? x.defaultExport)) >>= fun f =>
      pure (CompiledParts.mk _ _ _ _ f)) = _
    rw [require_eq_ok_iff.mpr hf]
    rfl

namespace Program

/-- The function that a name is bound to last. -/
def lastBinding? (p : Program) (name : String) : Option Function :=
  p.bindings.reverse.lookup name

/-- The first function that is declared under a stories name. -/
def firstStories? (p : Program) : Option Function :=
  p.declaredFunctions.find? Sighting.isStoriesFunction

variable {file package : String} {p : Program}

/-- What the walk reaches, statement by statement. -/
theorem reached_eq (p : Program) : p.reached = .program p :: p.body.flatMap (·.reached) := by
  have hprogram : p.reached =
      .program p :: (reachAll Sighting.skips (statementOutlines p.body) ++ []) := rfl
  rw [hprogram, List.append_nil, reachAll_statementOutlines]

/-- **What has been seen of a compiled module.** -/
theorem inventory (package : String) (p : Program) :
    Sighting.Inventory (p.mentions package) p.defaultExports p.declaredFunctions p.bindings
      (p.outline.walk (Sighting.visit package) () Sighting.nothing).1 := by
  rw [Sighting.walk_visit]
  exact Sighting.Inventory.nothing.foldl_see _

/-- Modules with one inventory have the same parts, or lack the same part. -/
theorem locate_congr {q : Program} (hm : p.mentions package = q.mentions package)
    (he : p.defaultExports = q.defaultExports) (hf : p.declaredFunctions = q.declaredFunctions)
    (hb : p.bindings = q.bindings) : p.locate file package = q.locate file package := by
  have hp := inventory package p
  rw [hm, he, hf, hb] at hp
  unfold locate
  rw [hp.unique (inventory package q)]

/-- **The parts of a compiled module**, read off its inventory. -/
theorem locate_eq_ok_iff {x : CompiledParts} :
    p.locate file package = .ok x ↔ lastImport (p.mentions package) = some x.defineMetaImport ∧
      (∃ members, (p.definitions package).getLast? = some (x.defineMetaDeclaration, members) ∧
        PatternMember.binding? "Story" members = some x.storyIdentifier) ∧
          p.defaultExports.getLast? = some x.defaultExport ∧
            p.firstStories?.or
              (x.defaultExport.declaration.identifier?.bind fun i => p.lastBinding? i.name) =
                some x.storiesFunction := by
  have h := inventory package p
  unfold locate
  rw [Sighting.parts_eq_ok_iff, h.defineMetaImport, h.defineMetaDeclaration, h.storyIdentifier,
    h.defaultExport, h.storiesFunction, Sighting.exportedFunction?, h.bindings]
  refine and_congr_right fun _ => ?_
  rw [← and_assoc]
  refine and_congr ?_ Iff.rfl
  unfold definitions
  cases (definitionsFrom none (p.mentions package)).getLast? with
  | none => simp
  | some y => simp [Prod.ext_iff]

end Program

end StoryCatalog
