import StoryCatalog.Proofs.Compiled.StoriesFunctions

/-!
# When all parts are located

A module that imports `defineMeta` once, takes `Story` from its result once after that and has one default export of a
stories function, or of a name that a function is bound to, has all parts. They are located if no later result of
`defineMeta` is destructured without `Story`. It does not matter where an export by name stands. If parts are not
located, the first one that the module lacks is named.

* `Sighting.parts_eq_error_iff`, `Program.locate_eq_error_iff`: which part is reported missing.
* `Program.locate_of_hasParts`: the parts of a module that has all of them.
* `Program.locate_of_moved`: an export by name that is moved.
* `locate_complete`: all of this together.
* `takenTwice_is_not_located`: a later result of `defineMeta` undoes what was taken before.
-/

namespace StoryCatalog

open Rose

/-! ## Missing parts -/

/-- The order in which the parts are asked for. -/
def CompiledNode.rank : CompiledNode → Nat
  | defineMetaImport => 0
  | defineMetaDeclaration => 1
  | storyIdentifier => 2
  | exportDefault => 3
  | storiesFunction => 4

/-- A part is lacking and no part is that is asked for before it. -/
def FirstLacking (lacks : CompiledNode → Prop) (node : CompiledNode) : Prop :=
  lacks node ∧ ∀ m : CompiledNode, m.rank < node.rank → ¬ lacks m

/-- At most one part is the first that is lacking. -/
theorem FirstLacking.unique {lacks : CompiledNode → Prop} {m n : CompiledNode} (hm : FirstLacking lacks m)
    (hn : FirstLacking lacks n) : m = n := by
  have hrank : m.rank = n.rank := by
    rcases Nat.lt_trichotomy m.rank n.rank with h | h | h
    · exact absurd hm.1 (hn.2 m h)
    · exact h
    · exact absurd hn.1 (hm.2 n h)
  cases m <;> cases n <;> first | rfl | cases hrank

/-- The parts that have not been seen. -/
def Sighting.Lacks (s : Sighting) : CompiledNode → Prop
  | .defineMetaImport => s.defineMetaImport = none
  | .defineMetaDeclaration => s.defineMetaDeclaration = none
  | .storyIdentifier => s.storyIdentifier = none
  | .exportDefault => s.defaultExport = none
  | .storiesFunction => s.storiesFunction = none ∧
      ∀ d, s.defaultExport = some d → s.exportedFunction? d = none

/-- A part that must have been found is reported missing if it has not been seen. -/
theorem Sighting.require_eq_error_iff {α : Type} {file : String} {node : CompiledNode} {o : Option α} {c : Failure} :
    require file node o = .error c ↔ o = none ∧ c = .compiledNodeNotFound file node := by
  cases o <;> simp [require, eq_comm]

theorem Sighting.not_lacks_of_parts {file : String} {s : Sighting} {x : CompiledParts} (h : s.parts file = .ok x)
    (node : CompiledNode) : ¬ s.Lacks node := by
  obtain ⟨hi, hd, hs, he, hf⟩ := parts_eq_ok_iff.mp h
  cases node with
  | storiesFunction =>
    rintro ⟨hnone, hexported⟩
    rw [hnone, Option.none_or, hexported _ he] at hf
    cases hf
  | _ => simp [Lacks, *]

theorem Sighting.firstLacking_of_parts {file : String} {s : Sighting} {c : Failure}
    (h : s.parts file = .error c) :
    ∃ node, c = .compiledNodeNotFound file node ∧ FirstLacking s.Lacks node := by
  -- Whatever is asked for before the part that is missing has been seen.
  unfold parts at h
  rcases error_of_bind h with h | ⟨i, hi, h⟩
  · obtain ⟨hnone, hc⟩ := require_eq_error_iff.mp h
    exact ⟨_, hc, hnone, fun m hm => absurd hm (Nat.not_lt_zero _)⟩
  rw [require_eq_ok_iff] at hi
  rcases error_of_bind h with h | ⟨d, hd, h⟩
  · obtain ⟨hnone, hc⟩ := require_eq_error_iff.mp h
    refine ⟨_, hc, hnone, fun m hm => ?_⟩
    cases m <;> simp_all [CompiledNode.rank, Lacks]
  rw [require_eq_ok_iff] at hd
  rcases error_of_bind h with h | ⟨story, hs, h⟩
  · obtain ⟨hnone, hc⟩ := require_eq_error_iff.mp h
    refine ⟨_, hc, hnone, fun m hm => ?_⟩
    cases m <;> simp_all [CompiledNode.rank, Lacks]
  rw [require_eq_ok_iff] at hs
  rcases error_of_bind h with h | ⟨e, he, h⟩
  · obtain ⟨hnone, hc⟩ := require_eq_error_iff.mp h
    refine ⟨_, hc, hnone, fun m hm => ?_⟩
    cases m <;> simp_all [CompiledNode.rank, Lacks]
  rw [require_eq_ok_iff] at he
  rcases error_of_bind h with h | ⟨f, hf, h⟩
  · obtain ⟨hnone, hc⟩ := require_eq_error_iff.mp h
    rw [Option.or_eq_none_iff] at hnone
    refine ⟨_, hc, ⟨hnone.1, fun d hd => ?_⟩, fun m hm => ?_⟩
    · rw [Option.some.inj (hd.symm.trans he)]
      exact hnone.2
    · cases m <;> simp_all [CompiledNode.rank, Lacks]
  cases h

/-- **Which part is reported missing**: the first one that has not been seen. -/
theorem Sighting.parts_eq_error_iff {file : String} {s : Sighting} {c : Failure} :
    s.parts file = .error c ↔
      ∃ node, c = .compiledNodeNotFound file node ∧ FirstLacking s.Lacks node := by
  constructor
  · exact firstLacking_of_parts
  · rintro ⟨node, rfl, hnode⟩
    cases hp : s.parts file with
    | ok x => exact absurd hnode.1 (not_lacks_of_parts hp node)
    | error c =>
      obtain ⟨m, rfl, hm⟩ := firstLacking_of_parts hp
      rw [hm.unique hnode]

namespace Program

variable {file package : String} {p : Program}

/-- The parts that a module lacks, where the walk goes. -/
def Lacks (package : String) (p : Program) : CompiledNode → Prop
  | .defineMetaImport => ∀ i, .imports i ∉ p.mentions package
  | .defineMetaDeclaration => p.definitions package = []
  | .storyIdentifier => ∀ d members, (p.definitions package).getLast? = some (d, members) →
      PatternMember.binding? "Story" members = none
  | .exportDefault => p.defaultExports = []
  | .storiesFunction => (∀ f ∈ p.declaredFunctions, Sighting.isStoriesFunction f = false) ∧
      ∀ d i, p.defaultExports.getLast? = some d → d.declaration.identifier? = some i →
        ∀ f, (i.name, f) ∉ p.bindings

/-- What has not been seen of a module in the end is what it lacks. -/
theorem lacks_iff (node : CompiledNode) :
    (p.outline.walk (Sighting.visit package) () Sighting.nothing).1.Lacks node ↔ p.Lacks package node := by
  have h := inventory package p
  cases node with
  | defineMetaImport =>
    rw [Sighting.Lacks, h.defineMetaImport, lastImport, List.getLast?_eq_none_iff, List.filterMap_eq_nil_iff]
    constructor
    · intro hnone i hi
      cases hnone _ hi
    · intro hnone m hm
      cases m with
      | imports i => exact absurd hm (hnone i)
      | declares => rfl
  | defineMetaDeclaration =>
    rw [Sighting.Lacks, h.defineMetaDeclaration, Option.map_eq_none_iff, List.getLast?_eq_none_iff]
    rfl
  | storyIdentifier =>
    rw [Sighting.Lacks, h.storyIdentifier, Option.bind_eq_none_iff]
    exact Prod.forall
  | exportDefault =>
    rw [Sighting.Lacks, h.defaultExport, List.getLast?_eq_none_iff]
    rfl
  | storiesFunction =>
    rw [Sighting.Lacks, h.storiesFunction, h.defaultExport, List.find?_eq_none]
    refine and_congr (by simp) (forall_congr' fun d => ?_)
    rw [Sighting.exportedFunction?, h.bindings]
    simp only [Option.bind_eq_none_iff, List.lookup_eq_none_iff, List.mem_reverse]
    constructor
    · intro hnone i hd hi f hf
      exact bne_iff_ne.mp (hnone hd i hi (i.name, f) hf) rfl
    · rintro hnone hd i hi ⟨name, f⟩ hb
      rw [bne_iff_ne]
      rintro rfl
      exact hnone i hd hi f hb

/-- **Which part of a module is reported missing**: the first one that it lacks. -/
theorem locate_eq_error_iff {c : Failure} :
    p.locate file package = .error c ↔
      ∃ node, c = .compiledNodeNotFound file node ∧ FirstLacking (p.Lacks package) node := by
  unfold locate
  rw [Sighting.parts_eq_error_iff]
  simp only [FirstLacking, lacks_iff]

end Program

/-! ## Modules with all parts -/

/-- A module imports `defineMeta` in one specifier only, after that declares a variable that destructures the result of
what is imported and binds an identifier to `Story`, the only one that does so, and has one default export: of a stories
function, or of a name that is bound to a function at the top. -/
structure Program.HasParts (package : String) (p : Program) (i : ImportSpecifier) (d : VariableDeclaration)
    (b : Declarator) (story : Identifier) (e : DefaultExport) : Prop where
  onlyImport : (p.mentions package).filterMap (·.import?) = [i]
  declaredAfter : ∃ before c between t after, p.body = before ++ .imports c :: (between ++ t :: after) ∧
    i ∈ c.metaSpecifiers package ∧ t.variables? = some d
  hasDeclarator : b ∈ d.declarators
  destructures : ∃ members, b.Destructures i.binding.name members ∧
    PatternMember.binding? "Story" members = some story
  onlyDeclarator : ∀ d' b' members story', .declares d' b' ∈ p.mentions package →
    b'.Destructures i.binding.name members → PatternMember.binding? "Story" members = some story' → d' = d ∧ b' = b
  onlyExport : p.defaultExports = [e]
  exportsFunction : (∃ f, e.declaration.function? = some f ∧ Sighting.isStoriesFunction f = true) ∨
    ∃ j f, e.declaration.identifier? = some j ∧ (j.name, f) ∈ p.topBindings

/-- After a declarator, no other one destructures the result of what is imported without binding `Story`. -/
def Program.KeepsStory (package : String) (p : Program) (i : ImportSpecifier) (d : VariableDeclaration)
    (b : Declarator) : Prop :=
  ∀ ms ms', p.mentions package = ms ++ .declares d b :: ms' → ∀ d' b' members, .declares d' b' ∈ ms' →
    b'.Destructures i.binding.name members → PatternMember.binding? "Story" members ≠ none

namespace Program

variable {file package : String} {p : Program} {i : ImportSpecifier} {d : VariableDeclaration} {b : Declarator}
  {story : Identifier} {e : DefaultExport}

theorem mentions_eq (package : String) (p : Program) :
    p.mentions package = p.body.flatMap fun t => t.reached.flatMap (·.mentions package) := by
  have hreached : p.mentions package = p.reached.flatMap (·.mentions package) := rfl
  rw [hreached, p.reached_eq, List.flatMap_cons, List.flatMap_assoc]
  rfl

/-- Without an import among them, the declarators call what is imported before. -/
theorem of_mem_definitionsFrom {ms : List Mention} {members : List PatternMember}
    (hms : ms.filterMap (·.import?) = []) (h : (d, members) ∈ definitionsFrom (some i) ms) :
    ∃ b, .declares d b ∈ ms ∧ b.Destructures i.binding.name members := by
  induction ms with
  | nil => cases h
  | cons m ms ih =>
    cases m with
    | imports j => cases hms
    | declares d' b =>
      rw [definitionsFrom, List.mem_append, Option.mem_toList, Option.map_eq_some_iff] at h
      rcases h with ⟨members', hb, hd⟩ | h
      · cases hd
        obtain ⟨j, hj, hb⟩ := Declarator.definedBy?_eq_some_iff.mp hb
        cases hj
        exact ⟨b, List.mem_cons_self, hb⟩
      · obtain ⟨b', hmem, hb'⟩ := ih hms h
        exact ⟨b', List.mem_cons_of_mem _ hmem, hb'⟩

theorem mentions_of_variables {t : Statement} (h : t.variables? = some d) :
    t.reached.flatMap (·.mentions package) = d.declarators.map (.declares d) := by
  have plain : (Statement.declaration d).reached.flatMap (·.mentions package) =
      d.declarators.map (.declares d) := by
    rw [Statement.reached_of_skips rfl, List.flatMap_singleton]
    rfl
  cases t with
  | declaration d' =>
    cases h
    exact plain
  | namedExport span t =>
    cases t with
    | none => cases h
    | some t =>
      cases t with
      | declaration d' =>
        cases h
        rw [Statement.reached_eq]
        exact plain
      | _ => cases h
  | _ => cases h

/-- The declarator is mentioned after the import. -/
theorem HasParts.mentions_eq (h : p.HasParts package i d b story e) :
    ∃ ms ms', p.mentions package = ms ++ .declares d b :: ms' ∧ Mention.imports i ∈ ms := by
  obtain ⟨before, c, between, t, after, hbody, hi, ht⟩ := h.declaredAfter
  obtain ⟨bs, bs', hbs⟩ := List.append_of_mem h.hasDeclarator
  have himports : (Statement.imports c).reached.flatMap (·.mentions package) =
      (c.metaSpecifiers package).map .imports := by
    rw [Statement.reached_of_skips rfl, List.flatMap_singleton]
    rfl
  rw [Program.mentions_eq, hbody, List.flatMap_append, List.flatMap_cons, List.flatMap_append, List.flatMap_cons,
    himports, mentions_of_variables ht, hbs, List.map_append, List.map_cons]
  exact ⟨before.flatMap (fun t => t.reached.flatMap (·.mentions package)) ++
    ((c.metaSpecifiers package).map .imports ++
      (between.flatMap (fun t => t.reached.flatMap (·.mentions package)) ++ bs.map (.declares d))),
    bs'.map (.declares d) ++ after.flatMap (fun t => t.reached.flatMap (·.mentions package)),
    by simp only [List.append_assoc, List.cons_append], by simp [hi]⟩

/-- **The last declaration that destructures the result** of `defineMeta` is the one that binds `Story`. -/
theorem HasParts.getLast?_definitions (h : p.HasParts package i d b story e) (hk : p.KeepsStory package i d b) :
    ∃ members, (p.definitions package).getLast? = some (d, members) ∧
      PatternMember.binding? "Story" members = some story := by
  obtain ⟨ms, ms', hms, hi⟩ := h.mentions_eq
  obtain ⟨members, hb, hstory⟩ := h.destructures
  have himport : (ms.filterMap (·.import?)) ++ (ms'.filterMap (·.import?)) = [i] := by
    rw [← h.onlyImport, hms, List.filterMap_append, List.filterMap_cons_none rfl]
  obtain ⟨hbefore, hafter⟩ : ms.filterMap (·.import?) = [i] ∧ ms'.filterMap (·.import?) = [] := by
    have hne : ms.filterMap (·.import?) ≠ [] := List.ne_nil_of_mem (List.mem_filterMap.mpr ⟨_, hi, rfl⟩)
    rcases List.append_eq_singleton_iff.mp himport with ⟨hnil, -⟩ | hboth
    · exact absurd hnil hne
    · exact hboth
  have hlast : lastImport ms = some i := by
    rw [lastImport, hbefore]
    rfl
  have hdefinitions : p.definitions package =
      definitionsFrom none ms ++ (d, members) :: definitionsFrom (some i) ms' := by
    rw [definitions, hms, definitionsFrom_append, hlast, Option.some_or, definitionsFrom,
      Declarator.definedBy?_eq_some_iff.mpr ⟨i, rfl, hb⟩]
    rfl
  rw [hdefinitions, List.getLast?_append, List.getLast?_cons]
  cases hmore : (definitionsFrom (some i) ms').getLast? with
  | none => exact ⟨members, rfl, hstory⟩
  | some x =>
    -- A later declaration binds `Story` as well, so it is the same one.
    obtain ⟨d', members'⟩ := x
    obtain ⟨b', hd', hb'⟩ := of_mem_definitionsFrom hafter (List.mem_of_getLast? hmore)
    obtain ⟨story', hstory'⟩ := Option.ne_none_iff_exists'.mp (hk ms ms' hms d' b' members' hd' hb')
    have hmem : .declares d' b' ∈ p.mentions package := by
      rw [hms]
      exact List.mem_append_right _ (List.mem_cons_of_mem _ hd')
    obtain ⟨rfl, rfl⟩ := h.onlyDeclarator d' b' members' story' hmem hb' hstory'
    obtain ⟨⟨span, hid⟩, -⟩ := hb
    obtain ⟨⟨span', hid'⟩, -⟩ := hb'
    obtain ⟨-, rfl⟩ := Pattern.object.inj (hid.symm.trans hid')
    exact ⟨members, rfl, hstory⟩

theorem topBindings_subset_bindings : p.topBindings ⊆ p.bindings := by
  intro x hx
  obtain ⟨t, ht, hx⟩ := List.mem_flatMap.mp hx
  rw [← Statement.bindings_eq_topBindings (List.ne_nil_of_mem hx)] at hx
  rw [p.bindings_eq]
  exact List.mem_flatMap.mpr ⟨t, ht, hx⟩

theorem HasParts.exists_function (h : p.HasParts package i d b story e) :
    ∃ f, p.firstStories?.or (e.declaration.identifier?.bind fun j => p.lastBinding? j.name) = some f := by
  rw [← Option.isSome_iff_exists, Option.isSome_or, Bool.or_eq_true]
  rcases h.exportsFunction with ⟨f, hf, hstories⟩ | ⟨j, f, hj, hf⟩
  · left
    have he : e ∈ p.defaultExports := by
      rw [h.onlyExport]
      exact List.mem_singleton_self e
    obtain ⟨n, hn, hne⟩ := List.mem_filterMap.mp he
    have hdeclared : n.declaredFunction? = some f := by
      unfold Node.defaultExport? at hne
      split at hne
      · cases hne
        exact hf
      · cases hne
    rw [firstStories?, List.find?_isSome]
    exact ⟨f, List.mem_filterMap.mpr ⟨n, hn, hdeclared⟩, hstories⟩
  · right
    rw [hj, Option.bind_some, lastBinding?, lookup_reverse_eq, boundLast?, Option.isSome_map,
      List.getLast?_isSome]
    exact List.ne_nil_of_mem (List.mem_filter.mpr ⟨topBindings_subset_bindings hf, beq_self_eq_true j.name⟩)

/-- **The parts of a module that has all of them** are located. -/
theorem locate_of_hasParts (h : p.HasParts package i d b story e) (hk : p.KeepsStory package i d b) :
    ∃ f, p.locate file package = .ok ⟨i, d, story, e, f⟩ := by
  obtain ⟨f, hf⟩ := h.exists_function
  refine ⟨f, locate_eq_ok_iff.mpr ⟨?_, h.getLast?_definitions hk, ?_, hf⟩⟩
  · rw [lastImport, h.onlyImport]
    rfl
  · rw [h.onlyExport]
    rfl

/-! ## Moved exports -/

/-- In another program, a default export stands elsewhere among the same statements. -/
def MovedTo (p : Program) (e : DefaultExport) (q : Program) : Prop :=
  ∃ before after before' after', p.body = before ++ .defaultExport e :: after ∧
    q.body = before' ++ .defaultExport e :: after' ∧ before ++ after = before' ++ after'

theorem defaultExports_eq (p : Program) :
    p.defaultExports = p.body.flatMap fun t => t.reached.filterMap (·.defaultExport?) := by
  rw [defaultExports, p.reached_eq, List.filterMap_cons_none rfl, List.filterMap_flatMap]

section

variable {q : Program} {j : Identifier}

/-- An export by name is reached with the name. -/
theorem reached_defaultExport (hj : e.declaration.identifier? = some j) :
    (Statement.defaultExport e).reached = [.statement (.defaultExport e), .expression (.identifier j)] := by
  obtain ⟨span, declaration⟩ := e
  cases declaration with
  | identifier i =>
    cases hj
    rfl
  | _ => cases hj

/-- What is told of a module, if nothing is told of an export by name, does not change when that is moved. -/
theorem MovedTo.flatMap_reached {α : Type} {tell : Node → List α} (h : p.MovedTo e q)
    (hj : e.declaration.identifier? = some j) (hprogram : ∀ p, tell (.program p) = [])
    (hexport : tell (.statement (.defaultExport e)) = []) (hname : tell (.expression (.identifier j)) = []) :
    q.reached.flatMap tell = p.reached.flatMap tell := by
  obtain ⟨before, after, before', after', hp, hq, hsame⟩ := h
  have htold : ∀ (r : Program) {front back : List Statement}, r.body = front ++ .defaultExport e :: back →
      r.reached.flatMap tell = (front ++ back).flatMap fun t => t.reached.flatMap tell := by
    intro r front back hr
    rw [r.reached_eq, List.flatMap_cons, hprogram, List.nil_append, List.flatMap_assoc, hr, List.flatMap_append,
      List.flatMap_cons, reached_defaultExport hj, List.flatMap_cons, List.flatMap_singleton, hexport, hname,
      List.nil_append, List.nil_append, ← List.flatMap_append]
  rw [htold q hq, htold p hp, hsame]

/-- The only default export is the only one where it is moved to. -/
theorem MovedTo.defaultExports (h : p.MovedTo e q) (hj : e.declaration.identifier? = some j)
    (he : p.defaultExports = [e]) : q.defaultExports = [e] := by
  obtain ⟨before, after, before', after', hp, hq, hsame⟩ := h
  have hself : (Statement.defaultExport e).reached.filterMap (·.defaultExport?) = [e] := by
    rw [reached_defaultExport hj]
    rfl
  have hnone : (before ++ after).flatMap (fun t => t.reached.filterMap (·.defaultExport?)) = [] := by
    rw [p.defaultExports_eq, hp, List.flatMap_append, List.flatMap_cons, hself, List.append_eq_singleton_iff] at he
    rcases he with ⟨hbefore, hafter⟩ | ⟨-, hnil⟩
    · rw [List.flatMap_append, hbefore]
      exact (List.cons.inj hafter).2
    · cases hnil
  rw [hsame, List.flatMap_append, List.append_eq_nil_iff] at hnone
  rw [q.defaultExports_eq, hq, List.flatMap_append, List.flatMap_cons, hself, hnone.1, hnone.2]
  rfl

/-- **An export by name may be moved.** -/
theorem locate_of_moved (h : p.MovedTo e q) (hj : e.declaration.identifier? = some j)
    (he : p.defaultExports = [e]) : q.locate file package = p.locate file package := by
  have hfunction : e.declaration.function? = none := by
    cases hd : e.declaration with
    | identifier i => rfl
    | _ =>
      rw [hd] at hj
      cases hj
  refine locate_congr ?_ ((h.defaultExports hj he).trans he.symm) ?_ ?_
  · exact h.flatMap_reached hj (fun _ => rfl) rfl rfl
  · rw [declaredFunctions, declaredFunctions, List.filterMap_eq_flatMap_toList, List.filterMap_eq_flatMap_toList]
    exact h.flatMap_reached hj (fun _ => rfl) (by simp [hfunction]) rfl
  · exact h.flatMap_reached hj (fun _ => rfl) (by simp [hfunction]) rfl

end

end Program

/-- **The locator is complete**: a module with all parts that keeps `Story` is located, an export by name may stand
anywhere in it, and a module that is not located lacks the part that is reported missing and none before it. -/
theorem locate_complete (file package : String) (p : Program) :
    (∀ i d b story e, p.HasParts package i d b story e → p.KeepsStory package i d b →
      ∃ f, p.locate file package = .ok ⟨i, d, story, e, f⟩ ∧
        ∀ j, e.declaration.identifier? = some j → ∀ q, p.MovedTo e q →
          q.locate file package = .ok ⟨i, d, story, e, f⟩) ∧
      ∀ c, p.locate file package = .error c ↔
        ∃ node, c = .compiledNodeNotFound file node ∧ FirstLacking (p.Lacks package) node := by
  refine ⟨fun i d b story e h hk => ?_, fun c => p.locate_eq_error_iff⟩
  obtain ⟨f, hf⟩ := p.locate_of_hasParts h hk
  exact ⟨f, hf, fun j hj q hq => (p.locate_of_moved hq hj h.onlyExport).trans hf⟩

/-! ## Small modules -/

/-- The specifier by which the small modules import `defineMeta`. -/
def metaSpecifier : ImportSpecifier :=
  ⟨⟨0, 0⟩, .identifier ⟨⟨0, 0⟩, "defineMeta"⟩, ⟨⟨0, 0⟩, "a"⟩⟩

/-- The pattern with these members, given the result of `defineMeta`. -/
def metaDeclarator (members : List PatternMember) : Declarator :=
  ⟨⟨0, 0⟩, .object ⟨0, 0⟩ members, some (.call ⟨0, 0⟩ (.identifier ⟨⟨0, 0⟩, "a"⟩) [.object ⟨⟨0, 0⟩, []⟩])⟩

/-- The declaration of this one declarator. -/
def metaDeclaration (members : List PatternMember) : VariableDeclaration :=
  ⟨⟨0, 0⟩, "const", [metaDeclarator members]⟩

/-- The member of a pattern that takes `key` by this name. -/
def takes (key name : String) : PatternMember :=
  .property ⟨0, 0⟩ (.identifier ⟨⟨0, 0⟩, key⟩) (.identifier ⟨⟨0, 0⟩, name⟩) false false

/-- The export of a function by its name. -/
def exportByName : DefaultExport :=
  ⟨⟨0, 0⟩, .identifier ⟨⟨0, 0⟩, "X_stories"⟩⟩

/-- One declarator destructures the result of `defineMeta`. -/
theorem eq_of_boundArrow_mentions {d : VariableDeclaration} {b : Declarator} {members : List PatternMember}
    (hd : .declares d b ∈ boundArrow.mentions "p") (hb : b.Destructures "a" members) :
    d = metaDeclaration [takes "Story" "S"] ∧ b = metaDeclarator [takes "Story" "S"] := by
  have hmentions : boundArrow.mentions "p" = [.imports metaSpecifier,
    .declares (metaDeclaration [takes "Story" "S"]) (metaDeclarator [takes "Story" "S"]),
    .declares _ ⟨⟨0, 0⟩, .identifier ⟨⟨0, 0⟩, "X_stories"⟩, _⟩] := rfl
  rw [hmentions] at hd
  simp only [List.mem_cons, List.not_mem_nil, or_false, reduceCtorEq, false_or, Mention.declares.injEq] at hd
  rcases hd with hd | ⟨-, rfl⟩
  · exact hd
  · obtain ⟨⟨span, hid⟩, -⟩ := hb
    cases hid

theorem hasParts_boundArrow :
    boundArrow.HasParts "p" metaSpecifier (metaDeclaration [takes "Story" "S"])
      (metaDeclarator [takes "Story" "S"]) ⟨⟨0, 0⟩, "S"⟩ exportByName where
  onlyImport := rfl
  declaredAfter := ⟨[], _, [], _, _, rfl, List.mem_singleton_self _, rfl⟩
  hasDeclarator := List.mem_singleton_self _
  destructures := ⟨_, ⟨⟨_, rfl⟩, rfl⟩, rfl⟩
  onlyDeclarator _ _ _ _ hd hb _ := eq_of_boundArrow_mentions hd hb
  onlyExport := rfl
  exportsFunction := .inr ⟨_, _, rfl, List.mem_singleton_self _⟩

theorem keepsStory_boundArrow :
    boundArrow.KeepsStory "p" metaSpecifier (metaDeclaration [takes "Story" "S"])
      (metaDeclarator [takes "Story" "S"]) := by
  intro ms ms' hms d b members hd hb
  have hmem : .declares d b ∈ boundArrow.mentions "p" := by
    rw [hms]
    exact List.mem_append_right _ (List.mem_cons_of_mem _ hd)
  obtain ⟨-, rfl⟩ := eq_of_boundArrow_mentions hmem hb
  obtain ⟨⟨span, hid⟩, -⟩ := hb
  cases hid
  exact Option.some_ne_none _

/-- The module with its export at the front. -/
def exportFirst : Program :=
  ⟨⟨0, 0⟩, .defaultExport exportByName :: boundArrow.body.dropLast⟩

/-- The parts do not depend on where the arrow function is exported. -/
theorem locate_exportFirst : ∃ x, boundArrow.locate "f" "p" = .ok x ∧ exportFirst.locate "f" "p" = .ok x := by
  obtain ⟨f, hf, hmoved⟩ := (locate_complete "f" "p" boundArrow).1 _ _ _ _ _ hasParts_boundArrow
    keepsStory_boundArrow
  have hq : boundArrow.MovedTo exportByName exportFirst :=
    ⟨boundArrow.body.dropLast, [], [], boundArrow.body.dropLast, rfl, rfl, List.append_nil _⟩
  exact ⟨_, hf, hmoved _ rfl _ hq⟩

/-- A module that takes `Story` from one result of `defineMeta` and something else from a later one. -/
def takenTwice : Program :=
  moduleWith [.declaration (metaDeclaration [takes "meta" "m"]),
    .defaultExport ⟨⟨0, 0⟩, .function .declaration (idleFunction (some "X_stories"))⟩]

/-- **A later result of `defineMeta` undoes what was taken before**: a module with all parts need not be located. -/
theorem takenTwice_is_not_located :
    ¬ ∀ (file package : String) (p : Program) (i : ImportSpecifier) (d : VariableDeclaration) (b : Declarator)
      (story : Identifier) (e : DefaultExport), p.HasParts package i d b story e →
        ∃ x, p.locate file package = .ok x := by
  intro h
  have hparts : takenTwice.HasParts "p" metaSpecifier (metaDeclaration [takes "Story" "S"])
      (metaDeclarator [takes "Story" "S"]) ⟨⟨0, 0⟩, "S"⟩
        ⟨⟨0, 0⟩, .function .declaration (idleFunction (some "X_stories"))⟩ :=
    { onlyImport := rfl
      declaredAfter := ⟨[], _, [], _, _, rfl, List.mem_singleton_self _, rfl⟩
      hasDeclarator := List.mem_singleton_self _
      destructures := ⟨_, ⟨⟨_, rfl⟩, rfl⟩, rfl⟩
      onlyDeclarator := by
        intro d' b' members story' hmem hb hstory
        have hmentions : takenTwice.mentions "p" = [.imports metaSpecifier,
          .declares (metaDeclaration [takes "Story" "S"]) (metaDeclarator [takes "Story" "S"]),
          .declares (metaDeclaration [takes "meta" "m"]) (metaDeclarator [takes "meta" "m"])] := rfl
        rw [hmentions] at hmem
        simp only [List.mem_cons, List.not_mem_nil, or_false, reduceCtorEq, false_or, Mention.declares.injEq] at hmem
        rcases hmem with hmem | ⟨-, rfl⟩
        · exact hmem
        · obtain ⟨⟨span, hid⟩, -⟩ := hb
          cases hid
          cases hstory
      onlyExport := rfl
      exportsFunction := .inl ⟨_, rfl, rfl⟩ }
  obtain ⟨x, hx⟩ := h "f" _ _ _ _ _ _ _ hparts
  cases hx

end StoryCatalog
