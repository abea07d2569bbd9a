import StoryCatalog.Proofs.Tree.Imports

/-!
# Hoisting imports

The import declarations of a list of statements are moved to its front, and both they and the other statements
keep their order. A pass that learns names from imports and reads other statements by them does not notice, if
each statement that is overtaken by an import from the package is read alike with the names known before and
after.

* `Hoistable`: the statements that may be overtaken.
* `ImportReader`: a pass that keeps what it learns from imports apart from the rest of its state.
* `ImportReader.foldlM_hoistImports`: such a pass does not notice that imports are hoisted.
-/

namespace StoryCatalog

/-- Whether a statement is an import declaration. -/
def Statement.isImport (s : Statement) : Bool :=
  s.import?.isSome

/-- Whether a statement is an import declaration from the package. -/
def Statement.importsFrom (package : String) (s : Statement) : Bool :=
  s.import?.any fun d => d.source.text? == some package

/-- The statements with the import declarations moved to the front. -/
def hoistImports (ss : List Statement) : List Statement :=
  ss.filter (·.isImport) ++ ss.filter (!·.isImport)

/-- A node is read alike whether `defineMeta` is known by one name or by another: it is no import from the
package, and no declarator that calls only one of the two. -/
def Node.ReadsAlike (package : String) (now later : Option String) : Node → Prop
  | .statement (.imports d) => d.source.text? ≠ some package
  | .declarator b => ∀ name, b.calledName? = some name → (now = some name ↔ later = some name)
  | _ => True

/-- Each statement that stands before an import from the package is read alike, in what a pass meets of it, with
the name for `defineMeta` that is known there and with the one that is known after all imports. -/
def Hoistable (package : String) (met : Statement → List Node) (known : Option String)
    (ss : List Statement) : Prop :=
  ∀ before s after, ss = before ++ s :: after → s.isImport = false →
    after.any (·.importsFrom package) = true →
      ∀ n ∈ met s, n.ReadsAlike package (aliasAfter package known before) (aliasAfter package known ss)

section

variable {package : String} {met : Statement → List Node} {known : Option String} {s : Statement}
  {ss : List Statement}

theorem Hoistable.tail (h : Hoistable package met known (s :: ss)) :
    Hoistable package met (aliasAfter package known [s]) ss := by
  intro before t after hss
  have hb : aliasAfter package known (s :: before) = _ := aliasAfter_append known [s] before
  have hall : aliasAfter package known (s :: ss) = _ := aliasAfter_append known [s] ss
  rw [← hb, ← hall]
  exact h (s :: before) t after (congrArg (s :: ·) hss)

theorem aliasAfter_cons_of_no_import (hs : s.import? = none) :
    aliasAfter package known (s :: ss) = aliasAfter package known ss := by
  rw [aliasAfter, List.filterMap_cons_none hs, aliasAfter]

end

/-- **A pass over statements** that keeps what it learns from imports apart from the rest of its state, and
that reads any other statement by the names it has learned. -/
structure ImportReader (package : String) (σ ν ε : Type) where
  read : σ → Statement → Except ε σ
  /-- What the state knows from imports. -/
  names : σ → ν
  /-- The state with other knowledge from imports. -/
  put : σ → ν → σ
  learn : ν → ImportDeclaration → Except ε ν
  /-- The name that `defineMeta` is known under. -/
  known : ν → Option String
  /-- What is met of a statement. -/
  met : Statement → List Node
  put_names : ∀ x, put x (names x) = x
  read_imports : ∀ x g d, read (put x g) (.imports d) = (learn g d).map (put x)
  learn_other : ∀ g d, d.source.text? ≠ some package → learn g d = .ok g
  known_learn : ∀ g d h, learn g d = .ok h → known h = aliasAfter package (known g) [.imports d]
  /-- A statement that is read alike has the same effect, or is refused for the same cause. -/
  read_alike : ∀ g h s, s.isImport = false → (∀ n ∈ met s, n.ReadsAlike package (known g) (known h)) →
    ∀ x, (∃ c, read (put x g) s = .error c ∧ read (put x h) s = .error c) ∨
      ∃ y, read (put x g) s = .ok (put y g) ∧ read (put x h) s = .ok (put y h)

namespace ImportReader

variable {package : String} {σ ν ε : Type} (R : ImportReader package σ ν ε)

/-- What is learned from the import declarations among some statements. -/
def learnAll (g : ν) (ss : List Statement) : Except ε ν :=
  (ss.filterMap (·.import?)).foldlM R.learn g

variable {R} {g h : ν} {s : Statement} {ss : List Statement} {c : ε}

theorem learnAll_cons_import (g : ν) (d : ImportDeclaration) (ss : List Statement) :
    R.learnAll g (.imports d :: ss) = R.learn g d >>= fun h => R.learnAll h ss := by
  unfold learnAll
  rw [List.filterMap_cons_some (show (Statement.imports d).import? = some d from rfl),
    List.foldlM_cons]

theorem learnAll_cons_other (hs : s.import? = none) (g : ν) (ss : List Statement) :
    R.learnAll g (s :: ss) = R.learnAll g ss := by
  unfold learnAll
  rw [List.filterMap_cons_none hs]

theorem known_learnAll (hl : R.learnAll g ss = .ok h) :
    R.known h = aliasAfter package (R.known g) ss := by
  induction ss generalizing g with
  | nil =>
    cases hl
    rfl
  | cons s ss ih =>
    cases hs : s.import? with
    | none =>
      rw [learnAll_cons_other hs] at hl
      rw [aliasAfter_cons_of_no_import hs]
      exact ih hl
    | some d =>
      obtain rfl := Statement.import?_eq_some_iff.mp hs
      rw [learnAll_cons_import] at hl
      cases hg : R.learn g d with
      | error c =>
        rw [hg] at hl
        cases hl
      | ok g' =>
        rw [hg] at hl
        rw [ih hl, R.known_learn g d g' hg, ← aliasAfter_append]
        rfl

theorem read_import_other (x : σ) {d : ImportDeclaration} (hd : d.source.text? ≠ some package) :
    R.read x (.imports d) = .ok x := by
  have hr := R.read_imports x (R.names x) d
  rw [R.learn_other _ d hd, R.put_names] at hr
  exact hr.trans (congrArg Except.ok (R.put_names x))

theorem importsFrom_imports_iff {d : ImportDeclaration} :
    (Statement.imports d).importsFrom package = true ↔ d.source.text? = some package := by
  simp [Statement.importsFrom, Statement.import?]

/-- Without imports from the package nothing is learned. -/
theorem learnAll_of_none (hn : ss.any (·.importsFrom package) = false) (g : ν) :
    R.learnAll g ss = .ok g := by
  induction ss with
  | nil => rfl
  | cons s ss ih =>
    rw [List.any_cons, Bool.or_eq_false_iff] at hn
    cases hs : s.import? with
    | none => rw [learnAll_cons_other hs, ih hn.2]
    | some d =>
      obtain rfl := Statement.import?_eq_some_iff.mp hs
      have hd : d.source.text? ≠ some package := by
        intro hd
        rw [importsFrom_imports_iff.mpr hd] at hn
        cases hn.1
      rw [learnAll_cons_import, R.learn_other g d hd]
      exact ih hn.2

/-- Without imports from the package the import declarations may as well be left out. -/
theorem foldlM_filter_of_none (hn : ss.any (·.importsFrom package) = false) (x : σ) :
    ss.foldlM R.read x = (ss.filter (!·.isImport)).foldlM R.read x := by
  induction ss generalizing x with
  | nil => rfl
  | cons s ss ih =>
    rw [List.any_cons, Bool.or_eq_false_iff] at hn
    rw [List.foldlM_cons]
    cases hs : s.import? with
    | none =>
      rw [List.filter_cons_of_pos (by simp [Statement.isImport, hs]), List.foldlM_cons]
      simp only [ih hn.2]
    | some d =>
      obtain rfl := Statement.import?_eq_some_iff.mp hs
      have hd : d.source.text? ≠ some package := by
        intro hd
        rw [importsFrom_imports_iff.mpr hd] at hn
        cases hn.1
      rw [List.filter_cons_of_neg (by simp [Statement.isImport, hs]), read_import_other x hd, ← ih hn.2]
      rfl

/-- The import declarations, read one after the other, add what is learned from them. -/
theorem foldlM_filter_isImport (x : σ) (g : ν) (ss : List Statement) :
    (ss.filter (·.isImport)).foldlM R.read (R.put x g) = (R.learnAll g ss).map (R.put x) := by
  induction ss generalizing g with
  | nil => rfl
  | cons s ss ih =>
    cases hs : s.import? with
    | none =>
      rw [List.filter_cons_of_neg (by simp [Statement.isImport, hs]), learnAll_cons_other hs, ih]
    | some d =>
      obtain rfl := Statement.import?_eq_some_iff.mp hs
      rw [List.filter_cons_of_pos (by simp [Statement.isImport, hs]), learnAll_cons_import,
        List.foldlM_cons, R.read_imports]
      cases R.learn g d with
      | error c => rfl
      | ok g' => exact ih g'

/-- The other statements have the effect of all of them, if what is learned from the imports is known from the
beginning. -/
theorem foldlM_filter_of_hoistable (hh : Hoistable package R.met (R.known g) ss)
    (hl : R.learnAll g ss = .ok h) (x : σ) :
    ss.foldlM R.read (R.put x g) = (ss.filter (!·.isImport)).foldlM R.read (R.put x h) := by
  induction ss generalizing x g with
  | nil =>
    cases hl
    rfl
  | cons s ss ih =>
    have htail := hh.tail
    rw [List.foldlM_cons]
    cases hs : s.import? with
    | some d =>
      obtain rfl := Statement.import?_eq_some_iff.mp hs
      rw [learnAll_cons_import] at hl
      rw [List.filter_cons_of_neg (by simp [Statement.isImport, hs]), R.read_imports]
      cases hg : R.learn g d with
      | error c =>
        rw [hg] at hl
        cases hl
      | ok g' =>
        rw [hg] at hl
        rw [← R.known_learn g d g' hg] at htail
        exact ih htail hl x
    | none =>
      have hi : s.isImport = false := by rw [Statement.isImport, hs]; rfl
      rw [List.filter_cons_of_pos (by simp [hi]), List.foldlM_cons]
      rw [aliasAfter_cons_of_no_import hs, aliasAfter_nil] at htail
      by_cases hn : ss.any (·.importsFrom package) = true
      · -- An import overtakes the statement, so it is read with other names.
        have halike := hh [] s ss rfl hi hn
        rw [aliasAfter_nil, ← known_learnAll hl] at halike
        rw [learnAll_cons_other hs] at hl
        rcases R.read_alike g h s hi halike x with ⟨c, hg, hc⟩ | ⟨y, hg, hy⟩
        · rw [hg, hc]
          rfl
        · rw [hg, hy]
          exact ih htail hl y
      · -- Nothing more is learned, so both runs are in the same state.
        rw [Bool.not_eq_true] at hn
        rw [learnAll_cons_other hs, learnAll_of_none hn] at hl
        cases hl
        simp only [foldlM_filter_of_none hn]

/-- **A pass does not notice that imports are hoisted**, if the statements are hoistable and nothing is wrong with
the imports. -/
theorem foldlM_hoistImports {x : σ} (hh : Hoistable package R.met (R.known (R.names x)) ss)
    (hl : R.learnAll (R.names x) ss = .ok g) : (hoistImports ss).foldlM R.read x = ss.foldlM R.read x := by
  have hi := foldlM_filter_isImport (R := R) x (R.names x) ss
  have ho := foldlM_filter_of_hoistable hh hl x
  rw [R.put_names, hl] at hi
  rw [R.put_names] at ho
  unfold hoistImports
  rw [List.foldlM_append, hi, ho]
  rfl

/-- If something is wrong with the imports, it is found first. -/
theorem foldlM_hoistImports_of_error {x : σ} (hl : R.learnAll (R.names x) ss = .error c) :
    (hoistImports ss).foldlM R.read x = .error c := by
  have hi := foldlM_filter_isImport (R := R) x (R.names x) ss
  rw [R.put_names, hl] at hi
  unfold hoistImports
  rw [List.foldlM_append, hi]
  rfl

end ImportReader

end StoryCatalog
