import StoryCatalog.Compiled.Locate
import StoryCatalog.Proofs.Tree.Contents
import StoryCatalog.Proofs.Tree.Imports
import StoryCatalog.Proofs.Tree.SideBySide

/-!
# What is seen of a compiled module

The walk through a compiled module is a fold over the nodes that it reaches: it enters no import, no variable
declaration and no function.

* `walk_visit`: the walk as a fold.
* `sawImport_eq`: what an import declaration changes.
* `sawFunction_eq`: what a function changes.
-/

namespace StoryCatalog

open Rose

/-- A declarator destructures the result of a function of this name. -/
def Declarator.Destructures (b : Declarator) (callee : String) (members : List PatternMember) : Prop :=
  (∃ span, b.id = .object span members) ∧ b.calledName? = some callee

namespace Sighting

variable {package : String}

/-- Whether the walk leaves out what is below a node. -/
def skips : Node → Bool
  | .statement (.imports _) => true
  | .statement (.declaration _) => true
  | .statement (.function _) => true
  | .statement (.defaultExport d) => d.declaration.function?.isSome
  | .expression (.function ..) => true
  | _ => false

/-- What has been seen after a node. -/
def see (package : String) (s : Sighting) (n : Node) : Sighting :=
  (visit package () n s).1

theorem visit_defaultExport (s : Sighting) (d : DefaultExport) :
    visit package () (.statement (.defaultExport d)) s =
      match d.declaration.function? with
      | some f => ({ s with defaultExport := some d }.sawFunction f, .skip)
      | none => ({ s with defaultExport := some d }, .descend ()) := rfl

theorem visit_eq (s : Sighting) (n : Node) :
    visit package () n s = (see package s n, if skips n then .skip else .descend ()) := by
  rcases n with _ | _ | _ | _ | _ | _ | t | _ | _ | e | _ | _ | _ | _
  case statement =>
    cases t with
    | defaultExport d =>
      rw [see, visit_defaultExport, skips]
      cases d.declaration.function? <;> rfl
    | _ => rfl
  case expression =>
    cases e with
    | function form f => cases form <;> rfl
    | _ => rfl
  all_goals rfl

/-- **The walk is a fold over what it reaches.** -/
theorem walk_visit (s : Sighting) (t : Rose Node) :
    t.walk (visit package) () s = ((reachAll skips [t]).foldl (see package) s, none) := by
  rw [← walkAll_singleton, walkAll_eq_foldl visit_eq]

/-! ## Imports and declarators -/

theorem sawImport_eq (s : Sighting) (d : ImportDeclaration) :
    s.sawImport package d =
      { s with defineMetaImport := (d.metaSpecifiers package).getLast?.or s.defineMetaImport } := by
  unfold sawImport ImportDeclaration.metaSpecifiers
  by_cases hs : d.source.text? = some package
  · rw [if_pos hs, if_pos hs]
  · rw [if_neg hs, if_neg hs]
    rfl

theorem callsDefineMeta_iff {s : Sighting} {e : Expression} :
    s.callsDefineMeta e = true ↔
      ∃ i, s.defineMetaImport = some i ∧ e.calleeName? = some i.binding.name := by
  unfold callsDefineMeta
  cases s.defineMetaImport <;> simp

/-! ## Functions -/

/-- A function, taken for the stories function if none has been and its name is that of one. -/
def sawStories (s : Sighting) (f : Function) : Sighting :=
  if s.storiesFunction.isNone && isStoriesFunction f then { s with storiesFunction := some f } else s

theorem sawFunction_eq (s : Sighting) (f : Function) :
    s.sawFunction f = (match f.name? with | some name => s.bind name f | none => s).sawStories f := rfl

end Sighting

end StoryCatalog
