import Mathlib.Logic.Relation
import StoryCatalog.Tree.Rose

/-!
# Trees that unfold

A family of trees, one for each value, unfolds a function that says what stands directly below a value: below
the top of its tree stand the trees of what the function gives. What is in such trees can be told from the
function alone.

* `Unfolds.preorder_eq`: the preorder of such a tree, by what stands directly below its top.
* `Unfolds.mem_preorder_iff`: a value is in such a tree exactly if the function leads to it from the top.
-/

namespace StoryCatalog

namespace Rose

variable {α : Type}

/-- What holds of a tree if it holds of the trees below its top holds of every tree. -/
@[elab_as_elim]
theorem induction {P : Rose α → Prop} (h : ∀ a ts, (∀ t ∈ ts, P t) → P (node a ts)) (t : Rose α) :
    P t := by
  refine Rose.rec (motive_1 := P) (motive_2 := fun ts => ∀ t ∈ ts, P t) h ?_ ?_ t
  · intro t ht
    cases ht
  · intro t ts ht hts
    exact List.forall_mem_cons.mpr ⟨ht, hts⟩

/-- Below every value in the tree of a value stand the trees of what a function gives for it. -/
def Unfolds (below : α → List α) (tree : α → Rose α) : Prop :=
  ∀ a, tree a = node a ((below a).map tree)

theorem preorderAll_map {β : Type} {tree : β → Rose α} (bs : List β) :
    preorderAll (bs.map tree) = bs.flatMap fun b => (tree b).preorder := by
  induction bs with
  | nil => rfl
  | cons b bs ih => rw [List.map_cons, preorderAll, ih, List.flatMap_cons]

section

variable {below : α → List α} {tree : α → Rose α}

theorem Unfolds.preorder_eq (h : Unfolds below tree) (a : α) :
    (tree a).preorder = a :: (below a).flatMap fun b => (tree b).preorder := by
  rw [h a, preorder, preorderAll_map]

/-- **What is in a tree that unfolds a function** is what this function leads to. -/
theorem Unfolds.mem_preorder_iff (h : Unfolds below tree) {a b : α} :
    b ∈ (tree a).preorder ↔ Relation.ReflTransGen (fun x y => y ∈ below x) a b := by
  constructor
  · generalize ht : tree a = t
    intro hb
    -- The tree is a variable for the induction; each tree below its top is again that of a value.
    induction t using Rose.induction generalizing a with
    | h a' ts ih =>
      rw [h a] at ht
      obtain ⟨rfl, rfl⟩ := Rose.node.inj ht
      rw [← h a, h.preorder_eq] at hb
      rcases List.mem_cons.mp hb with rfl | hb
      · exact .refl
      · obtain ⟨c, hc, hb⟩ := List.mem_flatMap.mp hb
        exact .head hc (ih _ (List.mem_map_of_mem hc) rfl hb)
  · intro hr
    induction hr using Relation.ReflTransGen.head_induction_on with
    | refl =>
      rw [h.preorder_eq]
      exact List.mem_cons_self
    | head hc _ ih =>
      rw [h.preorder_eq]
      exact List.mem_cons_of_mem _ (List.mem_flatMap.mpr ⟨_, hc, ih⟩)

end

end Rose

end StoryCatalog
