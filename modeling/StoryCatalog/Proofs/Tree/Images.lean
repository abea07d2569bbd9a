import StoryCatalog.Proofs.Tree.Places
import StoryCatalog.Proofs.Tree.Unfolding

/-!
# Images of trees

The image of a tree under a function has the images of its values in their places. What is read off an image
is the image of what is read off the tree, if nothing but the values matters.

* `walk_map`: a walk through an image, by a visitor that sees no more of it than of the tree.
* `Unfolds.map_eq`: the tree of the image of a value, if a function unfolds to both.
* `Unfolds.reach_eq_map`: what a walk reaches in the tree of the image of a value.
-/

namespace StoryCatalog

/-- What a visitor decides, with the image of the reason to stop. -/
def Step.mapStop {κ ε ε' : Type} (q : ε → ε') : Step κ ε → Step κ ε'
  | stop e => stop (q e)
  | skip => skip
  | descend k => descend k

namespace Rose

variable {α β : Type}

mutual

/-- A tree with the image of each of its values. -/
def map (f : α → β) : Rose α → Rose β
  | node a ts => node (f a) (mapAll f ts)

/-- A list of trees with the image of each of their values. -/
def mapAll (f : α → β) : List (Rose α) → List (Rose β)
  | [] => []
  | t :: ts => t.map f :: mapAll f ts

end

theorem mapAll_eq_map (f : α → β) (ts : List (Rose α)) : mapAll f ts = ts.map (map f) := by
  induction ts with
  | nil => rfl
  | cons t ts ih => rw [mapAll, ih, List.map_cons]

mutual

theorem preorder_map (f : α → β) (t : Rose α) : (t.map f).preorder = t.preorder.map f := by
  cases t with
  | node a ts => rw [map, preorder, preorder, List.map_cons, preorderAll_mapAll f ts]

theorem preorderAll_mapAll (f : α → β) (ts : List (Rose α)) :
    preorderAll (mapAll f ts) = (preorderAll ts).map f := by
  cases ts with
  | nil => rfl
  | cons t ts =>
    rw [mapAll, preorderAll, preorderAll, List.map_append, preorder_map f t, preorderAll_mapAll f ts]

end

section

variable {f : α → β} {p : α → Bool} {q : β → Bool}

mutual

theorem reach_map (h : ∀ a, q (f a) = p a) (t : Rose α) : (t.map f).reach q = (t.reach p).map f := by
  cases t with
  | node a ts =>
    rw [map, reach, reach, List.map_cons, h, reachAll_mapAll h ts]
    cases p a <;> rfl

theorem reachAll_mapAll (h : ∀ a, q (f a) = p a) (ts : List (Rose α)) :
    reachAll q (mapAll f ts) = (reachAll p ts).map f := by
  cases ts with
  | nil => rfl
  | cons t ts => rw [mapAll, reachAll, reachAll, List.map_append, reach_map h t, reachAll_mapAll h ts]

end

end

section

variable {κ σ τ ε ε' : Type} {f : α → β} {g : σ → τ} {q : ε → ε'} {visit : κ → α → σ → σ × Step κ ε}
  {visit' : κ → β → τ → τ × Step κ ε'}

mutual

/-- **A walk through an image** leads to the image of the state, if at the images of value and state its
visitor does what another does at value and state. -/
theorem walk_map (h : ∀ k a s, visit' k (f a) (g s) = (visit k a s).map g (·.mapStop q)) (k : κ) (s : σ)
    (t : Rose α) : walk visit' k (g s) (t.map f) = (walk visit k s t).map g (·.map q) := by
  cases t with
  | node a ts =>
    rw [map, walk, walk, h]
    rcases visit k a s with ⟨s', _ | _ | k'⟩
    · rfl
    · rfl
    · exact walkAll_mapAll h k' s' ts

theorem walkAll_mapAll (h : ∀ k a s, visit' k (f a) (g s) = (visit k a s).map g (·.mapStop q)) (k : κ)
    (s : σ) (ts : List (Rose α)) :
    walkAll visit' k (g s) (mapAll f ts) = (walkAll visit k s ts).map g (·.map q) := by
  cases ts with
  | nil => rfl
  | cons t ts =>
    rw [mapAll, walkAll, walkAll, walk_map h k s t]
    rcases walk visit k s t with ⟨s', _ | e⟩
    · exact walkAll_mapAll h k s' ts
    · rfl

end

end

/-- **The tree of an image** is the image of the tree, if below the image of a value stand the images of what is
below the value. -/
theorem Unfolds.map_eq {below : α → List α} {tree : α → Rose α} {below' : β → List β} {tree' : β → Rose β}
    {f : α → β} (h : Unfolds below tree) (h' : Unfolds below' tree')
    (hf : ∀ a, below' (f a) = (below a).map f) (a : α) : tree' (f a) = (tree a).map f := by
  generalize ht : tree a = t
  induction t using Rose.induction generalizing a with
  | h a' ts ih =>
    rw [h a] at ht
    obtain ⟨rfl, rfl⟩ := Rose.node.inj ht
    rw [h' (f a), hf, map, mapAll_eq_map, List.map_map, List.map_map]
    refine congrArg _ (List.map_congr_left fun b hb => ?_)
    exact ih _ (List.mem_map_of_mem hb) b rfl

/-- **What is reached in the tree of an image** is the image of what is reached in the tree, if this holds of what is
below a value that is not skipped. It need not hold of all values, if a property is kept by what is below. -/
theorem Unfolds.reach_eq_map {below : α → List α} {tree : α → Rose α} {below' : β → List β} {tree' : β → Rose β}
    {f : α → β} {p : α → Bool} {q : β → Bool} {P : α → Prop} (h : Unfolds below tree) (h' : Unfolds below' tree')
    (hP : ∀ a, P a → ∀ b ∈ below a, P b) (hq : ∀ a, q (f a) = p a)
    (hf : ∀ a, P a → p a = false → below' (f a) = (below a).map f) {a : α} (ha : P a) :
    (tree' (f a)).reach q = ((tree a).reach p).map f := by
  generalize ht : tree a = t
  induction t using Rose.induction generalizing a with
  | h a' ts ih =>
    rw [h a] at ht
    obtain ⟨rfl, rfl⟩ := Rose.node.inj ht
    rw [h' (f a), reach, reach, hq, List.map_cons]
    cases hp : p a with
    | true => rfl
    | false =>
      have below_eq : ∀ bs : List α, (∀ b ∈ bs, b ∈ below a) →
          reachAll q ((bs.map f).map tree') = (reachAll p (bs.map tree)).map f := by
        intro bs hbs
        induction bs with
        | nil => rfl
        | cons b bs ihbs =>
          obtain ⟨hb, hbs⟩ := List.forall_mem_cons.mp hbs
          rw [List.map_cons, List.map_cons, List.map_cons, reachAll, reachAll, List.map_append, ihbs hbs]
          exact congrArg (· ++ _) (ih _ (List.mem_map_of_mem hb) (hP a ha b hb) rfl)
      simp only [Bool.false_eq_true, if_false]
      rw [hf a ha hp, below_eq _ fun _ hb => hb]

end Rose

end StoryCatalog
