/-!
# Rose trees and walks

A rose tree is a value with a list of trees below it. A walk goes through a tree from the top, left to
right. At every node it calls a visitor with the state so far and with what the nodes above pass down,
and the visitor decides how to go on: stop the whole walk, skip what is below the node, or go on below
it.

* `collect_eq_filter`: collecting the values with a property on a walk filters the preorder.
-/

namespace StoryCatalog

/-- A tree with any number of trees below each node. -/
inductive Rose (α : Type) where
  | node (value : α) (subtrees : List (Rose α))

/-- What a visitor decides: stop with `e`, skip what is below, or pass `k` down to it. -/
inductive Step (κ ε : Type) where
  | stop (e : ε)
  | skip
  | descend (k : κ)

namespace Rose

variable {α : Type}

/-- The value at the top. -/
def value : Rose α → α
  | node a _ => a

/-- The trees below the top. -/
def subtrees : Rose α → List (Rose α)
  | node _ ts => ts

mutual

/-- The values of a tree, each before those below it. -/
def preorder : Rose α → List α
  | node a ts => a :: preorderAll ts

/-- The values of a list of trees, one tree after the other. -/
def preorderAll : List (Rose α) → List α
  | [] => []
  | t :: ts => t.preorder ++ preorderAll ts

end

variable {κ σ ε : Type}

mutual

/-- The state after a walk through a tree, and why the walk stopped early, if it did. -/
def walk (visit : κ → α → σ → σ × Step κ ε) (k : κ) (s : σ) : Rose α → σ × Option ε
  | node a ts =>
    match visit k a s with
    | (s, .stop e) => (s, some e)
    | (s, .skip) => (s, none)
    | (s, .descend k) => walkAll visit k s ts

/-- The walk through a list of trees, one after the other. -/
def walkAll (visit : κ → α → σ → σ × Step κ ε) (k : κ) (s : σ) : List (Rose α) → σ × Option ε
  | [] => (s, none)
  | t :: ts =>
    match walk visit k s t with
    | (s, some e) => (s, some e)
    | (s, none) => walkAll visit k s ts

end

/-- The visitor that collects the values with a property, the latest first. -/
def collector (p : α → Bool) (_ : Unit) (a : α) (s : List α) : List α × Step Unit Empty :=
  (if p a then a :: s else s, .descend ())

/-- The values with a property, in the order in which a walk meets them. -/
def collect (p : α → Bool) (t : Rose α) : List α :=
  (walk (collector p) () [] t).1.reverse

mutual

theorem walk_collector (p : α → Bool) (s : List α) (t : Rose α) :
    walk (collector p) () s t = ((t.preorder.filter p).reverse ++ s, none) := by
  cases t with
  | node a ts =>
    rw [walk, collector, preorder, List.filter_cons]
    cases p a <;> simp [walkAll_collector p _ ts]

theorem walkAll_collector (p : α → Bool) (s : List α) (ts : List (Rose α)) :
    walkAll (collector p) () s ts = (((preorderAll ts).filter p).reverse ++ s, none) := by
  cases ts with
  | nil => rfl
  | cons t ts =>
    rw [walkAll, walk_collector p s t, preorderAll]
    simp [walkAll_collector p _ ts]

end

/-- **A walk collects in preorder.** -/
theorem collect_eq_filter (p : α → Bool) (t : Rose α) : t.collect p = t.preorder.filter p := by
  simp [collect, walk_collector]

end Rose

end StoryCatalog
