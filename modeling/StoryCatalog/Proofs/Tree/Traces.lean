import StoryCatalog.Tree.Trace
import StoryCatalog.Proofs.Tree.Contents
import StoryCatalog.Proofs.Tree.Places

/-!
# What a trace records

A trace holds the nodes of the handled kinds that lie below no pruned handled node, in preorder, each with the
number of handled nodes above it. If one of them is of a failing kind, the trace ends with the first such
node.

* `walk_visit`: a walk adds the footprints of a tree to its trace, up to the first that fails.
* `ofOutline_eq_iff`: the trace of a tree, and why its walk stopped.
* `walk_meets_preorder`: what a trace records and what is collected, for the outline of a node.
-/

namespace StoryCatalog

open Rose

namespace TraceRules

/-- Whether a node is of a handled kind. -/
def handles (rules : TraceRules) (n : Node) : Bool :=
  rules.isHandled n.kind

/-- Whether a walk leaves out what is below a node. -/
def cuts (rules : TraceRules) (n : Node) : Bool :=
  rules.handles n && rules.prunes n.kind

end TraceRules

namespace Trace

variable {rules : TraceRules}

/-- Whether the node at a place is handled and no cut node lies above it. -/
def isRecorded (rules : TraceRules) (x : Place Node) : Bool :=
  x.isClear rules.cuts && rules.handles x.value

/-- The node at a place, with the number of handled nodes above it. -/
def footprint (rules : TraceRules) (x : Place Node) : Footprint :=
  ⟨x.above.countP rules.handles, x.value⟩

/-- The footprints at the recorded ones of some places. -/
def footprintsAt (rules : TraceRules) (xs : List (Place Node)) : List Footprint :=
  (xs.filter (isRecorded rules)).map (footprint rules)

/-- The footprints of a tree, in preorder. -/
def footprints (rules : TraceRules) (t : Rose Node) : List Footprint :=
  footprintsAt rules (places [t])

/-- What becomes of a trace that is to hold some footprints: it holds all of them, or it ends with the first that
is of a failing kind. -/
inductive Ends (rules : TraceRules) (fs : List Footprint) :
    List Footprint × Option NodeKind → Prop where
  | normally (passes : ∀ f ∈ fs, rules.fails f.kind = false) : Ends rules fs (fs, none)
  | atFailure (before : List Footprint) (f : Footprint) (after : List Footprint)
    (split : fs = before ++ f :: after) (passes : ∀ g ∈ before, rules.fails g.kind = false)
    (fails : rules.fails f.kind = true) : Ends rules fs (before ++ [f], some f.kind)

/-- A trace, the latest footprint first, with more footprints up to the first that fails. -/
def extend (rules : TraceRules) (trace : List Footprint) :
    List Footprint → List Footprint × Option NodeKind
  | [] => (trace, none)
  | f :: fs =>
    if rules.fails f.kind then (f :: trace, some f.kind) else extend rules (f :: trace) fs

theorem extend_append (trace fs gs : List Footprint) :
    extend rules trace (fs ++ gs) =
      match extend rules trace fs with
      | (trace, some k) => (trace, some k)
      | (trace, none) => extend rules trace gs := by
  induction fs generalizing trace with
  | nil => rfl
  | cons f fs ih =>
    rw [List.cons_append, extend, extend]
    by_cases hf : rules.fails f.kind = true
    · rw [if_pos hf, if_pos hf]
    · rw [if_neg hf, if_neg hf, ih]

theorem extend_of_passes {fs : List Footprint} (h : ∀ f ∈ fs, rules.fails f.kind = false)
    (trace : List Footprint) : extend rules trace fs = (fs.reverse ++ trace, none) := by
  induction fs generalizing trace with
  | nil => rfl
  | cons f fs ih =>
    obtain ⟨hf, hfs⟩ := List.forall_mem_cons.mp h
    rw [extend, hf, if_neg Bool.false_ne_true, ih hfs, List.reverse_cons, List.append_assoc]
    rfl

theorem extend_of_ends {fs : List Footprint} {a : List Footprint × Option NodeKind}
    (h : Ends rules fs a) (trace : List Footprint) :
    extend rules trace fs = (a.1.reverse ++ trace, a.2) := by
  cases h with
  | normally passes => exact extend_of_passes passes trace
  | atFailure before f after split passes fails =>
    rw [split, extend_append, extend_of_passes passes]
    simp only
    rw [extend, if_pos fails, List.reverse_append]
    rfl

theorem exists_ends (rules : TraceRules) (fs : List Footprint) : ∃ a, Ends rules fs a := by
  induction fs with
  | nil => exact ⟨_, .normally (by simp)⟩
  | cons f fs ih =>
    by_cases hf : rules.fails f.kind = true
    · exact ⟨_, .atFailure [] f fs rfl (by simp) hf⟩
    rw [Bool.not_eq_true] at hf
    obtain ⟨_, passes | ⟨before, g, after, rfl, passes, fails⟩⟩ := ih
    · exact ⟨_, .normally (List.forall_mem_cons.mpr ⟨hf, passes⟩)⟩
    · exact ⟨_, .atFailure (f :: before) g after rfl (List.forall_mem_cons.mpr ⟨hf, passes⟩) fails⟩

/-! ## Walks -/

/-- No footprint is left below a cut node. -/
theorem footprintsAt_of_cut {above : List Node} (h : above.any rules.cuts = true)
    (ts : List (Rose Node)) : footprintsAt rules (placesInAll above ts) = [] := by
  have hclear := filter_isClear_placesInAll rules.cuts above ts
  rw [if_pos h, List.map_eq_nil_iff, List.filter_eq_nil_iff] at hclear
  rw [footprintsAt, List.map_eq_nil_iff, List.filter_eq_nil_iff]
  intro x hx hr
  exact hclear x hx (Bool.and_eq_true_iff.mp hr).1

theorem footprintsAt_append (xs ys : List (Place Node)) :
    footprintsAt rules (xs ++ ys) = footprintsAt rules xs ++ footprintsAt rules ys := by
  rw [footprintsAt, List.filter_append, List.map_append, footprintsAt, footprintsAt]

theorem footprintsAt_cons_of_handled {above : List Node} {n : Node} (hc : above.any rules.cuts = false)
    (hn : rules.handles n = true) (xs : List (Place Node)) :
    footprintsAt rules (⟨above, n⟩ :: xs) =
      ⟨above.countP rules.handles, n⟩ :: footprintsAt rules xs := by
  rw [footprintsAt, List.filter_cons_of_pos (by simp [isRecorded, Place.isClear, hc, hn])]
  rfl

theorem footprintsAt_cons_of_unhandled {above : List Node} {n : Node} (hn : rules.handles n = false)
    (xs : List (Place Node)) : footprintsAt rules (⟨above, n⟩ :: xs) = footprintsAt rules xs := by
  rw [footprintsAt, List.filter_cons_of_neg (by simp [isRecorded, hn])]
  rfl

mutual

/-- **A walk adds the footprints of a tree to its trace**, up to the first that fails. -/
theorem walk_visit {above : List Node} (hc : above.any rules.cuts = false) (trace : List Footprint)
    (t : Rose Node) :
    t.walk (visit rules) (above.countP rules.handles) trace =
      extend rules trace (footprintsAt rules (t.placesIn above)) := by
  cases t with
  | node n ts =>
    rw [walk, placesIn]
    by_cases hn : rules.handles n = true
    · have hd : (n :: above).countP rules.handles = above.countP rules.handles + 1 :=
        List.countP_cons_of_pos hn
      have hk : rules.isHandled n.kind = true := hn
      rw [footprintsAt_cons_of_handled hc hn, extend, visit, if_pos hk]
      by_cases hf : rules.fails n.kind = true
      · simp [hf, Footprint.kind]
      · by_cases hp : rules.prunes n.kind = true
        · have hcut : (n :: above).any rules.cuts = true := by simp [TraceRules.cuts, hn, hp]
          simp [hf, hp, Footprint.kind, footprintsAt_of_cut hcut, extend]
        · have hclear : (n :: above).any rules.cuts = false := by simp [TraceRules.cuts, hp, hc]
          simp [hf, hp, Footprint.kind, ← hd, walkAll_visit hclear]
    · rw [Bool.not_eq_true] at hn
      have hd : (n :: above).countP rules.handles = above.countP rules.handles :=
        List.countP_cons_of_neg (by simp [hn])
      have hclear : (n :: above).any rules.cuts = false := by simp [TraceRules.cuts, hn, hc]
      rw [visit_unhandled hn, footprintsAt_cons_of_unhandled hn, ← hd]
      exact walkAll_visit hclear trace ts

theorem walkAll_visit {above : List Node} (hc : above.any rules.cuts = false)
    (trace : List Footprint) (ts : List (Rose Node)) :
    walkAll (visit rules) (above.countP rules.handles) trace ts =
      extend rules trace (footprintsAt rules (placesInAll above ts)) := by
  cases ts with
  | nil => rfl
  | cons t ts =>
    rw [walkAll, placesInAll, footprintsAt_append, extend_append, walk_visit hc]
    rcases extend rules trace (footprintsAt rules (t.placesIn above)) with ⟨trace', _ | k⟩
    · exact walkAll_visit hc trace' ts
    · rfl

end

/-- **The trace of a tree**, and why its walk stopped. -/
theorem ofOutline_eq_iff {t : Rose Node} {a : List Footprint × Option NodeKind} :
    ofOutline rules t = a ↔ Ends rules (footprints rules t) a := by
  have hwalk : ∀ {a}, Ends rules (footprints rules t) a → ofOutline rules t = a := by
    intro a ha
    have hf : footprints rules t = footprintsAt rules (t.placesIn []) := by
      rw [footprints, places, placesInAll, placesInAll, List.append_nil]
    have hclear : [].any rules.cuts = false := rfl
    have hw := walk_visit hclear [] t
    rw [← hf, extend_of_ends ha, List.append_nil] at hw
    rw [ofOutline]
    exact (congrArg (fun w => (w.1.reverse, w.2)) hw).trans (by rw [List.reverse_reverse])
  refine ⟨?_, hwalk⟩
  rintro rfl
  obtain ⟨a, ha⟩ := exists_ends rules (footprints rules t)
  rwa [hwalk ha]

/-- **A walk meets the nodes in preorder.** In an outline the children of a node stand below it. The trace of
a walk through the outline of a node holds the handled nodes that lie below no pruned handled node, in
preorder and with the number of handled nodes above them, or it ends with the first of a failing kind. All
nodes of a kind are collected in preorder, and these are the ones that the children lead to. -/
theorem walk_meets_preorder (n : Node) :
    (∀ m : Node, m.outline = .node m (m.children.map Node.outline)) ∧
      (∀ rules a, ofOutline rules n.outline = a ↔ Ends rules (footprints rules n.outline) a) ∧
      ∀ k, n.outline.collect (·.kind = k) = n.outline.preorder.filter (·.kind = k) ∧
        ∀ m, m ∈ n.outline.collect (·.kind = k) ↔
          m.kind = k ∧ Relation.ReflTransGen (fun x y => y ∈ x.children) n m := by
  refine ⟨unfolds_outline, fun rules a => ofOutline_eq_iff, fun k => ?_⟩
  have hk := collect_eq_filter (fun m : Node => m.kind = k) n.outline
  refine ⟨hk, fun m => ?_⟩
  rw [hk, List.mem_filter, unfolds_outline.mem_preorder_iff, decide_eq_true_eq, and_comm]

end Trace

end StoryCatalog
