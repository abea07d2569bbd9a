import StoryCatalog.Proofs.Tree.Places

/-!
# Walks side by side

Two walks through the same trees keep step if at each value both visitors decide alike and keep their
states related. So what a visitor keeps at each value of some trees is kept by a walk through them, and what a
walk answers is pieced together from its answers for the single trees.

* `walkAll_inStep`: two walks that keep step.
* `walkAll_keeps`: a property of the state that is kept at each value.
* `walkAll_of_unstopped`, `exists_stop_of_walkAll`: a walk is not stopped, or stopped at a value.
* `answer_walkAll_append`, `answer_walkAll_map`: a walk through trees, one after the other.
* `walkAll_eq_foldl`: a walk that nothing stops is a fold over what it reaches.
* `exists_of_foldlM_append`, `toOption_foldlM_map`: runs that come to an item, and runs over images.
-/

namespace StoryCatalog

namespace Rose

variable {α β κ σ τ ε : Type}

/-- At a value, two visitors decide alike and take related states to related states. -/
def InStep (R : σ → τ → Prop) (visit : κ → α → σ → σ × Step κ ε) (visit' : κ → α → τ → τ × Step κ ε)
    (a : α) : Prop :=
  ∀ k s s', R s s' → R (visit k a s).1 (visit' k a s').1 ∧ (visit k a s).2 = (visit' k a s').2

section

variable {R : σ → τ → Prop} {visit : κ → α → σ → σ × Step κ ε} {visit' : κ → α → τ → τ × Step κ ε}

mutual

theorem walk_inStep {t : Rose α} (h : Every (InStep R visit visit') [t]) (k : κ) {s : σ} {s' : τ}
    (hs : R s s') : R (walk visit k s t).1 (walk visit' k s' t).1 ∧
      (walk visit k s t).2 = (walk visit' k s' t).2 := by
  cases t with
  | node a ts =>
    obtain ⟨ha, hts, -⟩ := every_cons.mp h
    have hstep := ha k s s' hs
    rw [walk, walk]
    rcases hv : visit k a s with ⟨s₁, d⟩
    rcases hv' : visit' k a s' with ⟨s₁', d'⟩
    rw [hv, hv'] at hstep
    obtain ⟨hr, hd⟩ := hstep
    simp only at hr hd
    subst hd
    cases d with
    | stop e => exact ⟨hr, rfl⟩
    | skip => exact ⟨hr, rfl⟩
    | descend k' => exact walkAll_inStep hts k' hr

/-- **Walks that keep step** come to related states and stop alike. -/
theorem walkAll_inStep {ts : List (Rose α)} (h : Every (InStep R visit visit') ts) (k : κ) {s : σ}
    {s' : τ} (hs : R s s') : R (walkAll visit k s ts).1 (walkAll visit' k s' ts).1 ∧
      (walkAll visit k s ts).2 = (walkAll visit' k s' ts).2 := by
  cases ts with
  | nil => exact ⟨hs, rfl⟩
  | cons t ts =>
    obtain ⟨ht, hts⟩ := every_append.mp (show Every _ ([t] ++ ts) from h)
    have hwalk := walk_inStep ht k hs
    rw [walkAll, walkAll]
    rcases hw : walk visit k s t with ⟨s₁, o⟩
    rcases hw' : walk visit' k s' t with ⟨s₁', o'⟩
    rw [hw, hw'] at hwalk
    obtain ⟨hr, ho⟩ := hwalk
    simp only at hr ho
    subst ho
    cases o with
    | none => exact walkAll_inStep hts k hr
    | some e => exact ⟨hr, rfl⟩

end

end

/-- At a value, a visitor keeps a property of the state. -/
def Keeps (P : σ → Prop) (visit : κ → α → σ → σ × Step κ ε) (a : α) : Prop :=
  ∀ k s, P s → P (visit k a s).1

/-- **What is kept at each value is kept by a walk.** -/
theorem walkAll_keeps {P : σ → Prop} {visit : κ → α → σ → σ × Step κ ε} {ts : List (Rose α)}
    (h : Every (Keeps P visit) ts) (k : κ) {s : σ} (hs : P s) : P (walkAll visit k s ts).1 := by
  -- The walk keeps step with itself, since equal states stay equal.
  have hstep : Every (InStep (fun s s' => s = s' ∧ P s) visit visit) ts := by
    refine h.imp fun a ha k s s' hs => ?_
    obtain ⟨rfl, hp⟩ := hs
    exact ⟨⟨rfl, ha k s hp⟩, rfl⟩
  exact (walkAll_inStep hstep k ⟨rfl, hs⟩).1.2

/-! ## Stops -/

section

variable {visit visit' : κ → α → σ → σ × Step κ ε}

mutual

theorem walk_of_unstopped (h : ∀ k a s, (∀ e, (visit k a s).2 ≠ .stop e) → visit' k a s = visit k a s)
    {t : Rose α} {k : κ} {s s' : σ} (hwalk : walk visit k s t = (s', none)) :
    walk visit' k s t = (s', none) := by
  cases t with
  | node a ts =>
    have ha := h k a s
    rw [walk] at hwalk ⊢
    rcases hv : visit k a s with ⟨s₁, _ | _ | k'⟩
    · rw [hv] at hwalk
      cases hwalk
    · rw [hv] at ha hwalk
      rw [ha nofun]
      exact hwalk
    · rw [hv] at ha hwalk
      rw [ha nofun]
      exact walkAll_of_unstopped h hwalk

/-- **A walk that is not stopped** comes to the same state with a visitor that differs only where it stops. -/
theorem walkAll_of_unstopped (h : ∀ k a s, (∀ e, (visit k a s).2 ≠ .stop e) → visit' k a s = visit k a s)
    {ts : List (Rose α)} {k : κ} {s s' : σ} (hwalk : walkAll visit k s ts = (s', none)) : walkAll visit' k s ts = (s', none) := by
  cases ts with
  | nil => exact hwalk
  | cons t ts =>
    rw [walkAll] at hwalk ⊢
    rcases hw : walk visit k s t with ⟨s₁, _ | e⟩
    · rw [hw] at hwalk
      rw [walk_of_unstopped h hw]
      exact walkAll_of_unstopped h hwalk
    · rw [hw] at hwalk
      cases hwalk

end

end

mutual

theorem exists_stop_of_walk {visit : κ → α → σ → σ × Step κ ε} {t : Rose α} {k : κ} {s : σ} {e : ε}
    (h : (walk visit k s t).2 = some e) : ∃ a ∈ t.preorder, ∃ k s, (visit k a s).2 = .stop e := by
  cases t with
  | node a ts =>
    rw [walk] at h
    rcases hv : visit k a s with ⟨s', d⟩
    rw [hv] at h
    cases d with
    | stop e' =>
      cases h
      exact ⟨a, List.mem_cons_self, k, s, by rw [hv]⟩
    | skip => cases h
    | descend k' =>
      obtain ⟨b, hb, hstop⟩ := exists_stop_of_walkAll h
      exact ⟨b, List.mem_cons_of_mem _ hb, hstop⟩

/-- **A walk that stops is stopped at a value**, by what its visitor decides there. -/
theorem exists_stop_of_walkAll {visit : κ → α → σ → σ × Step κ ε} {ts : List (Rose α)} {k : κ} {s : σ} {e : ε}
    (h : (walkAll visit k s ts).2 = some e) : ∃ a ∈ preorderAll ts, ∃ k s, (visit k a s).2 = .stop e := by
  cases ts with
  | nil => cases h
  | cons t ts =>
    rw [walkAll] at h
    rcases hw : walk visit k s t with ⟨s', _ | e'⟩
    · rw [hw] at h
      obtain ⟨a, ha, hstop⟩ := exists_stop_of_walkAll h
      exact ⟨a, List.mem_append_right _ ha, hstop⟩
    · rw [hw] at h
      cases h
      have ht : (walk visit k s t).2 = some e := by rw [hw]
      obtain ⟨a, ha, hstop⟩ := exists_stop_of_walk ht
      exact ⟨a, List.mem_append_left _ ha, hstop⟩

end

/-! ## Answers -/

section

variable {visit : κ → α → σ → σ × Step κ ε}

theorem answer_eq_ok_iff {w : σ × Option ε} {s : σ} : answer w = .ok s ↔ w = (s, none) := by
  rcases w with ⟨s', _ | e⟩ <;> simp [answer]

/-- The answer for trees and more trees after them. -/
theorem answer_walkAll_append (k : κ) (s : σ) (ts us : List (Rose α)) :
    answer (walkAll visit k s (ts ++ us)) =
      answer (walkAll visit k s ts) >>= fun s' => answer (walkAll visit k s' us) := by
  rw [walkAll_append]
  rcases walkAll visit k s ts with ⟨s', _ | e⟩ <;> rfl

theorem walkAll_singleton (k : κ) (s : σ) (t : Rose α) : walkAll visit k s [t] = walk visit k s t := by
  rw [walkAll]
  rcases walk visit k s t with ⟨s', _ | e⟩ <;> rfl

/-- The answer for the trees of some values, one after the other. -/
theorem answer_walkAll_map (k : κ) (s : σ) (tree : β → Rose α) (bs : List β) :
    answer (walkAll visit k s (bs.map tree)) =
      bs.foldlM (fun s b => answer (walk visit k s (tree b))) s := by
  induction bs generalizing s with
  | nil => rfl
  | cons b bs ih =>
    rw [List.map_cons, ← List.singleton_append, answer_walkAll_append, walkAll_singleton,
      List.foldlM_cons]
    simp only [ih]

end

/-- **A walk that nothing stops** is a fold over what it reaches. -/
theorem walkAll_eq_foldl {visit : Unit → α → σ → σ × Step Unit ε} {step : σ → α → σ} {skips : α → Bool}
    (h : ∀ s a, visit () a s = (step s a, if skips a then .skip else .descend ())) (s : σ)
    (ts : List (Rose α)) : walkAll visit () s ts = ((reachAll skips ts).foldl step s, none) := by
  have follows : Follows visit (fun s a => .ok (step s a)) skips := by
    refine ⟨fun s a s' hs => ?_, fun s a e hs => by cases hs⟩
    cases hs
    exact h s a
  rw [← answer_eq_ok_iff, answer_walkAll follows]
  exact List.foldlM_pure

end Rose

/-! ## Runs -/

section

variable {α σ ε : Type} {act : σ → α → Except ε σ}

/-- A run of two parts that succeeds does so in both. -/
theorem exists_of_bind {β : Type} {x : Except ε α} {f : α → Except ε β} {b : β} (h : x >>= f = .ok b) :
    ∃ a, x = .ok a ∧ f a = .ok b := by
  cases x with
  | error e => cases h
  | ok a => exact ⟨a, rfl, h⟩

/-- A run of two parts that fails does so in the first, or in the second after the first. -/
theorem error_of_bind {β : Type} {x : Except ε α} {f : α → Except ε β} {e : ε} (h : x >>= f = .error e) :
    x = .error e ∨ ∃ a, x = .ok a ∧ f a = .error e := by
  cases x with
  | error e' =>
    cases h
    exact Or.inl rfl
  | ok a => exact Or.inr ⟨a, rfl, h⟩

/-- A run that succeeds has come to each of its items and gone on from there. -/
theorem exists_of_foldlM_append {before after : List α} {a : α} {s t : σ}
    (h : (before ++ a :: after).foldlM act s = .ok t) :
    ∃ u v, before.foldlM act s = .ok u ∧ act u a = .ok v ∧ after.foldlM act v = .ok t := by
  rw [List.foldlM_append] at h
  obtain ⟨u, hu, h⟩ := exists_of_bind h
  rw [List.foldlM_cons] at h
  obtain ⟨v, hv, h⟩ := exists_of_bind h
  exact ⟨u, v, hu, hv, h⟩

/-- Runs over items and over their images, if each item and its image answer alike where the run comes to it. -/
theorem toOption_foldlM_map {image : α → α} {as : List α} {x : σ}
    (h : ∀ before a after, as = before ++ a :: after → ∀ y, before.foldlM act x = .ok y →
      (act y (image a)).toOption = (act y a).toOption) :
    ((as.map image).foldlM act x).toOption = (as.foldlM act x).toOption := by
  induction as generalizing x with
  | nil => rfl
  | cons a as ih =>
    have ha := h [] a as rfl x rfl
    rw [List.map_cons, List.foldlM_cons, List.foldlM_cons]
    cases hy : act x a with
    | error e =>
      rw [hy] at ha
      cases hi : act x (image a) with
      | error e' => rfl
      | ok z =>
        rw [hi] at ha
        cases ha
    | ok y =>
      rw [hy] at ha
      cases hi : act x (image a) with
      | error e' =>
        rw [hi] at ha
        cases ha
      | ok z =>
        rw [hi] at ha
        cases ha
        refine ih fun before b after has y' hy' => ?_
        refine h (a :: before) b after (congrArg (a :: ·) has) y' ?_
        rw [List.foldlM_cons, hy]
        exact hy'

end

end StoryCatalog
