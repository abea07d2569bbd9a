import StoryCatalog.Tree.Rose

/-!
# Places in a tree

A place is a value of a tree together with the values above it. The places of a tree in preorder say
of every value what it lies in, so whatever a walk leaves out can be told by looking upwards: a walk
that skips what is below some values reaches exactly the places with no such value above.

* `filter_isClear_places`: what such a walk reaches, found among the places.
* `restrict` takes values out of a tree and leaves what is below them; `walk_eq_walkAll_restrict`:
  a walk does not notice values that its visitor passes through.
* `answer_walkAll`: a walk that skips by the value alone is a fold over what it reaches, which ends
  at the first error.
-/

namespace StoryCatalog.Rose

variable {α β : Type}

/-- A value with the values above it, the nearest first. -/
structure Place (α : Type) where
  above : List α
  value : α

namespace Place

/-- Whether no value with a property lies above. -/
def isClear (p : α → Bool) (x : Place α) : Bool :=
  !x.above.any p

end Place

mutual

/-- The places of a tree that lies below `above`, in preorder. -/
def placesIn (above : List α) : Rose α → List (Place α)
  | node a ts => ⟨above, a⟩ :: placesInAll (a :: above) ts

/-- The places of a list of trees that lie below `above`, in preorder. -/
def placesInAll (above : List α) : List (Rose α) → List (Place α)
  | [] => []
  | t :: ts => t.placesIn above ++ placesInAll above ts

end

/-- The places of a list of trees, in preorder. -/
def places (ts : List (Rose α)) : List (Place α) :=
  placesInAll [] ts

mutual

/-- The values of a tree that a walk reaches if it skips what is below the values with a property. -/
def reach (skips : α → Bool) : Rose α → List α
  | node a ts => a :: if skips a then [] else reachAll skips ts

/-- The values of a list of trees that such a walk reaches. -/
def reachAll (skips : α → Bool) : List (Rose α) → List α
  | [] => []
  | t :: ts => t.reach skips ++ reachAll skips ts

end

mutual

theorem map_value_placesIn (above : List α) (t : Rose α) :
    (t.placesIn above).map (·.value) = t.preorder := by
  cases t with
  | node a ts =>
    rw [placesIn, preorder, List.map_cons, map_value_placesInAll (a :: above) ts]

theorem map_value_placesInAll (above : List α) (ts : List (Rose α)) :
    (placesInAll above ts).map (·.value) = preorderAll ts := by
  cases ts with
  | nil => rfl
  | cons t ts =>
    rw [placesInAll, preorderAll, List.map_append, map_value_placesIn above t,
      map_value_placesInAll above ts]

end

/-- The values at the places are those of the preorder. -/
theorem map_value_places (ts : List (Rose α)) : (places ts).map (·.value) = preorderAll ts :=
  map_value_placesInAll [] ts

/-! ## What a walk reaches -/

mutual

theorem filter_isClear_placesIn (p : α → Bool) (above : List α) (t : Rose α) :
    ((t.placesIn above).filter (·.isClear p)).map (·.value) =
      if above.any p then [] else t.reach p := by
  cases t with
  | node a ts =>
    have ih := filter_isClear_placesInAll p (a :: above) ts
    rw [List.any_cons] at ih
    by_cases h : above.any p = true
    · have hc : Place.isClear p ⟨above, a⟩ = false := by simp [Place.isClear, h]
      rw [placesIn, List.filter_cons_of_neg (by simp [hc]), ih, if_pos h, if_pos (by simp [h])]
    · have hc : Place.isClear p ⟨above, a⟩ = true := by simpa [Place.isClear] using h
      rw [placesIn, List.filter_cons_of_pos hc, List.map_cons, ih, if_neg h, reach]
      simp only [Bool.not_eq_true] at h
      rw [h, Bool.or_false]

theorem filter_isClear_placesInAll (p : α → Bool) (above : List α) (ts : List (Rose α)) :
    ((placesInAll above ts).filter (·.isClear p)).map (·.value) =
      if above.any p then [] else reachAll p ts := by
  cases ts with
  | nil => simp [placesInAll, reachAll]
  | cons t ts =>
    rw [placesInAll, List.filter_append, List.map_append, filter_isClear_placesIn p above t,
      filter_isClear_placesInAll p above ts, reachAll]
    split <;> rfl

end

theorem reachAll_append (p : α → Bool) (ts us : List (Rose α)) :
    reachAll p (ts ++ us) = reachAll p ts ++ reachAll p us := by
  induction ts with
  | nil => rfl
  | cons t ts ih => rw [List.cons_append, reachAll, reachAll, ih, List.append_assoc]

/-- **A walk reaches the places with no skipped value above.** -/
theorem filter_isClear_places (p : α → Bool) (ts : List (Rose α)) :
    ((places ts).filter (·.isClear p)).map (·.value) = reachAll p ts := by
  have h := filter_isClear_placesInAll p [] ts
  rwa [List.any_nil, if_neg Bool.false_ne_true] at h

mutual

theorem reach_congr {p q : α → Bool} {t : Rose α} (h : ∀ a ∈ t.reach p, q a = p a) : t.reach q = t.reach p := by
  cases t with
  | node a ts =>
    rw [reach] at h
    obtain ⟨ha, hts⟩ := List.forall_mem_cons.mp h
    rw [reach, reach, ha]
    by_cases hp : p a = true
    · rw [if_pos hp, if_pos hp]
    · rw [if_neg hp] at hts
      rw [if_neg hp, if_neg hp, reachAll_congr hts]

/-- A walk that skips the same of what another walk reaches reaches the same. -/
theorem reachAll_congr {p q : α → Bool} {ts : List (Rose α)} (h : ∀ a ∈ reachAll p ts, q a = p a) :
    reachAll q ts = reachAll p ts := by
  cases ts with
  | nil => rfl
  | cons t ts =>
    rw [reachAll] at h
    obtain ⟨ht, hts⟩ := List.forall_mem_append.mp h
    rw [reachAll, reachAll, reach_congr ht, reachAll_congr hts]

end

/-- A walk reaches values of the trees only. -/
theorem reachAll_subset (p : α → Bool) (ts : List (Rose α)) : reachAll p ts ⊆ preorderAll ts := by
  intro a ha
  rw [← filter_isClear_places] at ha
  obtain ⟨x, hx, rfl⟩ := List.mem_map.mp ha
  rw [← map_value_places]
  exact List.mem_map_of_mem (List.mem_filter.mp hx).1

/-! ## Every value -/

theorem preorderAll_append (ts us : List (Rose α)) :
    preorderAll (ts ++ us) = preorderAll ts ++ preorderAll us := by
  induction ts with
  | nil => rfl
  | cons t ts ih => rw [List.cons_append, preorderAll, preorderAll, ih, List.append_assoc]

/-- Every value of a list of trees has a property. -/
def Every (p : α → Prop) (ts : List (Rose α)) : Prop :=
  ∀ a ∈ preorderAll ts, p a

variable {p : α → Prop}

@[simp] theorem every_nil : Every p [] := by
  intro a ha
  cases ha

@[simp] theorem every_cons {a : α} {us ts : List (Rose α)} :
    Every p (node a us :: ts) ↔ p a ∧ Every p us ∧ Every p ts := by
  simp only [Every, preorderAll, preorder, List.cons_append, List.mem_cons, List.mem_append,
    forall_eq_or_imp]
  constructor
  · rintro ⟨ha, h⟩
    exact ⟨ha, fun b hb => h b (Or.inl hb), fun b hb => h b (Or.inr hb)⟩
  · rintro ⟨ha, hu, ht⟩
    exact ⟨ha, fun b hb => hb.elim (hu b) (ht b)⟩

@[simp] theorem every_append {ts us : List (Rose α)} :
    Every p (ts ++ us) ↔ Every p ts ∧ Every p us := by
  simp only [Every, preorderAll_append, List.mem_append]
  constructor
  · intro h
    exact ⟨fun b hb => h b (Or.inl hb), fun b hb => h b (Or.inr hb)⟩
  · rintro ⟨ht, hu⟩ b (hb | hb)
    · exact ht b hb
    · exact hu b hb

theorem Every.imp {q : α → Prop} (h : ∀ a, p a → q a) {ts : List (Rose α)} (ht : Every p ts) :
    Every q ts :=
  fun a ha => h a (ht a ha)

/-! ## Taking values out -/

mutual

/-- The trees that are left of a tree if only the values with an image stay, each as its image. -/
def restrict (f : α → Option β) : Rose α → List (Rose β)
  | node a ts =>
    match f a with
    | some b => [node b (restrictAll f ts)]
    | none => restrictAll f ts

/-- The trees that are left of a list of trees. -/
def restrictAll (f : α → Option β) : List (Rose α) → List (Rose β)
  | [] => []
  | t :: ts => t.restrict f ++ restrictAll f ts

end

theorem restrictAll_append (f : α → Option β) (ts us : List (Rose α)) :
    restrictAll f (ts ++ us) = restrictAll f ts ++ restrictAll f us := by
  induction ts with
  | nil => rfl
  | cons t ts ih => rw [List.cons_append, restrictAll, restrictAll, ih, List.append_assoc]

mutual

theorem preorderAll_restrict (f : α → Option β) (t : Rose α) :
    preorderAll (t.restrict f) = t.preorder.filterMap f := by
  cases t with
  | node a ts =>
    have ih := preorderAll_restrictAll f ts
    rw [restrict, preorder]
    cases h : f a with
    | none => rw [List.filterMap_cons_none h, ← ih]
    | some b => rw [List.filterMap_cons_some h, ← ih, preorderAll, preorder, preorderAll,
        List.append_nil]

theorem preorderAll_restrictAll (f : α → Option β) (ts : List (Rose α)) :
    preorderAll (restrictAll f ts) = (preorderAll ts).filterMap f := by
  cases ts with
  | nil => rfl
  | cons t ts =>
    rw [restrictAll, preorderAll_append, preorderAll_restrict f t, preorderAll_restrictAll f ts,
      preorderAll, List.filterMap_append]

end

mutual

theorem restrict_eq_nil {f : α → Option β} {t : Rose α} (h : ∀ a ∈ t.preorder, f a = none) :
    t.restrict f = [] := by
  cases t with
  | node a ts =>
    rw [preorder] at h
    rw [restrict, h a List.mem_cons_self]
    exact restrictAll_eq_nil fun b hb => h b (List.mem_cons_of_mem a hb)

/-- Nothing is left of trees without a value that stays. -/
theorem restrictAll_eq_nil {f : α → Option β} {ts : List (Rose α)}
    (h : Every (f · = none) ts) : restrictAll f ts = [] := by
  cases ts with
  | nil => rfl
  | cons t ts =>
    unfold Every at h
    rw [preorderAll] at h
    rw [restrictAll, restrict_eq_nil fun a ha => h a (List.mem_append_left _ ha),
      restrictAll_eq_nil fun a ha => h a (List.mem_append_right _ ha), List.append_nil]

end

/-! ## Walks -/

variable {κ σ ε : Type}

/-- A walk through the second list of trees comes after a walk through the first, if that one does
not stop. -/
theorem walkAll_append (visit : κ → α → σ → σ × Step κ ε) (k : κ) (s : σ) (ts us : List (Rose α)) :
    walkAll visit k s (ts ++ us) =
      match walkAll visit k s ts with
      | (s, some e) => (s, some e)
      | (s, none) => walkAll visit k s us := by
  induction ts generalizing s with
  | nil => rfl
  | cons t ts ih =>
    rw [List.cons_append, walkAll, walkAll]
    rcases walk visit k s t with ⟨s', _ | e⟩
    · exact ih s'
    · rfl

/-- On values with the property `q`, a visitor of trees and one of what is left of them agree: the
first passes through a value without image and does at any other what the second does at its
image. -/
structure Ignores (q : α → Prop) (f : α → Option β) (visit : κ → α → σ → σ × Step κ ε)
    (visit' : κ → β → σ → σ × Step κ ε) : Prop where
  through : ∀ k a s, q a → f a = none → visit k a s = (s, .descend k)
  image : ∀ k a b s, f a = some b → visit k a s = visit' k b s

section Ignoring

variable {q : α → Prop} {f : α → Option β} {visit : κ → α → σ → σ × Step κ ε}
  {visit' : κ → β → σ → σ × Step κ ε}

mutual

theorem walk_eq_walkAll_restrict (h : Ignores q f visit visit') (k : κ) (s : σ) {t : Rose α}
    (ht : Every q [t]) : walk visit k s t = walkAll visit' k s (t.restrict f) := by
  cases t with
  | node a ts =>
    obtain ⟨ha, hts, -⟩ := every_cons.mp ht
    rw [walk, restrict]
    cases hf : f a with
    | none =>
      rw [h.through k a s ha hf]
      exact walkAll_eq_walkAll_restrictAll h k s hts
    | some b =>
      rw [h.image k a b s hf, walkAll, walk]
      rcases visit' k b s with ⟨s', _ | _ | k'⟩
      · rfl
      · rfl
      · simp only
        rw [walkAll_eq_walkAll_restrictAll h k' s' hts]
        rcases walkAll visit' k' s' (restrictAll f ts) with ⟨s'', _ | e⟩ <;> rfl

/-- **A walk does not notice what its visitor passes through.** -/
theorem walkAll_eq_walkAll_restrictAll (h : Ignores q f visit visit') (k : κ) (s : σ)
    {ts : List (Rose α)} (hts : Every q ts) :
    walkAll visit k s ts = walkAll visit' k s (restrictAll f ts) := by
  cases ts with
  | nil => rfl
  | cons t ts =>
    obtain ⟨ht, hts⟩ := every_append.mp (show Every q ([t] ++ ts) from hts)
    rw [walkAll, restrictAll, walkAll_append, ← walk_eq_walkAll_restrict h k s ht]
    rcases walk visit k s t with ⟨s', _ | e⟩
    · exact walkAll_eq_walkAll_restrictAll h k s' hts
    · rfl

end

end Ignoring

/-- What a walk answers: its last state, or why it stopped early. -/
def answer : σ × Option ε → Except ε σ
  | (s, none) => .ok s
  | (_, some e) => .error e

/-- A visitor does at each value what an action does: it stops at the action's error, and else
skips by the value alone. -/
structure Follows (visit : Unit → α → σ → σ × Step Unit ε) (act : σ → α → Except ε σ)
    (skips : α → Bool) : Prop where
  ok : ∀ s a s', act s a = .ok s' → visit () a s = (s', if skips a then .skip else .descend ())
  error : ∀ s a e, act s a = .error e → (visit () a s).2 = .stop e

mutual

theorem answer_walk {visit : Unit → α → σ → σ × Step Unit ε} {act : σ → α → Except ε σ}
    {skips : α → Bool} (h : Follows visit act skips) (s : σ) (t : Rose α) :
    answer (walk visit () s t) = (t.reach skips).foldlM act s := by
  cases t with
  | node a ts =>
    rw [walk, reach, List.foldlM_cons]
    cases ha : act s a with
    | error e =>
      have hv := h.error s a e ha
      rcases hw : visit () a s with ⟨s', st⟩
      rw [hw] at hv
      simp only at hv
      rw [hv]
      rfl
    | ok s' =>
      rw [h.ok s a s' ha]
      cases hs : skips a with
      | true => rfl
      | false => exact answer_walkAll h s' ts

/-- **A walk is a fold over what it reaches.** -/
theorem answer_walkAll {visit : Unit → α → σ → σ × Step Unit ε} {act : σ → α → Except ε σ}
    {skips : α → Bool} (h : Follows visit act skips) (s : σ) (ts : List (Rose α)) :
    answer (walkAll visit () s ts) = (reachAll skips ts).foldlM act s := by
  cases ts with
  | nil => rfl
  | cons t ts =>
    have ih := answer_walk h s t
    rw [walkAll, reachAll, List.foldlM_append, ← ih]
    rcases walk visit () s t with ⟨s', _ | e⟩
    · exact answer_walkAll h s' ts
    · rfl

end

end StoryCatalog.Rose
