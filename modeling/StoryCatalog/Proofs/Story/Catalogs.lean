import Mathlib.Data.List.Basic
import StoryCatalog.Story.Catalog

/-!
# Catalogs agree with themselves

A catalog keeps its stories in a table and their names in a list. However it is filled, the names are
different from each other, they are those under which the table holds a story, and each story stands
under its own name; so every way to look at the catalog shows the same stories.

* `WellFormed.insert`, `WellFormed.warn`: filling a catalog keeps this.
* `WellFormed.map_name_stories`, `WellFormed.mem_stories_iff`, `WellFormed.mem_table_iff`: the names,
  the stories in order, the lookup and the table agree.
* `stories_insert`: a story with a new name comes last.
-/

namespace StoryCatalog.Catalog

/-- The names, the table and the stories of a catalog agree. -/
structure WellFormed (c : Catalog) : Prop where
  distinct : c.names.Nodup
  keys : (c.table.map (·.1)).Nodup
  mem_names : ∀ n, n ∈ c.names ↔ c.contains n = true
  name_eq : ∀ n m, c.get? n = some m → m.name = n

theorem wellFormed_empty : empty.WellFormed where
  distinct := List.nodup_nil
  keys := List.nodup_nil
  mem_names := by
    intro n
    simp [empty, names, contains, get?]
  name_eq := by
    intro n m h
    cases h

variable {c : Catalog}

theorem names_insert (h : c.WellFormed) (m : StoryMeta) :
    (c.insert m).names = if m.name ∈ c.names then c.names else c.names ++ [m.name] := by
  simp only [h.mem_names]
  rfl

theorem contains_insert (c : Catalog) (m : StoryMeta) (n : String) :
    (c.insert m).contains n = true ↔ n = m.name ∨ c.contains n = true := by
  unfold contains
  rw [get?_insert]
  by_cases h : n = m.name <;> simp [h]

theorem WellFormed.insert (h : c.WellFormed) (m : StoryMeta) : (c.insert m).WellFormed where
  distinct := by
    rw [names_insert h]
    split
    · exact h.distinct
    · next hm =>
      refine List.nodup_append.mpr ⟨h.distinct, by simp, fun a ha b hb => ?_⟩
      rw [List.mem_singleton.mp hb]
      rintro rfl
      exact hm ha
  keys := by
    unfold Catalog.insert
    rw [List.map_cons, List.nodup_cons]
    refine ⟨?_, h.keys.sublist (List.filter_sublist.map _)⟩
    simp
  mem_names := by
    intro n
    rw [names_insert h, contains_insert]
    by_cases hm : m.name ∈ c.names
    · rw [if_pos hm, ← h.mem_names]
      constructor
      · exact .inr
      · rintro (rfl | hn)
        · exact hm
        · exact hn
    · rw [if_neg hm, List.mem_append, List.mem_singleton, ← h.mem_names, or_comm]
  name_eq := by
    intro n s hs
    rw [get?_insert] at hs
    split at hs
    · next hn =>
      cases hs
      exact hn.symm
    · exact h.name_eq n s hs

theorem WellFormed.warn (h : c.WellFormed) (w : Warning) : (c.warn w).WellFormed :=
  ⟨h.distinct, h.keys, h.mem_names, h.name_eq⟩

/-! ## Looking at a catalog -/

theorem WellFormed.map_name_filterMap (h : c.WellFormed) {ns : List String}
    (hns : ∀ n ∈ ns, n ∈ c.names) : (ns.filterMap c.get?).map (·.name) = ns := by
  induction ns with
  | nil => rfl
  | cons n ns ih =>
    obtain ⟨hn, hns⟩ := List.forall_mem_cons.mp hns
    obtain ⟨m, hm⟩ := Option.isSome_iff_exists.mp ((h.mem_names n).mp hn)
    rw [List.filterMap_cons_some hm, List.map_cons, ih hns, h.name_eq n m hm]

/-- **The names are those of the stories, in order.** -/
theorem WellFormed.map_name_stories (h : c.WellFormed) : c.stories.map (·.name) = c.names :=
  h.map_name_filterMap fun _ hn => hn

theorem WellFormed.length_stories (h : c.WellFormed) : c.stories.length = c.size := by
  rw [← List.length_map (·.name), h.map_name_stories]
  rfl

/-- A catalog holds the stories that it finds under their names. -/
theorem WellFormed.mem_stories_iff (h : c.WellFormed) {m : StoryMeta} :
    m ∈ c.stories ↔ c.get? m.name = some m := by
  unfold stories
  rw [List.mem_filterMap]
  constructor
  · rintro ⟨n, -, hm⟩
    rwa [h.name_eq n m hm]
  · intro hm
    refine ⟨m.name, (h.mem_names m.name).mpr ?_, hm⟩
    rw [contains, hm]
    rfl

theorem WellFormed.get?_eq_some_iff (h : c.WellFormed) {n : String} {m : StoryMeta} :
    c.get? n = some m ↔ m ∈ c.stories ∧ m.name = n := by
  constructor
  · intro hm
    have hn := h.name_eq n m hm
    exact ⟨h.mem_stories_iff.mpr (hn.symm ▸ hm), hn⟩
  · rintro ⟨hm, rfl⟩
    exact h.mem_stories_iff.mp hm

theorem mem_iff_lookup {t : List (String × StoryMeta)} (ht : (t.map (·.1)).Nodup) {n : String}
    {m : StoryMeta} : (n, m) ∈ t ↔ t.lookup n = some m := by
  induction t with
  | nil => simp
  | cons entry t ih =>
    obtain ⟨n', m'⟩ := entry
    rw [List.map_cons, List.nodup_cons] at ht
    rw [List.mem_cons, List.lookup_cons]
    by_cases hn : n = n'
    · subst hn
      rw [beq_self_eq_true]
      constructor
      · rintro (he | ht')
        · cases he
          rfl
        · exact absurd (List.mem_map_of_mem ht') ht.1
      · intro he
        cases he
        exact .inl rfl
    · rw [beq_false_of_ne hn, ← ih ht.2]
      simp [hn]

/-- The table holds each story under its name, and nothing else. -/
theorem WellFormed.mem_table_iff (h : c.WellFormed) {n : String} {m : StoryMeta} :
    (n, m) ∈ c.table ↔ c.get? n = some m :=
  mem_iff_lookup h.keys

/-- **A story with a new name comes last.** -/
theorem stories_insert (h : c.WellFormed) {m : StoryMeta} (hm : m.name ∉ c.names) :
    (c.insert m).stories = c.stories ++ [m] := by
  have old : c.names.filterMap (c.insert m).get? = c.names.filterMap c.get? := by
    refine List.filterMap_congr fun n hn => ?_
    have hne : n ≠ m.name := fun e => hm (e ▸ hn)
    rw [get?_insert, if_neg hne]
  unfold stories
  change (c.insert m).names.filterMap _ = c.names.filterMap _ ++ _
  rw [names_insert h, if_neg hm, List.filterMap_append, old]
  simp [get?_insert]

end StoryCatalog.Catalog
