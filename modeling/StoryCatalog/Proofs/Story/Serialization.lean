import Mathlib.Data.List.Nodup
import StoryCatalog.Story.Config
import StoryCatalog.Proofs.Story.Catalogs

/-!
# Reading back what was written

The JSON value of a catalog is an object with one member for each story: the names are those of the
catalog, in its order, and each value is that of the story under the name. So what is read under a name
is what the catalog finds under it.

* `members_names`, `members_stories`: the names and the values of the members, in order.
* `member?_members`: the member under a name.
* `serialized_reads_back`: stories, catalogs and configurations read back from their JSON values.
-/

namespace StoryCatalog

open Json

namespace Catalog

/-- A catalog that was filled story by story, with warnings in between. -/
inductive Filled : Catalog → Prop
  | empty : Filled empty
  | insert {c : Catalog} (h : Filled c) (m : StoryMeta) : Filled (c.insert m)
  | warn {c : Catalog} (h : Filled c) (w : Warning) : Filled (c.warn w)

theorem Filled.wellFormed {c : Catalog} (h : c.Filled) : c.WellFormed := by
  induction h with
  | empty => exact wellFormed_empty
  | insert _ m ih => exact ih.insert m
  | warn _ w ih => exact ih.warn w

/-- The members of the JSON value of a catalog. -/
def members (c : Catalog) : Members :=
  c.stories.map fun m => (m.name, m.toJson)

theorem toJson_eq (c : Catalog) : c.toJson = .object c.members := rfl

variable {c : Catalog}

/-- The members have the names of the catalog, in order. -/
theorem members_names (h : c.WellFormed) : c.members.map (·.1) = c.names := by
  rw [members, List.map_map, ← h.map_name_stories]
  rfl

theorem length_members (h : c.WellFormed) : c.members.length = c.size := by
  rw [members, List.length_map, h.length_stories]

/-- The values of the members read back as the stories, in order. -/
theorem members_stories (c : Catalog) :
    c.members.mapM (fun member => StoryMeta.ofJson? member.2) = some c.stories := by
  rw [members, List.mapM_map]
  induction c.stories with
  | nil => rfl
  | cons m ms ih => simp [StoryMeta.ofJson?_toJson, ih]

/-! ## One member for each name -/

/-- The story under a name is the only one that has this name. -/
theorem WellFormed.filter_stories (h : c.WellFormed) (name : String) :
    c.stories.filter (·.name == name) = (c.get? name).toList := by
  have among : ∀ n m, c.get? n = some m → (m.name == name) = (n == name) := by
    intro n m hm
    rw [h.name_eq n m hm]
  have named : c.stories.filter (·.name == name) =
      (c.names.filter (· == name)).filterMap c.get? := by
    rw [stories, List.filter_filterMap, List.filterMap_filter]
    refine List.filterMap_congr fun n _ => ?_
    cases hn : c.get? n with
    | none => simp
    | some m => simp [Option.filter_some, among n m hn]
  rw [named, List.filter_beq, h.distinct.count]
  by_cases hn : name ∈ c.names
  · rw [if_pos hn]
    cases hm : c.get? name <;> simp [hm]
  · have absent : c.get? name = none := by
      rw [h.mem_names, contains, Bool.not_eq_true, Option.isSome_eq_false_iff] at hn
      exact Option.isNone_iff_eq_none.mp hn
    rw [if_neg hn, absent]
    rfl

/-- **A look-up in the object finds what a look-up in the catalog finds**: there is one member under the
name of a story, and none under any other name. -/
theorem member?_members (h : c.WellFormed) (name : String) :
    member? name c.members = some ((c.get? name).map (·.toJson)) := by
  have values : valuesOf name c.members = ((c.get? name).map (·.toJson)).toList := by
    have stories : valuesOf name c.members =
        (c.stories.filter (·.name == name)).map (·.toJson) := by
      rw [valuesOf, members, List.filter_map, List.map_map]
      rfl
    rw [stories, h.filter_stories, Option.toList_map]
  rw [member?, values]
  cases c.get? name <;> rfl

/-- Each member holds the story that the catalog finds under its name. -/
theorem ofJson?_of_mem_members (h : c.WellFormed) {name : String} {j : Json}
    (hj : (name, j) ∈ c.members) : ∃ m, c.get? name = some m ∧ StoryMeta.ofJson? j = some m := by
  obtain ⟨m, hm, he⟩ := List.mem_map.mp hj
  cases he
  exact ⟨m, h.mem_stories_iff.mp hm, m.ofJson?_toJson⟩

end Catalog

/-- **What was written reads back.** The JSON value of a story reads back as the story, and that of a
configuration as the configuration. The JSON value of a catalog, however it was filled, is an object
with one member for each story: the members have the names of the catalog, in order and without
repetition, their values read back as its stories, in order, and each as the story found under the
member's name; and under a name without a story there is no member. -/
theorem serialized_reads_back (m : StoryMeta) (config : Config) {c : Catalog} (h : c.Filled) :
    StoryMeta.ofJson? m.toJson = some m ∧
    Config.ofJson? config.toJson = some config ∧
    ∃ ms : Members, c.toJson = .object ms ∧
      ms.map (·.1) = c.names ∧ c.names.Nodup ∧ ms.length = c.size ∧
      ms.mapM (fun member => StoryMeta.ofJson? member.2) = some c.stories ∧
      (∀ name j, (name, j) ∈ ms → ∃ s, c.get? name = some s ∧ StoryMeta.ofJson? j = some s) ∧
      ∀ name, member? name ms = some ((c.get? name).map (·.toJson)) := by
  have hc := h.wellFormed
  refine ⟨m.ofJson?_toJson, config.ofJson?_toJson, c.members, c.toJson_eq, Catalog.members_names hc,
    hc.distinct, Catalog.length_members hc, c.members_stories, ?_, Catalog.member?_members hc⟩
  intro name j hj
  exact Catalog.ofJson?_of_mem_members hc hj

/-- A story that leaves nothing out. -/
def fullStory : StoryMeta :=
  ⟨"full", "Full", some "", some (.flag false), some "<p/>"⟩

/-- A catalog in which the first story was put in again after a warning and a second story. -/
def refilledCatalog : Catalog :=
  (((Catalog.empty.insert ⟨"a", "A", none, none, none⟩).warn ⟨"f", "A", "a", "a1"⟩).insert
    fullStory).insert ⟨"a1", "A", none, some (.code "true"), none⟩

theorem filled_refilledCatalog : refilledCatalog.Filled :=
  (((Catalog.Filled.empty.insert _).warn _).insert _).insert _

theorem refilledCatalog_reads_back :
    refilledCatalog.Filled ∧ refilledCatalog.names = ["A", "Full"] ∧
    ∃ ms : Members, refilledCatalog.toJson = .object ms ∧ ms.map (·.1) = ["A", "Full"] ∧
      ms.mapM (fun member => StoryMeta.ofJson? member.2) =
        some [⟨"a1", "A", none, some (.code "true"), none⟩, fullStory] ∧
      member? "Full" ms = some (some fullStory.toJson) := by
  obtain ⟨-, -, ms, hms, names, -, -, stories, -, look⟩ :=
    serialized_reads_back fullStory Config.default filled_refilledCatalog
  have found : refilledCatalog.get? "Full" = some fullStory := by decide
  have listed : refilledCatalog.stories =
      [⟨"a1", "A", none, some (.code "true"), none⟩, fullStory] := by decide
  refine ⟨filled_refilledCatalog, by decide, ms, hms, names.trans (by decide), ?_, ?_⟩
  · rw [stories, listed]
  · rw [look, found]
    rfl

end StoryCatalog
