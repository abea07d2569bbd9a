import StoryCatalog.Proofs.Story.Extractions

/-!
# Ids that repeat

An id with a suffix is not compared with the ids given before it, so a generated id may repeat an
earlier one. It does exactly if both the derived id of its name and the suffixed one have been given.

* `map_id_withoutId_of_extract`: the ids of the stories without the attribute `id` are the generated ones.
* `repeats_iff`: when a generated id repeats, for any sequence of calls and for the stories of any
  document.
-/

namespace StoryCatalog

theorem ofExpression_ne_absent (e : Expression) : StaticValue.ofExpression e ≠ .absent := by
  intro h
  unfold StaticValue.ofExpression at h
  split at h <;> cases h

theorem ofAttribute_ne_absent (v : AttributeValue) : StaticValue.ofAttribute v ≠ .absent := by
  intro h
  unfold StaticValue.ofAttribute at h
  split at h
  · cases h
  · exact ofExpression_ne_absent _ h
  · cases h
  · cases h
  · exact ofExpression_ne_absent _ h
  · cases h

/-- Only an attribute that is left out has no static value. -/
theorem Element.staticValue_eq_absent_iff {e : Element} {name : String} :
    e.staticValue name = .absent ↔ e.attribute? name = none := by
  unfold staticValue
  cases e.attribute? name with
  | none => exact ⟨fun _ => rfl, fun _ => rfl⟩
  | some v => exact ⟨fun h => absurd h (ofAttribute_ne_absent v), fun h => by cases h⟩

/-- The stories whose marker has no attribute `id`. -/
def withoutId (es : List Element) (ms : List StoryMeta) : List StoryMeta :=
  ((es.zip ms).filter fun p => (p.1.attribute? "id").isNone).map (·.2)

theorem withoutId_cons (e : Element) (es : List Element) (m : StoryMeta) (ms : List StoryMeta) :
    withoutId (e :: es) (m :: ms) =
      (if (e.attribute? "id").isNone then [m] else []) ++ withoutId es ms := by
  unfold withoutId
  rw [List.zip_cons_cons, List.filter_cons]
  split <;> rfl

theorem Element.ReadsAs.isNone_attribute? {r : RawSource} {taken : List String} {e : Element}
    {y : Reading} (h : e.ReadsAs r taken y) :
    (e.attribute? "id").isNone = y.explicitId.isNone := by
  rw [Bool.eq_iff_iff, Option.isNone_iff_eq_none, Option.isNone_iff_eq_none,
    ← staticValue_eq_absent_iff, h.explicitId]
  cases y.explicitId <;> simp [StaticValue.ofText]

/-- The ids of the stories without the attribute `id` are the generated ones. -/
theorem map_id_withoutId {r : RawSource} {ss : List (Element × Option Comment)} {ys : List Reading}
    (h : List.Forall₂ (Element.ReadsAs r []) (ss.map (·.1)) ys) (g : Registry) :
    (withoutId (ss.map (·.1)) ((tell g ys ss).map (·.1))).map (·.id) =
      g.generated (callsOf (ss.map (·.1))) := by
  rw [callsOf_eq h]
  induction ss generalizing ys g with
  | nil =>
    cases h
    rfl
  | cons s ss ih =>
    cases h with
    | @cons _ y _ ys hy hys =>
      rw [tell_cons, List.map_cons, List.map_cons, List.map_cons, withoutId_cons,
        Registry.generated_cons, List.map_append, ih hys, hy.isNone_attribute?]
      unfold Reading.call Reading.story
      cases y.explicitId <;> rfl

/-- A document with a catalog gives ids to its stories as a registry answers the calls of its
markers. -/
theorem map_id_withoutId_of_extract {d : Document} {config : Config} {facts : ScriptFacts}
    {c : Catalog} (h : ScriptFacts.resolve d.file config.packageName d.root = .ok facts)
    (hc : d.extract config = .ok c) :
    (withoutId (d.root.fragment.markers facts.markerTag) c.stories).map (·.id) =
      (Registry.empty d.file config.idHash config.unifyIdSets).generated
        (callsOf (d.root.fragment.markers facts.markerTag)) := by
  obtain ⟨ys, hy, rfl⟩ := exists_readings_of_extract h hc
  obtain ⟨-, hs, -⟩ := recordAll_tell hy (.empty d.file config.idHash config.unifyIdSets)
  rw [hs, ← map_fst_fragment_sightings]
  exact map_id_withoutId (readings_spec hy).1 _

/-- **When a generated id repeats.** It is among the ids given before exactly if both the derived id
and the suffixed id are; and the stories of a document without the attribute `id` have different ids
exactly if this happens to none of them. -/
theorem repeats_iff (file : String) (hash : HashKind) (unifiesIds : Bool) (calls : List Registry.Call)
    (name : String) :
    ((Registry.empty file hash unifiesIds).nextId calls name ∈
          (Registry.empty file hash unifiesIds).taken calls ↔
        Registry.derivedId name ∈ (Registry.empty file hash unifiesIds).taken calls ∧
          Registry.suffixedId hash name ∈ (Registry.empty file hash unifiesIds).taken calls) ∧
      ∀ (d : Document) (config : Config) (facts : ScriptFacts) (c : Catalog),
        ScriptFacts.resolve d.file config.packageName d.root = .ok facts → d.extract config = .ok c →
          (((withoutId (d.root.fragment.markers facts.markerTag) c.stories).map (·.id)).Nodup ↔
            ∀ earlier name later,
              callsOf (d.root.fragment.markers facts.markerTag) = earlier ++ (name, none) :: later →
                ¬(Registry.derivedId name ∈
                      (Registry.empty d.file config.idHash config.unifyIdSets).taken earlier ∧
                    Registry.suffixedId config.idHash name ∈
                      (Registry.empty d.file config.idHash config.unifyIdSets).generated earlier)) := by
  refine ⟨Registry.nextId_mem_iff fun _ hid => hid, ?_⟩
  intro d config facts c h hc
  rw [map_id_withoutId_of_extract h hc, Registry.nodup_generated_iff]
  simp only [Registry.nextId_mem_iff fun _ hid => List.mem_append_left _ hid]

/-- In a document without a collision no generated id repeats. -/
theorem no_repeat_twoStories :
    ∀ earlier name later,
      callsOf (twoStories.root.fragment.markers ScriptFacts.none.markerTag) =
          earlier ++ (name, none) :: later →
        ¬(Registry.derivedId name ∈ (Registry.empty twoStories.file .fold false).taken earlier ∧
            Registry.suffixedId .fold name ∈ (Registry.empty twoStories.file .fold false).generated earlier) :=
  ((repeats_iff twoStories.file .fold false [] "A").2 twoStories Config.default .none _ rfl rfl).mp (by decide)

/-- Generated ids may repeat although all names are different: the name `A!` derives the id `A`, which
is taken, and with its suffix it becomes the id that the name `A800` has already got. -/
theorem repeats_after_suffix :
    ¬∀ (file : String) (hash : HashKind) (unifiesIds : Bool) (calls : List Registry.Call),
      (calls.map (·.1)).Nodup →
        ∀ earlier name later, calls = earlier ++ (name, none) :: later →
          (Registry.empty file hash unifiesIds).nextId earlier name ∉
            (Registry.empty file hash unifiesIds).taken earlier := by
  intro h
  exact h "f" .fold false [("A800", none), ("A", none), ("A!", none)] (by decide)
    [("A800", none), ("A", none)] "A!" [] rfl (by decide)

end StoryCatalog
