import StoryCatalog.Proofs.RelatedLists
import StoryCatalog.Proofs.Story.Markers

/-!
# What a marker says

A marker passes its checks if its name is a static text that no marker before it has, its id and its
source are static or left out, and its source can be recovered. The checks are made in this order, and
the first that fails gives the cause.

* `readsAs_or_failsWith`: a marker passes its checks or fails one of them.
* `exists_readings_eq_ok_iff`, `readings_eq_error_iff`: of many markers, all pass or the first that does not
  gives the cause.
-/

namespace StoryCatalog

section Outcome

variable {α β : Type} {x : Except Failure α} {f : α → β}

theorem map_eq_ok_iff {b : β} : x.map f = .ok b ↔ ∃ a, x = .ok a ∧ f a = b := by
  cases x <;> simp [Except.map]

theorem map_eq_error_iff {c : Failure} : x.map f = .error c ↔ x = .error c := by
  cases x <;> simp [Except.map]

end Outcome

namespace StaticValue

/-- The static value of a text that may be left out. -/
def ofText : Option String → StaticValue
  | none => absent
  | some s => text s

/-- The static value of a shown source that may be left out. -/
def ofSource : Option StorySource → StaticValue
  | none => absent
  | some (.flag b) => flag b
  | some (.code s) => text s

theorem asText_eq_ok_iff {c : Failure} {v : StaticValue} {o : Option String} :
    v.asText c = .ok o ↔ v = ofText o := by
  cases v <;> cases o <;> simp [asText, ofText]

theorem asText_of_not_ofText {v : StaticValue} (h : ∀ o, v ≠ ofText o) (c : Failure) :
    v.asText c = .error c := by
  cases v with
  | text s => exact absurd rfl (h (some s))
  | absent => exact absurd rfl (h none)
  | _ => rfl

theorem asSource_eq_ok_iff {c : Failure} {v : StaticValue} {o : Option StorySource} :
    v.asSource c = .ok o ↔ v = ofSource o := by
  rcases o with _ | _ | _ <;> cases v <;> simp [asSource, ofSource]

theorem asSource_of_not_ofSource {v : StaticValue} (h : ∀ o, v ≠ ofSource o) (c : Failure) :
    v.asSource c = .error c := by
  cases v with
  | text s => exact absurd rfl (h (some (.code s)))
  | flag b => exact absurd rfl (h (some (.flag b)))
  | absent => exact absurd rfl (h none)
  | _ => rfl

end StaticValue

/-- The text of an attribute that is a static text. -/
def Element.staticText? (e : Element) (name : String) : Option String :=
  match e.staticValue name with
  | .text s => some s
  | _ => none

/-- What a marker says of its story. -/
structure Reading where
  name : String
  explicitId : Option String
  source : Option StorySource
  rawSource : Option String

namespace Element

/-- A marker passes its checks, given the names taken before it, and says this of its story. -/
structure ReadsAs (r : RawSource) (taken : List String) (e : Element) (y : Reading) : Prop where
  name : e.staticValue "name" = .text y.name
  fresh : y.name ∉ taken
  explicitId : e.staticValue "id" = .ofText y.explicitId
  source : e.staticValue "source" = .ofSource y.source
  rawSource : r.recover e y.name = .ok y.rawSource

/-- The first check that a marker fails, given the names taken before it, and the cause. -/
inductive FailsWith (r : RawSource) (taken : List String) (e : Element) : Failure → Prop where
  | nameShape (name : ∀ o, e.staticValue "name" ≠ .ofText o) :
    FailsWith r taken e (.invalidAttribute r.document.file "name" .string)
  | nameAbsent (name : e.staticValue "name" = .absent) :
    FailsWith r taken e (.missingStoryName r.document.file e.span.start)
  | nameTaken (n : String) (name : e.staticValue "name" = .text n) (seen : n ∈ taken) :
    FailsWith r taken e (.duplicateStoryName r.document.file n)
  | idShape (n : String) (name : e.staticValue "name" = .text n) (fresh : n ∉ taken)
    (explicitId : ∀ o, e.staticValue "id" ≠ .ofText o) :
    FailsWith r taken e (.invalidAttribute r.document.file "id" .string)
  | sourceShape (n : String) (id : Option String) (name : e.staticValue "name" = .text n)
    (fresh : n ∉ taken) (explicitId : e.staticValue "id" = .ofText id)
    (source : ∀ o, e.staticValue "source" ≠ .ofSource o) :
    FailsWith r taken e (.invalidAttribute r.document.file "source" .booleanOrString)
  | rawSource (n : String) (id : Option String) (shown : Option StorySource) (c : Failure)
    (name : e.staticValue "name" = .text n) (fresh : n ∉ taken)
    (explicitId : e.staticValue "id" = .ofText id) (source : e.staticValue "source" = .ofSource shown)
    (rawSource : r.recover e n = .error c) : FailsWith r taken e c

/-- What a marker says of its story, given the names taken before it. -/
def reading (r : RawSource) (taken : List String) (e : Element) : Except Failure Reading := do
  let name ← Extraction.storyName r.document.file e
  if name ∈ taken then throw (.duplicateStoryName r.document.file name)
  let explicitId ← e.text? r.document.file "id"
  let source ← e.source? r.document.file
  let rawSource ← r.recover e name
  pure ⟨name, explicitId, source, rawSource⟩

variable {r : RawSource} {taken : List String} {e : Element}

theorem storyName_of_text {n : String} (h : e.staticValue "name" = .text n) (file : String) :
    Extraction.storyName file e = .ok n := by
  unfold Extraction.storyName text?
  rw [h]
  rfl

theorem reading_of_readsAs {y : Reading} (h : e.ReadsAs r taken y) : e.reading r taken = .ok y := by
  have hn := storyName_of_text h.name r.document.file
  have hi : e.text? r.document.file "id" = .ok y.explicitId := StaticValue.asText_eq_ok_iff.mpr h.explicitId
  have hs : e.source? r.document.file = .ok y.source := StaticValue.asSource_eq_ok_iff.mpr h.source
  simp [reading, hn, hi, hs, h.fresh, h.rawSource, bind, Except.bind, pure, Except.pure]

theorem reading_of_failsWith {c : Failure} (h : e.FailsWith r taken c) :
    e.reading r taken = .error c := by
  unfold reading
  cases h with
  | nameShape name =>
    have hn : e.text? r.document.file "name" = .error _ := StaticValue.asText_of_not_ofText name _
    rw [Extraction.storyName, hn]
    rfl
  | nameAbsent name =>
    rw [Extraction.storyName, text?, name]
    rfl
  | nameTaken n name seen =>
    rw [storyName_of_text name]
    simp [seen, bind, Except.bind, throw, throwThe, MonadExceptOf.throw]
  | idShape n name fresh explicitId =>
    have hi : e.text? r.document.file "id" = .error _ := StaticValue.asText_of_not_ofText explicitId _
    rw [storyName_of_text name]
    simp [fresh, hi, bind, Except.bind]
  | sourceShape n id name fresh explicitId source =>
    have hi : e.text? r.document.file "id" = .ok id := StaticValue.asText_eq_ok_iff.mpr explicitId
    have hs : e.source? r.document.file = .error _ := StaticValue.asSource_of_not_ofSource source _
    rw [storyName_of_text name]
    simp [fresh, hi, hs, bind, Except.bind]
  | rawSource n id shown c name fresh explicitId source rawSource =>
    have hi : e.text? r.document.file "id" = .ok id := StaticValue.asText_eq_ok_iff.mpr explicitId
    have hs : e.source? r.document.file = .ok shown := StaticValue.asSource_eq_ok_iff.mpr source
    rw [storyName_of_text name]
    simp [fresh, hi, hs, rawSource, bind, Except.bind]

/-- A marker passes its checks or fails one of them. -/
theorem readsAs_or_failsWith (r : RawSource) (taken : List String) (e : Element) :
    (∃ y, e.ReadsAs r taken y) ∨ ∃ c, e.FailsWith r taken c := by
  by_cases hn : ∃ o, e.staticValue "name" = .ofText o
  · obtain ⟨_ | n, hn⟩ := hn
    · exact .inr ⟨_, .nameAbsent hn⟩
    by_cases ht : n ∈ taken
    · exact .inr ⟨_, .nameTaken n hn ht⟩
    by_cases hi : ∃ o, e.staticValue "id" = .ofText o
    · obtain ⟨id, hi⟩ := hi
      by_cases hs : ∃ o, e.staticValue "source" = .ofSource o
      · obtain ⟨shown, hs⟩ := hs
        cases hr : r.recover e n with
        | ok raw => exact .inl ⟨⟨n, id, shown, raw⟩, ⟨hn, ht, hi, hs, hr⟩⟩
        | error c => exact .inr ⟨c, .rawSource n id shown c hn ht hi hs hr⟩
      · exact .inr ⟨_, .sourceShape n id hn ht hi (not_exists.mp hs)⟩
    · exact .inr ⟨_, .idShape n hn ht (not_exists.mp hi)⟩
  · exact .inr ⟨_, .nameShape (not_exists.mp hn)⟩

/-- Fewer taken names let pass what passes. -/
theorem ReadsAs.mono {taken' : List String} {y : Reading} (h : e.ReadsAs r taken y)
    (ht : ∀ n ∈ taken', n ∈ taken) : e.ReadsAs r taken' y :=
  ⟨h.name, fun hm => h.fresh (ht _ hm), h.explicitId, h.source, h.rawSource⟩

theorem ReadsAs.staticText? {y : Reading} (h : e.ReadsAs r taken y) :
    e.staticText? "name" = some y.name := by
  rw [Element.staticText?, h.name]

/-- It does not matter in which order the names were taken. -/
theorem reading_congr {taken' : List String} (h : ∀ n, n ∈ taken ↔ n ∈ taken') :
    e.reading r taken = e.reading r taken' := by
  unfold reading
  simp only [h]

end Element

/-! ## Many markers -/

/-- The names that markers give as static texts. -/
def namesOf (es : List Element) : List String :=
  es.filterMap (·.staticText? "name")

/-- What markers say of their stories, given the names taken before them. -/
def readings (r : RawSource) (taken : List String) : List Element → Except Failure (List Reading)
  | [] => .ok []
  | e :: es => do
    let y ← e.reading r taken
    let ys ← readings r (taken ++ [y.name]) es
    pure (y :: ys)

/-- Each of the markers passes its checks, given the names of those before it. -/
def AllPass (r : RawSource) (taken : List String) (es : List Element) : Prop :=
  ∀ earlier e later, es = earlier ++ e :: later → ∃ y, e.ReadsAs r (taken ++ namesOf earlier) y

/-- One of the markers fails with a cause after all before it have passed. -/
def FirstFails (r : RawSource) (taken : List String) (es : List Element) (c : Failure) : Prop :=
  ∃ earlier e later, es = earlier ++ e :: later ∧ AllPass r taken earlier ∧
    e.FailsWith r (taken ++ namesOf earlier) c

section

variable {r : RawSource} {taken : List String} {e : Element} {es : List Element}

theorem namesOf_cons {y : Reading} (h : e.ReadsAs r taken y) :
    namesOf (e :: es) = y.name :: namesOf es :=
  List.filterMap_cons_some h.staticText?

theorem allPass_nil : AllPass r taken [] := by
  intro earlier e later h
  cases earlier <;> cases h

theorem allPass_cons :
    AllPass r taken (e :: es) ↔
      ∃ y, e.ReadsAs r taken y ∧ AllPass r (taken ++ [y.name]) es := by
  constructor
  · intro h
    obtain ⟨y, hy⟩ := h [] e es rfl
    rw [namesOf, List.filterMap_nil, List.append_nil] at hy
    refine ⟨y, hy, fun earlier e' later hs => ?_⟩
    have := h (e :: earlier) e' later (by rw [hs, List.cons_append])
    rwa [namesOf_cons hy, List.append_cons] at this
  · rintro ⟨y, hy, h⟩ earlier e' later hs
    cases earlier with
    | nil =>
      cases hs
      exact ⟨y, by simpa [namesOf] using hy⟩
    | cons e₀ earlier =>
      obtain ⟨rfl, rfl⟩ := List.cons.inj hs
      rw [namesOf_cons hy, List.append_cons]
      exact h earlier e' later rfl

theorem firstFails_cons {c : Failure} :
    FirstFails r taken (e :: es) c ↔
      e.FailsWith r taken c ∨
        ∃ y, e.ReadsAs r taken y ∧ FirstFails r (taken ++ [y.name]) es c := by
  constructor
  · rintro ⟨_ | ⟨e₀, earlier⟩, e', later, hs, hp, hf⟩
    · cases hs
      exact .inl (by simpa [namesOf] using hf)
    · obtain ⟨rfl, rfl⟩ := List.cons.inj hs
      obtain ⟨y, hy, hp⟩ := allPass_cons.mp hp
      rw [namesOf_cons hy, List.append_cons] at hf
      exact .inr ⟨y, hy, earlier, e', later, rfl, hp, hf⟩
  · rintro (hf | ⟨y, hy, earlier, e', later, hs, hp, hf⟩)
    · exact ⟨[], e, es, rfl, allPass_nil, by simpa [namesOf] using hf⟩
    · refine ⟨e :: earlier, e', later, by rw [hs, List.cons_append],
        allPass_cons.mpr ⟨y, hy, hp⟩, ?_⟩
      rwa [namesOf_cons hy, List.append_cons]

theorem readings_cons_of_readsAs {y : Reading} (hy : e.ReadsAs r taken y) :
    readings r taken (e :: es) = (readings r (taken ++ [y.name]) es).map (y :: ·) := by
  rw [readings, Element.reading_of_readsAs hy]
  cases h : readings r (taken ++ [y.name]) es <;> simp [h, bind, Except.bind, pure, Except.pure,
    Except.map]

theorem readings_cons_of_failsWith {c : Failure} (hc : e.FailsWith r taken c) :
    readings r taken (e :: es) = .error c := by
  rw [readings, Element.reading_of_failsWith hc]
  rfl

/-- **Markers can be read exactly if each passes its checks.** -/
theorem exists_readings_eq_ok_iff : (∃ ys, readings r taken es = .ok ys) ↔ AllPass r taken es := by
  induction es generalizing taken with
  | nil => exact ⟨fun _ => allPass_nil, fun _ => ⟨[], rfl⟩⟩
  | cons e es ih =>
    rw [allPass_cons]
    constructor
    · rintro ⟨ys, h⟩
      rcases Element.readsAs_or_failsWith r taken e with ⟨y, hy⟩ | ⟨c, hc⟩
      · rw [readings_cons_of_readsAs hy, map_eq_ok_iff] at h
        obtain ⟨ys', h', -⟩ := h
        exact ⟨y, hy, ih.mp ⟨ys', h'⟩⟩
      · rw [readings_cons_of_failsWith hc] at h
        cases h
    · rintro ⟨y, hy, h⟩
      obtain ⟨ys, h⟩ := ih.mpr h
      exact ⟨y :: ys, by rw [readings_cons_of_readsAs hy, h]; rfl⟩

/-- **The first marker that fails a check gives the cause.** -/
theorem readings_eq_error_iff {c : Failure} :
    readings r taken es = .error c ↔ FirstFails r taken es c := by
  induction es generalizing taken with
  | nil =>
    constructor
    · intro h
      cases h
    · rintro ⟨earlier, e, later, hs, -⟩
      cases earlier <;> cases hs
  | cons e es ih =>
    rw [firstFails_cons]
    constructor
    · intro h
      rcases Element.readsAs_or_failsWith r taken e with ⟨y, hy⟩ | ⟨c', hc⟩
      · rw [readings_cons_of_readsAs hy, map_eq_error_iff] at h
        exact .inr ⟨y, hy, ih.mp h⟩
      · rw [readings_cons_of_failsWith hc] at h
        cases h
        exact .inl hc
    · rintro (hf | ⟨y, hy, hf⟩)
      · exact readings_cons_of_failsWith hf
      · rw [readings_cons_of_readsAs hy, map_eq_error_iff]
        exact ih.mpr hf

/-- Markers that can be read give different names, none of them taken before. -/
theorem readings_spec {ys : List Reading} (h : readings r taken es = .ok ys) :
    List.Forall₂ (Element.ReadsAs r []) es ys ∧ (ys.map (·.name)).Nodup ∧
      ∀ n ∈ taken, n ∉ ys.map (·.name) := by
  induction es generalizing taken ys with
  | nil =>
    cases h
    exact ⟨.nil, List.nodup_nil, fun _ _ => List.not_mem_nil⟩
  | cons e es ih =>
    rcases Element.readsAs_or_failsWith r taken e with ⟨y, hy⟩ | ⟨c, hc⟩
    · rw [readings_cons_of_readsAs hy, map_eq_ok_iff] at h
      obtain ⟨ys', h', rfl⟩ := h
      obtain ⟨hall, hd, ht⟩ := ih h'
      have hn : y.name ∉ ys'.map (·.name) := ht y.name (by simp)
      refine ⟨.cons (hy.mono fun _ hm => absurd hm List.not_mem_nil) hall,
        List.nodup_cons.mpr ⟨hn, hd⟩, fun n hn' => ?_⟩
      rw [List.map_cons, List.mem_cons, not_or]
      refine ⟨?_, ht n (List.mem_append_left _ hn')⟩
      rintro rfl
      exact hy.fresh hn'
    · rw [readings_cons_of_failsWith hc] at h
      cases h

end

end StoryCatalog
