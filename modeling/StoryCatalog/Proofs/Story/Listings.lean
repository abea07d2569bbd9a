import StoryCatalog.Proofs.Story.Landmarks
import StoryCatalog.Proofs.Story.Readings

/-!
# What the landmarks of an index say

A marker is listed if its attributes identify it by an export name and a name that no marker before it has,
its tags are static texts or left out, and its source can be recovered where sources are asked for. A meta
element is in order if its title and its tags are. The checks of a landmark are made in this order, and the
first that fails gives the cause.

* `asTexts_ofTexts`, `asTexts_of_textsFail`: arrays of texts, and what is wrong with other static values.
* `Identifies.unique`: the attributes of a marker identify it by one export name and one name.
* `identity_of_identifies`: an index identifies a marker as its attributes do.
* `passes_or_failsWith`: a landmark is in order or fails a check.
* `isFlawed_iff`: a landmark fails a check exactly if something is wrong with it.
-/

namespace StoryCatalog

namespace StaticValue

/-- The static value of an array of texts that may be left out. -/
def ofTexts : Option (List String) → StaticValue
  | none => absent
  | some ss => array (ss.map text)

/-- What is wrong with a static value that is no array of texts: its shape, or its first item that is no
text. -/
inductive TextsFail (wrongShape : Failure) (wrongItem : Nat → Failure) (v : StaticValue) : Failure → Prop where
  | shape (present : v ≠ absent) (notArray : ∀ items, v ≠ array items) :
    TextsFail wrongShape wrongItem v wrongShape
  | item (ss : List String) (item : StaticValue) (items : List StaticValue)
    (isArray : v = array (ss.map text ++ item :: items)) (notText : ∀ s, item ≠ text s) :
    TextsFail wrongShape wrongItem v (wrongItem ss.length)

theorem texts_of_not_text {wrongItem : Nat → Failure} {item : StaticValue} (h : ∀ s, item ≠ text s)
    (index : Nat) (ss : List String) (items : List StaticValue) :
    texts wrongItem index (ss.map text ++ item :: items) = .error (wrongItem (index + ss.length)) := by
  induction ss generalizing index with
  | nil =>
    cases item with
    | text s => exact absurd rfl (h s)
    | _ => rfl
  | cons s ss ih =>
    rw [List.map_cons, List.cons_append, texts, ih, List.length_cons, Nat.add_right_comm, ← Nat.add_assoc]
    rfl

/-- Items are texts, or one of them is the first that is none. -/
theorem texts_or_first_not_text (items : List StaticValue) :
    (∃ ss : List String, items = ss.map text) ∨
      ∃ (ss : List String) (item : StaticValue) (rest : List StaticValue),
        items = ss.map text ++ item :: rest ∧ ∀ s, item ≠ text s := by
  induction items with
  | nil => exact .inl ⟨[], rfl⟩
  | cons item items ih =>
    by_cases h : ∃ s, item = text s
    · obtain ⟨s, rfl⟩ := h
      rcases ih with ⟨ss, rfl⟩ | ⟨ss, item, rest, rfl, hn⟩
      · exact .inl ⟨s :: ss, rfl⟩
      · exact .inr ⟨s :: ss, item, rest, rfl, hn⟩
    · exact .inr ⟨[], item, items, rfl, not_exists.mp h⟩

variable {wrongShape : Failure} {wrongItem : Nat → Failure} {v : StaticValue}

theorem asTexts_ofTexts (o : Option (List String)) : (ofTexts o).asTexts wrongShape wrongItem = .ok o := by
  cases o with
  | none => rfl
  | some ss =>
    rw [ofTexts, asTexts, texts_eq_ok_iff.mpr rfl]
    rfl

theorem asTexts_of_textsFail {c : Failure} (h : TextsFail wrongShape wrongItem v c) :
    v.asTexts wrongShape wrongItem = .error c := by
  cases h with
  | shape present notArray =>
    cases v with
    | absent => exact absurd rfl present
    | array items => exact absurd rfl (notArray items)
    | _ => rfl
  | item ss item items isArray notText =>
    rw [isArray, asTexts, texts_of_not_text notText, Nat.zero_add]
    rfl

/-- A static value is an array of texts or left out, or something is wrong with it. -/
theorem ofTexts_or_textsFail (wrongShape : Failure) (wrongItem : Nat → Failure) (v : StaticValue) :
    (∃ o, v = ofTexts o) ∨ ∃ c, TextsFail wrongShape wrongItem v c := by
  cases v with
  | absent => exact .inl ⟨none, rfl⟩
  | array items =>
    rcases texts_or_first_not_text items with ⟨ss, rfl⟩ | ⟨ss, item, rest, rfl, hn⟩
    · exact .inl ⟨some ss, rfl⟩
    · exact .inr ⟨_, .item ss item rest rfl hn⟩
  | _ => exact .inr ⟨_, .shape nofun nofun⟩

end StaticValue

/-! ## Markers -/

namespace Element

/-- The attributes of a marker identify it by an export name and a name: as they are if both are given, and
otherwise the one that is left out is derived from the other. -/
inductive Identifies (e : Element) : String → String → Prop where
  | both (exportName name : String) (givenExportName : e.staticValue "exportName" = .text exportName)
    (givenName : e.staticValue "name" = .text name) : Identifies e exportName name
  | exportName (exportName : String) (givenExportName : e.staticValue "exportName" = .text exportName)
    (noName : e.staticValue "name" = .absent) :
    Identifies e exportName (Text.onText Name.displayName exportName)
  | name (name : String) (derived : List Char) (noExportName : e.staticValue "exportName" = .absent)
    (givenName : e.staticValue "name" = .text name)
    (derives : Name.exportName? name.toList = some derived) :
    Identifies e (String.ofList derived) name

/-- **A marker is identified in one way.** -/
theorem Identifies.unique {e : Element} {x x' n n' : String} (h : e.Identifies x n)
    (h' : e.Identifies x' n') : x = x' ∧ n = n' := by
  cases h with
  | both _ _ hx hn => cases h' <;> simp_all
  | exportName _ hx hn => cases h' <;> simp_all
  | name _ _ hx hn hd => cases h' <;> simp_all

/-- A marker is listed as a story. -/
structure ListsAs (plan : IndexPlan) (e : Element) (s : IndexedStory) : Prop where
  identity : e.Identifies s.exportName s.name
  tags : e.staticValue "tags" = .array (s.tags.map .text) ∨
    e.staticValue "tags" = .absent ∧ s.tags = []
  rawSource : Indexing.sourceOf plan e s.name = .ok s.rawSource

/-- What is wrong with tags that are neither static texts nor left out. -/
def TagsFail (file : String) (e : Element) (c : Failure) : Prop :=
  (e.staticValue "tags").TextsFail (.invalidAttribute file "tags" .stringArray)
    (.arrayElementNotString file "tags") c

end Element

/-- A marker before has an export name, given or derived. -/
def ExportNameTaken (earlier : List Landmark) (x : String) : Prop :=
  ∃ e ∈ markersOf earlier, ∃ n, e.Identifies x n

/-- A marker before has a name, given or derived. -/
def NameTaken (earlier : List Landmark) (n : String) : Prop :=
  ∃ e ∈ markersOf earlier, ∃ x, e.Identifies x n

/-- The first check that a landmark fails after others, and the cause. -/
inductive Landmark.FailsWith (plan : IndexPlan) (earlier : List Landmark) : Landmark → Failure → Prop where
  | exportNameShape (e : Element) (exportName : ∀ o, e.staticValue "exportName" ≠ .ofText o) :
    FailsWith plan earlier (.marker e) (.invalidAttribute plan.file "exportName" .string)
  | nameShape (e : Element) (x : Option String) (exportName : e.staticValue "exportName" = .ofText x)
    (name : ∀ o, e.staticValue "name" ≠ .ofText o) :
    FailsWith plan earlier (.marker e) (.invalidAttribute plan.file "name" .string)
  | noIdentity (e : Element) (exportName : e.staticValue "exportName" = .absent)
    (name : e.staticValue "name" = .absent) :
    FailsWith plan earlier (.marker e) (.missingStoryIdentity plan.file e.span.start)
  | noExportName (e : Element) (n : String) (exportName : e.staticValue "exportName" = .absent)
    (name : e.staticValue "name" = .text n) (derives : Name.exportName? n.toList = none) :
    FailsWith plan earlier (.marker e) (.invalidExportName plan.file n)
  | exportNameTaken (e : Element) (x n : String) (identity : e.Identifies x n)
    (taken : ExportNameTaken earlier x) : FailsWith plan earlier (.marker e) (.duplicateExportName plan.file x)
  | nameTaken (e : Element) (x n : String) (identity : e.Identifies x n)
    (freshExportName : ¬ExportNameTaken earlier x) (taken : NameTaken earlier n) :
    FailsWith plan earlier (.marker e) (.duplicateStoryName plan.file n)
  | tags (e : Element) (x n : String) (identity : e.Identifies x n)
    (freshExportName : ¬ExportNameTaken earlier x) (freshName : ¬NameTaken earlier n) (c : Failure)
    (tags : e.TagsFail plan.file c) : FailsWith plan earlier (.marker e) c
  | rawSource (e : Element) (x n : String) (identity : e.Identifies x n)
    (freshExportName : ¬ExportNameTaken earlier x) (freshName : ¬NameTaken earlier n)
    (ts : Option (List String)) (tags : e.staticValue "tags" = .ofTexts ts) (c : Failure)
    (rawSource : Indexing.sourceOf plan e n = .error c) : FailsWith plan earlier (.marker e) c
  | titleShape (e : Element) (title : ∀ o, e.staticValue "title" ≠ .ofText o) :
    FailsWith plan earlier (.info e) (.invalidAttribute plan.file "title" .string)
  | infoTags (e : Element) (t : Option String) (title : e.staticValue "title" = .ofText t) (c : Failure)
    (tags : e.TagsFail plan.file c) : FailsWith plan earlier (.info e) c

/-- A landmark is in order after others. -/
inductive Landmark.Passes (plan : IndexPlan) (earlier : List Landmark) : Landmark → Prop where
  | marker (e : Element) (s : IndexedStory) (lists : e.ListsAs plan s)
    (freshExportName : ¬ExportNameTaken earlier s.exportName) (freshName : ¬NameTaken earlier s.name) :
    Passes plan earlier (.marker e)
  | info (e : Element) (t : Option String) (ts : Option (List String))
    (title : e.staticValue "title" = .ofText t) (tags : e.staticValue "tags" = .ofTexts ts) :
    Passes plan earlier (.info e)

namespace Element

variable {e : Element} {file : String}

theorem text?_of_ofText {name : String} {o : Option String} (h : e.staticValue name = .ofText o) :
    e.text? file name = .ok o :=
  StaticValue.asText_eq_ok_iff.mpr h

theorem text?_of_not_ofText {name : String} (h : ∀ o, e.staticValue name ≠ .ofText o) :
    e.text? file name = .error (.invalidAttribute file name .string) :=
  StaticValue.asText_of_not_ofText h _

theorem texts?_of_ofTexts {name : String} {o : Option (List String)}
    (h : e.staticValue name = .ofTexts o) : e.texts? file name = .ok o := by
  rw [texts?, h]
  exact StaticValue.asTexts_ofTexts o

theorem texts?_of_tagsFail {c : Failure} (h : e.TagsFail file c) : e.texts? file "tags" = .error c :=
  StaticValue.asTexts_of_textsFail h

/-- The export name and the name of a marker, as an index works them out. -/
def identity (e : Element) (file : String) : Except Failure (String × String) := do
  let givenExportName ← e.text? file "exportName"
  let givenName ← e.text? file "name"
  Indexing.names file e.span.start givenExportName givenName

theorem identity_of_ofText {x n : Option String} (hx : e.staticValue "exportName" = .ofText x)
    (hn : e.staticValue "name" = .ofText n) : e.identity file = Indexing.names file e.span.start x n := by
  rw [identity, text?_of_ofText hx, text?_of_ofText hn]
  rfl

theorem identity_of_identifies {x n : String} (h : e.Identifies x n) : e.identity file = .ok (x, n) := by
  cases h with
  | both _ _ hx hn => exact identity_of_ofText (x := some x) (n := some n) hx hn
  | exportName _ hx hn => exact identity_of_ofText (x := some x) (n := none) hx hn
  | name _ derived hx hn hd =>
    rw [identity_of_ofText (x := none) (n := some n) hx hn, Indexing.names, hd]

/-- The tags are texts or left out, or something is wrong with them. -/
theorem ofTexts_or_tagsFail (file : String) (e : Element) :
    (∃ o, e.staticValue "tags" = .ofTexts o) ∨ ∃ c, e.TagsFail file c :=
  StaticValue.ofTexts_or_textsFail _ _ _

end Element

/-! ## Landmarks in order -/

section

variable {plan : IndexPlan} {earlier : List Landmark} {l : Landmark}

/-- A marker is identified, or one of the checks on its names fails. -/
theorem identifies_or_failsWith (plan : IndexPlan) (earlier : List Landmark) (e : Element) :
    (∃ m n, e.Identifies m n) ∨ ∃ c, (Landmark.marker e).FailsWith plan earlier c := by
  by_cases hm : ∃ o, e.staticValue "exportName" = .ofText o
  · obtain ⟨m, hm⟩ := hm
    by_cases hn : ∃ o, e.staticValue "name" = .ofText o
    · obtain ⟨n, hn⟩ := hn
      rcases m with _ | m <;> rcases n with _ | n
      · exact .inr ⟨_, .noIdentity e hm hn⟩
      · cases hd : Name.exportName? n.toList with
        | none => exact .inr ⟨_, .noExportName e n hm hn hd⟩
        | some derived => exact .inl ⟨_, _, .name n derived hm hn hd⟩
      · exact .inl ⟨_, _, .exportName m hm hn⟩
      · exact .inl ⟨_, _, .both m n hm hn⟩
    · exact .inr ⟨_, .nameShape e m hm (not_exists.mp hn)⟩
  · exact .inr ⟨_, .exportNameShape e (not_exists.mp hm)⟩

/-- **A landmark is in order or fails a check.** -/
theorem passes_or_failsWith (plan : IndexPlan) (earlier : List Landmark) (l : Landmark) :
    l.Passes plan earlier ∨ ∃ c, l.FailsWith plan earlier c := by
  cases l with
  | marker e =>
    rcases identifies_or_failsWith plan earlier e with ⟨m, n, hid⟩ | hf
    · by_cases hm : ExportNameTaken earlier m
      · exact .inr ⟨_, .exportNameTaken e m n hid hm⟩
      by_cases hn : NameTaken earlier n
      · exact .inr ⟨_, .nameTaken e m n hid hm hn⟩
      rcases e.ofTexts_or_tagsFail plan.file with ⟨ts, ht⟩ | ⟨c, ht⟩
      · cases hr : Indexing.sourceOf plan e n with
        | ok raw =>
          refine .inl (.marker e ⟨m, n, ts.getD [], raw⟩ ⟨hid, ?_, hr⟩ hm hn)
          cases ts with
          | none => exact .inr ⟨ht, rfl⟩
          | some ts => exact .inl ht
        | error c => exact .inr ⟨c, .rawSource e m n hid hm hn ts ht c hr⟩
      · exact .inr ⟨c, .tags e m n hid hm hn c ht⟩
    · exact .inr hf
  | info e =>
    by_cases ht : ∃ o, e.staticValue "title" = .ofText o
    · obtain ⟨t, ht⟩ := ht
      rcases e.ofTexts_or_tagsFail plan.file with ⟨ts, hts⟩ | ⟨c, hts⟩
      · exact .inl (.info e t ts ht hts)
      · exact .inr ⟨c, .infoTags e t ht c hts⟩
    · exact .inr ⟨_, .titleShape e (not_exists.mp ht)⟩

end

end StoryCatalog
