import StoryCatalog.Json.Record

/-!
# Stories and catalogs

A catalog holds the stories of one document by name, the order of their markers and the warnings that
came up. The index of a document holds less of each story.

* `StoryMeta.ofJson?_toJson`: a story reads back from its JSON value.
* `Catalog.get?_insert`: a story is found under its name, and the others stay as they are.
-/

namespace StoryCatalog

open Json

/-- What a story shows as its source: whether it shows any, or this text. -/
inductive StorySource where
  | flag (b : Bool)
  | code (text : String)
deriving DecidableEq, Repr

/-- What is known of a story. -/
structure StoryMeta where
  id : String
  name : String
  description : Option String
  source : Option StorySource
  rawSource : Option String
deriving DecidableEq, Repr

/-- A member that is left out if there is no value. -/
def optionalMember {α : Type} (name : String) (value : α → Json) : Option α → List (String × Json)
  | none => []
  | some a => [(name, value a)]

namespace StorySource

/-- The JSON value of a shown source. -/
def toJson : StorySource → Json
  | flag b => .bool b
  | code text => .string text

/-- A shown source. -/
def ofJson? : Json → Option StorySource
  | .bool b => some (flag b)
  | .string s => some (code s)
  | _ => none

end StorySource

namespace StoryMeta

/-- The JSON value of a story. -/
def toJson (m : StoryMeta) : Json :=
  .object (("id", .string m.id) :: ("name", .string m.name) ::
    (optionalMember "description" .string m.description ++
      optionalMember "source" StorySource.toJson m.source ++
      optionalMember "rawSource" .string m.rawSource))

/-- A story. -/
def ofJson? (j : Json) : Option StoryMeta := do
  let ms ← j.members?
  pure ⟨← field? "id" text? ms, ← field? "name" text? ms, ← optional? "description" text? ms,
    ← optional? "source" StorySource.ofJson? ms, ← optional? "rawSource" text? ms⟩

theorem ofJson?_toJson (m : StoryMeta) : ofJson? m.toJson = some m := by
  obtain ⟨id, name, description, source, rawSource⟩ := m
  rcases description with _ | d <;> rcases source with _ | b | c <;> rcases rawSource with _ | r <;>
    rfl

end StoryMeta

/-- Two names in a file derive one id: the later is assigned another one. -/
structure Warning where
  file : String
  name : String
  derivedId : String
  assignedId : String
deriving DecidableEq, Repr

namespace Warning

/-- The text of a warning. -/
def message (w : Warning) : String :=
  s!"Story name conflict with exports in '{w.file}': '{w.name}' derives id " ++
    s!"'{w.derivedId}', using '{w.assignedId}' - please add an explicit id"

/-- The JSON value of a warning. -/
def toJson (w : Warning) : Json :=
  .object [("kind", .string "idCollision"), ("filename", .string w.file),
    ("name", .string w.name), ("derivedId", .string w.derivedId),
    ("assignedId", .string w.assignedId)]

end Warning

/-! ## Catalogs -/

/-- The stories of a document by name, the names in order, and the warnings. -/
structure Catalog where
  /-- Each story under its name; the order of the entries means nothing. -/
  table : List (String × StoryMeta)
  order : List String
  warnings : List Warning
deriving DecidableEq, Repr

namespace Catalog

/-- The catalog without stories. -/
def empty : Catalog :=
  ⟨[], [], []⟩

/-- The names of the stories, in order. -/
def names (c : Catalog) : List String :=
  c.order

/-- The story with a name. -/
def get? (c : Catalog) (name : String) : Option StoryMeta :=
  c.table.lookup name

/-- Whether there is a story with a name. -/
def contains (c : Catalog) (name : String) : Bool :=
  (c.get? name).isSome

/-- How many stories there are. -/
def size (c : Catalog) : Nat :=
  c.order.length

/-- Whether there is no story. -/
def isEmpty (c : Catalog) : Bool :=
  c.order.isEmpty

/-- The stories, in order. -/
def stories (c : Catalog) : List StoryMeta :=
  c.order.filterMap c.get?

/-- The catalog with a story: in the place of the one with its name, or after all others. -/
def insert (c : Catalog) (m : StoryMeta) : Catalog :=
  ⟨(m.name, m) :: c.table.filter (·.1 != m.name),
    if c.contains m.name then c.order else c.order ++ [m.name], c.warnings⟩

/-- The catalog with one more warning. -/
def warn (c : Catalog) (w : Warning) : Catalog :=
  ⟨c.table, c.order, c.warnings ++ [w]⟩

/-- The JSON value of a catalog: each story under its name, in order. -/
def toJson (c : Catalog) : Json :=
  .object (c.stories.map fun m => (m.name, m.toJson))

/-- Taking out the entry of one name leaves the others. -/
theorem lookup_filter_ne {name other : String} (h : name ≠ other)
    (table : List (String × StoryMeta)) :
    (table.filter (·.1 != other)).lookup name = table.lookup name := by
  induction table with
  | nil => rfl
  | cons entry table ih =>
    obtain ⟨n, m⟩ := entry
    rw [List.filter_cons, List.lookup_cons]
    by_cases hn : n = other
    · rw [if_neg (by simp [hn]), ih, hn, beq_false_of_ne h]
    · rw [if_pos (by simp [hn]), List.lookup_cons, ih]

theorem get?_insert (c : Catalog) (m : StoryMeta) (name : String) :
    (c.insert m).get? name = if name = m.name then some m else c.get? name := by
  unfold get? insert
  by_cases h : name = m.name
  · rw [h, List.lookup_cons_self, if_pos rfl]
  · rw [List.lookup_cons, beq_false_of_ne h, if_neg h]
    exact lookup_filter_ne h c.table

end Catalog

/-! ## The index -/

/-- The title and tags of a document. -/
structure IndexedMeta where
  title : Option String
  tags : Option (List String)
deriving DecidableEq, Repr

/-- A story in the index. -/
structure IndexedStory where
  exportName : String
  name : String
  tags : List String
  rawSource : Option String
deriving DecidableEq, Repr

/-- The index of a document, its stories in the order of their markers. -/
structure StoryIndex where
  info : IndexedMeta
  stories : List IndexedStory
deriving DecidableEq, Repr

/-- The JSON value of a list of strings. -/
def stringsJson (ss : List String) : Json :=
  .array (ss.map .string)

/-- The JSON value of a title and tags. -/
def IndexedMeta.toJson (m : IndexedMeta) : Json :=
  .object (optionalMember "title" .string m.title ++ optionalMember "tags" stringsJson m.tags)

/-- The JSON value of a story in the index. -/
def IndexedStory.toJson (s : IndexedStory) : Json :=
  .object (("exportName", .string s.exportName) :: ("name", .string s.name) ::
    ("tags", stringsJson s.tags) :: optionalMember "rawSource" .string s.rawSource)

/-- The JSON value of an index. -/
def StoryIndex.toJson (x : StoryIndex) : Json :=
  .object [("meta", x.info.toJson), ("stories", .array (x.stories.map (·.toJson)))]

end StoryCatalog
