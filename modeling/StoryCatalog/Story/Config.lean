import StoryCatalog.Json.Record

/-!
# Configuration

What a user may set: the package that provides the story components, whether the older dialect is
tolerated, how colliding ids are told apart, and whether the index carries the source of each story.
Every field has a default.

* `Config.ofJson?_toJson`: a configuration reads back from its JSON value.
-/

namespace StoryCatalog

open Json

/-- The digest that tells colliding ids apart. -/
inductive HashKind where
  | fold
  | md5
deriving DecidableEq, Repr

/-- The word for a digest. -/
def HashKind.word : HashKind → String
  | fold => "fold"
  | md5 => "md5"

/-- The digests by their words. -/
def HashKind.words : List (String × HashKind) :=
  [(fold.word, fold), (md5.word, md5)]

/-- What a user may set. -/
structure Config where
  /-- The package whose exports mark stories. -/
  packageName : String
  /-- Whether stories and meta of the older dialect are recognized. -/
  legacyTemplate : Bool
  idHash : HashKind
  /-- Whether a generated id must also differ from the explicit ones. -/
  unifyIdSets : Bool
  /-- Whether the index carries the source of each story on one line. -/
  includeRawSourceInIndex : Bool
deriving DecidableEq, Repr

/-- What the index depends on. -/
structure IndexOptions where
  packageName : String
  legacyTemplate : Bool
  includeRawSource : Bool
deriving DecidableEq, Repr

namespace Config

/-- What holds where nothing is set. -/
def default : Config :=
  ⟨"@storybook/addon-svelte-csf", false, .fold, false, false⟩

/-- The options of the index. -/
def indexOptions (c : Config) : IndexOptions :=
  ⟨c.packageName, c.legacyTemplate, c.includeRawSourceInIndex⟩

/-- The JSON value of a configuration. -/
def toJson (c : Config) : Json :=
  .object [("packageName", .string c.packageName), ("legacyTemplate", .bool c.legacyTemplate),
    ("idHash", .string c.idHash.word), ("unifyIdSets", .bool c.unifyIdSets),
    ("includeRawSourceInIndex", .bool c.includeRawSourceInIndex)]

/-- The configuration with these fields; a field that is left out has its default. -/
def ofJson? (j : Json) : Option Config := do
  let ms ← j.members?
  let d := default
  pure ⟨← fieldOr "packageName" d.packageName text? ms,
    ← fieldOr "legacyTemplate" d.legacyTemplate flag? ms,
    ← fieldOr "idHash" d.idHash (choice? HashKind.words) ms,
    ← fieldOr "unifyIdSets" d.unifyIdSets flag? ms,
    ← fieldOr "includeRawSourceInIndex" d.includeRawSourceInIndex flag? ms⟩

theorem ofJson?_toJson (c : Config) : ofJson? c.toJson = some c := by
  obtain ⟨p, l, h, u, i⟩ := c
  cases h <;> rfl

end Config

/-- The JSON value of the options of the index. -/
def IndexOptions.toJson (o : IndexOptions) : Json :=
  .object [("packageName", .string o.packageName), ("legacyTemplate", .bool o.legacyTemplate),
    ("includeRawSource", .bool o.includeRawSource)]

end StoryCatalog
