import StoryCatalog.Text.Case

/-!
# Ids derived from story names

An id holds ASCII word characters. `deriveId` drops every run of other characters from a name and
gives the character after such a run in upper case.
-/

namespace StoryCatalog.Name

open Text

/-- Whether a character is an ASCII letter, an ASCII digit or an underscore. -/
def isWordChar (c : Char) : Bool :=
  c.isAlphanum || c == '_'

/-- The longest stretches of word characters and of other characters, in order. -/
def runs : List Char → List (List Char)
  | [] => []
  | c :: cs =>
    match runs cs with
    | (d :: run) :: rest =>
      if isWordChar c == isWordChar d then (c :: d :: run) :: rest else [c] :: (d :: run) :: rest
    | rest => [c] :: rest

/-- Whether a run is one of word characters. -/
def isWordRun (run : List Char) : Bool :=
  run.head?.any isWordChar

/-- The id derived from a name: its runs of word characters, each with a capital if a run was
dropped before it. -/
def deriveId (name : List Char) : List Char :=
  match runs name with
  | [] => []
  | first :: rest =>
    (if isWordRun first then first else []) ++ (rest.filter isWordRun).flatMap capitalize

end StoryCatalog.Name
