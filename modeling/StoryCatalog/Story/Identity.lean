import StoryCatalog.Digest.Fold
import StoryCatalog.Digest.Md5
import StoryCatalog.Name.Id
import StoryCatalog.Story.Catalog
import StoryCatalog.Story.Config
import StoryCatalog.Story.Failure
import StoryCatalog.Text.Blank

/-!
# Identities of stories

Within a document every name and every export name may be claimed once. An explicit id is taken as it
is. Otherwise the id is derived from the name; if it has been generated before, it is followed by a
digest of the name, and there is a warning. Refusals and warnings name the file of the document.

* `claimName_of_mem`, `claimName_of_not_mem`: a claim is refused exactly if the name has been claimed
  before, and so for export names.
-/

namespace StoryCatalog

open Text

/-- What is appended to an id that has been generated before: the fold of the name, or the first
eight digits of its MD5 digest. -/
def HashKind.suffix (name : String) : HashKind → List Char
  | fold => Digest.foldHex name.toList
  | md5 => (Digest.md5Hex name.toUTF8.toList).take 8

/-- The names and ids that have been used in a document. -/
structure Registry where
  file : String
  hash : HashKind
  /-- Whether a generated id must also differ from the explicit ones. -/
  unifiesIds : Bool
  names : List String
  exportNames : List String
  generatedIds : List String
  explicitIds : List String
deriving DecidableEq, Repr

namespace Registry

/-- A registry in which nothing has been used. -/
def empty (file : String) (hash : HashKind) (unifiesIds : Bool) : Registry :=
  ⟨file, hash, unifiesIds, [], [], [], []⟩

/-- Claims a name. A claim that is refused changes nothing. -/
def claimName (r : Registry) (name : String) : Registry × Except Failure Unit :=
  if name ∈ r.names then (r, .error (.duplicateStoryName r.file name))
  else ({ r with names := name :: r.names }, .ok ())

/-- Claims an export name. A claim that is refused changes nothing. -/
def claimExportName (r : Registry) (name : String) : Registry × Except Failure Unit :=
  if name ∈ r.exportNames then (r, .error (.duplicateExportName r.file name))
  else ({ r with exportNames := name :: r.exportNames }, .ok ())

/-- The id derived from a name. -/
def derivedId (name : String) : String :=
  onText Name.deriveId name

/-- Whether a derived id collides with an earlier one. -/
def collides (r : Registry) (id : String) : Bool :=
  r.generatedIds.contains id || (r.unifiesIds && r.explicitIds.contains id)

/-- An id for a name with a warning, if the derived id collides, and the registry that knows of it. -/
def generateId (r : Registry) (name : String) : Registry × String × Option Warning :=
  let derived := derivedId name
  if r.collides derived then
    let assigned := String.ofList (derived.toList ++ r.hash.suffix name)
    ({ r with generatedIds := assigned :: r.generatedIds }, assigned,
      some ⟨r.file, name, derived, assigned⟩)
  else ({ r with generatedIds := derived :: r.generatedIds }, derived, none)

/-- The id of a story: the explicit one if it has one, otherwise a generated one. -/
def resolveId (r : Registry) (name : String) : Option String → Registry × String × Option Warning
  | some id => ({ r with explicitIds := id :: r.explicitIds }, id, none)
  | none => r.generateId name

variable {r : Registry} {name : String}

theorem claimName_of_mem (h : name ∈ r.names) :
    r.claimName name = (r, .error (.duplicateStoryName r.file name)) :=
  if_pos h

theorem claimName_of_not_mem (h : name ∉ r.names) :
    r.claimName name = ({ r with names := name :: r.names }, .ok ()) :=
  if_neg h

theorem claimExportName_of_mem (h : name ∈ r.exportNames) :
    r.claimExportName name = (r, .error (.duplicateExportName r.file name)) :=
  if_pos h

theorem claimExportName_of_not_mem (h : name ∉ r.exportNames) :
    r.claimExportName name = ({ r with exportNames := name :: r.exportNames }, .ok ()) :=
  if_neg h

end Registry

end StoryCatalog
