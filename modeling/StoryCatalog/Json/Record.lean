import StoryCatalog.Json.Basic

/-!
# Reading the fields of an object

A decoder is a function to `Option`: `none` refuses the value. The fields of an object are looked up
by name. A name that a decoder asks for must not be given twice, while a name nobody asks for may be
given any number of times and hold anything.

* `member?_eq_some_some`: what a look-up finds, in terms of the members.
-/

namespace StoryCatalog.Json

/-- The members of an object. -/
abbrev Members := List (String × Json)

/-- The members of an object; anything else is refused. -/
def members? : Json → Option Members
  | object ms => some ms
  | _ => none

/-- The items of an array; anything else is refused. -/
def items? : Json → Option (List Json)
  | array js => some js
  | _ => none

/-- A string; anything else is refused. -/
def text? : Json → Option String
  | string s => some s
  | _ => none

/-- A truth value; anything else is refused. -/
def flag? : Json → Option Bool
  | bool b => some b
  | _ => none

/-- A natural number that fits in 64 bits; anything else is refused. -/
def nat? : Json → Option Nat
  | number (.nat n) => some n
  | _ => none

/-- The items of an array, each decoded. -/
def list? {α : Type} (item : Json → Option α) (j : Json) : Option (List α) := do
  (← j.items?).mapM item

/-- `null` as nothing, any other value decoded. -/
def nullable? {α : Type} (value : Json → Option α) : Json → Option (Option α)
  | null => some none
  | j => (value j).map some

/-- The values given under a name, in order. -/
def valuesOf (name : String) (ms : Members) : List Json :=
  (ms.filter (·.1 == name)).map (·.2)

/-- The value given under a name, if there is one; refused if the name is given twice. -/
def member? (name : String) (ms : Members) : Option (Option Json) :=
  match valuesOf name ms with
  | [] => some none
  | [j] => some (some j)
  | _ => none

/-- A field that must be there. -/
def field? {α : Type} (name : String) (value : Json → Option α) (ms : Members) : Option α := do
  match ← member? name ms with
  | some j => value j
  | none => none

/-- A field with a value of its own when it is absent. -/
def fieldOr {α : Type} (name : String) (absent : α) (value : Json → Option α) (ms : Members) :
    Option α := do
  match ← member? name ms with
  | some j => value j
  | none => some absent

/-- A field that may be absent or `null`. -/
def optional? {α : Type} (name : String) (value : Json → Option α) (ms : Members) :
    Option (Option α) :=
  fieldOr name none (nullable? value) ms

/-- A word out of a fixed list of choices: the word itself, or an object of the word and `null`. -/
def choice? {α : Type} (choices : List (String × α)) : Json → Option α
  | string s => choices.lookup s
  | object [(s, null)] => choices.lookup s
  | _ => none

/-- The word under `tag` in an object without broken parts, with the object's members. -/
def tagged? (tag : String) (j : Json) : Option (String × Members) := do
  let ms ← if j.isSound then j.members? else none
  pure (← field? tag text? ms, ms)

theorem member?_eq_some_some {name : String} {ms : Members} {j : Json} :
    member? name ms = some (some j) ↔ valuesOf name ms = [j] := by
  rw [member?]
  split <;> simp_all

end StoryCatalog.Json
