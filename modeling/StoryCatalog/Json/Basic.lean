/-!
# JSON values

A JSON value keeps its object members in the order they were written, repeated names included, so a
decoder can refuse a name that is given twice. `broken` stands where the text is JSON by its grammar
but has no value: a string with half of a surrogate pair, a number too large for a float, or an array
or object nested too deeply. A decoder that skips a member skips a broken one as well.

-/

namespace StoryCatalog

/-- The value of a number: a natural number below 2^64, a negative integer from -2^63, or a float. -/
inductive Number where
  | nat (n : Nat)
  | negative (n : Nat)
  | real (x : Float)

/-- The number as the nearest float. -/
def Number.toFloat : Number → Float
  | nat n => (UInt64.ofNat n).toFloat
  | negative n => -(UInt64.ofNat n).toFloat
  | real x => x

/-- A JSON value. -/
inductive Json where
  | null
  | bool (b : Bool)
  | number (n : Number)
  | string (s : String)
  | array (items : List Json)
  | object (members : List (String × Json))
  | broken
deriving Inhabited

namespace Json

mutual

/-- How many arrays and objects are nested in a value, and one for the value itself. -/
def depth : Json → Nat
  | array items => depthItems items + 1
  | object members => depthMembers members + 1
  | _ => 1

/-- The greatest depth of a list of values. -/
def depthItems : List Json → Nat
  | [] => 0
  | j :: js => max j.depth (depthItems js)

/-- The greatest depth of the values of a list of members. -/
def depthMembers : List (String × Json) → Nat
  | [] => 0
  | (_, j) :: ms => max j.depth (depthMembers ms)

end

mutual

/-- Whether no part of a value is broken. -/
def isSound : Json → Bool
  | broken => false
  | array items => soundItems items
  | object members => soundMembers members
  | _ => true

/-- Whether every value of a list is sound. -/
def soundItems : List Json → Bool
  | [] => true
  | j :: js => j.isSound && soundItems js

/-- Whether the value of every member is sound. -/
def soundMembers : List (String × Json) → Bool
  | [] => true
  | (_, j) :: ms => j.isSound && soundMembers ms

end

mutual

/-- The value with every array and object beyond `n` levels broken. -/
def clip : Nat → Json → Json
  | 0, array _ => broken
  | 0, object _ => broken
  | n + 1, array items => array (clipItems n items)
  | n + 1, object members => object (clipMembers n members)
  | _, j => j

/-- The values of a list, each clipped. -/
def clipItems (n : Nat) : List Json → List Json
  | [] => []
  | j :: js => j.clip n :: clipItems n js

/-- The members of an object, the value of each clipped. -/
def clipMembers (n : Nat) : List (String × Json) → List (String × Json)
  | [] => []
  | (k, j) :: ms => (k, j.clip n) :: clipMembers n ms

end

/-- Enters a member among others in the order of names; a name that is there already keeps its value. -/
def enter (m : String × Json) : List (String × Json) → List (String × Json)
  | [] => [m]
  | k :: ms =>
    if k.1 = m.1 then k :: ms
    else if m.1 < k.1 then m :: k :: ms
    else k :: enter m ms

mutual

/-- The value as a map from names to values: of several members of one name only the last is kept, and
the members stand in the order of their names. -/
def settle : Json → Json
  | array items => array (settleItems items)
  | object members => object (settleMembers members)
  | j => j

/-- The values of a list, each settled. -/
def settleItems : List Json → List Json
  | [] => []
  | j :: js => j.settle :: settleItems js

/-- The last member of each name in the order of names, its value settled. -/
def settleMembers : List (String × Json) → List (String × Json)
  | [] => []
  | (k, j) :: ms => enter (k, j.settle) (settleMembers ms)

end

end Json

end StoryCatalog
