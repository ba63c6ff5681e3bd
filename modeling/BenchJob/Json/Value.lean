/-!
# JSON values

The values that the job prints and stores: no numbers but integers, and objects whose members stand
in an order. A value inside an answer has the members of every object in the order of their keys,
each key once; `Json.sorted` brings a value into that form.

## Main definitions

- `Json`: a value.
- `Json.insertMember`: put a member into an object in the order of the keys.
- `Json.sorted`: the value with every object in the order of its keys.
-/

namespace BenchJob

/-- A JSON value without fractions. -/
inductive Json where
  | null
  | bool (value : Bool)
  | int (value : Int)
  | str (value : String)
  | arr (items : List Json)
  | obj (members : List (String × Json))
  deriving Repr, BEq

namespace Json

/-- Put a member in front of the first larger key; a member with the same key is replaced. -/
def insertMember (key : String) (value : Json) :
    List (String × Json) → List (String × Json)
  | [] => [(key, value)]
  | (other, held) :: rest =>
    if key < other then (key, value) :: (other, held) :: rest
    else if key = other then (key, value) :: rest
    else (other, held) :: insertMember key value rest

mutual

/-- The value with the members of every object in the order of their keys. Of several members with
one key the last counts. -/
def sorted : Json → Json
  | .arr items => .arr (sortedItems items)
  | .obj members => .obj (sortedMembers members [])
  | .null => .null
  | .bool b => .bool b
  | .int n => .int n
  | .str s => .str s

def sortedItems : List Json → List Json
  | [] => []
  | item :: rest => sorted item :: sortedItems rest

def sortedMembers : List (String × Json) → List (String × Json) → List (String × Json)
  | [], acc => acc
  | (key, value) :: rest, acc => sortedMembers rest (insertMember key (sorted value) acc)

end

def strings (items : List String) : Json := .arr (items.map .str)

/-- The member of an optional value: none where the value is absent. -/
def optional {α : Type} (key : String) (encode : α → Json) : Option α → List (String × Json)
  | none => []
  | some value => [(key, encode value)]

end Json

end BenchJob
