import ChecklistReview.Text.Wording

/-!
# Data

The values of the data format in which checklists and artifacts are kept. Objects keep their
members in the order in which the keys first appeared; a key that appears again replaces the
value in place.

## Main definitions

* `Json` is a value.
* `Json.field?` looks up a member.
* `Json.setMember` adds or replaces a member.
* `Json.depth` is how deep a value is nested.
-/

namespace ChecklistReview

/-- A value. -/
inductive Json where
  | null
  | bool (b : Bool)
  | int (n : Int)
  | real (x : Float)
  | str (s : String)
  /-- A string with halves of surrogate pairs among its code points, which is no text. -/
  | broken (codes : List Nat)
  | array (items : List Json)
  | object (members : List (String × Json))
  deriving Inhabited

namespace Json

/-- The string of a text. -/
def ofWording : Wording → Json
  | .text s => .str s
  | .broken codes _ => .broken codes

/-- Adds a member, or replaces the one with the same key in its place. -/
def setMember (key : String) (value : Json) : List (String × Json) → List (String × Json)
  | [] => [(key, value)]
  | (k, v) :: rest => if k = key then (k, value) :: rest else (k, v) :: setMember key value rest

/-- The members of an object, and none for other values. -/
def members : Json → List (String × Json)
  | .object ms => ms
  | _ => []

/-- A member of an object. -/
def field? (j : Json) (key : String) : Option Json := j.members.lookup key

mutual

/-- How deep arrays and objects are nested in a value. -/
def depth : Json → Nat
  | .array items => depthOfItems items + 1
  | .object ms => depthOfMembers ms + 1
  | _ => 0

/-- The greatest depth of the values. -/
def depthOfItems : List Json → Nat
  | [] => 0
  | j :: js => max j.depth (depthOfItems js)

/-- The greatest depth of the members. -/
def depthOfMembers : List (String × Json) → Nat
  | [] => 0
  | (_, j) :: ms => max j.depth (depthOfMembers ms)

end

end Json

end ChecklistReview
