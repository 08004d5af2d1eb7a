/-!
# Paths

A path is a list of names below a root or below the working directory. Empty names and single
dots are left out when a path is read; double dots stay.

## Main definitions

* `Path` with `Path.ofString` and `Path.toString`.
* `Path.name` and `Path.suffix` speak of the last name.
* `Path.join` puts one path below another.
* `Path.compare` is the order of paths, name by name.
-/

namespace ChecklistReview

/-- Where a path starts. -/
inductive Path.Anchor where
  /-- At the working directory. -/
  | relative
  /-- At the root. -/
  | root
  /-- At the root, written with two slashes, which systems may treat apart. -/
  | doubleRoot
  deriving DecidableEq, Inhabited

/-- A path. -/
structure Path where
  anchor : Path.Anchor
  names : List String
  deriving DecidableEq, Inhabited

namespace Path

/-- The text of an anchor. -/
def Anchor.text : Anchor → String
  | .relative => ""
  | .root => "/"
  | .doubleRoot => "//"

/-- Where a text starts: exactly two slashes are kept, other numbers count as one. -/
def Anchor.ofText (text : String) : Anchor :=
  match (text.toList.takeWhile (· = '/')).length with
  | 0 => .relative
  | 2 => .doubleRoot
  | _ => .root

/-- The names in a text, without empty names and single dots. -/
def namesOf (text : List Char) : List String :=
  ((text.splitOn '/').map String.ofList).filter fun name => name ≠ "" && name ≠ "."

/-- Reads a path. -/
def ofString (text : String) : Path :=
  { anchor := Anchor.ofText text, names := namesOf text.toList }

/-- Writes a path. The path of no names below the working directory is a dot. -/
def toString (p : Path) : String :=
  match p.anchor, p.names with
  | .relative, [] => "."
  | anchor, names => anchor.text ++ "/".intercalate names

instance : ToString Path := ⟨toString⟩

/-- The last name, empty for a path without names. -/
def name (p : Path) : String := p.names.getLast?.getD ""

/-- The ending of a file name from its last dot, empty if the dot is its first or last
character. -/
def suffixOf (name : String) : String :=
  let ending := (name.toList.reverse.takeWhile (· ≠ '.')).reverse
  let stem := name.toList.take (name.length - ending.length)
  if ending.isEmpty || stem.length < 2 then "" else String.ofList ('.' :: ending)

/-- The ending of the last name from its last dot. -/
def suffix (p : Path) : String := suffixOf p.name

/-- The path one name up. -/
def parent (p : Path) : Path := { p with names := p.names.dropLast }

/-- A path that starts at the first one, unless it has an anchor of its own. -/
def join (p q : Path) : Path :=
  match q.anchor with
  | .relative => { p with names := p.names ++ q.names }
  | _ => q

/-- A path one name further down. -/
def child (p : Path) (name : String) : Path := { p with names := p.names ++ [name] }

/-- Whether a path starts at a root. -/
def isAbsolute (p : Path) : Bool := p.anchor ≠ .relative

/-- The parts by which paths are ordered: the anchor, if there is one, and the names. -/
def parts (p : Path) : List String :=
  match p.anchor with
  | .relative => p.names
  | anchor => anchor.text :: p.names

/-- Order of lists of names, earlier names first. -/
def compareParts : List String → List String → Ordering
  | [], [] => .eq
  | [], _ :: _ => .lt
  | _ :: _, [] => .gt
  | a :: as, b :: bs => if a = b then compareParts as bs else if a < b then .lt else .gt

/-- Order of paths, name by name. -/
def compare (p q : Path) : Ordering := compareParts p.parts q.parts

/-- The path below an ancestor, if the ancestor's parts are its first ones. -/
def relativeTo? (p ancestor : Path) : Option Path :=
  if ancestor.anchor = p.anchor && ancestor.names.isPrefixOf p.names then
    some { anchor := .relative, names := p.names.drop ancestor.names.length }
  else none

end Path

end ChecklistReview
