import ChecklistReview.Layout.Table

/-!
# Panels

A panel is a frame over the whole width around lines, with a title in its upper edge.
-/

namespace ChecklistReview.Layout

open Text

/-- A panel. -/
structure Panel where
  frame : Frame
  title : Option String := none

namespace Panel

/-- The width of the lines in a panel. -/
def innerWidth (room : Nat) : Nat := room - 4

/-- The upper edge. -/
def topLine (p : Panel) (room : Nat) : List Char :=
  match p.title with
  | none => p.frame.top.line [room - 2]
  | some title =>
    if room ≤ 4 then p.frame.top.line [room - 2]
    else
      let label := shorten (room - 4) .fold (' ' :: title.toList ++ [' '])
      let excess := room - 4 - width label
      let edge := fun n => List.replicate n p.frame.top.along
      p.frame.top.left :: p.frame.top.along :: edge (excess / 2) ++ label ++
        edge (excess - excess / 2) ++ [p.frame.top.along, p.frame.top.right]

/-- A panel around lines. -/
def render (p : Panel) (room : Nat) (lines : List (List Char)) : List (List Char) :=
  let inner := innerWidth room
  let body := lines.map fun line =>
    p.frame.left :: ' ' :: fit inner line ++ [' ', p.frame.right]
  p.topLine room :: (if inner = 0 then [] else body) ++ [p.frame.bottom.line [room - 2]]

/-- A panel around a text. -/
def renderText (p : Panel) (room : Nat) (text : List Char) : List (List Char) :=
  p.render room (wrap (innerWidth room) .fold .natural text)

end Panel

end ChecklistReview.Layout
