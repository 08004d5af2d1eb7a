import ChecklistReview.Log
import ChecklistReview.Source.Language
import ChecklistReview.Text.Line

/-!
# Documents

A document is a source file under review: its path, its text, its lines and its language.
-/

namespace ChecklistReview.Source

open Text

/-- A source file under review. -/
structure Document where
  path : Path
  text : List Char
  language : String
  index : LineIndex

namespace Document

/-- The document of a text, with its language told by the path unless it is given. -/
def ofText (path : Path) (text : String) (language : Option String := none) : Document :=
  { path, text := text.toList
    language := language.getD (classify path)
    index := LineIndex.ofText text.toList }

/-- The lines without their breaks. -/
def lines (d : Document) : List (List Char) := splitLines d.text

/-- The number of lines. -/
def lineCount (d : Document) : Nat := d.index.lines.size

/-- The line of an offset. -/
def locate (d : Document) (offset : Nat) : Location := d.index.locate offset

/-- The document of a text, with a note in the log. -/
def load (path : Path) (text : String) : Logged Document := do
  let d := ofText path text
  Logged.log .info .source
    s!"Loaded {path}: {d.lineCount} line(s), language={d.language}"
  pure d

end Document

end ChecklistReview.Source
