import ChecklistReview.FileTree
import ChecklistReview.Log
import ChecklistReview.Text.Utf8

/-!
# Reading source files

A file that cannot be read is noted in the log.
-/

namespace ChecklistReview.Source

/-- A way to read files. -/
abbrev Reader := Path → Except FileTree.Fault (List UInt8)

/-- The reader of a file tree. -/
def readerOf (t : FileTree) (access : FileTree.Access) : Reader := fun path =>
  match access.reading path with
  | some fault => .error fault
  | none => t.read path

/-- The bytes of a source file. -/
def readBytes (read : Reader) (path : Path) : Logged (Option (List UInt8)) :=
  match read path with
  | .ok bytes => pure (some bytes)
  | .error fault => do
    Logged.log .error .source s!"Failed to read file {path}: {fault.message path}"
    pure none

/-- The text of a source file, with replacement characters for bytes that are none. -/
def readText (read : Reader) (path : Path) : Logged (Option String) := do
  let bytes ← readBytes read path
  pure (bytes.map fun b => String.ofList (Text.Utf8.decodeReplacing b))

end ChecklistReview.Source
