import ChecklistReview.Command.Run
import Std.Time.DateTime.Timestamp

/-!
# The program

The files of the working directory and of the places that the command line names are read into a
file tree. The command runs on this tree; what it prints is printed, and the files that it has
changed are written. If a line cannot be printed, the command runs again with an output that refuses
this line.
-/

namespace ChecklistReview.Program

/-- The places that cannot be listed or read. -/
structure Refusals where
  listing : List Path := []
  reading : List Path := []

/-- What is refused at these places. -/
def Refusals.access (r : Refusals) : FileTree.Access :=
  { FileTree.Access.free with
    listing := fun path => if path ∈ r.listing then some .refused else none
    reading := fun path => if path ∈ r.reading then some .refused else none }

/-- Reads a file. -/
def loadFile (refusals : IO.Ref Refusals) (place : Path) : IO FileTree.Node := do
  try
    pure (.file (← IO.FS.readBinFile place.toString).toList)
  catch _ =>
    refusals.modify fun r => { r with reading := place :: r.reading }
    pure (.file [])

/-- Reads a directory. Directories that no review enters are left empty. -/
partial def loadDirectory (refusals : IO.Ref Refusals) (place : Path) : IO FileTree.Node := do
  try
    let mut entries := []
    for entry in ← (← IO.FS.realPath place.toString).readDir do
      let inner := place.child entry.fileName
      match (← entry.path.symlinkMetadata).type with
      | .dir =>
        let node ← if entry.fileName ∈ Traversal.ignoredNames then pure (.directory [])
          else loadDirectory refusals inner
        entries := (entry.fileName, node) :: entries
      | .file => entries := (entry.fileName, ← loadFile refusals inner) :: entries
      | .symlink =>
        let target := ToString.toString (← IO.FS.realPath entry.path)
        entries := (entry.fileName, .link (Path.ofString target)) :: entries
      | .other => pure ()
    pure (.directory entries)
  catch _ =>
    refusals.modify fun r => { r with listing := place :: r.listing }
    pure (.directory [])

/-- The directory that a word of the command line leads to or into, if there is one. -/
def directoryOf? (word : String) : IO (Option Path) := do
  try
    let real ← IO.FS.realPath word
    let place := Path.ofString (ToString.toString real)
    match (← real.metadata).type with
    | .dir => pure (some place)
    | _ => pure (some place.parent)
  catch _ => pure none

/-- Reads the places that a command line names, the outer ones first. -/
def loadTree (refusals : IO.Ref Refusals) (home : Path) (words : List String) : IO FileTree := do
  let named ← words.filterMapM directoryOf?
  let places := (home :: named).mergeSort fun p q => p.names.length ≤ q.names.length
  places.foldlM (fun tree place => do
    let node ← loadDirectory refusals place
    pure (tree.insert place.names node)) { entries := [], home := home.names }

/-- Writes the files in which two trees differ. -/
def writeChanges (before after : FileTree) : IO Unit := do
  for (names, bytes) in FileTree.filesIn [] after.entries do
    let path : Path := { anchor := .root, names }
    match before.read path with
    | .ok old => if old ≠ bytes then IO.FS.writeBinFile path.toString ⟨bytes.toArray⟩
    | .error _ => IO.FS.writeBinFile path.toString ⟨bytes.toArray⟩

/-- The present time. -/
def presentTime : IO Timestamp := do
  let duration := (← Std.Time.Timestamp.now).val
  match Timestamp.ofSeconds? duration.second.val (duration.nano.val / 1000).toNat with
  | some time => pure time
  | none => throw (IO.userError "the clock is out of range")

/-- The width of the screen. -/
def screenWidth : IO Nat := do
  pure (((← IO.getEnv "COLUMNS").bind String.toNat?).getD 80)

/-- Prints lines. Gives the number of the first that is refused, with the reason. -/
def printLines (count : Nat) : List (List Char) → IO (Option (Nat × String))
  | [] => pure none
  | line :: rest => do
    let refusal ← try
        IO.println (String.ofList line)
        pure none
      catch e => pure (some (count, ToString.toString e))
    match refusal with
    | some refusal => pure (some refusal)
    | none => printLines (count + 1) rest

/-- What is said of an ending. -/
def endingLines : Command.Ending → List String
  | .finished | .stopped => []
  | .refused fault => [s!"Error: {fault.message}"]
  | .failed failure => [s!"Error: {failure.message}"]

/-- The line for an entry of the log. -/
def entryLine (e : Log.Entry) : String := s!"{e.level.name} {e.component.name}: {e.message}"

/-- The least level of the entries that are shown. -/
def shownLevel (tree : FileTree) (words : List String) : Log.Level :=
  match Command.Invocation.read tree words with
  | .ok invocation => if invocation.isDebug then .debug else .warning
  | .error _ => .warning

end ChecklistReview.Program

open ChecklistReview ChecklistReview.Program in
/-- Runs the command line. -/
def main (words : List String) : IO UInt32 := do
  let refusals ← IO.mkRef {}
  let home := Path.ofString (ToString.toString (← IO.FS.realPath "."))
  let tree ← loadTree refusals home words
  let env : Command.Environment :=
    { tree, access := (← refusals.get).access, width := ← screenWidth, runtime := .usual
      now := ← presentTime }
  let run := Command.run env words
  for entry in Log.atLeast (shownLevel tree words) run.entries do
    IO.eprintln (entryLine entry)
  let outcome := match ← printLines 0 run.value.output with
    | none => run.value
    | some (number, reason) =>
      let output : Command.Output := fun count _ => if count = number then some reason else none
      (Command.run { env with output } words).value
  for line in outcome.errors do
    IO.eprintln (String.ofList line)
  for line in endingLines outcome.ending do
    IO.eprintln line
  writeChanges tree outcome.tree
  pure outcome.ending.status.toUInt32
