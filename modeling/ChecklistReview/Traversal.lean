import ChecklistReview.FileTree
import ChecklistReview.Log
import ChecklistReview.Source.Language

/-!
# Files to review

A workspace is searched for files of known languages. Directories with certain names are passed
over, and so are links unless they are asked for. A directory that cannot be listed is noted in
the log and does not end the search.

## Main definitions

* `ignoredNames` are the names of directories that are passed over.
* `Search` says what is looked for.
* `collect` walks through entries, and `files` through a workspace.
-/

namespace ChecklistReview.Traversal

open FileTree

/-- Names of directories that are passed over unless others are given. -/
def ignoredNames : List String :=
  ["out", "dist", "build", "test", "tests", "__tests__", "node_modules", "vendor", ".git", ".svn",
    ".hg", ".vscode", ".idea", "venv", ".venv", "__pycache__", ".pytest_cache"]

/-- What is looked for. -/
structure Search where
  ignored : List String := ignoredNames
  followLinks : Bool := false
  /-- Which files are kept among those of known languages. -/
  filter : Option (Path → Bool) := none

/-- Why a search does not begin. -/
inductive Fault where
  | notFound (root : Path)
  | notDirectory (root : Path)
  deriving DecidableEq

/-- What is said of a fault. -/
def Fault.message : Fault → String
  | .notFound root => s!"Root directory does not exist: {root}"
  | .notDirectory root => s!"Root path is not a directory: {root}"

/-- Notes that a directory cannot be listed. -/
def noteRefusal (path : Path) (fault : FileTree.Fault) : Logged Unit :=
  let what := if fault = .refused then "Permission denied accessing directory"
    else "Error accessing directory"
  Logged.log .warning .traversal s!"{what} {path}: {fault.message path}"

/-- A file, if it is kept. -/
def keepFile (search : Search) (path : Path) : Logged (List Path) :=
  if Source.isReviewable path then
    if search.filter.all (· path) then pure [path]
    else do
      Logged.log .debug .traversal s!"Filtered out by custom filter: {path}"
      pure []
  else pure []

/-- Whether a directory is entered. The ones that are not are noted in the log. -/
def mayEnter (access : Access) (search : Search) (path : Path) : Logged Bool :=
  if path.name ∈ search.ignored then do
    Logged.log .debug .traversal s!"Ignoring directory: {path}"
    pure false
  else
    match access.listing path with
    | some fault => do
      noteRefusal path fault
      pure false
    | none => pure true

/-- The files below the entries of a directory. The directory is known under `path`, and
`here` are the names that lead to it without links. -/
def collect (t : FileTree) (access : Access) (search : Search) (budget : Nat)
    (here : List String) (path : Path) (entries : List (String × Node)) : Logged (List Path) :=
  match entries with
  | [] => pure []
  | (name, .file _) :: rest => do
    let found ← keepFile search (path.child name)
    let more ← collect t access search budget here path rest
    pure (found ++ more)
  | (name, .directory inner) :: rest => do
    let found ← if (← mayEnter access search (path.child name)) then
        collect t access search budget (here ++ [name]) (path.child name) inner
      else pure []
    let more ← collect t access search budget here path rest
    pure (found ++ more)
  | (name, .link target) :: rest => do
    let found ← if search.followLinks then
        match budget with
        | 0 => pure []
        | less + 1 =>
          match follow t true less (if target.isAbsolute then [] else here) target.names with
          | .ok { names, node := .directory inner, budget := left } =>
            if _h : left < less + 1 then do
              if (← mayEnter access search (path.child name)) then
                collect t access search left names (path.child name) inner
              else pure []
            else pure []
          | .ok { node := .file _, .. } => keepFile search (path.child name)
          | _ => pure []
      else do
        Logged.log .debug .traversal s!"Skipping symlink: {path.child name}"
        pure []
    let more ← collect t access search budget here path rest
    pure (found ++ more)
termination_by (budget, sizeOf entries)

/-- The order of paths, as a test. -/
def inOrder (p q : Path) : Bool := p.compare q ≠ .gt

/-- The files of a workspace, in order. -/
def files (t : FileTree) (access : Access) (search : Search) (root : Path) :
    Logged (Except Fault (List Path)) :=
  let real := t.realPath root
  match t.locate real with
  | .error _ => do
    Logged.log .error .traversal (Fault.notFound real).message
    pure (.error (.notFound real))
  | .ok { names, node := .directory entries, budget } => do
    Logged.log .info .traversal s!"Starting traversal from: {real}"
    let found ← match access.listing real with
      | some fault => do
        noteRefusal real fault
        pure []
      | none => collect t access search budget names real entries
    let sorted := found.mergeSort inOrder
    Logged.log .info .traversal
      s!"Traversal complete: found {sorted.length} file(s) in {real}"
    pure (.ok sorted)
  | .ok _ => do
    Logged.log .error .traversal (Fault.notDirectory real).message
    pure (.error (.notDirectory real))

end ChecklistReview.Traversal
