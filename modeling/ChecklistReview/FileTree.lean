import ChecklistReview.Path
import ChecklistReview.Text.Quoted

/-!
# File trees

A file tree is a value: directories with named entries, files with bytes and links to other
paths. Paths are followed name by name; a link is followed to its target unless it is the last
name and links are asked for.

## Main definitions

* `FileTree` and its `FileTree.Node`s.
* `FileTree.locate` follows a path.
* `FileTree.read` and `FileTree.write` read and write the bytes of a file.
* `FileTree.realPath` is a path without links.
* `FileTree.Access` says which operations are refused.
-/

namespace ChecklistReview

/-- What a name in a directory stands for. -/
inductive FileTree.Node where
  | file (bytes : List UInt8)
  | link (target : Path)
  | directory (entries : List (String × FileTree.Node))
  deriving Inhabited

/-- A file tree with a working directory. -/
structure FileTree where
  /-- The entries of the root. -/
  entries : List (String × FileTree.Node)
  /-- The names that lead from the root to the working directory. -/
  home : List String

namespace FileTree

/-- Why an operation on files fails. -/
inductive Fault where
  | notFound
  | inputOutput
  | refused
  | notDirectory
  | isDirectory
  | nameTooLong
  | tooManyLinks
  deriving DecidableEq

/-- The number of a fault. -/
def Fault.number : Fault → Nat
  | .notFound => 2
  | .inputOutput => 5
  | .refused => 13
  | .notDirectory => 20
  | .isDirectory => 21
  | .nameTooLong => 36
  | .tooManyLinks => 40

/-- The words for a fault. -/
def Fault.words : Fault → String
  | .notFound => "No such file or directory"
  | .inputOutput => "Input/output error"
  | .refused => "Permission denied"
  | .notDirectory => "Not a directory"
  | .isDirectory => "Is a directory"
  | .nameTooLong => "File name too long"
  | .tooManyLinks => "Too many levels of symbolic links"

/-- What is said of a fault at a path. -/
def Fault.message (fault : Fault) (path : Path) : String :=
  s!"[Errno {fault.number}] {fault.words}: {Text.quoted path.toString}"

/-- Operations that are refused, by the path they are asked for. -/
structure Access where
  listing : Path → Option Fault
  reading : Path → Option Fault
  writing : Path → Option Fault

/-- Nothing is refused. -/
def Access.free : Access :=
  { listing := fun _ => none, reading := fun _ => none, writing := fun _ => none }

/-! ### Following paths -/

/-- The node below entries that names lead to, without following links. -/
def nodeIn? (entries : List (String × Node)) : List String → Option Node
  | [] => some (.directory entries)
  | [name] => entries.lookup name
  | name :: rest =>
    match entries.lookup name with
    | some (.directory inner) => nodeIn? inner rest
    | _ => none

/-- The node that names lead to from the root, without following links. -/
def nodeAt? (t : FileTree) (names : List String) : Option Node := nodeIn? t.entries names

/-- Where a path leads. -/
structure Place where
  /-- The names from the root, which lead through no link. -/
  names : List String
  node : Node
  /-- How many more links may be followed. -/
  budget : Nat

/-- A path may lead through so many links. -/
def linkLimit : Nat := 40

/-- A name may have so many bytes. -/
def nameLimit : Nat := 255

/-- Where a path starts. -/
def startOf (t : FileTree) (path : Path) : List String := if path.isAbsolute then [] else t.home

/-- Follows names from a directory. -/
def follow (t : FileTree) (followLast : Bool) (budget : Nat) (here : List String)
    (names : List String) : Except Fault Place :=
  match names with
  | [] =>
    match t.nodeAt? here with
    | some node => .ok { names := here, node, budget }
    | none => .error .notFound
  | name :: rest =>
    match t.nodeAt? here with
    | some (.directory entries) =>
      if name = ".." then follow t followLast budget here.dropLast rest
      else if nameLimit < name.utf8ByteSize then .error .nameTooLong
      else
        match entries.lookup name with
        | none => .error .notFound
        | some (.link target) =>
          if rest = [] && !followLast then
            .ok { names := here ++ [name], node := .link target, budget }
          else
            match budget with
            | 0 => .error .tooManyLinks
            | less + 1 =>
              follow t followLast less (if target.isAbsolute then [] else here)
                (target.names ++ rest)
        | some _ => follow t followLast budget (here ++ [name]) rest
    | _ => .error .notDirectory
termination_by (budget, names.length)

/-- Follows a path. -/
def locate (t : FileTree) (path : Path) : Except Fault Place :=
  follow t true linkLimit (t.startOf path) path.names

/-- Whether a path leads somewhere. -/
def hasPath (t : FileTree) (path : Path) : Bool := (t.locate path).isOk

/-- Whether a path leads to a file. -/
def isFile (t : FileTree) (path : Path) : Bool :=
  match t.locate path with
  | .ok { node := .file _, .. } => true
  | _ => false

/-- Whether a path leads to a directory. -/
def isDirectory (t : FileTree) (path : Path) : Bool :=
  match t.locate path with
  | .ok { node := .directory _, .. } => true
  | _ => false

/-- The bytes of a file. -/
def read (t : FileTree) (path : Path) : Except Fault (List UInt8) :=
  match t.locate path with
  | .error fault => .error fault
  | .ok { node := .file bytes, .. } => .ok bytes
  | .ok _ => .error .isDirectory

/-! ### Paths without links -/

mutual

/-- The number of links below entries. -/
def linksIn : List (String × Node) → Nat
  | [] => 0
  | (_, node) :: rest => linksAt node + linksIn rest

/-- The number of links at or below a node. -/
def linksAt : Node → Nat
  | .file _ => 0
  | .link _ => 1
  | .directory entries => linksIn entries

end

/-- Names without links and double dots, and whether all links could be followed. Names that
lead nowhere stay. `seen` holds the links that are being followed. -/
def realNames (t : FileTree) (budget : Nat) (seen : List (List String)) (here : List String)
    (names : List String) : List String × Bool :=
  match names with
  | [] => (here, true)
  | name :: rest =>
    if name = ".." then realNames t budget seen here.dropLast rest
    else
      match t.nodeAt? (here ++ [name]) with
      | some (.link target) =>
        if (here ++ [name]) ∈ seen then (here ++ name :: rest, false)
        else
          match budget with
          | 0 => (here ++ name :: rest, false)
          | less + 1 =>
            match realNames t less ((here ++ [name]) :: seen)
                (if target.isAbsolute then [] else here) target.names with
            | (inner, true) => realNames t (less + 1) seen inner rest
            | (inner, false) => (inner ++ rest, false)
      | _ => realNames t budget seen (here ++ [name]) rest
termination_by (budget, names.length)

/-- The path without links that leads to the same place. No link is followed inside itself, so
links lie inside each other at most as often as there are links. -/
def realPath (t : FileTree) (path : Path) : Path :=
  { anchor := .root
    names := (realNames t (linksIn t.entries) [] (t.startOf path) path.names).1 }

/-! ### Changes -/

/-- Sets the node of a name in a directory. -/
def setEntry (name : String) (node : Node) : List (String × Node) → List (String × Node)
  | [] => [(name, node)]
  | (n, old) :: rest => if n = name then (n, node) :: rest else (n, old) :: setEntry name node rest

/-- Sets the node that names lead to, and makes the directories on the way. -/
def insertIn (node : Node) : List String → List (String × Node) → List (String × Node)
  | [], entries => entries
  | [name], entries => setEntry name node entries
  | name :: rest, entries =>
    match entries.lookup name with
    | some (.directory inner) => setEntry name (.directory (insertIn node rest inner)) entries
    | _ => setEntry name (.directory (insertIn node rest [])) entries

/-- Sets the node that names lead to from the root, and makes the directories on the way. -/
def insert (t : FileTree) (names : List String) (node : Node) : FileTree :=
  { t with entries := insertIn node names t.entries }

/-- Makes a directory, unless it is there. -/
def makeDirectory (t : FileTree) (names : List String) : FileTree :=
  match t.nodeAt? names with
  | some (.directory _) => t
  | _ => t.insert names (.directory [])

/-- Removes the node that names lead to. -/
def removeIn : List String → List (String × Node) → List (String × Node)
  | [], entries => entries
  | [name], entries => entries.filter fun entry => entry.1 ≠ name
  | name :: rest, entries =>
    match entries.lookup name with
    | some (.directory inner) => setEntry name (.directory (removeIn rest inner)) entries
    | _ => entries

/-- Removes the node that names lead to from the root. -/
def remove (t : FileTree) (names : List String) : FileTree :=
  { t with entries := removeIn names t.entries }

/-- The names under which a file is written: those of the file that is there, or those of a
new file in a directory that is there. -/
def writePlace (t : FileTree) (path : Path) : Except Fault (List String) :=
  match t.locate path with
  | .ok { node := .directory _, .. } => .error .isDirectory
  | .ok place => .ok place.names
  | .error .notFound =>
    let real := realNames t linkLimit [] (t.startOf path) path.names
    match t.nodeAt? real.1.dropLast with
    | some (.directory _) => .ok real.1
    | _ => .error .notFound
  | .error fault => .error fault

/-- Writes the bytes of a file. -/
def write (t : FileTree) (path : Path) (bytes : List UInt8) : Except Fault FileTree :=
  match t.writePlace path with
  | .ok names => .ok (t.insert names (.file bytes))
  | .error fault => .error fault

mutual

/-- The files below entries that `path` leads to, with their bytes. Links are left out. -/
def filesIn (path : List String) : List (String × Node) → List (List String × List UInt8)
  | [] => []
  | (name, node) :: rest => filesAt (path ++ [name]) node ++ filesIn path rest

/-- The files at a node that `path` leads to. -/
def filesAt (path : List String) : Node → List (List String × List UInt8)
  | .file bytes => [(path, bytes)]
  | .link _ => []
  | .directory entries => filesIn path entries

end

end FileTree

end ChecklistReview
