import ChecklistReview.Artifact
import ChecklistReview.FileTree
import ChecklistReview.Text.Quoted

/-!
# Faults in a command line

What can be wrong with the words of a command line, as causes, and what is said of them.

## Main definitions

* `Fault` is what is wrong with a command line.
* `Defect` is what is wrong with a value in it.
* `Fault.message` is what is said of a fault.
-/

namespace ChecklistReview.Command

/-- What a path must lead to. -/
inductive Target where
  | file
  | directory
  | any
  deriving DecidableEq

/-- The word for what a path must lead to. -/
def Target.word : Target → String
  | .file => "file"
  | .directory => "dir"
  | .any => "path"

/-- Why an artifact cannot be loaded. -/
inductive ArtifactFault where
  | file (fault : FileTree.Fault) (path : Path)
  | content (fault : Artifact.Fault)

/-- What is said of an artifact that cannot be loaded. -/
def ArtifactFault.message : ArtifactFault → String
  | .file fault path => fault.message path
  | .content fault => fault.message

/-- What is wrong with a value. -/
inductive Defect where
  | absent (target : Target) (text : String)
  | isFile (target : Target) (text : String)
  | isDirectory (target : Target) (text : String)
  | noInteger
  | hugeInteger
  | negative
  | noFinding (count index : Nat)
  | unreadableArtifact (path : Path) (fault : ArtifactFault)

/-- What is said of a value. -/
def Defect.message : Defect → String
  | .absent target text => s!"{target.word} {Text.quoted text} does not exist."
  | .isFile target text => s!"{target.word} {Text.quoted text} is a file."
  | .isDirectory target text => s!"{target.word} {Text.quoted text} is a directory."
  | .noInteger => "Input should be a valid integer, unable to parse string as an integer"
  | .hugeInteger => "Unable to parse input string as an integer, exceeded maximum size"
  | .negative => "Input should be greater than or equal to 0"
  | .noFinding count index => s!"Artifact has {count} finding(s); no index {index}"
  | .unreadableArtifact path fault => s!"Cannot read review artifact {path}: {fault.message}"

/-- What is wrong with a command line. -/
inductive Fault where
  /-- There is no command. -/
  | noCommand
  /-- A command is unknown; others are like it. -/
  | unknownCommand (name : String) (similar : List String)
  /-- An option is unknown; others are like it. -/
  | unknownOption (name : String) (similar : List String)
  /-- An option stands without its value. -/
  | noValue (option : String)
  /-- An option that takes no value has one. -/
  | unwantedValue (option : String)
  /-- An argument is missing. -/
  | noArgument (name : String)
  /-- There are more arguments than the command has. -/
  | extraArguments (words : List String)
  /-- The value of a parameter is wrong, given by the names of the parameter. -/
  | badValue (parameter : List String) (defect : Defect)

/-- The names of a parameter, as they are shown. -/
def parameterNames (names : List String) : String :=
  " / ".intercalate (names.map Text.quoted)

/-- What is offered in place of an unknown option. -/
def offeredOptions : List String → String
  | [] => ""
  | [name] => s!" Did you mean {name}?"
  | names =>
    let list := ", ".intercalate (names.mergeSort fun a b => a ≤ b)
    s!" (Possible options: {list})"

/-- What is offered in place of an unknown command. -/
def offeredCommands : List String → String
  | [] => ""
  | names =>
    let list := ", ".intercalate (names.map Text.quoted)
    s!" Did you mean {list}?"

/-- What is said of a fault. -/
def Fault.message : Fault → String
  | .noCommand => "Missing command."
  | .unknownCommand name similar =>
    s!"No such command {Text.quoted name}." ++ offeredCommands similar
  | .unknownOption name similar => s!"No such option: {name}" ++ offeredOptions similar
  | .noValue option => s!"Option {Text.quoted option} requires an argument."
  | .unwantedValue option => s!"Option {Text.quoted option} does not take a value."
  | .noArgument name => s!"Missing argument {Text.quoted name}."
  | .extraArguments words =>
    let list := " ".intercalate words
    s!"Got unexpected extra argument(s) ({list})"
  | .badValue [] defect => s!"Invalid value: {defect.message}"
  | .badValue names defect => s!"Invalid value for {parameterNames names}: {defect.message}"

end ChecklistReview.Command
