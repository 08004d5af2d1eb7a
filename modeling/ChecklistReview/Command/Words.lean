import ChecklistReview.Command.Fault
import ChecklistReview.Text.Similarity

/-!
# The words of a command line

A command line is a list of words. A word that starts with a dash is an option, or several
options of one letter each; an option may take a value, which is attached to it or is the next
word. All other words are arguments. Two dashes alone end the options.

## Main definitions

* `Choice` is an option that a command has.
* `Words` are the settings and the arguments of a command line.
* `Words.read` reads a command line.
-/

namespace ChecklistReview.Command

/-- What an option sets. -/
inductive Effect (σ : Type) where
  /-- The option stands alone. -/
  | plain (setting : σ)
  /-- The option takes a value. -/
  | valued (setting : String → σ)

/-- An option that a command has. -/
structure Choice (σ : Type) where
  /-- The spellings with two dashes. -/
  long : List String
  /-- The letter after a single dash. -/
  short : Option Char := none
  effect : Effect σ

/-- The settings and the arguments of a command line, both in order. -/
structure Words (σ : Type) where
  settings : List σ
  arguments : List String

/-- Settings, and whether the next word was the value of the last one. -/
structure OptionReading (σ : Type) where
  settings : List σ
  tookNext : Bool

section

variable {σ : Type}

/-- The setting of an option that is spelled `name`. Its value is the attached one, or else the
next word. -/
def applyEffect (name : String) (attached next : Option String) :
    Effect σ → Except Fault (OptionReading σ)
  | .plain setting => .ok { settings := [setting], tookNext := false }
  | .valued setting =>
    match attached, next with
    | some value, _ => .ok { settings := [setting value], tookNext := false }
    | none, some value => .ok { settings := [setting value], tookNext := true }
    | none, none => .error (.noValue name)

/-- Options of one letter each. An option that takes a value takes the rest of the letters, or
else the next word. -/
def readLetters (choices : List (Choice σ)) (next : Option String) :
    List Char → Except Fault (OptionReading σ)
  | [] => .ok { settings := [], tookNext := false }
  | c :: rest =>
    let name := String.ofList ['-', c]
    match choices.find? fun choice => choice.short = some c with
    | none => .error (.unknownOption name [])
    | some choice =>
      match choice.effect with
      | .plain setting => do
        let more ← readLetters choices next rest
        .ok { more with settings := setting :: more.settings }
      | effect =>
        let attached := if rest.isEmpty then none else some (String.ofList rest)
        applyEffect name attached next effect

/-- A word cut at its first equals sign. -/
def cutAtEquals (word : List Char) : List Char × Option (List Char) :=
  match word.dropWhile (· ≠ '=') with
  | [] => (word, none)
  | _ :: value => (word.takeWhile (· ≠ '='), some value)

/-- The options of one word. -/
def readOption (choices : List (Choice σ)) (word : String) (next : Option String) :
    Except Fault (OptionReading σ) :=
  let (start, value) := cutAtEquals word.toList
  let name := String.ofList start
  match choices.find? fun choice => name ∈ choice.long with
  | some choice =>
    match choice.effect, value with
    | .plain _, some _ => .error (.unwantedValue name)
    | effect, _ => applyEffect name (value.map String.ofList) next effect
  | none =>
    match word.toList with
    | '-' :: '-' :: _ =>
      .error (.unknownOption name (Text.closeTo name (choices.flatMap Choice.long)))
    | letters => readLetters choices next (letters.drop 1)

/-- Whether a word is an option. -/
def isOption (word : String) : Bool :=
  match word.toList with
  | '-' :: _ :: _ => true
  | _ => false

/-- Reads a command line. Unless options may be mixed with arguments, the first argument ends
them. -/
def Words.read (choices : List (Choice σ)) (isMixed : Bool) (words : List String) :
    Except Fault (Words σ) :=
  match words with
  | [] => .ok { settings := [], arguments := [] }
  | word :: rest =>
    if word = "--" then .ok { settings := [], arguments := rest }
    else if isOption word then
      match readOption choices word rest.head? with
      | .error fault => .error fault
      | .ok reading =>
        match Words.read choices isMixed (rest.drop (if reading.tookNext then 1 else 0)) with
        | .error fault => .error fault
        | .ok more => .ok { more with settings := reading.settings ++ more.settings }
    else if isMixed then
      match Words.read choices isMixed rest with
      | .error fault => .error fault
      | .ok more => .ok { more with arguments := word :: more.arguments }
    else .ok { settings := [], arguments := word :: rest }
termination_by words.length

end

end ChecklistReview.Command
