import ChecklistReview.Text.Numeral
import ChecklistReview.Text.Quoted

/-!
# Malformed expressions

What can be wrong with the text of a regular expression, and how it is said.

## Main definitions

* `Complaint` is what is wrong, with its `words`.
* `Fault` is a complaint at a place, or a limit that is exceeded.
-/

namespace ChecklistReview.Regex

/-- What is wrong with the text of an expression. -/
inductive Complaint where
  | endInEscape
  | incompleteEscape (escape : String)
  | badEscape (escape : String)
  | octalTooLarge (escape : String)
  | missingBrace
  | unknownCharacterName (name : String)
  | missing (what : String)
  | unterminatedName (terminator : String)
  | badGroupName (name : String)
  | unknownGroup (name : String)
  | openGroup
  | sameLookbehindGroup
  | noSuchGroup (number : Nat)
  | badGroupNumber
  | groupRedefined (name : String) (number earlier : Nat)
  | unterminatedSet
  | badRange (low high : String)
  | emptyRepeatRange
  | nothingToRepeat
  | multipleRepeat
  | unexpectedEnd
  | unknownExtension (extension : String)
  | unterminatedComment
  | unterminatedGroup
  | tooManyBranches
  | misplacedOptions
  | noLocale
  | incompatibleOptions
  | unknownOption
  | cannotTurnOnWhole
  | cannotTurnOffWhole
  | cannotTurnOffAlphabet
  | turnedOnAndOff
  | unbalancedParenthesis
  | lookbehindWidth
  | lookbehindLength
  /-- A repeat in an expression for templates. -/
  | templateRepeat (operator : String)
  deriving DecidableEq

/-- The words for a complaint. -/
def Complaint.words : Complaint → String
  | .endInEscape => "bad escape (end of pattern)"
  | .incompleteEscape escape => s!"incomplete escape {escape}"
  | .badEscape escape => s!"bad escape {escape}"
  | .octalTooLarge escape => s!"octal escape value {escape} outside of range 0-0o377"
  | .missingBrace => "missing \x7b"
  | .unknownCharacterName name => "undefined character name " ++ Text.quoted name
  | .missing what => s!"missing {what}"
  | .unterminatedName terminator => s!"missing {terminator}, unterminated name"
  | .badGroupName name => "bad character in group name " ++ Text.quoted name
  | .unknownGroup name => "unknown group name " ++ Text.quoted name
  | .openGroup => "cannot refer to an open group"
  | .sameLookbehindGroup => "cannot refer to group defined in the same lookbehind subpattern"
  | .noSuchGroup number => s!"invalid group reference {number}"
  | .badGroupNumber => "bad group number"
  | .groupRedefined name number earlier =>
    "redefinition of group name " ++ Text.quoted name ++ s!" as group {number}; was group {earlier}"
  | .unterminatedSet => "unterminated character set"
  | .badRange low high => s!"bad character range {low}-{high}"
  | .emptyRepeatRange => "min repeat greater than max repeat"
  | .nothingToRepeat => "nothing to repeat"
  | .multipleRepeat => "multiple repeat"
  | .unexpectedEnd => "unexpected end of pattern"
  | .unknownExtension extension => s!"unknown extension ?{extension}"
  | .unterminatedComment => "missing ), unterminated comment"
  | .unterminatedGroup => "missing ), unterminated subpattern"
  | .tooManyBranches => "conditional backref with more than two branches"
  | .misplacedOptions => "global flags not at the start of the expression"
  | .noLocale => "bad inline flags: cannot use 'L' flag with a str pattern"
  | .incompatibleOptions => "bad inline flags: flags 'a', 'u' and 'L' are incompatible"
  | .unknownOption => "unknown flag"
  | .cannotTurnOnWhole => "bad inline flags: cannot turn on global flag"
  | .cannotTurnOffWhole => "bad inline flags: cannot turn off global flag"
  | .cannotTurnOffAlphabet => "bad inline flags: cannot turn off flags 'a', 'u' and 'L'"
  | .turnedOnAndOff => "bad inline flags: flag turned on and off"
  | .unbalancedParenthesis => "unbalanced parenthesis"
  | .lookbehindWidth => "look-behind requires fixed-width pattern"
  | .lookbehindLength => "looks too much behind"
  | .templateRepeat operator => s!"internal: unsupported template operator {operator}"

/-- Why a text is no expression. -/
inductive Fault where
  /-- The text is malformed, at a place if there is one to name. -/
  | malformed (complaint : Complaint) (place : Option Nat)
  /-- A number of repetitions is too large. -/
  | repeatTooLarge
  /-- A number of repetitions has too many digits. -/
  | longNumber (digits : Nat)
  /-- Two alphabets are chosen for the whole expression. -/
  | alphabetClash
  /-- The parts are nested deeper than the stack has room for. -/
  | tooDeep
  deriving DecidableEq

/-- What is said of a malformed text. The line and column are given if there are several
lines. -/
def malformedMessage (text : List Char) (complaint : Complaint) : Option Nat → String
  | none => complaint.words
  | some place =>
    let before := text.take place
    let plain := s!"{complaint.words} at position {place}"
    if text.contains '\n' then
      let line := before.count '\n' + 1
      let column := (before.reverse.takeWhile (· ≠ '\n')).length + 1
      s!"{plain} (line {line}, column {column})"
    else plain

/-- What is said of a fault. -/
def Fault.message (text : List Char) : Fault → String
  | .malformed complaint place => malformedMessage text complaint place
  | .repeatTooLarge => "the repetition number is too large"
  | .longNumber digits => Text.tooManyDigits Text.numeralLimit digits
  | .alphabetClash => "ASCII and UNICODE flags are incompatible"
  | .tooDeep => "maximum recursion depth exceeded"

end ChecklistReview.Regex
