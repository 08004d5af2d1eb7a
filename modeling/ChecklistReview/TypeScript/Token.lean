import ChecklistReview.Grammar.Lexeme

/-!
# Tokens of TypeScript

Scanners for the terminals that are not literal text: names, numbers, comments, the inside of
strings, regular expressions and templates, and the line ends that stand for a semicolon.

## Main definitions

* `identifier`, `number`, `comment` and the other `Token`s.
* `scanContext` finds the terminals that depend on where they stand.
-/

namespace ChecklistReview.TypeScript

open Grammar

/-! ### Characters -/

/-- Blanks between terminals. -/
def isBlank (c : Char) : Bool :=
  let n := c.toNat
  (9 ≤ n && n ≤ 13) || n = 0x20 || n = 0xA0 || n = 0x1680 || (0x2000 ≤ n && n ≤ 0x200B) ||
    n = 0x2028 || n = 0x2029 || n = 0x202F || n = 0x205F || n = 0x2060 || n = 0x3000 || n = 0xFEFF

/-- Blanks that may stand between the end of a statement and what follows it. -/
def isSpace (c : Char) : Bool :=
  let n := c.toNat
  (9 ≤ n && n ≤ 13) || n = 0x20 || n = 0x1680 || (0x2000 ≤ n && n ≤ 0x2006) ||
    (0x2008 ≤ n && n ≤ 0x200A) || n = 0x2028 || n = 0x2029 || n = 0x205F || n = 0x3000

/-- Characters that end a line. -/
def isLineEnd (c : Char) : Bool := c = '\n' || c.toNat = 0x2028 || c.toNat = 0x2029

/-- Characters inside a name. -/
def isNamePart (c : Char) : Bool :=
  31 < c.toNat && !isBlank c && !(":;`\"'@#.,|^&<=>+-*/\\%?!~()[]\x7b\x7d".toList.contains c)

/-- Characters that start a name. -/
def isNameStart (c : Char) : Bool := isNamePart c && !c.isDigit

/-- Hexadecimal digits. -/
def isHex (c : Char) : Bool :=
  c.isDigit || ('a' ≤ c && c ≤ 'f') || ('A' ≤ c && c ≤ 'F')

/-- Octal digits. -/
def isOctal (c : Char) : Bool := '0' ≤ c && c ≤ '7'

/-- The character at a position; the null character beyond the end. -/
def charAt (text : Array Char) (i : Nat) : Char := text.getD i '\x00'

/-- Whether a character of the text passes a test. -/
def holdsAt (p : Char → Bool) (text : Array Char) (i : Nat) : Bool := (text[i]?).any p

/-! ### Names -/

/-- The end of a character written by its code point, as inside names and strings. -/
def escapedPoint (text : Array Char) (i : Nat) : Option Nat :=
  if startsAt text ['\\', 'u'] i then
    if holdsAt (· = '{') text (i + 2) then
      let stop := dropWhileAt isHex text (i + 3)
      if i + 3 < stop && holdsAt (· = '}') text stop then some (stop + 1) else none
    else if (List.range 4).all fun k => holdsAt isHex text (i + 2 + k) then some (i + 6)
    else none
  else none

/-- The end of the part of a name from a position on. -/
def nameEnd (text : Array Char) : (fuel i : Nat) → Nat
  | 0, i => i
  | fuel + 1, i =>
    if holdsAt isNamePart text i then nameEnd text fuel (i + 1)
    else
      match escapedPoint text i with
      | some j => nameEnd text fuel j
      | none => i

/-- The end of a name. -/
def scanName (text : Array Char) (i : Nat) : Option Nat :=
  if holdsAt isNameStart text i then some (nameEnd text text.size (i + 1))
  else (escapedPoint text i).map (nameEnd text text.size)

/-- A name. -/
def identifier : Token := { kind := "identifier", scan := scanName }

/-- A private name. -/
def privateName : Token :=
  { kind := "private_property_identifier"
    scan := fun text i => if holdsAt (· = '#') text i then scanName text (i + 1) else none }

/-- The line that names the interpreter of a script. -/
def hashBang : Token :=
  { kind := "hash_bang_line"
    scan := fun text i =>
      if startsAt text ['#', '!'] i then some (dropWhileAt (· ≠ '\n') text (i + 2)) else none }

/-! ### Numbers -/

/-- Digits of a kind, with single underscores between them. -/
def digitsFrom (p : Char → Bool) (text : Array Char) : (fuel i : Nat) → Nat
  | 0, i => i
  | fuel + 1, i =>
    if holdsAt p text i then digitsFrom p text fuel (i + 1)
    else if holdsAt (· = '_') text i && holdsAt p text (i + 1) then digitsFrom p text fuel (i + 2)
    else i

/-- The end of one or more digits of a kind. -/
def digits (p : Char → Bool) (text : Array Char) (i : Nat) : Option Nat :=
  if holdsAt p text i then some (digitsFrom p text text.size (i + 1)) else none

/-- The end of digits after a zero and a letter that names their base. -/
def based (letter : Char) (p : Char → Bool) (text : Array Char) (i : Nat) : Option Nat :=
  if holdsAt (· = '0') text i && holdsAt (fun c => c.toLower = letter) text (i + 1) then
    digits p text (i + 2)
  else none

/-- The end of an exponent. -/
def exponent (text : Array Char) (i : Nat) : Option Nat :=
  if holdsAt (fun c => c = 'e' || c = 'E') text i then
    if holdsAt (fun c => c = '+' || c = '-') text (i + 1) then digits Char.isDigit text (i + 2)
    else digits Char.isDigit text (i + 1)
  else none

/-- The ends of the part of a decimal number before the point. -/
def wholePart (text : Array Char) (i : Nat) : List Nat :=
  let isNonzero (c : Char) : Bool := '1' ≤ c && c ≤ '9'
  let long (j : Nat) : List Nat :=
    if holdsAt isNonzero text j then [digitsFrom Char.isDigit text text.size (j + 1)] else []
  if holdsAt (· = '0') text i then (i + 1) :: long (i + 1) else long i

/-- The end of an exponent if there is one, and else the position itself. -/
def skipExponent (text : Array Char) (i : Nat) : Nat := (exponent text i).getD i

/-- The ends of all ways to read a number at a position. -/
def numberEnds (text : Array Char) (i : Nat) : List Nat :=
  let plain := (digits Char.isDigit text i).toList
  let radix := (based 'x' isHex text i).toList ++
    (based 'b' (fun c => c = '0' || c = '1') text i).toList ++
    (based 'o' isOctal text i).toList
  let big := (plain ++ radix).filterMap fun j =>
    if holdsAt (· = 'n') text j then some (j + 1) else none
  let whole := wholePart text i
  let pointed := whole.filterMap fun j =>
    if holdsAt (· = '.') text j then
      some (skipExponent text ((digits Char.isDigit text (j + 1)).getD (j + 1)))
    else none
  let leading :=
    if holdsAt (· = '.') text i then
      ((digits Char.isDigit text (i + 1)).map (skipExponent text)).toList
    else []
  let scaled := whole.filterMap (exponent text)
  plain ++ radix ++ big ++ pointed ++ leading ++ scaled

/-- A number. -/
def number : Token :=
  { kind := "number"
    scan := fun text i => (numberEnds text i).max? }

/-! ### Comments and strings -/

/-- The end of a block comment whose inside starts at a position. -/
def blockEnd (text : Array Char) : (fuel i : Nat) → Option Nat
  | 0, _ => none
  | fuel + 1, i =>
    if startsAt text ['*', '/'] i then some (i + 2)
    else if i < text.size then blockEnd text fuel (i + 1)
    else none

/-- A comment. -/
def comment : Token :=
  { kind := "comment"
    scan := fun text i =>
      if startsAt text ['/', '/'] i then
        some (dropWhileAt (fun c => !isLineEnd c && c ≠ '\r') text (i + 2))
      else if startsAt text ['/', '*'] i then blockEnd text text.size (i + 2)
      else none }

/-- The end of one or more characters of a kind. -/
def oneOrMore (p : Char → Bool) (text : Array Char) (i : Nat) : Option Nat :=
  if holdsAt p text i then some (dropWhileAt p text (i + 1)) else none

/-- The inside of a string between these quotes. -/
def stringInside (quote : Char) : Token :=
  { kind := "string_fragment", immediate := true, rank := 1
    scan := oneOrMore fun c => c ≠ quote && c ≠ '\\' && c ≠ '\r' && c ≠ '\n' }

/-- The end of the inside of a quoted attribute. -/
def attributeEnd (quote : Char) (text : Array Char) : (fuel i : Nat) → Nat
  | 0, i => i
  | fuel + 1, i =>
    if holdsAt (fun c => c ≠ quote && c ≠ '&') text i then attributeEnd quote text fuel (i + 1)
    else if holdsAt (· = '&') text i && holdsAt (fun c => c ≠ '#' && !c.isAlpha) text (i + 1) then
      attributeEnd quote text fuel (i + 2)
    else i

/-- The inside of an attribute between these quotes. -/
def attributeInside (quote : Char) : Token :=
  { kind := "string_fragment", immediate := true, rank := 1
    scan := fun text i =>
      let stop := attributeEnd quote text text.size i
      if i < stop then some stop else none }

/-- The ends of all ways to read an escape in a string. -/
def escapeEnds (text : Array Char) (i : Nat) : List Nat :=
  if holdsAt (· = '\\') text i then
    let j := i + 1
    let single := if holdsAt (fun c => c ≠ 'x' && c ≠ 'u' && !isOctal c) text j then [j + 1] else []
    let octal :=
      if holdsAt isOctal text j then
        [j + ((List.range 3).takeWhile fun k => holdsAt isOctal text (j + k)).length]
      else []
    let hex :=
      if holdsAt (· = 'x') text j && holdsAt isHex text (j + 1) && holdsAt isHex text (j + 2) then
        [j + 3]
      else []
    let point := (escapedPoint text i).toList
    let lineEnd :=
      if holdsAt (fun c => c = '\r' || c = '?') text j && holdsAt isLineEnd text (j + 1)
        then [j + 2]
      else []
    single ++ octal ++ hex ++ point ++ lineEnd
  else []

/-- An escape in a string. -/
def escape : Token :=
  { kind := "escape_sequence", immediate := true, scan := fun text i => (escapeEnds text i).max? }

/-! ### Regular expressions -/

/-- The end of a character class whose inside starts at a position. -/
def classEnd (text : Array Char) : (fuel i : Nat) → Option Nat
  | 0, _ => none
  | fuel + 1, i =>
    match text[i]? with
    | none => none
    | some ']' => some (i + 1)
    | some '\n' => none
    | some '\\' => if holdsAt (· ≠ '\n') text (i + 1) then classEnd text fuel (i + 2) else none
    | some _ => classEnd text fuel (i + 1)

/-- The end of a regular expression from a position on. -/
def patternEnd (text : Array Char) : (fuel i : Nat) → Nat
  | 0, i => i
  | fuel + 1, i =>
    match text[i]? with
    | none => i
    | some '/' => i
    | some '\n' => i
    | some '\\' => if holdsAt (· ≠ '\n') text (i + 1) then patternEnd text fuel (i + 2) else i
    | some '[' =>
      match classEnd text text.size (i + 1) with
      | some j => patternEnd text fuel j
      | none => i
    | some _ => patternEnd text fuel (i + 1)

/-- The inside of a regular expression. -/
def regexInside : Token :=
  { kind := "regex_pattern", immediate := true, rank := -1
    scan := fun text i =>
      let stop := patternEnd text text.size i
      if i < stop then some stop else none }

/-- The slash that closes a regular expression. -/
def regexClose : Token :=
  { kind := "/", isNamed := false, immediate := true, rank := 1
    scan := fun text i => if holdsAt (· = '/') text i then some (i + 1) else none }

/-- The flags of a regular expression. -/
def regexFlags : Token :=
  { kind := "regex_flags", immediate := true
    scan := oneOrMore fun c => 'a' ≤ c && c ≤ 'z' }

/-! ### Markup -/

/-- Letters, digits, underscore and dollar sign. -/
def isTagPart (c : Char) : Bool := c.isAlphanum || c = '_' || c = '$'

/-- A name with a hyphen. -/
def hyphenated : Token :=
  { kind := "jsx_identifier"
    scan := fun text i =>
      if holdsAt (fun c => isTagPart c && !c.isDigit) text i then
        let hyphen := dropWhileAt isTagPart text (i + 1)
        if holdsAt (· = '-') text hyphen then
          some (dropWhileAt (fun c => isTagPart c || c = '-') text (hyphen + 1))
        else none
      else none }

/-- A semicolon after between one and `most` characters of a kind. -/
def upTo (most : Nat) (p : Char → Bool) (text : Array Char) (i : Nat) : Option Nat :=
  let stop := dropWhileAt p text i
  if i < stop && stop - i ≤ most && holdsAt (· = ';') text stop then some (stop + 1) else none

/-- A character written by name or number between an ampersand and a semicolon. -/
def characterReference : Token :=
  { kind := "html_character_reference"
    scan := fun text i =>
      if holdsAt (· = '&') text i then
        if holdsAt (· = '#') text (i + 1) then
          if holdsAt (fun c => c = 'x' || c = 'X') text (i + 2) then upTo 6 isHex text (i + 3)
          else upTo 5 Char.isDigit text (i + 2)
        else upTo 30 Char.isAlpha text (i + 1)
      else none }

/-! ### Terminals that depend on their context -/

/-- Literal text inside a template, and whether there is any. -/
def templateEnd (text : Array Char) : (fuel i : Nat) → Option Nat
  | 0, _ => none
  | fuel + 1, i =>
    match charAt text i with
    | '\x60' => some i
    | '\x00' => none
    | '\\' => some i
    | '$' => if charAt text (i + 1) = '{' then some i else templateEnd text fuel (i + 1)
    | _ => templateEnd text fuel (i + 1)

/-- What blanks and comments before a terminal say about a semicolon there. -/
inductive Gap where
  /-- A semicolon cannot stand here. -/
  | none
  /-- A comment on one line says nothing. -/
  | open_
  /-- A semicolon may stand here. -/
  | some
  deriving DecidableEq

/-- The end of a block comment from inside it, and whether it has a line end. -/
def blockSpan (text : Array Char) : (fuel i : Nat) → Bool → Option Nat × Nat × Bool
  | 0, i, multi => (none, i, multi)
  | fuel + 1, i, multi =>
    match charAt text i with
    | '\x00' => (none, i, multi)
    | '*' =>
      if charAt text (i + 1) = '/' then (some (i + 2), i + 2, multi)
      else blockSpan text fuel (i + 1) multi
    | c => blockSpan text fuel (i + 1) (multi || isLineEnd c)

/-- Passes blanks and comments. The result says whether a semicolon may stand before them, where
they end, and whether there was a comment. Unless `all` is set, it stops after a block comment
that no comment follows. -/
def skipGap (all : Bool) (text : Array Char) :
    (fuel i : Nat) → (multi seen : Bool) → Gap × Nat × Bool
  | 0, i, _, seen => (.some, i, seen)
  | fuel + 1, i, multi, seen =>
    let i := dropWhileAt isSpace text i
    if charAt text i = '/' then
      match charAt text (i + 1) with
      | '/' =>
        let j := dropWhileAt (fun c => !isLineEnd c && c ≠ '\x00') text (i + 2)
        skipGap all text fuel j multi true
      | '*' =>
        match blockSpan text text.size (i + 2) multi with
        | (some j, _, multi) =>
          if charAt text j ≠ '/' && !all then (if multi then .some else .open_, j, true)
          else skipGap all text fuel j multi true
        | (none, j, multi) => skipGap all text fuel j multi seen
      | _ => (.none, i + 1, seen)
    else (.some, i, seen)

/-- Whether what stands at the start of a line ends the statement before it. -/
def endsStatement (expects : Expectation) (text : Array Char) (i : Nat) : Bool :=
  match charAt text i with
  | '\x60' | ',' | '.' | ';' | '*' | '%' | '>' | '<' | '=' | '?' | '^' | '|' | '&' | '/' | ':'
    => false
  | '{' => !expects.allows "_function_signature_automatic_semicolon"
  | '(' | '[' => !expects.allows "||"
  | '+' => charAt text (i + 1) = '+'
  | '-' => charAt text (i + 1) = '-'
  | '!' => charAt text (i + 1) ≠ '='
  | 'i' =>
    if charAt text (i + 1) ≠ 'n' then true
    else if !isLetter (charAt text (i + 2)) then false
    else if startsAt text "stanceof".toList (i + 2) then isLetter (charAt text (i + 10))
    else true
  | _ => true
where
  /-- Letters, taken as all that is neither ASCII nor a blank besides the ASCII letters. -/
  isLetter (c : Char) : Bool := c.isAlpha || (127 < c.toNat && !isBlank c)

/-- Whether a statement ends at a position without a semicolon. The second component is where
the decision was made, and the third tells whether a comment was passed. -/
def lineEndsStatement (expects : Expectation) (text : Array Char) :
    (fuel i : Nat) → Bool → Bool × Nat × Bool
  | 0, i, seen => (false, i, seen)
  | fuel + 1, i, seen =>
    let c := charAt text i
    if c = '\x00' then (true, i, seen)
    else if c = '/' then
      match skipGap false text (text.size + 1) i false seen with
      | (.none, j, seen) => (false, j, seen)
      | (.some, j, seen) =>
        if charAt text j ≠ ',' && charAt text j ≠ '=' then (true, j, seen) else afterGap fuel j seen
      | (.open_, j, seen) => afterGap fuel j seen
    else afterGap fuel i seen
where
  /-- Decides after comments have been passed. -/
  afterGap (fuel i : Nat) (seen : Bool) : Bool × Nat × Bool :=
    let c := charAt text i
    if c = '}' then
      let j := dropWhileAt isSpace text (i + 1)
      if charAt text j = ':' then (expects.allows "||", j, seen) else (true, j, seen)
    else if !isSpace c then (false, i, seen)
    else if isLineEnd c then
      match skipGap true text (text.size + 1) (i + 1) false seen with
      | (.none, j, seen) => (false, j, seen)
      | (_, j, seen) => (endsStatement expects text j, j, seen)
    else lineEndsStatement expects text fuel (i + 1) seen

/-- The question mark of a conditional expression. -/
def conditionalMark (text : Array Char) (i : Nat) : Option (String × Nat × Nat) :=
  let start := dropWhileAt isSpace text i
  if charAt text start = '?' && charAt text (start + 1) ≠ '?' then
    let next := dropWhileAt isSpace text (start + 1)
    let found := some ("_ternary_qmark", start, start + 1)
    match charAt text next with
    | ':' | ')' | ',' => none
    | '.' => if (charAt text (next + 1)).isDigit then found else none
    | _ => found
  else none

/-- A comment in the style of a markup document. -/
def markupComment (text : Array Char) (i : Nat) : Option (String × Nat × Nat) :=
  let start := dropWhileAt (fun c => isSpace c || isLineEnd c) text i
  if startsAt text "<!--".toList start || startsAt text "-->".toList start then
    some ("html_comment", start, dropWhileAt (fun c => !isLineEnd c && c ≠ '\x00') text (start + 3))
  else none

/-- Text between tags, if it is more than line ends and the blanks after them. -/
def markupText (text : Array Char) (i : Nat) : Option (String × Nat × Nat) :=
  let stop := dropWhileAt
    (fun c => c ≠ '<' && c ≠ '>' && c ≠ '{' && c ≠ '}' && c ≠ '&' && c ≠ '\x00') text i
  let (_, seen) := (text.extract i stop).foldl (fun (atLineEnd, seen) c =>
    if c = '\n' then (true, seen)
    else
      let atLineEnd := atLineEnd && isSpace c
      (atLineEnd, seen || !atLineEnd)) (false, false)
  if seen then some ("jsx_text", i, stop) else none

/-- The terminals that depend on where they stand. -/
def scanContext (expects : Expectation) (text : Array Char) (i : Nat) :
    Option (String × Nat × Nat) :=
  let semicolon := expects.allows "_automatic_semicolon"
  if expects.allows "_template_chars" then
    if semicolon then none
    else
      match templateEnd text (text.size + 1) i with
      | some stop => if i < stop then some ("_template_chars", i, stop) else none
      | none => none
  else
    match if expects.allows "jsx_text" then markupText text i else none with
    | some found => some found
    | none =>
      if semicolon || expects.allows "_function_signature_automatic_semicolon" then
        match lineEndsStatement expects text (text.size + 1) i false with
        | (true, _, _) => some ("_automatic_semicolon", i, i)
        | (false, j, seen) =>
          if !seen && expects.allows "_ternary_qmark" && charAt text j = '?' then
            conditionalMark text j
          else none
      else if expects.allows "_ternary_qmark" then conditionalMark text i
      else if expects.allows "html_comment" && !expects.allows "||" &&
          !expects.allows "escape_sequence" && !expects.allows "regex_pattern" then
        markupComment text i
      else none

end ChecklistReview.TypeScript
