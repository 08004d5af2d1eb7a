import ChecklistReview.Grammar.Language

/-!
# Lexemes

Reading one terminal at a position of the text. Which terminals are looked for depends on the
state of the parser; if none of them is there, any terminal of the language is taken, and if
there is none at all, characters are skipped until one is found.

## Main definitions

* `Source` is a text with the byte offset and the row of every character.
* `Language.scanAmong` finds the best terminal of a set.
* `Language.lex` reads the next lexeme.

## Design notes

Of the terminals that match, the one of highest rank wins, then the longest, then a literal
over a token, then the one defined first.
-/

namespace ChecklistReview.Grammar

/-- A text as the parser sees it. -/
structure Source where
  chars : Array Char
  /-- Number of bytes before each character, and in the whole text. -/
  bytes : Array Nat
  /-- Number of line feeds before each character, and in the whole text. -/
  rows : Array Nat

namespace Source

/-- Measures a text. -/
def ofChars (chars : Array Char) : Source := Id.run do
  let mut bytes : Array Nat := #[0]
  let mut rows : Array Nat := #[0]
  let mut byte := 0
  let mut row := 0
  for c in chars do
    byte := byte + c.utf8Size
    if c = '\n' then
      row := row + 1
    bytes := bytes.push byte
    rows := rows.push row
  return { chars, bytes, rows }

/-- Number of characters. -/
def size (source : Source) : Nat := source.chars.size

/-- Number of bytes before a position. -/
def byte (source : Source) (i : Nat) : Nat := source.bytes.getD i 0

/-- Number of line feeds before a position. -/
def row (source : Source) (i : Nat) : Nat := source.rows.getD i 0

end Source

/-- The first position at or after `i` whose character fails the test, looking at most `fuel`
characters ahead. -/
def skipWhile (p : Char → Bool) (text : Array Char) : (fuel i : Nat) → Nat
  | 0, i => i
  | fuel + 1, i =>
    match text[i]? with
    | some c => if p c then skipWhile p text fuel (i + 1) else i
    | none => i

/-- The first position at or after `i` whose character fails the test. -/
def dropWhileAt (p : Char → Bool) (text : Array Char) (i : Nat) : Nat :=
  skipWhile p text (text.size - i) i

/-- Whether characters stand at a position. -/
def startsAt (text : Array Char) : List Char → Nat → Bool
  | [], _ => true
  | c :: cs, i => text[i]? = some c && startsAt text cs (i + 1)

/-- A terminal read from the text. -/
structure Lexeme where
  symbol : Nat
  start : Nat
  stop : Nat
  /-- The text is a keyword, whether or not it is read as one. -/
  isKeyword : Bool
  /-- The characters belong to no terminal. -/
  isUnreadable : Bool
  deriving Inhabited

namespace Language

variable (l : Language)

/-- A terminal that matches at a position, with what decides between several. -/
structure Candidate where
  symbol : Nat
  start : Nat
  stop : Nat
  rank : Int
  specificity : Nat

/-- Whether the first candidate is preferred to the second. -/
def Candidate.beats (a b : Candidate) : Bool :=
  if a.rank ≠ b.rank then b.rank < a.rank
  else if a.stop ≠ b.stop then b.stop < a.stop
  else if a.specificity ≠ b.specificity then b.specificity < a.specificity
  else a.symbol < b.symbol

/-- Of the candidates found, the preferred one. -/
def Candidate.best (found : Option Candidate) (c : Candidate) : Option Candidate :=
  match found with
  | none => some c
  | some b => if c.beats b then some c else some b

/-- The best terminal of a set at a position. Keywords are found as words. -/
def scanAmong (set : TerminalSet) (text : Array Char) (i : Nat) : Option Candidate := Id.run do
  let set := if set &&& l.keywordSet = 0 then set else set ||| .single l.word
  let start := dropWhileAt l.isBlank text i
  let mut found : Option Candidate := none
  match text[start]? with
  | none =>
    if set.testBit 0 then
      found := some { symbol := 0, start, stop := start, rank := 0, specificity := 0 }
  | some c =>
    for t in l.literals.getD c.toNat [] do
      if set.testBit t then
        let chars := ((l.terminals.getD t default).text).getD []
        if startsAt text chars start then
          found := Candidate.best found
            { symbol := t, start, stop := start + chars.length, rank := 0, specificity := 2 }
  for t in l.tokens do
    if set.testBit t then
      if let some token := (l.terminals.getD t default).token then
        let begin_ := if token.immediate then i else start
        if let some stop := token.scan text begin_ then
          found := Candidate.best found
            { symbol := t, start := begin_, stop, rank := token.rank
              specificity := if token.immediate then 1 else 0 }
  return found

/-- Reads a word as a keyword if the keyword is among those asked for. -/
def keywordOr (set : TerminalSet) (text : Array Char) (c : Candidate) : Lexeme :=
  if c.symbol = l.word then
    match l.keywords[String.ofList (text.extract c.start c.stop).toList]? with
    | some k =>
      { symbol := if set.testBit k then k else c.symbol
        start := c.start, stop := c.stop, isKeyword := true, isUnreadable := false }
    | none =>
      { symbol := c.symbol, start := c.start, stop := c.stop,
        isKeyword := false, isUnreadable := false }
  else
    { symbol := c.symbol, start := c.start, stop := c.stop,
      isKeyword := false, isUnreadable := false }

/-- The end of the unreadable characters from a position on. -/
def unreadableEnd (text : Array Char) : (fuel i : Nat) → Nat
  | 0, i => i
  | fuel + 1, i =>
    match l.scanAmong (l.recoverySet ||| 1) text i with
    | some _ => i
    | none => unreadableEnd text fuel (i + 1)

/-- Reads the next lexeme.

`set` holds the terminals asked for and `externals` those of them that the context-dependent
scanner may find. An empty terminal of that scanner counts only if `takesEmpty`. -/
def lex (set : TerminalSet) (takesEmpty : Bool) (source : Source) (i : Nat) : Lexeme :=
  let text := source.chars
  let expectation : Expectation :=
    ⟨fun name => match l.externals[name]? with
      | some t => set.testBit t
      | none => false⟩
  let external : Option Lexeme :=
    if set &&& l.externalSet = 0 then none
    else
      match l.scanExternal expectation text i with
      | some (name, start, stop) =>
        if stop ≤ i && !takesEmpty then none
        else some
          { symbol := (l.externals[name]?).getD 0, start, stop,
            isKeyword := false, isUnreadable := false }
      | none => none
  match external with
  | some lexeme => lexeme
  | none =>
    match l.scanAmong set text i with
    | some c => l.keywordOr set text c
    | none =>
      match l.scanAmong (l.recoverySet ||| 1) text i with
      | some c => l.keywordOr set text c
      | none =>
        let start := dropWhileAt l.isBlank text i
        let stop := l.unreadableEnd text (text.size - start) (start + 1)
        { symbol := 0, start, stop, isKeyword := false, isUnreadable := true }

end Language

end ChecklistReview.Grammar
