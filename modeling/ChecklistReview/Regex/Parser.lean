import ChecklistReview.Regex.Fault
import ChecklistReview.Regex.Syntax
import ChecklistReview.Text.CharName
import ChecklistReview.Text.Identifier
import ChecklistReview.Text.Numeral
import ChecklistReview.Text.Word

/-!
# Reading expressions

An expression is read token by token, where a backslash and the character after it are one
token. A lone backslash at the end is refused as soon as the token before it has been read. Groups
are read by nested calls, for which there may be a bounded room on the stack.

## Main definitions

* `Scan` is the state of reading: the place, the groups met so far and the settings.
* `parseSequence` reads parts up to a bar or a closing parenthesis.
* `parseAlternatives` reads sequences divided by bars.
* `parse` reads a whole expression.
-/

namespace ChecklistReview.Regex

/-- What expressions are read with. -/
structure Setup where
  /-- How many nested calls the stack has room for, if it is bounded. -/
  room : Option Nat := none
  /-- The characters that have names. -/
  named : Text.NameTable := .ascii

/-- The state of reading an expression. -/
structure Scan where
  text : Array Char
  /-- Halves of characters with their places in the text, where another character stands. -/
  halves : List (Nat × Nat)
  /-- The characters that have names. -/
  named : Text.NameTable
  /-- Where the next token starts. -/
  index : Nat
  /-- The settings for the whole expression. -/
  options : Options
  /-- The widths of groups by number; an open group has none. Number 0 is not used. -/
  widths : Array (Option Width)
  /-- The numbers of named groups. -/
  names : List (String × Nat)
  /-- Inside an assertion that looks behind, the number of groups before it. -/
  lookbehindGroups : Option Nat
  /-- Groups that conditions refer to by number, with the places of their first references. -/
  conditions : List (Nat × Nat)

/-- Steps of reading an expression. -/
abbrev ParserM := StateT Scan (Except Fault)

/-- A token. -/
inductive Token where
  | plain (c : Char)
  | escape (c : Char)
  deriving DecidableEq

/-- The text of a token. -/
def Token.text : Token → String
  | .plain c => String.ofList [c]
  | .escape c => String.ofList ['\\', c]

/-- The number of characters of a token. -/
def Token.length : Token → Nat
  | .plain _ => 1
  | .escape _ => 2

/-- The token at an index. -/
def Scan.tokenAt? (s : Scan) (index : Nat) : Option Token :=
  match s.text[index]? with
  | none => none
  | some '\\' => s.text[index + 1]?.map Token.escape
  | some c => some (.plain c)

/-- Whether a lone backslash ends the text at an index. -/
def Scan.endsInEscape (s : Scan) (index : Nat) : Bool :=
  s.text[index]? = some '\\' && index + 1 = s.text.size

/-- Fails so many characters before the next token. -/
def failAt {α : Type} (complaint : Complaint) (back : Nat := 0) : ParserM α := do
  throw (.malformed complaint (some ((← get).index - back)))

/-- Goes to an index. -/
def goTo (index : Nat) : ParserM Unit := do
  let s ← get
  if s.endsInEscape index then
    throw (.malformed .endInEscape (some index))
  set { s with index }

/-- The next token. -/
def peek : ParserM (Option Token) := do
  let s ← get
  return s.tokenAt? s.index

/-- Takes the next token. -/
def next : ParserM (Option Token) := do
  let token ← peek
  if let some t := token then
    goTo ((← get).index + t.length)
  return token

/-- Takes the next token if it is this character. -/
def accept (c : Char) : ParserM Bool := do
  if (← peek) = some (.plain c) then
    let _ ← next
    return true
  return false

/-- The code point of the character before the next token. -/
def codeTaken (c : Char) : ParserM Nat := do
  let s ← get
  return (s.halves.lookup (s.index - 1)).getD c.toNat

/-- Takes at most so many characters of a class. -/
def takeAtMost (isIn : Char → Bool) : Nat → ParserM (List Char)
  | 0 => return []
  | n + 1 => do
    match ← peek with
    | some (.plain c) =>
      if isIn c then
        let _ ← next
        return c :: (← takeAtMost isIn n)
      else return []
    | _ => return []

/-- Takes the tokens before a terminator, and the terminator. -/
def takeUntil (terminator : Char) (what : String) : ParserM (List Char) := do
  go ((← get).text.size + 1) []
where
  /-- Adds tokens to those before. -/
  go : Nat → List Char → ParserM (List Char)
    | 0, _ => failAt (.missing what)
    | fuel + 1, before => do
      match ← next with
      | none =>
        if before.isEmpty then failAt (.missing what)
        else failAt (.unterminatedName (String.ofList [terminator])) before.length
      | some t =>
        if t = .plain terminator then
          if before.isEmpty then failAt (.missing what) 1 else return before
        else go fuel (before ++ t.text.toList)

/-! ### Escapes -/

/-- A digit to the base sixteen. -/
def isHexDigit (c : Char) : Bool :=
  c.isDigit || ('a' ≤ c && c ≤ 'f') || ('A' ≤ c && c ≤ 'F')

/-- A digit to the base eight. -/
def isOctalDigit (c : Char) : Bool := '0' ≤ c && c ≤ '7'

/-- The value of a digit to a base of at most sixteen. -/
def digitValue (c : Char) : Nat :=
  if c.isDigit then c.toNat - '0'.toNat
  else if 'a' ≤ c && c ≤ 'f' then c.toNat - 'a'.toNat + 10
  else c.toNat - 'A'.toNat + 10

/-- The value of digits to a base. -/
def valueOf (base : Nat) (digits : List Char) : Nat :=
  digits.foldl (fun n c => n * base + digitValue c) 0

/-- A letter of ASCII. -/
def isAsciiLetter (c : Char) : Bool := ('a' ≤ c && c ≤ 'z') || ('A' ≤ c && c ≤ 'Z')

/-- The character of a short escape. -/
def shortEscape? : Char → Option Nat
  | 'a' => some 7
  | 'b' => some 8
  | 'f' => some 12
  | 'n' => some 10
  | 'r' => some 13
  | 't' => some 9
  | 'v' => some 11
  | '\\' => some 92
  | _ => none

/-- The category of an escape. -/
def categoryEscape? : Char → Option Member
  | 'd' => some (.category .digit false)
  | 'D' => some (.category .digit true)
  | 's' => some (.category .space false)
  | 'S' => some (.category .space true)
  | 'w' => some (.category .word false)
  | 'W' => some (.category .word true)
  | _ => none

/-- The anchor of an escape. -/
def anchorEscape? : Char → Option Anchor
  | 'A' => some .textStart
  | 'b' => some .wordEdge
  | 'B' => some .noWordEdge
  | 'Z' => some .textEnd
  | _ => none

/-- An escape by number: the letter and exactly so many digits. -/
def numberEscape (letter : Char) (count : Nat) : ParserM Nat := do
  let digits ← takeAtMost isHexDigit count
  let escape := '\\' :: letter :: digits
  if digits.length ≠ count then
    failAt (.incompleteEscape (String.ofList escape)) escape.length
  let value := valueOf 16 digits
  if 0x110000 ≤ value then
    failAt (.badEscape (String.ofList escape)) escape.length
  return value

/-- An escape by name. -/
def nameEscape : ParserM Nat := do
  if !(← accept '{') then
    failAt .missingBrace
  let name ← takeUntil '}' "character name"
  match (← get).named.find? name with
  | some c => return c.toNat
  | none => failAt (.unknownCharacterName (String.ofList name)) (name.length + 4)

/-- An escape that means one character, in a set or outside. -/
def codeEscape? (c : Char) : ParserM (Option Nat) := do
  match c with
  | 'x' => some <$> numberEscape c 2
  | 'u' => some <$> numberEscape c 4
  | 'U' => some <$> numberEscape c 8
  | 'N' => some <$> nameEscape
  | _ => return none

/-- An escape of a character that has no meaning of its own. -/
def plainEscape (c : Char) : ParserM Nat := do
  if isAsciiLetter c || c.isDigit then
    failAt (.badEscape (String.ofList ['\\', c])) 2
  codeTaken c

/-- An escape inside a set. -/
def setEscape (c : Char) : ParserM Member := do
  if let some code := shortEscape? c then
    return .code code
  if let some category := categoryEscape? c then
    return category
  if let some code ← codeEscape? c then
    return .code code
  if isOctalDigit c then
    let digits := c :: (← takeAtMost isOctalDigit 2)
    let value := valueOf 8 digits
    if 255 < value then
      let escape := '\\' :: digits
      failAt (.octalTooLarge (String.ofList escape)) escape.length
    return .code value
  return .code (← plainEscape c)

/-- Whether a group is closed. -/
def isClosed (number : Nat) : ParserM Bool := do
  return ((← get).widths.getD number none).isSome

/-- Refuses a reference from an assertion that looks behind to a group that is open or part of
it. -/
def checkLookbehind (number : Nat) : ParserM Unit := do
  if let some before := (← get).lookbehindGroups then
    if !(← isClosed number) then
      failAt .openGroup
    if before ≤ number then
      failAt .sameLookbehindGroup

/-- An escape by digits: a character to the base eight, or a group. -/
def digitEscape (c : Char) : ParserM Node := do
  if c = '0' then
    return .code (valueOf 8 (c :: (← takeAtMost isOctalDigit 2)))
  let more ← takeAtMost Char.isDigit 1
  let digits := c :: more
  if more.length = 1 && digits.all isOctalDigit then
    let third ← takeAtMost isOctalDigit 1
    if third.length = 1 then
      let digits := digits ++ third
      let value := valueOf 8 digits
      if 255 < value then
        let escape := '\\' :: digits
        failAt (.octalTooLarge (String.ofList escape)) escape.length
      return .code value
  let number := valueOf 10 digits
  if number < (← get).widths.size then
    if !(← isClosed number) then
      failAt .openGroup (digits.length + 1)
    checkLookbehind number
    return .reference number
  failAt (.noSuchGroup number) digits.length

/-- An escape outside sets. -/
def escape (c : Char) : ParserM Node := do
  if let some anchor := anchorEscape? c then
    return .anchor anchor
  if let some category := categoryEscape? c then
    return .set false [category]
  if let some code := shortEscape? c then
    return .code code
  if let some code ← codeEscape? c then
    return .code code
  if c.isDigit then
    digitEscape c
  else
    return .code (← plainEscape c)

/-! ### Sets -/

/-- A member of a set that starts with a token. -/
def setMember : Token → ParserM Member
  | .escape c => setEscape c
  | .plain c => return .code (← codeTaken c)

/-- The members of a set after those before, up to its closing bracket. `start` is the place of
the opening bracket. -/
def parseMembers (start : Nat) : Nat → List Member → ParserM (List Member)
  | 0, _ => do failAt .unterminatedSet ((← get).index - start)
  | fuel + 1, before => do
    match ← next with
    | none => failAt .unterminatedSet ((← get).index - start)
    | some this =>
      if this = .plain ']' && !before.isEmpty then
        return before
      let low ← setMember this
      if !(← accept '-') then
        return ← parseMembers start fuel (before ++ [low])
      match ← next with
      | none => failAt .unterminatedSet ((← get).index - start)
      | some that =>
        if that = .plain ']' then
          return before ++ [low, .code '-'.toNat]
        let high ← setMember that
        match low, high with
        | .code a, .code b =>
          if b < a then
            failAt (.badRange this.text that.text) (this.length + 1 + that.length)
          parseMembers start fuel (before ++ [.range a b])
        | _, _ => failAt (.badRange this.text that.text) (this.length + 1 + that.length)

/-- A set after its opening bracket. A set of one character is that character. -/
def parseSet : ParserM Node := do
  let start := (← get).index - 1
  let isNegated ← accept '^'
  let members ← parseMembers start ((← get).text.size + 1) []
  match members.eraseDups, isNegated with
  | [.code n], false => return .code n
  | [.code n], true => return .notCode n
  | members, _ => return .set isNegated members

/-! ### Repeats -/

/-- A number of repetitions. -/
def readCount (digits : List Char) : ParserM Nat := do
  if Text.numeralLimit < digits.length then
    throw (.longNumber digits.length)
  let count := valueOf 10 digits
  if repeatLimit ≤ count then
    throw .repeatTooLarge
  return count

/-- The numbers of repetitions of a quantifier, or nothing if the brace starts none. -/
def parseCounts (c : Char) : ParserM (Option (Nat × Option Nat)) := do
  match c with
  | '?' => return some (0, some 1)
  | '*' => return some (0, none)
  | '+' => return some (1, none)
  | _ =>
    let here := (← get).index
    if (← peek) = some (.plain '}') then
      return none
    let size := (← get).text.size
    let low ← takeAtMost Char.isDigit size
    let high ← if ← accept ',' then takeAtMost Char.isDigit size else pure low
    if !(← accept '}') then
      goTo here
      return none
    let least ← readCount low
    if high.isEmpty then
      return some (least, none)
    let most ← readCount high
    if most < least then
      failAt .emptyRepeatRange ((← get).index - here)
    return some (least, some most)

/-- Whether a part is a repeat. -/
def Node.isRepeated : Node → Bool
  | .repeated _ _ _ _ => true
  | _ => false

/-- Whether a part is an anchor. -/
def Node.isAnchor : Node → Bool
  | .anchor _ => true
  | _ => false

/-- The mark after a repeat that says how greedy it is. -/
def readGreed : ParserM Greed := do
  if ← accept '?' then
    return .lazy
  if ← accept '+' then
    return .possessive
  return .greedy

/-- The sequence that a part repeats: the inside of a plain group. -/
def Node.repeatBody : Node → List Node
  | .group none on off body =>
    if on.isEmpty && off.isEmpty then body else [.group none on off body]
  | n => [n]

/-- Repeats the last of the parts before. `here` is the place after the first character of the
quantifier. -/
def parseRepeat (here : Nat) (least : Nat) (most : Option Nat) (before : List Node) :
    ParserM (List Node) := do
  let back := (← get).index - here + 1
  match before.getLast? with
  | none => failAt .nothingToRepeat back
  | some item =>
    if item.isAnchor then
      failAt .nothingToRepeat back
    if item.isRepeated then
      failAt .multipleRepeat back
    let greed ← readGreed
    return before.dropLast ++ [.repeated greed least most item.repeatBody]

/-! ### Groups -/

/-- Refuses a name that is no identifier. -/
def checkName (name : List Char) : ParserM Unit := do
  if !Text.isIdentifier name then
    failAt (.badGroupName (String.ofList name)) (name.length + 1)

/-- The complaint about what is not a setting. -/
def notAnOption (token : Token) (wanted : String) : Complaint :=
  match token with
  | .plain c => if Text.isLetter c then .unknownOption else .missing wanted
  | .escape _ => .missing wanted

/-- The settings to turn on, from the first one, with the character that ends them. -/
def parseOptionsOn : Nat → Char → Options → ParserM (Options × Char)
  | 0, _, _ => failAt (.missing "-, : or )")
  | fuel + 1, c, before => do
    let one := (Options.ofLetter? c).getD {}
    if c = 'L' then
      failAt .noLocale
    let on := before.union one
    let alphabets := on.inter .alphabet
    if !(one.inter .alphabet).isEmpty && alphabets ≠ one then
      failAt .incompatibleOptions
    match ← next with
    | none => failAt (.missing "-, : or )")
    | some token =>
      match token with
      | .plain d =>
        if d = ')' || d = '-' || d = ':' then
          return (on, d)
        else if (Options.ofLetter? d).isSome then
          parseOptionsOn fuel d on
        else failAt (notAnOption token "-, : or )") token.length
      | .escape _ => failAt (notAnOption token "-, : or )") token.length

/-- The settings to turn off, from the first one. -/
def parseOptionsOff : Nat → Char → Options → ParserM Options
  | 0, _, _ => failAt (.missing ":")
  | fuel + 1, c, before => do
    let one := (Options.ofLetter? c).getD {}
    if !(one.inter .alphabet).isEmpty then
      failAt .cannotTurnOffAlphabet
    let off := before.union one
    match ← next with
    | none => failAt (.missing ":")
    | some token =>
      match token with
      | .plain d =>
        if d = ':' then
          return off
        else if (Options.ofLetter? d).isSome then
          parseOptionsOff fuel d off
        else failAt (notAnOption token ":") token.length
      | .escape _ => failAt (notAnOption token ":") token.length

/-- The settings of a group from their first character: those to turn on and off inside it, or
nothing if they are for the whole expression. -/
def parseOptions (first : Char) : ParserM (Option (Options × Options)) := do
  let fuel := (← get).text.size + 1
  let (on, terminator) ← if first = '-' then pure ({}, '-') else parseOptionsOn fuel first {}
  if terminator = ')' then
    modify fun s => { s with options := s.options.union on }
    return none
  if !(on.inter .wholeOnly).isEmpty then
    failAt .cannotTurnOnWhole 1
  let off ← if terminator = '-' then
      match ← next with
      | none => failAt (.missing "flag")
      | some token =>
        match token with
        | .plain d =>
          if (Options.ofLetter? d).isSome then parseOptionsOff fuel d {}
          else failAt (notAnOption token "flag") token.length
        | .escape _ => failAt (notAnOption token "flag") token.length
    else pure {}
  if !(off.inter .wholeOnly).isEmpty then
    failAt .cannotTurnOffWhole 1
  if !(on.inter off).isEmpty then
    failAt .turnedOnAndOff 1
  return some (on, off)

/-- Opens a group. -/
def openGroup (name : Option (List Char)) : ParserM Nat := do
  let s ← get
  let number := s.widths.size
  let names ← match name with
    | none => pure s.names
    | some name =>
      match s.names.lookup (String.ofList name) with
      | some earlier =>
        failAt (.groupRedefined (String.ofList name) number earlier) (name.length + 1)
      | none => pure (s.names ++ [(String.ofList name, number)])
  set { s with widths := s.widths.push none, names }
  return number

/-- The width of a group by its number. -/
def Scan.widthOfGroup (s : Scan) (number : Nat) : Width := (s.widths.getD number none).getD (0, 0)

/-- Closes a group. -/
def closeGroup (number : Nat) (body : List Node) : ParserM Unit :=
  modify fun s =>
    { s with widths := s.widths.setIfInBounds number (some (widthOf s.widthOfGroup body)) }

/-- A reference to a group by name. -/
def parseNamedReference : ParserM Node := do
  let name ← takeUntil ')' "group name"
  checkName name
  match (← get).names.lookup (String.ofList name) with
  | none => failAt (.unknownGroup (String.ofList name)) (name.length + 1)
  | some number =>
    if !(← isClosed number) then
      failAt .openGroup (name.length + 1)
    checkLookbehind number
    return .reference number

/-- Numbers of groups are below this one. -/
def groupLimit : Nat := 1073741823

/-- The group that a condition refers to, by name or number. -/
def parseCondition : ParserM Nat := do
  let name ← takeUntil ')' "group name"
  let back := name.length + 1
  if Text.isIdentifier name then
    match (← get).names.lookup (String.ofList name) with
    | none => failAt (.unknownGroup (String.ofList name)) back
    | some number =>
      checkLookbehind number
      return number
  else
    match Text.integerValue? name with
    | none => failAt (.badGroupName (String.ofList name)) back
    | some value =>
      if value < 0 then
        failAt (.badGroupName (String.ofList name)) back
      let number := value.toNat
      if number = 0 then
        failAt .badGroupNumber back
      if groupLimit ≤ number then
        failAt (.noSuchGroup number) back
      let s ← get
      if (s.conditions.lookup number).isNone then
        set { s with conditions := s.conditions ++ [(number, s.index - back)] }
      checkLookbehind number
      return number

/-- Skips a comment. `start` is the place of the opening parenthesis. -/
def skipComment (start : Nat) : Nat → ParserM Unit
  | 0 => return ()
  | fuel + 1 => do
    match ← peek with
    | none => failAt .unterminatedComment ((← get).index - start)
    | some _ =>
      if (← next) = some (.plain ')') then return () else skipComment start fuel

/-- Skips the rest of a line. -/
def skipLine : Nat → ParserM Unit
  | 0 => return ()
  | fuel + 1 => do
    match ← next with
    | none => return ()
    | some t => if t = .plain '\n' then return () else skipLine fuel

/-- What the beginning of a group says. -/
inductive Opening where
  /-- A capturing group. -/
  | capture (name : Option (List Char))
  | plain (on off : Options)
  | atomic
  | look (isBehind isNegated : Bool)
  | conditional (group : Nat)
  /-- A part without a sequence in it. -/
  | complete (node : Node)
  | comment
  /-- Settings for the whole expression. -/
  | settings

/-- The beginning of a group after its parenthesis. `start` is the place of the parenthesis. -/
def parseOpening (start : Nat) : ParserM Opening := do
  if !(← accept '?') then
    return .capture none
  match ← next with
  | none => failAt .unexpectedEnd
  | some (.escape c) => failAt (.unknownExtension (Token.escape c).text) 3
  | some (.plain c) =>
    match c with
    | 'P' =>
      if ← accept '<' then
        let name ← takeUntil '>' "group name"
        checkName name
        return .capture (some name)
      else if ← accept '=' then
        return .complete (← parseNamedReference)
      else
        match ← next with
        | none => failAt .unexpectedEnd
        | some t => failAt (.unknownExtension ("P" ++ t.text)) (t.length + 2)
    | ':' => return .plain {} {}
    | '#' =>
      skipComment start ((← get).text.size + 1)
      return .comment
    | '=' => return .look false false
    | '!' => return .look false true
    | '<' =>
      match ← next with
      | none => failAt .unexpectedEnd
      | some t =>
        if t = .plain '=' then return .look true false
        else if t = .plain '!' then return .look true true
        else failAt (.unknownExtension ("<" ++ t.text)) (t.length + 2)
    | '(' => return .conditional (← parseCondition)
    | '>' => return .atomic
    | _ =>
      if (Options.ofLetter? c).isSome || c = '-' then
        match ← parseOptions c with
        | none => return .settings
        | some (on, off) => return .plain on off
      else failAt (.unknownExtension (String.ofList [c])) 2

/-! ### Sequences and alternatives -/

/-- The common first part of all sequences. -/
def commonFirst? : List (List Node) → Option Node
  | [] => none
  | [] :: _ => none
  | (n :: _) :: rest =>
    if rest.all fun item => item.head?.any n.isSame then some n else none

/-- Moves common first parts out of alternatives. -/
def factor : Nat → List (List Node) → List Node × List (List Node)
  | 0, items => ([], items)
  | fuel + 1, items =>
    match commonFirst? items with
    | none => ([], items)
    | some n =>
      let (front, rest) := factor fuel (items.map (List.drop 1))
      (n :: front, rest)

/-- The members of a set that a sequence is. -/
def setOfOne? : List Node → Option (List Member)
  | [.code n] => some [.code n]
  | [.set false members] => some members
  | _ => none

/-- Alternatives as a sequence: common first parts come first, and alternatives of one character
are a set. -/
def joinAlternatives : List (List Node) → List Node
  | [item] => item
  | items =>
    let fuel := (items.map List.length).foldl min (items.headD []).length + 1
    let (front, items) := factor fuel items
    match items.mapM setOfOne? with
    | some members => front ++ [.set false members.flatten.eraseDups]
    | none => front ++ [.branch items]

/-- Opens the plain groups of a sequence. -/
def openPlainGroups (nodes : List Node) : List Node := nodes.flatMap Node.repeatBody

/-- Characters that are skipped when white space is not part of an expression. -/
def isSkipped (c : Char) : Bool :=
  c = ' ' || c = '\t' || c = '\n' || c = '\r' || c.toNat = 11 || c.toNat = 12

/-- Takes the parenthesis that closes a group. -/
def closeParenthesis (start : Nat) : ParserM Unit := do
  if !(← accept ')') then
    failAt .unterminatedGroup ((← get).index - start)

/-- The room on the stack within a nested call. -/
def enter : Option Nat → ParserM (Option Nat)
  | none => return none
  | some 0 => throw .tooDeep
  | some (room + 1) => return some room

mutual

/-- Sequences divided by bars, read by a nested call. -/
def parseAlternatives : Nat → Option Nat → Bool → Bool → ParserM (List Node)
  | 0, _, _, _ => failAt .unexpectedEnd
  | fuel + 1, room, verbose, isTop => do
    let items ← parseItems fuel (← enter room) verbose isTop []
    return joinAlternatives items

/-- Sequences divided by bars, after those before. Each is read by a nested call. -/
def parseItems :
    Nat → Option Nat → Bool → Bool → List (List Node) → ParserM (List (List Node))
  | 0, _, _, _, _ => failAt .unexpectedEnd
  | fuel + 1, room, verbose, isTop, before => do
    let item ← parseSequence fuel (← enter room) verbose (isTop && before.isEmpty) []
    let items := before ++ [openPlainGroups item]
    if ← accept '|' then
      let settings := (← get).options
      parseItems fuel room (if isTop then settings.verbose else verbose) isTop items
    else return items

/-- Parts after those before, up to a bar or a closing parenthesis. Settings for the whole
expression may stand at its start only. -/
def parseSequence : Nat → Option Nat → Bool → Bool → List Node → ParserM (List Node)
  | 0, _, _, _, _ => failAt .unexpectedEnd
  | fuel + 1, room, verbose, isStart, before => do
    match ← peek with
    | none => return before
    | some token =>
      if token = .plain '|' || token = .plain ')' then
        return before
      let _ ← next
      match token with
      | .escape c => parseSequence fuel room verbose isStart (before ++ [← escape c])
      | .plain c =>
        if verbose && isSkipped c then
          parseSequence fuel room verbose isStart before
        else if verbose && c = '#' then
          skipLine ((← get).text.size + 1)
          parseSequence fuel room verbose isStart before
        else
          match c with
          | '[' => parseSequence fuel room verbose isStart (before ++ [← parseSet])
          | '.' => parseSequence fuel room verbose isStart (before ++ [.any])
          | '^' => parseSequence fuel room verbose isStart (before ++ [.anchor .lineStart])
          | '$' => parseSequence fuel room verbose isStart (before ++ [.anchor .lineEnd])
          | '(' =>
            let start := (← get).index - 1
            match ← parseOpening start with
            | .settings =>
              if !isStart || !before.isEmpty then
                failAt .misplacedOptions ((← get).index - start)
              let verbose := (← get).options.verbose
              parseSequence fuel room verbose isStart before
            | .comment => parseSequence fuel room verbose isStart before
            | .complete node => parseSequence fuel room verbose isStart (before ++ [node])
            | opening =>
              let node ← parseGroup fuel room verbose start opening
              parseSequence fuel room verbose isStart (before ++ [node])
          | _ =>
            if c = '*' || c = '+' || c = '?' || c = '{' then
              let here := (← get).index
              match ← parseCounts c with
              | none => parseSequence fuel room verbose isStart (before ++ [.code c.toNat])
              | some (least, most) =>
                parseSequence fuel room verbose isStart (← parseRepeat here least most before)
            else parseSequence fuel room verbose isStart (before ++ [.code (← codeTaken c)])

/-- The rest of a group after its beginning. -/
def parseGroup : Nat → Option Nat → Bool → Nat → Opening → ParserM Node
  | 0, _, _, _, _ => failAt .unexpectedEnd
  | fuel + 1, room, verbose, start, opening => do
    match opening with
    | .capture name =>
      let number ← openGroup name
      let body ← parseAlternatives fuel room verbose false
      closeParenthesis start
      closeGroup number body
      return .group (some number) {} {} body
    | .plain on off =>
      let body ← parseAlternatives fuel room ((verbose || on.verbose) && !off.verbose) false
      closeParenthesis start
      return .group none on off body
    | .atomic =>
      let body ← parseAlternatives fuel room verbose false
      closeParenthesis start
      return .atomic body
    | .look isBehind isNegated =>
      let outer := (← get).lookbehindGroups
      if isBehind && outer.isNone then
        modify fun s => { s with lookbehindGroups := some s.widths.size }
      let body ← parseAlternatives fuel room verbose false
      if isBehind && outer.isNone then
        modify fun s => { s with lookbehindGroups := none }
      closeParenthesis start
      return if isNegated && body.isEmpty then .fail else .look isBehind isNegated body
    | .conditional group =>
      let yes := openPlainGroups (← parseSequence fuel (← enter room) verbose false [])
      let no ← if ← accept '|' then
          let no := openPlainGroups (← parseSequence fuel (← enter room) verbose false [])
          if (← peek) = some (.plain '|') then
            failAt .tooManyBranches
          pure (some no)
        else pure none
      closeParenthesis start
      return .conditional group yes no
    | _ => return .fail

end

/-- An expression as it is written. -/
structure Expression where
  nodes : List Node
  options : Options
  /-- The widths of groups by number. -/
  widths : Array (Option Width)

/-- Reads a whole expression. -/
def parseWhole (room : Option Nat) : ParserM Expression := do
  goTo 0
  let nodes ← parseAlternatives (4 * (← get).text.size + 8) room false true
  let s ← get
  if s.options.ascii && s.options.unicode then
    throw .alphabetClash
  if (← peek).isSome then
    failAt .unbalancedParenthesis
  for (number, place) in s.conditions do
    if s.widths.size ≤ number then
      throw (.malformed (.noSuchGroup number) (some place))
  return { nodes, options := s.options, widths := s.widths }

/-- The state before reading. -/
def Scan.start (text : List Char) (halves : List (Nat × Nat) := [])
    (named : Text.NameTable := .ascii) : Scan :=
  { text := text.toArray, halves, named, index := 0, options := {}, widths := #[none], names := []
    lookbehindGroups := none, conditions := [] }

/-- Reads an expression, in whose text halves of characters may stand at some places. -/
def parse (text : List Char) (halves : List (Nat × Nat) := []) (setup : Setup := {}) :
    Except Fault Expression :=
  ((parseWhole setup.room).run (Scan.start text halves setup.named)).map Prod.fst

end ChecklistReview.Regex
