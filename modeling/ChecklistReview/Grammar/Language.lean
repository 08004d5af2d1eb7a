import ChecklistReview.Grammar.Production

/-!
# Languages

A `Language` is a grammar prepared for parsing: its productions as a tree of positions, with
the sets of terminals that can start each rule and the rules that each rule can start with.

## Main definitions

* `TerminalSet` is a set of terminals, as the bits of a number.
* `Position` is a place inside the productions of one rule.
* `Language.ofDescription` prepares a grammar.

## Design notes

Productions of one rule that begin alike share positions. Every production but that of the
start rule has at least one step, so a terminal that starts a rule starts its first step.
-/

namespace ChecklistReview.Grammar

open Std (HashMap)

/-- A set of terminals: terminal `t` is in the set when bit `t` is one. -/
abbrev TerminalSet := Nat

namespace TerminalSet

/-- The set with one terminal. -/
def single (t : Nat) : TerminalSet := 1 <<< t

/-- The set of the listed terminals. -/
def ofList (ts : List Nat) : TerminalSet := ts.foldl (fun s t => s ||| single t) 0

end TerminalSet

/-- A place in the productions of a rule: what has been read so far, and what may follow. -/
structure Position where
  owner : Nat
  /-- Number of steps read. -/
  depth : Nat
  /-- The rank and grouping of the last step read. -/
  rank : Rank
  assoc : Option Associativity
  /-- Steps that may follow, each with the position after it. -/
  edges : Array (Step × Nat) := #[]
  /-- The production that ends here. -/
  ends : Option Nat := none
  deriving Inhabited

/-- The productions of a language as a forest of positions, one root for each rule. -/
structure Forest where
  positions : Array Position := #[]
  productions : Array Production := #[]

/-- Adds a production below a position. -/
def Forest.insert (forest : Forest) (production : Production) :
    (at_ : Nat) → List Step → Forest
  | p, [] =>
    match (forest.positions[p]?).bind Position.ends with
    | some _ => forest
    | none =>
      { positions := forest.positions.modify p fun q =>
          { q with ends := some forest.productions.size }
        productions := forest.productions.push production }
  | p, s :: rest =>
    let here := forest.positions.getD p default
    match here.edges.find? fun (t, _) => t = s with
    | some (_, q) => forest.insert production q rest
    | none =>
      let q := forest.positions.size
      let positions := forest.positions.modify p fun x => { x with edges := x.edges.push (s, q) }
      let positions := positions.push
        { owner := here.owner, depth := here.depth + 1, rank := s.rank, assoc := s.assoc }
      Forest.insert { forest with positions } production q rest

/-- A rule that another rule can start with: the terminals that can follow it there, and
whether what follows the outer rule can follow it too. -/
structure LeftCorner where
  rule : Nat
  follows : TerminalSet
  propagates : Bool
  deriving Inhabited

/-- A grammar prepared for parsing. -/
structure Language where
  terminals : Array Terminal
  nonterminals : Array Variable
  forest : Forest
  /-- The root position of each rule. -/
  roots : Array Nat
  /-- The position before the whole text: the start rule follows it, and nothing else does. -/
  origin : Nat
  /-- The terminals that can follow each position inside its rule. -/
  afters : Array TerminalSet
  /-- The terminals that can start each rule. -/
  firsts : Array TerminalSet
  /-- The terminals that are first steps of each rule. -/
  ownFirsts : Array TerminalSet
  /-- The rules that each rule can start with, itself included. -/
  corners : Array (Array LeftCorner)
  extras : TerminalSet
  word : Nat
  /-- Literals that are lexemes of the word token, by text. -/
  keywords : HashMap String Nat
  keywordSet : TerminalSet
  externalSet : TerminalSet
  /-- Numbers of the external terminals by name. -/
  externals : HashMap String Nat
  /-- Terminals looked for while skipping unreadable input. -/
  recoverySet : TerminalSet
  /-- Literals that are not keywords, by the number of the first character. -/
  literals : HashMap Nat (List Nat)
  /-- Tokens with scanners of their own. -/
  tokens : List Nat
  isBlank : Char → Bool
  scanExternal : Expectation → Array Char → Nat → Option (String × Nat × Nat)
  /-- Orderings of ranks, with rules by number. -/
  orderings : List (List (Tier × Option Nat))

namespace Language

variable (l : Language)

/-- Symbols below this number are terminals. -/
def terminalCount : Nat := l.terminals.size

/-- The position with a number. -/
def position (p : Nat) : Position := l.forest.positions.getD p default

/-- The terminals that can start a symbol. -/
def first (symbol : Nat) : TerminalSet :=
  if symbol < l.terminalCount then .single symbol
  else l.firsts.getD (symbol - l.terminalCount) 0

/-- The production with a number. -/
def production (p : Nat) : Production := l.forest.productions.getD p default

/-- The production whose end is the end of the text. -/
def isWhole (p : Production) : Bool := p.owner = l.nonterminals.size

/-! ### Order of ranks -/

/-- Whether an entry of an ordering speaks of a rank held by productions of these rules. -/
def tierMatches (tier : Tier × Option Nat) (rank : Rank) (rules : List Nat) : Bool :=
  match tier.1 with
  | .named name => rank = .named name
  | .rule _ => tier.2.any rules.contains

/-- Compares two ranks in one ordering, if it lists both. -/
def compareIn (left : Rank) (leftRules : List Nat) (right : Rank) (rightRules : List Nat)
    (sawLeft sawRight : Bool) : List (Tier × Option Nat) → Option Ordering
  | [] => none
  | tier :: rest =>
    if tierMatches tier left leftRules then
      if sawRight then some .lt
      else compareIn left leftRules right rightRules true sawRight rest
    else if tierMatches tier right rightRules then
      if sawLeft then some .gt
      else compareIn left leftRules right rightRules sawLeft true rest
    else compareIn left leftRules right rightRules sawLeft sawRight rest

/-- Compares the ranks of two sets of rules. Numbers compare with numbers and with absent
ranks; otherwise the first ordering that lists both decides. -/
def compareRanks (left : Rank) (leftRules : List Nat) (right : Rank) (rightRules : List Nat) :
    Ordering :=
  let byOrdering : Ordering :=
    (l.orderings.findSome? (compareIn left leftRules right rightRules false false)).getD .eq
  match left, right with
  | .level a, .level b => if a = 0 ∧ b = 0 then byOrdering else compare a b
  | .level a, .unset => if a = 0 then byOrdering else compare a 0
  | .unset, .level b => if b = 0 then byOrdering else compare 0 b
  | _, _ => byOrdering

end Language

/-! ### Preparation -/

/-- The terminals that can start each rule, given the first symbols of each. -/
def firstSets (terminalCount : Nat) (firstSymbols : Array (List Nat)) :
    Array TerminalSet := Id.run do
  let mut sets : Array TerminalSet := firstSymbols.map fun _ => 0
  for _ in firstSymbols do
    let current := sets
    sets := firstSymbols.mapIdx fun i symbols =>
      symbols.foldl (fun s symbol =>
        s ||| (if symbol < terminalCount then .single symbol
               else current.getD (symbol - terminalCount) 0)) (current.getD i 0)
    if sets == current then
      return sets
  return sets

/-- The left corners of a rule, given the rules that each rule's productions start with. -/
def leftCorners (direct : Array (List LeftCorner)) (rule : Nat) : Array LeftCorner := Id.run do
  let count := direct.size
  let mut present : Array Bool := Array.replicate count false
  let mut follows : Array TerminalSet := Array.replicate count 0
  let mut propagates : Array Bool := Array.replicate count false
  let mut order : Array Nat := #[rule]
  present := present.set! rule true
  propagates := propagates.set! rule true
  let mut changed := true
  for _ in [0:count] do
    if !changed then
      break
    changed := false
    for r in order do
      for corner in direct.getD r [] do
        let w := corner.rule
        let newFollows := follows.getD w 0 ||| corner.follows |||
          (if corner.propagates then follows.getD r 0 else 0)
        let newPropagates := propagates.getD w false ||
          (corner.propagates && propagates.getD r false)
        if !present.getD w false then
          present := present.set! w true
          order := order.push w
          changed := true
        if newFollows != follows.getD w 0 || newPropagates != propagates.getD w false then
          follows := follows.set! w newFollows
          propagates := propagates.set! w newPropagates
          changed := true
  return order.map fun r =>
    { rule := r, follows := follows.getD r 0, propagates := propagates.getD r false }

/-- Joins the left corners of one rule. -/
def joinCorners (corners : List LeftCorner) : List LeftCorner :=
  corners.foldl (fun acc c =>
    if acc.any fun d => d.rule = c.rule then
      acc.map fun d =>
        if d.rule = c.rule then
          { d with follows := d.follows ||| c.follows, propagates := d.propagates || c.propagates }
        else d
    else acc ++ [c]) []

/-- Prepares a grammar for parsing. -/
def Language.ofDescription (g : Description) : Language := Id.run do
  let flat := g.flatten
  let table := flat.symbols
  let terminalCount := table.terminals.size
  let mut forest : Forest := {}
  let mut roots : Array Nat := #[]
  for h : i in [0:flat.productions.size] do
    let root := forest.positions.size
    roots := roots.push root
    let start : Position := { owner := i, depth := 0, rank := .unset, assoc := none }
    forest := { forest with positions := forest.positions.push start }
    for production in flat.productions[i] do
      forest := forest.insert production root production.steps
  let origin := forest.positions.size
  let whole : Position := { owner := roots.size, depth := 0, rank := .unset, assoc := none }
  let start : Step :=
    { symbol := terminalCount, rank := .unset, assoc := none, shown := none, field := none }
  forest := { forest with positions := forest.positions.push whole }
  forest := forest.insert { owner := roots.size, steps := [start], weight := 0 } origin [start]
  let firstSymbols : Array (List Nat) := roots.map fun r =>
    (forest.positions.getD r default).edges.toList.map fun (s, _) => s.symbol
  let firsts := firstSets terminalCount firstSymbols
  let firstOf (symbol : Nat) : TerminalSet :=
    if symbol < terminalCount then .single symbol else firsts.getD (symbol - terminalCount) 0
  let direct : Array (List LeftCorner) := roots.map fun r =>
    joinCorners <| (forest.positions.getD r default).edges.toList.filterMap fun (s, q) =>
      if s.symbol < terminalCount then none
      else
        let after := forest.positions.getD q default
        some
          { rule := s.symbol - terminalCount
            follows := after.edges.foldl (fun acc (e, _) => acc ||| firstOf e.symbol) 0
            propagates := after.ends.isSome }
  let word := table.lookup g.word
  let isWordLiteral (t : Terminal) : Bool :=
    match t.text, (table.terminals.getD word default).token with
    | some text, some token => token.scan text.toArray 0 == some text.length
    | _, _ => false
  let mut keywords : HashMap String Nat := {}
  let mut literals : HashMap Nat (List Nat) := {}
  let mut tokens : List Nat := []
  for h : i in [0:table.terminals.size] do
    let t := table.terminals[i]
    match t.text with
    | some (c :: _) =>
      if isWordLiteral t then
        keywords := keywords.insert t.kind i
      else
        literals := literals.insert c.toNat ((literals.getD c.toNat []) ++ [i])
    | _ => if t.token.isSome then tokens := tokens ++ [i]
  let external (name : String) : Nat := table.external name
  let internalSet := TerminalSet.ofList ((List.range terminalCount).filter fun i =>
    let t := table.terminals.getD i default
    t.text.isSome || t.token.isSome)
  let excluded := TerminalSet.ofList (g.unrecoverable.map table.external)
  return {
    terminals := table.terminals
    nonterminals := table.nonterminals
    forest, roots, origin, firsts
    afters := forest.positions.map fun p =>
      p.edges.foldl (fun acc (e, _) => acc ||| firstOf e.symbol) 0
    ownFirsts := firstSymbols.map fun symbols => .ofList (symbols.filter (· < terminalCount))
    corners := (Array.range roots.size).map (leftCorners direct)
    extras := .ofList (g.extras.map external)
    word, keywords
    keywordSet := .ofList keywords.values
    externalSet := .ofList (g.externals.map external)
    externals := g.externals.foldl (fun m name => m.insert name (external name)) {}
    recoverySet := internalSet ^^^ (internalSet &&& excluded)
    literals, tokens
    isBlank := g.isBlank
    scanExternal := g.scanExternal
    orderings := g.orderings.map fun tiers => tiers.map fun tier =>
      match tier with
      | .named name => (Tier.named name, none)
      | .rule name => (Tier.rule name, table.rules[name]?) }

end ChecklistReview.Grammar
