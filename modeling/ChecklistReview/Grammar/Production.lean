import ChecklistReview.Grammar.Form
import Std.Data.HashMap

/-!
# Productions

A grammar's forms are flattened to productions: sequences of steps, each a symbol with the
rank, the field name and the displayed name that its surroundings give it.

## Main definitions

* `Step` and `Production` are the flattened right sides.
* `liftRepeats` replaces repetitions by auxiliary rules.
* `Form.expand` lists the step sequences of a form.
* `SymbolTable` numbers terminals and rules; `Description.flatten` flattens a whole grammar.

## Design notes

Symbols are numbers: terminals first, number `0` being the end of the text, then the rules in
the order of their definition, then the auxiliary rules. That order decides between parses
that are otherwise equal, so it is part of the meaning of a grammar.
-/

namespace ChecklistReview.Grammar

open Std (HashMap)

/-- A symbol of a production with what its surroundings say about it. -/
structure Step where
  symbol : Nat
  rank : Rank
  assoc : Option Associativity
  /-- The name and namedness under which the node is shown instead of its own. -/
  shown : Option (String × Bool)
  field : Option String
  deriving DecidableEq, Inhabited

/-- One way to build a node of a rule. -/
structure Production where
  owner : Nat
  steps : List Step
  weight : Int
  deriving DecidableEq, Inhabited

/-! ### Repetitions -/

/-- The auxiliary rules met so far, with the repeated forms they stand for. -/
structure Repeats where
  /-- Number of auxiliary rules made for the current rule. -/
  count : Nat := 0
  known : List (Form × String) := []
  added : Array (String × Form) := #[]

/-- Replaces every repetition by an auxiliary rule: one body, or two runs side by side. Equal
bodies share a rule. -/
def liftRepeats (owner : String) : Form → StateM Repeats Form
  | .repeat1 body => do
    let body ← liftRepeats owner body
    let table ← get
    match table.known.lookup body with
    | some name => return .rule name
    | none =>
      let count := table.count + 1
      let name := owner ++ "_repeat" ++ toString count
      let form := Form.choice (.seq (.rule name) (.rule name)) body
      set { count, known := (body, name) :: table.known
            added := table.added.push (name, form) : Repeats }
      return .rule name
  | .seq a b => return .seq (← liftRepeats owner a) (← liftRepeats owner b)
  | .choice a b => return .choice (← liftRepeats owner a) (← liftRepeats owner b)
  | .field name body => return .field name (← liftRepeats owner body)
  | .shown body name isNamed => return .shown (← liftRepeats owner body) name isNamed
  | .ranked rank assoc body => return .ranked rank assoc (← liftRepeats owner body)
  | .weighted weight body => return .weighted weight (← liftRepeats owner body)
  | form => return form

/-! ### Symbols -/

/-- A terminal of a grammar: a literal, a token, or one that only the context-dependent
scanner finds. -/
structure Terminal where
  kind : String
  isNamed : Bool
  isVisible : Bool
  /-- The text of a literal. -/
  text : Option (List Char) := none
  token : Option Token := none
  deriving Inhabited

/-- A rule of a grammar. -/
structure Variable where
  name : String
  isVisible : Bool
  isAuxiliary : Bool
  deriving Inhabited

/-- Names with a leading underscore are not shown. -/
def isHiddenName (name : String) : Bool := name.startsWith "_"

/-- Numbers for the symbols of a grammar. -/
structure SymbolTable where
  terminals : Array Terminal := #[]
  literals : HashMap String Nat := {}
  /-- Tokens and externals by name. -/
  tokens : HashMap String Nat := {}
  nonterminals : Array Variable := #[]
  rules : HashMap String Nat := {}

namespace SymbolTable

/-- Adds the literals of a form in order of appearance. -/
def addLiterals (table : SymbolTable) : Form → SymbolTable
  | .literal text =>
    if table.literals.contains text then table
    else
      { table with
        literals := table.literals.insert text table.terminals.size
        terminals := table.terminals.push
          { kind := text, isNamed := false, isVisible := true, text := some text.toList } }
  | .seq a b => (table.addLiterals a).addLiterals b
  | .choice a b => (table.addLiterals a).addLiterals b
  | .repeat1 body => table.addLiterals body
  | .field _ body => table.addLiterals body
  | .shown body _ _ => table.addLiterals body
  | .ranked _ _ body => table.addLiterals body
  | .weighted _ body => table.addLiterals body
  | _ => table

/-- Adds a token under its name, unless it is there. -/
def addToken (table : SymbolTable) (name : String) (token : Option Token) : SymbolTable :=
  if table.tokens.contains name || table.literals.contains name then table
  else
    { table with
      tokens := table.tokens.insert name table.terminals.size
      terminals := table.terminals.push
        { kind := (token.map Token.kind).getD name
          isNamed := (token.map Token.isNamed).getD true
          isVisible := !isHiddenName name
          token } }

/-- Adds a rule under its name. -/
def addRule (table : SymbolTable) (name : String) (isVisible isAuxiliary : Bool) : SymbolTable :=
  { table with
    rules := table.rules.insert name table.nonterminals.size
    nonterminals := table.nonterminals.push { name, isVisible, isAuxiliary } }

/-- The number of a rule or token by name. -/
def lookup (table : SymbolTable) (name : String) : Nat :=
  match table.rules[name]? with
  | some i => table.terminals.size + i
  | none => (table.tokens[name]?).getD 0

/-- The number of a literal. -/
def literal (table : SymbolTable) (text : String) : Nat := (table.literals[text]?).getD 0

/-- The number of an external terminal, which may be a literal or a token as well. -/
def external (table : SymbolTable) (name : String) : Nat :=
  match table.tokens[name]? with
  | some i => i
  | none => table.literal name

end SymbolTable

/-! ### Flattening -/

/-- What the surroundings of a form say about its steps. -/
structure Surroundings where
  rank : Rank := .unset
  assoc : Option Associativity := none
  shown : Option (String × Bool) := none
  field : Option String := none

/-- Of two weights the one further from zero, the outer one in a tie. -/
def heavier (outer inner : Int) : Int := if outer.natAbs < inner.natAbs then inner else outer

/-- Changes the last step of a sequence. -/
def mapLast (f : Step → Step) : List Step → List Step
  | [] => []
  | [s] => [f s]
  | s :: t :: rest => s :: mapLast f (t :: rest)

/-- The step sequences of a form, with their weights.

A rank holds for the steps inside it; the last of them takes the surrounding rank again unless
it ends the whole production, because a rank is looked up at the step before the point that
parsing has reached. -/
def Form.expand (table : SymbolTable) (around : Surroundings) (atEnd : Bool) :
    Form → List (List Step × Int)
  | .blank => [([], 0)]
  | .literal text => [([step (table.literal text)], 0)]
  | .rule name => [([step (table.lookup name)], 0)]
  | .seq a b =>
    let firsts := a.expand table around false
    let seconds := b.expand table around atEnd
    firsts.flatMap fun (s, v) => seconds.map fun (t, w) => (s ++ t, heavier v w)
  | .choice a b => a.expand table around atEnd ++ b.expand table around atEnd
  | .repeat1 body => body.expand table around atEnd
  | .field name body => body.expand table { around with field := some name } atEnd
  | .shown body name isNamed =>
    body.expand table { around with shown := some (name, isNamed) } atEnd
  | .ranked rank assoc body =>
    let inside := { around with rank, assoc := assoc.orElse fun _ => around.assoc }
    let restore (s : Step) : Step :=
      { s with rank := around.rank, assoc := if assoc.isSome then around.assoc else s.assoc }
    let sequences := body.expand table inside atEnd
    if atEnd then sequences else sequences.map fun (s, w) => (mapLast restore s, w)
  | .weighted weight body =>
    (body.expand table around atEnd).map fun (s, w) => (s, heavier weight w)
where
  /-- The step for a symbol in these surroundings. -/
  step (symbol : Nat) : Step :=
    { symbol, rank := around.rank, assoc := around.assoc,
      shown := around.shown, field := around.field }

/-- Puts an inlined production in place of a step. -/
def Step.inlineWith (step : Step) (inner : List Step) : List Step :=
  let renamed := inner.map fun s =>
    { s with
      shown := step.shown.orElse fun _ => s.shown
      field := step.field.orElse fun _ => s.field }
  mapLast (fun s =>
    { s with
      rank := if s.rank = .unset then step.rank else s.rank
      assoc := s.assoc.orElse fun _ => step.assoc }) renamed

/-- Replaces the inlined symbols of a step sequence, given the productions of each. -/
def inlineSteps (inlined : Nat → Option (List (List Step × Int))) :
    List Step → List (List Step × Int)
  | [] => [([], 0)]
  | s :: rest =>
    let tails := inlineSteps inlined rest
    match inlined s.symbol with
    | none => tails.map fun (t, w) => (s :: t, w)
    | some bodies => bodies.flatMap fun (body, v) =>
        tails.map fun (t, w) => (s.inlineWith body ++ t, heavier v w)

/-- The symbols of a grammar and the productions of each of its rules. -/
structure Flattened where
  symbols : SymbolTable
  /-- Productions by rule. -/
  productions : Array (List Production)

/-- Numbers a grammar's symbols: the end of the text, the word token, then the rest in order
of appearance. -/
def Description.symbols (g : Description) (forms auxiliary : List (String × Form)) :
    SymbolTable := Id.run do
  let tokenOf (name : String) : Option Token :=
    g.definitions.findSome? fun (n, d) =>
      match d with
      | .token t => if n = name then some t else none
      | .form _ => none
  let mut table : SymbolTable :=
    { terminals := #[{ kind := "end", isNamed := false, isVisible := false }] }
  table := table.addToken g.word (tokenOf g.word)
  for (name, d) in g.definitions do
    match d with
    | .token t => table := table.addToken name (some t)
    | .form f => table := table.addLiterals f
  for name in g.externals do
    table := table.addToken name none
  for (name, _) in forms do
    table := table.addRule name (!isHiddenName name && !g.groups.contains name) false
  for (name, _) in auxiliary do
    table := table.addRule name false true
  return table

/-- Flattens a grammar to productions. -/
def Description.flatten (g : Description) : Flattened := Id.run do
  let mut repeats : Repeats := {}
  let mut forms : Array (String × Form) := #[]
  for (name, d) in g.definitions do
    match d with
    | .token _ => pure ()
    | .form f =>
      let (f, table) := (liftRepeats name f).run { repeats with count := 0 }
      repeats := table
      forms := forms.push (name, f)
  let table := g.symbols forms.toList repeats.added.toList
  let everything := forms ++ repeats.added
  let raw := everything.map fun (_, f) => f.expand table {} true
  let isInlined : Array Bool := everything.map fun (name, _) => g.inlined.contains name
  -- Inlined rules may use each other, so they are expanded as often as there are of them.
  let mut bodies := raw
  for _ in g.inlined do
    let current := bodies
    bodies := current.mapIdx fun i sequences =>
      if isInlined.getD i false then sequences.flatMap (expandWith table isInlined current)
      else sequences
  let final := bodies.map fun sequences => sequences.flatMap (expandWith table isInlined bodies)
  let productions := final.mapIdx fun owner sequences =>
    sequences.map fun (steps, weight) => ({ owner, steps, weight } : Production)
  return { symbols := table, productions }
where
  /-- Expands the inlined symbols of one sequence. -/
  expandWith (table : SymbolTable) (isInlined : Array Bool)
      (bodies : Array (List (List Step × Int)))
      (sequence : List Step × Int) : List (List Step × Int) :=
    let inlined (symbol : Nat) : Option (List (List Step × Int)) :=
      let i := symbol - table.terminals.size
      if table.terminals.size ≤ symbol && isInlined.getD i false then bodies[i]? else none
    (inlineSteps inlined sequence.1).map fun (s, w) => (s, heavier sequence.2 w)

end ChecklistReview.Grammar
