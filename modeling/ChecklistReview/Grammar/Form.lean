/-!
# Grammar forms

The right side of a grammar rule is a `Form`: a tree of literals, references, sequences,
choices and repetitions, with annotations for field names, displayed names and ranks.

## Main definitions

* `Form` is the right side of one rule.
* `Token` describes a named terminal by its own scanner.
* `Description` gathers the rules with the declarations that resolve their ambiguities.

## Design notes

Sequences and choices are binary, so that every function on forms is structurally recursive;
`Form.all` and `Form.any` build them from lists.
-/

namespace ChecklistReview.Grammar

/-- The side to which an operator of one rank groups. -/
inductive Associativity where
  | left
  | right
  deriving DecidableEq, Inhabited

/-- A rank is absent, a number, or a name that an ordering of the grammar lists. -/
inductive Rank where
  | unset
  | level (n : Int)
  | named (name : String)
  deriving DecidableEq, Inhabited

/-- The right side of a grammar rule. -/
inductive Form where
  /-- Nothing. -/
  | blank
  /-- The anonymous terminal with this text. -/
  | literal (text : String)
  /-- A rule or a named terminal. -/
  | rule (name : String)
  | seq (first second : Form)
  | choice (left right : Form)
  /-- One or more of the body. -/
  | repeat1 (body : Form)
  /-- The body, found under this name in its parent. -/
  | field (name : String) (body : Form)
  /-- The body, shown as a node of another name. -/
  | shown (body : Form) (name : String) (isNamed : Bool)
  /-- The body with a rank that settles conflicts while the automaton is built. -/
  | ranked (rank : Rank) (assoc : Option Associativity) (body : Form)
  /-- The body with a weight that chooses between complete parses. -/
  | weighted (weight : Int) (body : Form)
  deriving DecidableEq, Inhabited

namespace Form

/-- All of the forms, one after the other. -/
def all : List Form → Form
  | [] => .blank
  | [f] => f
  | f :: fs => .seq f (all fs)

/-- One of the forms. -/
def any : List Form → Form
  | [] => .blank
  | [f] => f
  | f :: fs => .choice f (any fs)

/-- The form or nothing. -/
def opt (f : Form) : Form := .choice f .blank

/-- Any number of the form. -/
def many (f : Form) : Form := .choice (.repeat1 f) .blank

/-- One or more of the form, with a separator between neighbours. -/
def sepBy1 (separator f : Form) : Form := .seq f (many (.seq separator f))

/-- One or more of the form, with commas between neighbours. -/
def commas1 (f : Form) : Form := sepBy1 (.literal ",") f

/-- Any number of the form, with commas between neighbours. -/
def commas (f : Form) : Form := opt (commas1 f)

/-- The body at a named rank. -/
def at_ (rank : String) (f : Form) : Form := .ranked (.named rank) none f

/-- The body at a named rank, grouping to the left. -/
def leftAt (rank : String) (f : Form) : Form := .ranked (.named rank) (some .left) f

/-- The body at a named rank, grouping to the right. -/
def rightAt (rank : String) (f : Form) : Form := .ranked (.named rank) (some .right) f

/-- The body, grouping to the left. -/
def left (f : Form) : Form := .ranked (.level 0) (some .left) f

/-- The body, grouping to the right. -/
def right (f : Form) : Form := .ranked (.level 0) (some .right) f

/-- The body, shown as a named node. -/
def as (f : Form) (name : String) : Form := .shown f name true

end Form

/-- A terminal with a scanner of its own.

`scan text start` gives the end of the longest lexeme that starts at `start`. -/
structure Token where
  /-- The name of the node that the terminal becomes. -/
  kind : String
  isNamed : Bool := true
  /-- Blanks may not stand before the terminal. -/
  immediate : Bool := false
  /-- A terminal of higher rank wins over a longer one of lower rank. -/
  rank : Int := 0
  scan : Array Char → Nat → Option Nat

/-- What a name of the grammar stands for. -/
inductive Definition where
  | form (body : Form)
  | token (token : Token)

/-- An entry of an ordering of ranks: a named rank, or every unranked production of a rule. -/
inductive Tier where
  | named (name : String)
  | rule (name : String)
  deriving DecidableEq, Inhabited

/-- What the context-dependent scanner sees of the position it is asked about: the terminals
that the grammar allows there, by name. -/
structure Expectation where
  allows : String → Bool

/-- A grammar: its rules in order, the first one being the start rule, and the declarations
that say how they are read. -/
structure Description where
  definitions : List (String × Definition)
  /-- The terminal whose lexemes include every keyword. -/
  word : String
  /-- Terminals that may stand anywhere. -/
  extras : List String
  /-- Characters that separate terminals. -/
  isBlank : Char → Bool
  /-- Terminals that the context-dependent scanner recognises, in addition to their own. -/
  externals : List String
  /-- The context-dependent scanner: the terminal found at a position, with its start and end. -/
  scanExternal : Expectation → Array Char → Nat → Option (String × Nat × Nat)
  /-- Terminals that are not looked for while skipping unreadable input. -/
  unrecoverable : List String
  /-- Rules that name a group of others and are not nodes themselves. -/
  groups : List String
  /-- Rules whose uses are replaced by their right sides. -/
  inlined : List String
  /-- Orderings of ranks, highest first. -/
  orderings : List (List Tier)

end ChecklistReview.Grammar
