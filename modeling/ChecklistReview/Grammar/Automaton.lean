import ChecklistReview.Grammar.Language

/-!
# The parsing automaton

The states of the automaton are sets of positions with the terminals that may follow them.
States and their actions are made when parsing first needs them, and kept.

## Main definitions

* `State` holds the positions reached, and the rules that may start there.
* `Action` is what a state does with a terminal.
* `Language.decide` settles which actions of a state remain after the ranks are compared.
* `Automaton.actions` and `Automaton.goto` are the two transition functions.

## Design notes

A conflict that neither ranks nor grouping settle stays: the state has several actions, and
parsing follows all of them.
-/

namespace ChecklistReview.Grammar

open Std (HashMap)

/-- A state of the automaton. -/
structure State where
  /-- Positions reached, each with the terminals that may follow its rule. -/
  kernel : Array (Nat × TerminalSet)
  /-- For each rule the terminals that may follow it when it starts here; empty if it does not. -/
  starts : Array TerminalSet
  /-- The rules that may start here. -/
  starting : Array Nat
  /-- The terminals for which the state has an action. -/
  allowed : TerminalSet
  deriving Inhabited

/-- What a state does with a terminal. -/
inductive Action where
  /-- Read the terminal and enter another state. -/
  | shift (target : Nat)
  /-- Read the terminal and stay. -/
  | shiftExtra
  /-- Build a node by a production. -/
  | reduce (production : Nat)
  /-- The text is complete. -/
  | accept
  deriving DecidableEq, Inhabited

/-- The state in which unreadable input is skipped. -/
def errorState : Nat := 0

/-- The state before the text. -/
def startState : Nat := 1

namespace Language

variable (l : Language)

/-- Completes a set of positions to a state. -/
def close (kernel : Array (Nat × TerminalSet)) : State := Id.run do
  let mut starts : Array TerminalSet := Array.replicate l.nonterminals.size 0
  let mut starting : Array Nat := #[]
  let mut allowed : TerminalSet := l.extras
  for (p, follow) in kernel do
    let here := l.position p
    if here.ends.isSome then
      allowed := allowed ||| follow
    for (s, q) in here.edges do
      if s.symbol < l.terminalCount then
        allowed := allowed ||| .single s.symbol
      else
        let after := l.afters.getD q 0 |||
          (if (l.position q).ends.isSome then follow else 0)
        for corner in l.corners.getD (s.symbol - l.terminalCount) #[] do
          let old := starts.getD corner.rule 0
          if old = 0 then
            starting := starting.push corner.rule
          let new := old ||| corner.follows ||| (if corner.propagates then after else 0)
          starts := starts.set! corner.rule new
  for r in starting do
    allowed := allowed ||| l.ownFirsts.getD r 0
    if (l.position (l.roots.getD r 0)).ends.isSome then
      allowed := allowed ||| starts.getD r 0
  return { kernel, starts, starting, allowed }

/-- The positions reached from a state by a symbol, in order of depth and rule. -/
def successors (state : State) (symbol : Nat) : Array (Nat × TerminalSet) := Id.run do
  let mut out : Array (Nat × TerminalSet) := #[]
  for r in state.starting do
    for (s, q) in (l.position (l.roots.getD r 0)).edges do
      if s.symbol = symbol then
        out := out.push (q, state.starts.getD r 0)
  for (p, follow) in state.kernel do
    for (s, q) in (l.position p).edges do
      if s.symbol = symbol then
        out := out.push (q, follow)
  return out.qsort fun (a, _) (b, _) =>
    let da := (l.position a).depth
    let db := (l.position b).depth
    da < db || (da == db && a < b)

/-- The productions that end in a state, each with its last position and what may follow. -/
def endings (state : State) : Array (Nat × Position × TerminalSet) := Id.run do
  let mut out := #[]
  for r in state.starting do
    let root := l.position (l.roots.getD r 0)
    if let some production := root.ends then
      out := out.push (production, root, state.starts.getD r 0)
  for (p, follow) in state.kernel do
    let here := l.position p
    if let some production := here.ends then
      out := out.push (production, here, follow)
  return out

/-- The reductions chosen so far for a terminal. -/
structure Reductions where
  productions : List Nat := []
  rank : Rank := .unset
  rules : List Nat := []
  hasLeft : Bool := false
  hasRight : Bool := false
  hasUngrouped : Bool := false

/-- Adds a reduction: one of lower rank than those chosen is dropped, one of higher rank
replaces them. -/
def Reductions.add (chosen : Reductions) (production : Nat) (position : Position) : Reductions :=
  let fresh (base : Reductions) : Reductions :=
    { productions := base.productions ++ [production]
      rank := position.rank
      rules := if base.rules.contains position.owner then base.rules
        else base.rules ++ [position.owner]
      hasLeft := base.hasLeft || position.assoc = some .left
      hasRight := base.hasRight || position.assoc = some .right
      hasUngrouped := base.hasUngrouped || position.assoc = none }
  if chosen.productions.isEmpty then fresh chosen
  else
    match l.compareRanks position.rank [position.owner] chosen.rank chosen.rules with
    | .gt => fresh {}
    | .eq => fresh chosen
    | .lt => chosen

/-- The reductions of a state for a terminal, and whether the terminal may be read as well. -/
def decide (state : State) (terminal : Nat) : List Nat × Bool := Id.run do
  let mut chosen : Reductions := {}
  let mut conflicting : List Nat := []
  for (production, position, follow) in l.endings state do
    if follow.testBit terminal then
      chosen := chosen.add l production position
      if position.owner < l.nonterminals.size then
        conflicting := position.owner :: conflicting
  let canShift := state.kernel.any (fun (p, _) =>
      (l.position p).edges.any fun (s, _) => s.symbol = terminal) ||
    state.starting.any fun r => (l.ownFirsts.getD r 0).testBit terminal
  if !canShift || chosen.productions.isEmpty then
    return (chosen.productions, canShift)
  -- Both reading and reducing are possible.
  let mut more := false
  let mut less := false
  for (p, _) in state.kernel do
    let here := l.position p
    if 0 < here.depth && (l.afters.getD p 0).testBit terminal then
      if here.owner < l.nonterminals.size then
        conflicting := here.owner :: conflicting
      match l.compareRanks here.rank [here.owner] chosen.rank chosen.rules with
      | .gt => more := true
      | .lt => less := true
      | .eq => pure ()
  match conflicting with
  | owner :: rest =>
    -- Two runs of one repetition: the runs are joined before the next body is read.
    if (l.nonterminals.getD owner default).isAuxiliary && rest.all (· = owner) then
      return (chosen.productions, false)
  | [] => pure ()
  if more && !less then
    return ([], true)
  if less && !more then
    return (chosen.productions, false)
  if !less && !more then
    if chosen.hasLeft && !chosen.hasUngrouped && !chosen.hasRight then
      return (chosen.productions, false)
    if chosen.hasRight && !chosen.hasUngrouped && !chosen.hasLeft then
      return ([], true)
  return (chosen.productions, true)

end Language

/-- The states made so far, with their transitions. -/
structure Automaton where
  states : Array State
  index : HashMap (Array Nat) Nat
  actionTable : HashMap Nat (List Action)
  gotoTable : HashMap Nat Nat
  deriving Inhabited

namespace Automaton

/-- The automaton with the error state and the start state only. -/
def initial (l : Language) : Automaton :=
  let start := l.close #[(l.origin, .single 0)]
  { states := #[default, start], index := {}, actionTable := {}, gotoTable := {} }

/-- The state with a number. -/
def state (a : Automaton) (i : Nat) : State := a.states.getD i default

/-- The number of the state with these positions, which is made if need be. -/
def intern (l : Language) (a : Automaton) (kernel : Array (Nat × TerminalSet)) : Nat × Automaton :=
  let key := kernel.foldl (fun k (p, s) => (k.push p).push s) #[]
  match a.index[key]? with
  | some i => (i, a)
  | none =>
    let i := a.states.size
    (i, { a with states := a.states.push (l.close kernel), index := a.index.insert key i })

/-- The state after a symbol, if the symbol leads anywhere. -/
def goto (l : Language) (a : Automaton) (i symbol : Nat) : Nat × Automaton :=
  let key := i * (l.terminalCount + l.nonterminals.size) + symbol
  match a.gotoTable[key]? with
  | some j => (j, a)
  | none =>
    let kernel := l.successors (a.state i) symbol
    let (j, a) := if kernel.isEmpty then (errorState, a) else a.intern l kernel
    (j, { a with gotoTable := a.gotoTable.insert key j })

/-- The actions of a state for a terminal: reductions first, then reading it. -/
def actions (l : Language) (a : Automaton) (i terminal : Nat) : List Action × Automaton :=
  if i = errorState then ([], a)
  else
    let key := i * l.terminalCount + terminal
    match a.actionTable[key]? with
    | some list => (list, a)
    | none =>
      let state := a.state i
      if !state.allowed.testBit terminal then ([], a)
      else
        let (productions, canShift) := l.decide state terminal
        let reductions := productions.map fun p =>
          if l.isWhole (l.production p) then Action.accept else Action.reduce p
        let (list, a) :=
          if canShift then
            let (j, a) := a.goto l i terminal
            (reductions ++ [.shift j], a)
          else if reductions.isEmpty && l.extras.testBit terminal then ([.shiftExtra], a)
          else (reductions, a)
        (list, { a with actionTable := a.actionTable.insert key list })

end Automaton

end ChecklistReview.Grammar
