import ChecklistReview.Grammar.Automaton
import ChecklistReview.Grammar.Stack
import ChecklistReview.Tree

/-!
# Parsing

`Language.parse` reads a text and gives its syntax tree. Every text has a tree: where the text
does not fit the grammar, terminals are supplied or input is skipped at the least cost.

## Main definitions

* `Parser` is the state of a parse: the automaton made so far and the stacks of all readings.
* `advance` lets one reading take its next terminal.
* `recover` and `handleError` deal with terminals that a reading has no action for.
* `condense` drops readings that are worse than others and joins those that have met.
* `Language.parse` runs them until every reading has ended.
-/

namespace ChecklistReview.Grammar

/-- The state of a parse. -/
structure Parser where
  automaton : Automaton
  stack : Stack
  /-- The best complete tree so far. -/
  finished : Option Subtree
  /-- Number of complete trees met. -/
  accepted : Nat

/-- Steps of a parse. -/
abbrev ParserM := StateM Parser

/-- At most this many readings are followed at once. -/
def maxReadings : Nat := 6

/-- While reductions are made, this many more readings are allowed. -/
def maxExtraReadings : Nat := 4

/-- How far down the stack a reading may return after an error. -/
def maxReturnDepth : Nat := 16

/-- A reading whose errors cost this much more than another's is dropped. -/
def maxCostDifference : Nat := 18 * skippedTreeCost

/-- How a reading stands. -/
structure Standing where
  cost : Nat
  nodeCount : Nat
  weight : Int
  isInError : Bool

/-- Which of two readings is better, and whether clearly so. -/
inductive Preference where
  | takeLeft
  | preferLeft
  | neither
  | preferRight
  | takeRight

/-- Compares two readings. -/
def Standing.compare (a b : Standing) : Preference :=
  if !a.isInError && b.isInError then
    if a.cost < b.cost then .takeLeft else .preferLeft
  else if a.isInError && !b.isInError then
    if b.cost < a.cost then .takeRight else .preferRight
  else if a.cost < b.cost then
    if maxCostDifference < (b.cost - a.cost) * (1 + a.nodeCount) then .takeLeft else .preferLeft
  else if b.cost < a.cost then
    if maxCostDifference < (a.cost - b.cost) * (1 + b.nodeCount) then .takeRight else .preferRight
  else if b.weight < a.weight then .preferLeft
  else if a.weight < b.weight then .preferRight
  else .neither

/-- How a reading of a stack stands. -/
def Stack.standing (stack : Stack) (v : Nat) : Standing :=
  { cost := stack.errorCost v + (if stack.isPaused v then skippedTreeCost else 0)
    nodeCount := stack.nodeCountSinceError v
    weight := (stack.top v).weight
    isInError := stack.isPaused v || stack.state v = errorState }

/-- Whether the second of two trees for the same text is better. -/
def Subtree.isImprovedBy (left right : Subtree) : Bool :=
  let a := left.summary
  let b := right.summary
  if b.errorCost < a.errorCost then true
  else if a.errorCost < b.errorCost then false
  else if a.weight < b.weight then true
  else if b.weight < a.weight then false
  else if 0 < a.errorCost then true
  else Subtree.compare left right = .gt

/-- Splits the extras off the end of a list of subtrees. -/
def splitTrailingExtras (trees : List Subtree) : List Subtree × List Subtree :=
  let extras := (trees.reverse.takeWhile fun t => t.summary.isExtra).reverse
  (trees.take (trees.length - extras.length), extras)

namespace Parser

/-- Uses the automaton, which may grow. -/
def withAutomaton {α : Type} (f : Automaton → α × Automaton) : ParserM α :=
  modifyGet fun p =>
    let a := p.automaton
    let p := { p with automaton := default }
    let (x, a) := f a
    (x, { p with automaton := a })

/-- Changes the stack. -/
def modifyStack (f : Stack → Stack) : ParserM Unit :=
  modify fun p =>
    let s := p.stack
    let p := { p with stack := default }
    { p with stack := f s }

/-- Changes the stack and gives a result. -/
def withStack {α : Type} (f : Stack → α × Stack) : ParserM α :=
  modifyGet fun p =>
    let s := p.stack
    let p := { p with stack := default }
    let (x, s) := f s
    (x, { p with stack := s })

/-- Looks at the stack. -/
def look {α : Type} (f : Stack → α) : ParserM α :=
  modifyGet fun p => (f p.stack, p)

variable (l : Language) (source : Source)

/-- The actions of a state for a terminal. -/
def actionsAt (state terminal : Nat) : ParserM (List Action) :=
  withAutomaton fun a => a.actions l state terminal

/-- The terminals for which a state has an action. -/
def allowedAt (state : Nat) : ParserM TerminalSet :=
  modifyGet fun p => ((p.automaton.state state).allowed, p)

/-- The state after a symbol. -/
def gotoFrom (state symbol : Nat) : ParserM Nat :=
  withAutomaton fun a => a.goto l state symbol

/-- Whether some other reading is clearly better than this one would be at a cost. -/
def betterExists (version : Nat) (isInError : Bool) (cost : Nat) : ParserM Bool := do
  let p ← get
  if let some t := p.finished then
    if t.summary.errorCost ≤ cost then
      return true
  let stack := p.stack
  let position := stack.position version
  let standing : Standing :=
    { cost, isInError, weight := (stack.top version).weight
      nodeCount := stack.nodeCountSinceError version }
  for i in [0:stack.size] do
    if i ≠ version && stack.isActive i && position ≤ stack.position i then
      match standing.compare (stack.standing i) with
      | .takeRight => return true
      | .preferRight =>
        if stack.canMerge i version then
          return true
      | _ => pure ()
  return false

/-- Tries to join a reading with an earlier one, leaving out one of them. -/
def mergeInto (candidates : List Nat) (version : Nat) : ParserM Bool := do
  for j in candidates do
    if ← withStack fun s => s.merge j version then
      return true
  return false

/-- Builds a node by a production on every path of a reading. New readings are put at the end;
the result is the first of them. -/
def reduce (version symbol : Nat) (production : Nat) (count : Nat) (weight : Int) :
    ParserM (Option Nat) := do
  let before ← look (·.size)
  let slices ← withStack fun s => let (s, slices) := s.popCount version count; (slices, s)
  -- Slices of one reading are neighbours; they are different ways to the same place.
  let groups := slices.toList.splitBy fun a b => a.version = b.version
  let mut removed := 0
  for group in groups do
    match group with
    | [] => pure ()
    | first :: others =>
      let here := first.version - removed
      if maxReadings + maxExtraReadings < here then
        modifyStack fun s => s.remove here
        removed := removed + 1
      else
        let position ← look (·.position here)
        let build (trees : List Subtree) : Subtree :=
          Subtree.branch l source symbol (some production) position trees
        let mut (children, extras) := splitTrailingExtras first.subtrees
        let mut parent := build children
        for other in others do
          let (children', extras') := splitTrailingExtras other.subtrees
          let plain := Subtree.branch l source symbol none position children'
          if parent.isImprovedBy plain then
            parent := build children'
            extras := extras'
        let next ← gotoFrom l (← look (·.state here)) symbol
        let node := parent.withSummary fun s => { s with weight := s.weight + weight }
        modifyStack fun s => s.push here (some node) next
        for extra in extras do
          modifyStack fun s => s.push here (some extra) next
        let earlier := (List.range here).filter (· ≠ version)
        if ← mergeInto earlier here then
          removed := removed + 1
  return if before < (← look (·.size)) then some before else none

/-- Builds a node by a production of the language. -/
def reduceBy (version production : Nat) : ParserM (Option Nat) :=
  let p := l.production production
  reduce l source version (l.terminalCount + p.owner) production p.steps.length p.weight

/-- Ends a reading at the end of the text: what is on its stack becomes a tree. -/
def accept (version : Nat) (lookahead : Subtree) : ParserM Unit := do
  modifyStack fun s => s.push version (some lookahead) startState
  let slices ← withStack fun s => let (s, slices) := s.popAll version; (slices, s)
  for slice in slices do
    let trees := slice.subtrees
    let after := (trees.reverse.takeWhile fun t => t.summary.isExtra).reverse
    let rest := trees.take (trees.length - after.length)
    match rest.getLast? with
    | none => pure ()
    | some main =>
      let all := rest.dropLast ++ main.children ++ after
      let root := Subtree.branch l source main.summary.symbol main.summary.production 0 all
      modify fun p =>
        let better := match p.finished with
          | none => true
          | some t => t.isImprovedBy root
        { p with accepted := p.accepted + 1, finished := if better then some root else p.finished }
  if let some slice := slices[0]? then
    modifyStack fun s => s.remove slice.version
  modifyStack fun s => s.halt version

/-- Makes every reduction that a reading could make, whatever follows, or only those before a
given terminal. Tells whether a terminal can then be read. -/
def reduceAll (starting : Nat) (lookahead : Option Nat) : ParserM Bool := do
  let initial ← look (·.size)
  go initial 200 0 starting false
where
  /-- Handles the readings from one on. -/
  go (initial : Nat) : (fuel : Nat) → Nat → Nat → Bool → ParserM Bool
    | 0, _, _, canShift => return canShift
    | fuel + 1, i, version, canShift => do
      let count ← look (·.size)
      if count ≤ version then
        return canShift
      let earlier := (List.range version).filter (initial ≤ ·)
      if ← mergeInto earlier version then
        go initial fuel (i + 1) version canShift
      else
        let state ← look (·.state version)
        let mut hasShift : Bool := state = errorState
        let mut reductions : Array Nat := #[]
        let allowed ← allowedAt state
        let terminals := match lookahead with
          | some t => [t]
          | none => (List.range l.terminalCount).drop 1
        for t in terminals do
          if allowed.testBit t then
            for action in ← actionsAt l state t do
              match action with
              | .shift _ => hasShift := true
              | .reduce p =>
                let new := l.production p
                let known := reductions.any fun q =>
                  let old := l.production q
                  old.owner = new.owner && old.steps.length = new.steps.length
                if !known && 0 < new.steps.length then
                  reductions := reductions.push p
              | _ => pure ()
        let mut made : Option Nat := none
        for p in reductions do
          made ← reduceBy l source version p
        let following := if version = starting then count else version + 1
        if hasShift then
          go initial fuel (i + 1) following true
        else
          match made with
          | some v =>
            if i < maxReadings then
              modifyStack fun s => s.renumber v version
              go initial fuel (i + 1) version canShift
            else if lookahead.isSome then
              modifyStack fun s => s.remove version
              go initial fuel (i + 1) following canShift
            else go initial fuel (i + 1) following canShift
          | none =>
            if lookahead.isSome then
              modifyStack fun s => s.remove version
            go initial fuel (i + 1) following canShift

/-- Returns a reading to an earlier state, wrapping what was read since in an error node. -/
def recoverTo (version depth goal : Nat) : ParserM Bool := do
  let slices ← withStack fun s => let (s, slices) := s.popCount version depth; (slices, s)
  let mut previous : Option Nat := none
  for slice in slices do
    if previous = some slice.version then
      continue
    if (← look (·.state slice.version)) ≠ goal then
      modifyStack fun s => s.halt slice.version
      continue
    let error ← withStack fun s => let (s, t) := s.popError slice.version; (t, s)
    let inner := (error.map Subtree.children).getD []
    let (trees, extras) := splitTrailingExtras (inner ++ slice.subtrees)
    if !trees.isEmpty then
      let position ← look (·.position slice.version)
      let node := Subtree.branch l source errorSymbol none position trees
      let node := node.withSummary fun s => { s with isExtra := true }
      modifyStack fun s => s.push slice.version (some node) goal
    for extra in extras do
      modifyStack fun s => s.push slice.version (some extra) goal
    previous := some slice.version
  return previous.isSome

/-- Looks for an earlier state of a reading in which a terminal can be read. -/
def recoverToEarlier (version previousCount : Nat) (lookahead : Subtree) : ParserM Bool := do
  let position ← look (·.position version)
  let nodeCount ← look (·.nodeCountSinceError version)
  let cost ← look (·.errorCost version)
  let summary ← look fun s => ((s.head version).summary).getD #[]
  if lookahead.isError then
    return false
  for entry in summary do
    if entry.state = errorState || entry.position = position then
      continue
    let depth := if 0 < nodeCount then entry.depth + 1 else entry.depth
    let wouldMerge ← look fun s => (List.range previousCount).any fun j =>
      s.state j = entry.state && s.position j = position
    if wouldMerge then
      continue
    let newCost := cost + entry.depth * skippedTreeCost +
      (source.byte position - source.byte entry.position) +
      (source.row position - source.row entry.position) * skippedLineCost
    if ← betterExists version false newCost then
      return false
    let actions ← actionsAt l entry.state lookahead.summary.symbol
    if !actions.isEmpty then
      if ← recoverTo l source version depth entry.state then
        return true
  return false

/-- Removes the given-up readings from one number on. -/
def dropInactive (from_ : Nat) : ParserM Unit :=
  modifyStack fun s =>
    { s with heads := (s.heads.toList.take from_ ++ (s.heads.toList.drop from_).filter fun h =>
        match h.status with
        | .active => true
        | _ => false).toArray }

/-- Deals with a terminal in the error state: returns to an earlier state that can read it, and
skips it as well. -/
def recover (version : Nat) (lookahead : Subtree) : ParserM Unit := do
  let previousCount ← look (·.size)
  let nodeCount ← look (·.nodeCountSinceError version)
  let cost ← look (·.errorCost version)
  let didRecover ← recoverToEarlier l source version previousCount lookahead
  dropInactive previousCount
  if lookahead.isEnd then
    let position ← look (·.position version)
    let parent := Subtree.branch l source errorSymbol none position []
    modifyStack fun s => s.push version (some parent) startState
    accept l source version lookahead
  else if didRecover && maxReadings < (← look (·.size)) then
    modifyStack fun s => s.halt version
  else
    let t := lookahead.summary
    let newCost := cost + skippedTreeCost + (source.byte t.stop - source.byte t.padding) +
      (source.row t.stop - source.row t.padding) * skippedLineCost
    if ← betterExists version false newCost then
      modifyStack fun s => s.halt version
    else
      let isExtra := t.symbol < l.terminalCount && l.extras.testBit t.symbol
      let lookahead :=
        if isExtra then lookahead.withSummary fun s => { s with isExtra := true } else lookahead
      let position ← look (·.position version)
      let single := Subtree.branch l source errorRun none position [lookahead]
      if 0 < nodeCount then
        let slices ← withStack fun s => let (s, slices) := s.popCount version 1; (slices, s)
        match slices[0]? with
        | some slice =>
          modifyStack fun s => { s with heads := s.heads.extract 0 (slice.version + 1) }
          modifyStack fun s => s.renumber slice.version version
          let run := Subtree.branch l source errorRun none position (slice.subtrees ++ [single])
          modifyStack fun s => s.push version (some run) errorState
        | none => modifyStack fun s => s.push version (some single) errorState
      else
        modifyStack fun s => s.push version (some single) errorState

/-- Supplies a terminal that lets a reading go on before the given one, if there is one. -/
def supplyMissing (version : Nat) (lookahead : Subtree) : ParserM Bool := do
  let state ← look (·.state version)
  let position ← look (·.position version)
  if lookahead.isError then
    return false
  let allowed ← allowedAt state
  for t in (List.range l.terminalCount).drop 1 do
    if allowed.testBit t then
      let target := (← actionsAt l state t).findSome? fun
        | .shift j => some j
        | _ => none
      if let some j := target then
        if j ≠ state then
          let next ← actionsAt l j lookahead.summary.symbol
          let reduces := next.any fun
            | .reduce _ => true
            | _ => false
          if reduces then
            let copy ← withStack fun s => s.copy version
            modifyStack fun s => s.push copy (some (Subtree.missing l t position)) j
            if ← reduceAll l source copy (some lookahead.summary.symbol) then
              return true
  return false

/-- Deals with a terminal that a reading has no action for. -/
def handleError (version : Nat) (lookahead : Subtree) : ParserM Unit := do
  let previousCount ← look (·.size)
  let _ ← reduceAll l source version none
  let count ← look (·.size)
  let mut supplied := false
  for v in version :: (List.range count).filter (previousCount ≤ ·) do
    if !supplied then
      supplied ← supplyMissing l source v lookahead
    modifyStack fun s => s.push v none errorState
  for _ in [previousCount:count] do
    let _ ← withStack fun s => s.merge version previousCount
  modifyStack fun s => s.recordSummary version maxReturnDepth
  recover l source version lookahead

/-- The next lexeme of a reading as a subtree. -/
def nextLeaf (version : Nat) : ParserM Subtree := do
  let state ← look (·.state version)
  let position ← look (·.position version)
  let hasAdvanced ← look (·.hasAdvanced version)
  let set ← if state = errorState then pure (l.recoverySet ||| 1) else allowedAt state
  return Subtree.leaf l position (l.lex set hasAdvanced source position)

/-- Lets a reading take the given terminal, reducing first as its state says. -/
def take (version : Nat) : (fuel : Nat) → Subtree → ParserM Unit
  | 0, _ => modifyStack fun s => s.halt version
  | fuel + 1, lookahead => do
    let state ← look (·.state version)
    if lookahead.isError then
      if state = errorState then
        recover l source version lookahead
      else
        modifyStack fun s => s.pause version lookahead
    else
      let mut reduced : Option Nat := none
      for action in ← actionsAt l state lookahead.summary.symbol do
        match action with
        | .shift j =>
          let leaf := lookahead.withSummary fun s => { s with isExtra := false }
          modifyStack fun s => s.push version (some leaf) j
          return
        | .shiftExtra =>
          let leaf := lookahead.withSummary fun s => { s with isExtra := true }
          modifyStack fun s => s.push version (some leaf) state
          return
        | .reduce p =>
          if let some v ← reduceBy l source version p then
            reduced := some v
        | .accept =>
          accept l source version lookahead
          return
      match reduced with
      | some v =>
        modifyStack fun s => s.renumber v version
        take version fuel lookahead
      | none =>
        let asWord := lookahead.withSummary fun s =>
          { s with symbol := l.word, isVisible := (l.terminals.getD l.word default).isVisible }
        if lookahead.summary.isKeyword && lookahead.summary.symbol ≠ l.word &&
            !(← actionsAt l state l.word).isEmpty then
          take version fuel asWord
        else if state = errorState then
          recover l source version lookahead
        else
          modifyStack fun s => s.pause version lookahead

/-- Lets a reading take its next terminal. -/
def advance (version : Nat) : ParserM Unit := do
  let lookahead ← nextLeaf l source version
  take l source version 1000 lookahead

/-- Compares each reading with those before it, drops the worse and joins those that have met.
The result is the least cost of a reading that is not in error. -/
def condensePairs : (fuel : Nat) → Nat → Option Nat → ParserM (Option Nat)
  | 0, _, least => return least
  | fuel + 1, i, least => do
    if (← look (·.size)) ≤ i then
      return least
    if ← look (·.isHalted i) then
      modifyStack fun s => s.remove i
      condensePairs fuel i least
    else
      let standing ← look (·.standing i)
      let least :=
        if standing.isInError then least
        else some (min standing.cost (least.getD standing.cost))
      let i ← compareFrom standing fuel i 0
      condensePairs fuel (i + 1) least
where
  /-- Compares reading `i` with those from `j` on; gives its number afterwards, one less if it
  was dropped. -/
  compareFrom (standing : Standing) : (fuel : Nat) → Nat → Nat → ParserM Nat
    | 0, i, _ => return i
    | fuel + 1, i, j => do
      if i ≤ j then
        return i
      match (← look (·.standing j)).compare standing with
      | .takeLeft =>
        modifyStack fun s => s.remove i
        return i - 1
      | .preferLeft | .neither =>
        if ← withStack fun s => s.merge j i then
          return i - 1
        else compareFrom standing fuel i (j + 1)
      | .preferRight =>
        if ← withStack fun s => s.merge j i then
          return i - 1
        else
          modifyStack fun s => s.swap i j
          compareFrom standing fuel i (j + 1)
      | .takeRight =>
        modifyStack fun s => s.remove j
        compareFrom standing fuel (i - 1) j

/-- Deals with paused readings: the best one is resumed unless a better reading goes on. -/
def resumePaused : (fuel : Nat) → Nat → Bool → Option Nat → ParserM (Option Nat)
  | 0, _, _, least => return least
  | fuel + 1, i, hasActive, least => do
    let before ← look (·.size)
    if before ≤ i then
      return least
    match ← look fun s => (s.head i).status with
    | .paused lookahead =>
      if !hasActive && (← get).accepted < maxReadings then
        let cost ← look (·.errorCost i)
        modifyStack fun s => s.modifyHead i fun h => { h with status := .active }
        handleError l source i lookahead
        -- Readings made by the recovery are not looked at in this round.
        let rest ← resumeRest fuel (i + 1) before
        let _ := rest
        return some cost
      else
        modifyStack fun s => s.remove i
        resumePaused fuel i hasActive least
    | _ => resumePaused fuel (i + 1) true least
where
  /-- Removes the paused readings among those that were there before a recovery. -/
  resumeRest : (fuel : Nat) → Nat → Nat → ParserM Unit
    | 0, _, _ => return
    | fuel + 1, i, limit => do
      if limit ≤ i || (← look (·.size)) ≤ i then
        return
      if ← look (·.isPaused i) then
        modifyStack fun s => s.remove i
        resumeRest fuel i (limit - 1)
      else resumeRest fuel (i + 1) limit

/-- Drops, joins and resumes readings. -/
def condense : ParserM (Option Nat) := do
  let least ← condensePairs 1000 0 none
  modifyStack fun s => { s with heads := s.heads.extract 0 maxReadings }
  resumePaused l source 1000 0 false least

/-- Lets a reading advance until it has come further than `last`. -/
def advanceBeyond (version : Nat) : (fuel : Nat) → Nat → ParserM Nat
  | 0, last => return last
  | fuel + 1, last => do
    if !(← look (·.isActive version)) then
      return last
    advance l source version
    let position ← look (·.position version)
    if last < position || (0 < version && position = last) then
      return position
    advanceBeyond version fuel last

/-- Advances all readings in turn. -/
def advanceAll : (fuel : Nat) → Nat → Nat → ParserM Nat
  | 0, _, last => return last
  | fuel + 1, version, last => do
    if (← look (·.size)) ≤ version then
      return last
    let last ← advanceBeyond l source version 10000 last
    advanceAll fuel (version + 1) last

/-- Parses until every reading has ended or a complete tree is better than all of them. -/
def run : (fuel : Nat) → Nat → ParserM Unit
  | 0, _ => return
  | fuel + 1, last => do
    let last ← advanceAll l source 1000 0 last
    let least ← condense l source
    if ← isDone least then
      return
    run fuel last
where
  /-- Whether a complete tree is better than all readings, or none is left. -/
  isDone (least : Option Nat) : ParserM Bool :=
    modifyGet fun p =>
      let done := match p.finished, least with
        | some t, some cost => t.summary.errorCost < cost
        | some _, none => true
        | none, _ => p.stack.size = 0
      (done || p.stack.size = 0, p)

end Parser

/-! ### Syntax trees of subtrees -/

namespace Subtree

/-- The field and the displayed name of each child, extras having neither. -/
def annotate : List Subtree → List Step → List (Option String × Option (String × Bool))
  | [], _ => []
  | c :: cs, steps =>
    if c.summary.isExtra then (none, none) :: annotate cs steps
    else
      match steps with
      | s :: rest => (s.field, s.shown) :: annotate cs rest
      | [] => (none, none) :: annotate cs []

/-- The kind under which a symbol is shown, and whether it is a name. -/
def kindOf (l : Language) (symbol : Nat) : String × Bool :=
  if isErrorSymbol symbol then ("ERROR", true)
  else if symbol < l.terminalCount then
    let t := l.terminals.getD symbol default
    (t.kind, t.isNamed)
  else ((l.nonterminals.getD (symbol - l.terminalCount) default).name, true)

/-- Gives a field to the first tree that has none. -/
def putField (field : Option String) : List Tree → List Tree
  | [] => []
  | .node label cs :: rest =>
    if field.isSome && label.field.isNone then .node { label with field } cs :: rest
    else .node label cs :: rest

mutual

/-- The visible trees that a subtree stands for: itself if it is shown, else those of its
children. -/
def trees (l : Language) (source : Source) (field : Option String)
    (shown : Option (String × Bool)) :
    Subtree → List Tree
  | .node s cs =>
    let steps := match s.production with
      | some p => (l.production p).steps
      | none => []
    let below := treesOf l source (annotate cs steps) cs
    if s.isVisible || shown.isSome then
      let (kind, isNamed) := shown.getD (kindOf l s.symbol)
      let status : Tree.Status :=
        if s.symbol = errorSymbol then .error else if s.isMissing then .missing else .sound
      [.node
        { kind, isNamed, field, status
          hasError := 0 < s.errorCost
          start := s.start, stop := s.stop, row := source.row s.start } below]
    else putField field below

/-- The visible trees of a list of children with their annotations. -/
def treesOf (l : Language) (source : Source) :
    List (Option String × Option (String × Bool)) → List Subtree → List Tree
  | _, [] => []
  | [], c :: cs => trees l source none none c ++ treesOf l source [] cs
  | (field, shown) :: rest, c :: cs => trees l source field shown c ++ treesOf l source rest cs

end

end Subtree

/-- The syntax tree of a text. -/
def Language.parse (l : Language) (chars : Array Char) : Tree :=
  let source := Source.ofChars chars
  let start : Parser :=
    { automaton := .initial l, stack := .initial, finished := none, accepted := 0 }
  let (_, p) := (Parser.run l source (100 * chars.size + 1000) 0).run start
  let whole : Tree :=
    .node
      { kind := "ERROR", isNamed := true, field := none, status := .error, hasError := true
        start := 0, stop := chars.size, row := 0 } []
  match p.finished with
  | none => whole
  | some t =>
    match t.trees l source none none with
    | tree :: _ => tree
    | [] => whole

end ChecklistReview.Grammar
