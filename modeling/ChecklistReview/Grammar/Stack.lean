import ChecklistReview.Grammar.Subtree

/-!
# The parse stack

Parsing follows several readings of the text at once. Their stacks share what they have in
common: a stack is a graph of nodes, and each reading is a head that points at its top.

## Main definitions

* `Stack.Node` is a place in the graph, with links to the places below it.
* `Stack.Head` is the top of one reading.
* `Stack.popCount` and its relatives follow every path down the graph.
* `Stack.merge` joins two readings that have come to the same place.
-/

namespace ChecklistReview.Grammar

namespace Stack

/-- A link from a node to the one below it, with the subtree between them. A link without a
subtree marks the place of an error. -/
structure Link where
  subtree : Option Subtree
  node : Nat
  deriving Inhabited

/-- A place in the graph. -/
structure Node where
  state : Nat
  /-- How far the text has been read. -/
  position : Nat
  errorCost : Nat
  nodeCount : Nat
  weight : Int
  links : Array Link
  deriving Inhabited

/-- A state that can be returned to when an error is met. -/
structure SummaryEntry where
  state : Nat
  position : Nat
  depth : Nat
  deriving Inhabited

/-- What a reading is doing. -/
inductive Status where
  | active
  /-- Stopped before a terminal that its state has no action for. -/
  | paused (lookahead : Subtree)
  | halted
  deriving Inhabited

/-- The top of one reading. -/
structure Head where
  node : Nat
  status : Status := .active
  nodeCountAtError : Nat := 0
  summary : Option (Array SummaryEntry) := none
  deriving Inhabited

end Stack

/-- The stacks of all readings. -/
structure Stack where
  nodes : Array Stack.Node
  heads : Array Stack.Head
  deriving Inhabited

namespace Stack

/-- Subtrees taken off the stack, and the reading left behind. -/
structure Slice where
  subtrees : List Subtree
  version : Nat
  deriving Inhabited

/-- The stack before the text. -/
def initial : Stack :=
  { nodes :=
      #[{ state := startState, position := 0, errorCost := 0, nodeCount := 0,
          weight := 0, links := #[] }]
    heads := #[{ node := 0 }] }
where
  /-- The state before the text. -/
  startState : Nat := 1

/-- Number of readings. -/
def size (stack : Stack) : Nat := stack.heads.size

/-- The node with a number. -/
def node (stack : Stack) (i : Nat) : Node := stack.nodes.getD i default

/-- The head of a reading. -/
def head (stack : Stack) (v : Nat) : Head := stack.heads.getD v default

/-- The top node of a reading. -/
def top (stack : Stack) (v : Nat) : Node := stack.node (stack.head v).node

/-- The state of a reading. -/
def state (stack : Stack) (v : Nat) : Nat := (stack.top v).state

/-- How far a reading has come. -/
def position (stack : Stack) (v : Nat) : Nat := (stack.top v).position

/-- Whether a reading goes on. -/
def isActive (stack : Stack) (v : Nat) : Bool :=
  match (stack.head v).status with
  | .active => true
  | _ => false

/-- Whether a reading waits for its error to be dealt with. -/
def isPaused (stack : Stack) (v : Nat) : Bool :=
  match (stack.head v).status with
  | .paused _ => true
  | _ => false

/-- Whether a reading is given up. -/
def isHalted (stack : Stack) (v : Nat) : Bool :=
  match (stack.head v).status with
  | .halted => true
  | _ => false

/-- Changes the head of a reading. -/
def modifyHead (stack : Stack) (v : Nat) (f : Head → Head) : Stack :=
  { stack with heads := stack.heads.modify v f }

/-- The cost of the errors of a reading. -/
def errorCost (stack : Stack) (v : Nat) : Nat :=
  let top := stack.top v
  let atError := top.state = 0 && (match top.links[0]? with
    | some link => link.subtree.isNone
    | none => true)
  top.errorCost + (if stack.isPaused v || atError then recoveryCost else 0)

/-- Number of nodes built since the last error of a reading. -/
def nodeCountSinceError (stack : Stack) (v : Nat) : Nat :=
  (stack.top v).nodeCount - (stack.head v).nodeCountAtError

/-- Puts a subtree on the stack of a reading and enters a state. -/
def push (stack : Stack) (v : Nat) (subtree : Option Subtree) (state : Nat) : Stack :=
  let below := (stack.head v).node
  let base := stack.node below
  let links := #[{ subtree, node := below : Link }]
  let new : Node := match subtree with
    | none => { base with state, links }
    | some t =>
      { state, links
        position := t.summary.stop
        errorCost := base.errorCost + t.summary.errorCost
        nodeCount := base.nodeCount + t.nodeCount
        weight := base.weight + t.summary.weight }
  let i := stack.nodes.size
  { nodes := stack.nodes.push new
    heads := stack.heads.modify v fun h =>
      { h with
        node := i
        nodeCountAtError := if subtree.isNone then new.nodeCount else h.nodeCountAtError } }

/-- A way down the graph. -/
structure Walk where
  node : Nat
  subtrees : List Subtree
  /-- Number of subtrees passed that are not extras. -/
  count : Nat

/-- What to do at a node of a walk. -/
structure Visit where
  pop : Bool
  stop : Bool

/-- Adds a slice that leaves a reading at a node. -/
def addSlice (stack : Stack) (slices : Array Slice) (version : Nat) (node : Nat)
    (subtrees : List Subtree) : Stack × Array Slice :=
  let same := slices.toList.findIdx? fun s => (stack.head s.version).node = node
  match same with
  | some _ =>
    -- The new slice stands after the last one of the same reading.
    let at_ := slices.size -
      (slices.toList.reverse.findIdx fun s => (stack.head s.version).node = node)
    let v := (slices.getD (at_ - 1) default).version
    (stack, slices.toList.insertIdx at_ { subtrees, version := v } |>.toArray)
  | none =>
    let v := stack.heads.size
    let from_ := stack.head version
    ({ stack with heads := stack.heads.push { node, nodeCountAtError := from_.nodeCountAtError } },
      slices.push { subtrees, version := v })

/-- Follows the paths down from a reading, one link at a time, as long as `visit` says so. -/
def walk {σ : Type} (version : Nat) (visit : Stack → σ → Walk → Visit × σ) :
    (fuel : Nat) → Stack → σ → Array Slice → List Walk → Stack × σ × Array Slice
  | 0, stack, s, slices, _ => (stack, s, slices)
  | fuel + 1, stack, s, slices, walks =>
    if walks.isEmpty then (stack, s, slices)
    else Id.run do
      let mut stack := stack
      let mut s := s
      let mut slices := slices
      let mut kept : Array Walk := #[]
      let mut added : Array Walk := #[]
      let mut remaining := walks.length
      for w in walks do
        remaining := remaining - 1
        let here := stack.node w.node
        let (visited, s') := visit stack s w
        s := s'
        if visited.pop then
          let (stack', slices') := stack.addSlice slices version w.node w.subtrees
          stack := stack'
          slices := slices'
        if !(visited.stop || here.links.isEmpty) then
          let follow (link : Link) : Walk :=
            match link.subtree with
            | some t =>
              { node := link.node
                subtrees := t :: w.subtrees
                count := if t.summary.isExtra then w.count else w.count + 1 }
            | none => { node := link.node, subtrees := w.subtrees, count := w.count + 1 }
          for link in here.links.toList.drop 1 do
            if kept.size + added.size + remaining + 1 < 64 then
              added := added.push (follow link)
          if let some link := here.links[0]? then
            kept := kept.push (follow link)
      return walk version visit fuel stack s slices (kept ++ added).toList

/-- Starts a walk at the top of a reading. -/
def walkFrom {σ : Type} (stack : Stack) (version : Nat) (start : σ)
    (visit : Stack → σ → Walk → Visit × σ) : Stack × σ × Array Slice :=
  walk version visit (stack.nodes.size + 1) stack start #[]
    [{ node := (stack.head version).node, subtrees := [], count := 0 }]

/-- Takes a number of subtrees, extras aside, off a reading. -/
def popCount (stack : Stack) (version count : Nat) : Stack × Array Slice :=
  let (stack, _, slices) := stack.walkFrom version () fun _ _ w =>
    (⟨w.count = count, w.count = count⟩, ())
  (stack, slices)

/-- Takes everything off a reading. -/
def popAll (stack : Stack) (version : Nat) : Stack × Array Slice :=
  let (stack, _, slices) := stack.walkFrom version () fun stack _ w =>
    (⟨(stack.node w.node).links.isEmpty, false⟩, ())
  (stack, slices)

/-- Gives up a reading and closes the gap in the numbering. -/
def remove (stack : Stack) (v : Nat) : Stack :=
  { stack with heads := stack.heads.eraseIdxIfInBounds v }

/-- Moves a reading to the place of another. -/
def renumber (stack : Stack) (v₁ v₂ : Nat) : Stack :=
  if v₁ = v₂ then stack
  else
    let source := stack.head v₁
    let target := stack.head v₂
    let moved := { source with summary := source.summary.orElse fun _ => target.summary }
    { stack with heads := (stack.heads.setIfInBounds v₂ moved).eraseIdxIfInBounds v₁ }

/-- Exchanges two readings. -/
def swap (stack : Stack) (v₁ v₂ : Nat) : Stack :=
  let a := stack.head v₁
  let b := stack.head v₂
  { stack with heads := (stack.heads.setIfInBounds v₁ b).setIfInBounds v₂ a }

/-- Starts a new reading at the same place. -/
def copy (stack : Stack) (v : Nat) : Nat × Stack :=
  (stack.heads.size, { stack with heads := stack.heads.push { stack.head v with summary := none } })

/-- Stops a reading before a terminal. -/
def pause (stack : Stack) (v : Nat) (lookahead : Subtree) : Stack :=
  let count := (stack.top v).nodeCount
  stack.modifyHead v fun h => { h with status := .paused lookahead, nodeCountAtError := count }

/-- Gives up a reading. -/
def halt (stack : Stack) (v : Nat) : Stack :=
  stack.modifyHead v fun h => { h with status := .halted }

/-! ### Joining readings -/

/-- Whether two subtrees are the same for all that follows. -/
def equivalent : Option Subtree → Option Subtree → Bool
  | none, none => true
  | some a, some b =>
    let s := a.summary
    let t := b.summary
    s.symbol = t.symbol &&
      ((0 < s.errorCost && 0 < t.errorCost) ||
        (s.padding = t.padding && s.start = t.start && s.stop = t.stop &&
          s.childCount = t.childCount && s.isExtra = t.isExtra))
  | _, _ => false

/-- The weight of an optional subtree. -/
def weightOf (t : Option Subtree) : Int :=
  ((t.map Subtree.summary).map Subtree.Summary.weight).getD 0

/-- Adds a link to a node, joining it with an equivalent one. -/
def addLink : (fuel : Nat) → Stack → Nat → Link → Stack
  | 0, stack, _, _ => stack
  | fuel + 1, stack, i, link =>
    if link.node = i then stack
    else
      let here := stack.node i
      let below := stack.node link.node
      let joinable (old : Link) : Bool :=
        let oldBelow := stack.node old.node
        equivalent old.subtree link.subtree &&
          (old.node = link.node ||
            (oldBelow.state = below.state && oldBelow.position = below.position &&
              oldBelow.errorCost = below.errorCost))
      match here.links.toList.findIdx? joinable with
      | some j =>
        let old := here.links.getD j default
        if old.node = link.node then
          if weightOf old.subtree < weightOf link.subtree then
            let weight := below.weight + weightOf link.subtree
            { stack with nodes := stack.nodes.modify i fun n =>
                { n with weight, links :=
                    n.links.modify j fun o => { o with subtree := link.subtree } } }
          else stack
        else
          let stack := below.links.foldl (fun stack inner => addLink fuel stack old.node inner)
            stack
          let weight := below.weight + weightOf link.subtree
          { stack with nodes := stack.nodes.modify i fun n =>
              { n with weight := max n.weight weight } }
      | none =>
        if here.links.size = 8 then stack
        else
          let count := below.nodeCount + ((link.subtree.map Subtree.nodeCount).getD 0)
          let weight := below.weight + weightOf link.subtree
          { stack with nodes := stack.nodes.modify i fun n =>
              { n with
                links := n.links.push link
                nodeCount := max n.nodeCount count
                weight := max n.weight weight } }

/-- Whether two readings have come to the same place. -/
def canMerge (stack : Stack) (v₁ v₂ : Nat) : Bool :=
  let a := stack.top v₁
  let b := stack.top v₂
  stack.isActive v₁ && stack.isActive v₂ &&
    a.state = b.state && a.position = b.position && a.errorCost = b.errorCost

/-- Joins the second reading with the first if they have come to the same place. -/
def merge (stack : Stack) (v₁ v₂ : Nat) : Bool × Stack :=
  if stack.canMerge v₁ v₂ then
    let target := (stack.head v₁).node
    let fuel := stack.nodes.size + 1
    let stack := (stack.top v₂).links.foldl (fun s link => addLink fuel s target link) stack
    let stack :=
      if stack.state v₁ = 0 then
        let count := (stack.top v₁).nodeCount
        stack.modifyHead v₁ fun h => { h with nodeCountAtError := count }
      else stack
    (true, stack.remove v₂)
  else (false, stack)

/-! ### Errors -/

/-- Records the states that a reading can return to. -/
def recordSummary (stack : Stack) (v maxDepth : Nat) : Stack :=
  let (stack, entries, _) := stack.walkFrom v (#[] : Array SummaryEntry) fun stack entries w =>
    let here := stack.node w.node
    if maxDepth < w.count then (⟨false, true⟩, entries)
    else if entries.any fun e => e.depth = w.count && e.state = here.state then
      (⟨false, false⟩, entries)
    else
      (⟨false, false⟩,
        entries.push { state := here.state, position := here.position, depth := w.count })
  stack.modifyHead v fun h => { h with summary := some entries }

/-- Takes skipped input off the top of a reading, if it is there. -/
def popError (stack : Stack) (v : Nat) : Stack × Option Subtree :=
  if (stack.top v).links.any fun link => (link.subtree.map Subtree.isError).getD false then
    let (stack, _, slices) := stack.walkFrom v false fun _ found w =>
      match w.subtrees with
      | [] => (⟨false, false⟩, found)
      | t :: _ => if !found && t.isError then (⟨true, true⟩, true) else (⟨false, true⟩, found)
    match slices[0]? with
    | some slice => (stack.renumber slice.version v, slice.subtrees[0]?)
    | none => (stack, none)
  else (stack, none)

/-- Whether a reading has read anything since its last error. -/
def hasAdvanced (stack : Stack) (v : Nat) : Bool :=
  let head := stack.head v
  (stack.node head.node).errorCost = 0 || go head stack.nodes.size head.node
where
  /-- Goes down the first links past empty subtrees without errors. -/
  go (head : Head) : Nat → Nat → Bool
    | 0, _ => false
    | fuel + 1, i =>
      let here := stack.node i
      let below : Option Link := here.links[0]?
      match below with
      | some ⟨some t, node⟩ =>
        if 0 < t.totalSize then true
        else if head.nodeCountAtError < here.nodeCount && t.summary.errorCost = 0 then
          go head fuel node
        else false
      | _ => false

end Stack

end ChecklistReview.Grammar
