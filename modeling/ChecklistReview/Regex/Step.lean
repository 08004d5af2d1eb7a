import ChecklistReview.Regex.CharTest
import ChecklistReview.Regex.Parser

/-!
# Steps of matching

An expression is matched in steps. The steps have no settings: what a setting changes is chosen
when the steps are made. Groups become marks before and after their steps.

## Main definitions

* `Step` is a step of matching.
* `Step.weight` bounds how deep the steps of a sequence are nested while they run.
* `lower` makes steps of parts; an assertion that looks behind must have a fixed width
  that can be counted.
* `Regex.compile` makes steps of a text.
-/

namespace ChecklistReview.Regex

/-- A condition on a place in the text. -/
inductive Place where
  | textStart
  | lineStart
  | textEnd
  /-- The end of the text or before a line feed that ends it. -/
  | lastLineEnd
  | lineEnd
  | wordEdge (isAscii : Bool)
  | noWordEdge (isAscii : Bool)
  deriving DecidableEq

/-- A step of matching. -/
inductive Step where
  | one (test : CharTest)
  | place (p : Place)
  /-- Notes the place in a slot. -/
  | mark (slot : Nat)
  | repeatOne (greed : Greed) (least : Nat) (most : Option Nat) (test : CharTest)
  | repeated (greed : Greed) (least : Nat) (most : Option Nat) (body : List Step)
  | branch (alternatives : List (List Step))
  | atomic (body : List Step)
  /-- Looks at the text from so many characters before. -/
  | look (back : Nat) (isNegated : Bool) (body : List Step)
  /-- The text of a group again, with the alphabet if case is ignored. -/
  | reference (group : Nat) (ignoreCase : Option Bool)
  | conditional (group : Nat) (yes no : List Step)
  | fail
  deriving Inhabited

mutual

/-- A bound for the nested steps of one run, for each character of the text. -/
def Step.weight : Step → Nat
  | .repeated _ least _ body => (weightOf body + 4) * (least + 2)
  | .branch alternatives => weightOfBranches alternatives + 2
  | .atomic body => weightOf body + 2
  | .look _ _ body => weightOf body + 2
  | .conditional _ yes no => weightOf yes + weightOf no + 2
  | _ => 2

/-- The bound for a sequence. -/
def weightOf : List Step → Nat
  | [] => 2
  | s :: rest => s.weight + weightOf rest

/-- The bound for alternatives. -/
def weightOfBranches : List (List Step) → Nat
  | [] => 0
  | steps :: rest => weightOf steps + weightOfBranches rest

end

/-- The place of an anchor. -/
def Anchor.place (options : Options) : Anchor → Place
  | .lineStart => if options.multiline then .lineStart else .textStart
  | .lineEnd => if options.multiline then .lineEnd else .lastLineEnd
  | .textStart => .textStart
  | .textEnd => .textEnd
  | .wordEdge => .wordEdge !options.unicode
  | .noWordEdge => .noWordEdge !options.unicode

/-- A repeat. One character is repeated in a way of its own. -/
def repeatStep (greed : Greed) (least : Nat) (most : Option Nat) : List Step → Step
  | [.one test] => .repeatOne greed least most test
  | body => .repeated greed least most body

/-- The test of a set under settings. -/
def setTest (options : Options) (isNegated : Bool) (members : List Member) : Step :=
  .one (.set (!options.unicode) options.ignoreCase isNegated members)

mutual

/-- The steps of a part. -/
def Node.lower (widths : Nat → Width) (options : Options) : Node → Except Fault (List Step)
  | .code n => .ok [setTest options false [.code n]]
  | .notCode n => .ok [setTest options true [.code n]]
  | .any => .ok [.one (if options.dotAll then .any else .notLineFeed)]
  | .set isNegated members => .ok [setTest options isNegated members]
  | .anchor a => .ok [.place (a.place options)]
  | .repeated greed least most body =>
    if options.template then .error (.malformed (.templateRepeat greed.name) none)
    else do
      let body ← lower widths options body
      .ok [repeatStep greed least most body]
  | .group number on off body => do
    let body ← lower widths (options.within on off) body
    match number with
    | none => .ok body
    | some n => .ok (.mark (2 * n - 2) :: body ++ [.mark (2 * n - 1)])
  | .atomic body => do .ok [.atomic (← lower widths options body)]
  | .look isBehind isNegated body => do
    let (low, high) := widthOf widths body
    if isBehind && repeatLimit < low then
      .error (.malformed .lookbehindLength none)
    else if isBehind && low ≠ high then
      .error (.malformed .lookbehindWidth none)
    else
      .ok [.look (if isBehind then low else 0) isNegated (← lower widths options body)]
  | .reference group =>
    .ok [.reference group (if options.ignoreCase then some !options.unicode else none)]
  | .conditional group yes no => do
    let yes ← lower widths options yes
    match no with
    | none => .ok [.conditional group yes []]
    | some no => .ok [.conditional group yes (← lower widths options no)]
  | .branch alternatives => do .ok [.branch (← lowerBranches widths options alternatives)]
  | .fail => .ok [.fail]

/-- The steps of a sequence. -/
def lower (widths : Nat → Width) (options : Options) : List Node → Except Fault (List Step)
  | [] => .ok []
  | n :: ns => do
    let first ← n.lower widths options
    let rest ← lower widths options ns
    .ok (first ++ rest)

/-- The steps of alternatives. -/
def lowerBranches (widths : Nat → Width) (options : Options) :
    List (List Node) → Except Fault (List (List Step))
  | [] => .ok []
  | body :: bodies => do
    let first ← lower widths options body
    let rest ← lowerBranches widths options bodies
    .ok (first :: rest)

end

end Regex

/-- A regular expression, ready for matching. -/
structure Regex where
  steps : List Regex.Step
  /-- The number of places that groups note. -/
  slots : Nat
  deriving Inhabited

namespace Regex

/-- Makes the steps of an expression by nested calls. -/
def Expression.steps (e : Expression) (room : Option Nat) : Except Fault (List Step) :=
  let options := if e.options.ascii then e.options else { e.options with unicode := true }
  let widths number := (e.widths.getD number none).getD (0, 0)
  if room.any (· ≤ depthOf e.nodes) then .error .tooDeep else lower widths options e.nodes

/-- Reads an expression and makes its steps. -/
def compile (text : List Char) (halves : List (Nat × Nat) := []) (setup : Setup := {}) :
    Except Fault Regex := do
  let e ← parse text halves setup
  let steps ← e.steps setup.room
  .ok { steps, slots := 2 * (e.widths.size - 1) }

end ChecklistReview.Regex
