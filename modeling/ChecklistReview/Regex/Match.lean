import ChecklistReview.Regex.Step

/-!
# Matching

Matching tries the ways through an expression one after another until one reaches the end. The
places that groups have noted are kept from way to way, as far as they are not put back: inside
a repeat all of them are put back when a way fails, and outside only their number is.

## Main definitions

* `Marks` are the places that groups have noted.
* `Next` is what remains to be matched after a sequence.
* `run` matches a sequence and what remains after it.
* `Regex.matchAt?` gives the end of a match that starts at an offset.
* `Regex.search?` finds the first match from an offset.
* `Regex.findAll` lists the matches of a text from left to right.
-/

namespace ChecklistReview.Regex

/-- The places that groups have noted. Slots from `count` on hold nothing. -/
structure Marks where
  slots : Array (Option Nat)
  count : Nat

namespace Marks

/-- No places. -/
def empty (size : Nat) : Marks := { slots := Array.replicate size none, count := 0 }

/-- Empties the slots from one number up to another. -/
def clear (slots : Array (Option Nat)) (first : Nat) : Nat → Array (Option Nat)
  | 0 => slots
  | n + 1 => clear (slots.setIfInBounds first none) (first + 1) n

/-- Notes a place in a slot. Slots that are passed over hold nothing. -/
def note (m : Marks) (slot place : Nat) : Marks :=
  let slots := clear m.slots m.count (slot - m.count)
  { slots := slots.setIfInBounds slot (some place), count := max m.count (slot + 1) }

/-- The place in a slot. -/
def get? (m : Marks) (slot : Nat) : Option Nat :=
  if slot < m.count then m.slots.getD slot none else none

/-- Start and end of a group that has matched. -/
def group? (m : Marks) (number : Nat) : Option (Nat × Nat) := do
  let start ← m.get? (2 * number - 2)
  let stop ← m.get? (2 * number - 1)
  if start ≤ stop then some (start, stop) else none

/-- What is known after a way has failed: inside a repeat what was known before, and outside
the places that the way left, as far as there were places before. -/
def afterFailure (isNested : Bool) (before left : Marks) : Marks :=
  if isNested then before else { left with count := before.count }

end Marks

/-- The end of a match, if there is one, and the places noted on the way. -/
abbrev Outcome := Option Nat × Marks

/-- A repeat that has begun. -/
structure Loop where
  isLazy : Bool
  least : Nat
  most : Option Nat
  body : List Step
  /-- How often the body has matched. -/
  count : Nat
  /-- Where the last free repetition started. -/
  last : Option Nat

/-- What remains to be matched. -/
inductive Next where
  /-- Nothing: the match ends here. -/
  | done
  /-- A sequence, inside a repeat or not. -/
  | sequence (steps : List Step) (isNested : Bool) (next : Next)
  /-- The rest of a repeat, and what follows it, inside an outer repeat or not. -/
  | loop (l : Loop) (isNested : Bool) (next : Next)

/-- Tries ways one after another, and puts marks back after each that fails. -/
def tryEach {α : Type} (putBack : Marks → Marks) (way : α → Marks → Outcome) :
    List α → Marks → Outcome
  | [], m => (none, m)
  | a :: rest, m =>
    match way a m with
    | (some stop, m) => (some stop, m)
    | (none, m) => tryEach putBack way rest (putBack m)

/-- How many characters from a place pass a test, up to a limit. -/
def countPassing (text : Array Char) (test : CharTest) : Nat → Nat → Nat
  | 0, _ => 0
  | limit + 1, place =>
    match text[place]? with
    | some c => if test.accepts c then countPassing text test limit (place + 1) + 1 else 0
    | none => 0

/-- Whether the character at a place is part of a word. -/
def isWordAt (text : Array Char) (isAscii : Bool) (place : Nat) : Bool :=
  text[place]?.any (Category.word.holds isAscii)

/-- Whether a word starts or ends at a place. -/
def isWordEdge (text : Array Char) (isAscii : Bool) (place : Nat) : Bool :=
  (0 < place && isWordAt text isAscii (place - 1)) != isWordAt text isAscii place

/-- Whether a condition holds at a place. An empty text has neither edges of words nor places
without one. -/
def Place.holds (text : Array Char) (place : Nat) : Place → Bool
  | .textStart => place = 0
  | .lineStart => place = 0 || text[place - 1]? = some '\n'
  | .textEnd => place = text.size
  | .lastLineEnd => place = text.size || (place + 1 = text.size && text[place]? = some '\n')
  | .lineEnd => place = text.size || text[place]? = some '\n'
  | .wordEdge isAscii => !text.isEmpty && isWordEdge text isAscii place
  | .noWordEdge isAscii => !text.isEmpty && !isWordEdge text isAscii place

/-- Whether two characters are the same, or the same in lower case. -/
def isSameChar (ignoreCase : Option Bool) (a b : Char) : Bool :=
  match ignoreCase with
  | none => a = b
  | some true => Text.lowerAscii a.toNat = Text.lowerAscii b.toNat
  | some false => Text.lowerCode a.toNat = Text.lowerCode b.toNat

/-- Whether the text at two places is the same for so many characters. -/
def isSameText (text : Array Char) (ignoreCase : Option Bool) : Nat → Nat → Nat → Bool
  | 0, _, _ => true
  | n + 1, i, j =>
    match text[i]?, text[j]? with
    | some a, some b => isSameChar ignoreCase a b && isSameText text ignoreCase n (i + 1) (j + 1)
    | _, _ => false

/-- The numbers from one to another, in the order in which a repeat tries them. -/
def tries (greed : Greed) (least count : Nat) : List Nat :=
  let upward := (List.range (count + 1 - least)).map (· + least)
  match greed with
  | .greedy => upward.reverse
  | .lazy => upward
  | .possessive => [count]

/-- Matches a body as often as possible, and at most so often. A body that takes nothing is
matched once. -/
def matchOften (body : Nat → Marks → Outcome) (bound : Nat) (most : Option Nat) :
    Nat → Nat → Marks → Nat × Marks
  | 0, place, m => (place, m)
  | fuel + 1, place, m =>
    if most = some (bound - (fuel + 1)) then (place, m)
    else
      match body place m with
      | (none, _) => (place, m)
      | (some stop, m') =>
        if stop = place then (stop, m') else matchOften body bound most fuel stop m'

/-- Matches a body exactly so often. -/
def matchTimes (body : Nat → Marks → Outcome) : Nat → Nat → Marks → Outcome
  | 0, place, m => (some place, m)
  | n + 1, place, m =>
    match body place m with
    | (none, m) => (none, m)
    | (some stop, m) => matchTimes body n stop m

variable (text : Array Char)

mutual

/-- Matches a sequence at a place, and what remains after it. The fuel bounds how deep the steps
are nested. -/
def run : Nat → List Step → Bool → Next → Nat → Marks → Outcome
  | 0, _, _, _, _, m => (none, m)
  | fuel + 1, [], _, next, place, m => resume fuel next place m
  | fuel + 1, step :: rest, isNested, next, place, m =>
    match step with
    | .one test =>
      match text[place]? with
      | some c =>
        if test.accepts c then run fuel rest isNested next (place + 1) m else (none, m)
      | none => (none, m)
    | .place p => if p.holds text place then run fuel rest isNested next place m else (none, m)
    | .mark slot => run fuel rest isNested next place (m.note slot place)
    | .fail => (none, m)
    | .repeatOne greed least most test =>
      let left := text.size - place
      let count := countPassing text test (min left (most.getD left)) place
      if count < least then (none, m)
      else
        tryEach (Marks.afterFailure isNested m)
          (fun n m => run fuel rest isNested next (place + n) m) (tries greed least count) m
    | .repeated .possessive least most body =>
      let once := run fuel body true .done
      match matchTimes once least place m with
      | (none, m) => (none, m)
      | (some place, m) =>
        let bound := text.size + 1
        let (place, m) := matchOften once bound (most.map (· - least)) bound place m
        run fuel rest isNested next place m
    | .repeated greed least most body =>
      let l : Loop := { isLazy := greed = .lazy, least, most, body, count := 0, last := none }
      resume fuel (.loop l isNested (.sequence rest isNested next)) place m
    | .branch alternatives =>
      tryEach (Marks.afterFailure isNested m)
        (fun steps m => run fuel steps isNested (.sequence rest isNested next) place m)
        alternatives m
    | .atomic body =>
      match run fuel body isNested .done place m with
      | (none, m) => (none, m)
      | (some place, m) => run fuel rest isNested next place m
    | .look back isNegated body =>
      if place < back then
        if isNegated then run fuel rest isNested next place m else (none, m)
      else
        match run fuel body isNested .done (place - back) m, isNegated with
        | (some _, m), false => run fuel rest isNested next place m
        | (none, m), false => (none, m)
        | (some _, m), true => (none, m)
        | (none, left), true =>
          run fuel rest isNested next place (Marks.afterFailure isNested m left)
    | .reference group ignoreCase =>
      match m.group? group with
      | none => (none, m)
      | some (start, stop) =>
        if isSameText text ignoreCase (stop - start) start place then
          run fuel rest isNested next (place + (stop - start)) m
        else (none, m)
    | .conditional group yes no =>
      let steps := if (m.group? group).isSome then yes else no
      run fuel steps isNested (.sequence rest isNested next) place m

/-- Matches what remains at a place. -/
def resume : Nat → Next → Nat → Marks → Outcome
  | 0, _, _, m => (none, m)
  | fuel + 1, next, place, m =>
    match next with
    | .done => (some place, m)
    | .sequence steps isNested next => run fuel steps isNested next place m
    | .loop l isNested next =>
      let again := { l with count := l.count + 1 }
      let free := { again with last := some place }
      let mayGoOn := l.most.all (l.count < ·) && l.last ≠ some place
      if l.count < l.least then
        run fuel l.body true (.loop again isNested next) place m
      else if l.isLazy then
        match resume fuel next place m with
        | (some stop, m) => (some stop, m)
        | (none, left) =>
          let m := Marks.afterFailure isNested m left
          if mayGoOn then run fuel l.body true (.loop free isNested next) place m else (none, m)
      else if mayGoOn then
        match run fuel l.body true (.loop free isNested next) place m with
        | (some stop, m) => (some stop, m)
        | (none, _) => resume fuel next place m
      else resume fuel next place m

end

/-- The end of the match that starts at an offset. -/
def matchAt? (r : Regex) (text : Array Char) (offset : Nat) : Option Nat :=
  let fuel := (weightOf r.steps + 2) * (text.size + 2)
  (run text fuel r.steps false .done offset (.empty r.slots)).1

/-- A match. -/
structure Span where
  start : Nat
  stop : Nat
  deriving DecidableEq

/-- The first match that starts at an offset or up to so many characters after it. -/
def searchFrom? (r : Regex) (text : Array Char) : Nat → Nat → Option Span
  | 0, offset => (r.matchAt? text offset).map fun stop => { start := offset, stop }
  | more + 1, offset =>
    match r.matchAt? text offset with
    | some stop => some { start := offset, stop }
    | none => searchFrom? r text more (offset + 1)

/-- The first match from an offset on. -/
def search? (r : Regex) (text : Array Char) (offset : Nat) : Option Span :=
  if offset ≤ text.size then searchFrom? r text (text.size - offset) offset else none

/-- The matches from an offset on. After an empty match the search goes on one character
further. -/
def matchesFrom (r : Regex) (text : Array Char) : Nat → Nat → List Span
  | 0, _ => []
  | fuel + 1, offset =>
    match r.search? text offset with
    | none => []
    | some span =>
      let after := if span.stop = span.start then span.stop + 1 else span.stop
      span :: matchesFrom r text fuel after

/-- The matches of a text from left to right, none of which overlap. -/
def findAll (r : Regex) (text : Array Char) : List Span := matchesFrom r text (text.size + 1) 0

end ChecklistReview.Regex
