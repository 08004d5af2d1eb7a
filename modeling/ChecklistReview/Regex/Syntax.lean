/-!
# Regular expressions

The parts of a regular expression as they are written: characters, sets, anchors, groups,
repeats and assertions. Characters are kept as code points, because an expression may name code
points that are no characters.

## Main definitions

* `Options` are the settings that groups turn on and off.
* `Node` is a part of an expression; a sequence of parts is a list.
* `Node.width` bounds the number of characters that a part takes.
* `Node.depth` is how deep a part is nested.
-/

namespace ChecklistReview.Regex

/-- Settings of an expression. -/
structure Options where
  ignoreCase : Bool := false
  locale : Bool := false
  multiline : Bool := false
  dotAll : Bool := false
  verbose : Bool := false
  ascii : Bool := false
  template : Bool := false
  unicode : Bool := false
  deriving DecidableEq, Inhabited

namespace Options

/-- Settings that are in both. -/
def inter (a b : Options) : Options :=
  { ignoreCase := a.ignoreCase && b.ignoreCase, locale := a.locale && b.locale
    multiline := a.multiline && b.multiline, dotAll := a.dotAll && b.dotAll
    verbose := a.verbose && b.verbose, ascii := a.ascii && b.ascii
    template := a.template && b.template, unicode := a.unicode && b.unicode }

/-- Settings that are in one of the two. -/
def union (a b : Options) : Options :=
  { ignoreCase := a.ignoreCase || b.ignoreCase, locale := a.locale || b.locale
    multiline := a.multiline || b.multiline, dotAll := a.dotAll || b.dotAll
    verbose := a.verbose || b.verbose, ascii := a.ascii || b.ascii
    template := a.template || b.template, unicode := a.unicode || b.unicode }

/-- Settings that are in the first only. -/
def diff (a b : Options) : Options :=
  { ignoreCase := a.ignoreCase && !b.ignoreCase, locale := a.locale && !b.locale
    multiline := a.multiline && !b.multiline, dotAll := a.dotAll && !b.dotAll
    verbose := a.verbose && !b.verbose, ascii := a.ascii && !b.ascii
    template := a.template && !b.template, unicode := a.unicode && !b.unicode }

/-- No setting is on. -/
def isEmpty (a : Options) : Bool := a = {}

/-- The settings that choose the alphabet, of which only one may be on. -/
def alphabet : Options := { locale := true, ascii := true, unicode := true }

/-- The settings that hold for a whole expression only. -/
def wholeOnly : Options := { template := true }

/-- The setting of a letter. -/
def ofLetter? : Char → Option Options
  | 'i' => some { ignoreCase := true }
  | 'L' => some { locale := true }
  | 'm' => some { multiline := true }
  | 's' => some { dotAll := true }
  | 'x' => some { verbose := true }
  | 'a' => some { ascii := true }
  | 't' => some { template := true }
  | 'u' => some { unicode := true }
  | _ => none

/-- The settings inside a group that turns some on and others off. A new alphabet replaces the
old one. -/
def within (outer on off : Options) : Options :=
  let base := if (on.inter alphabet).isEmpty then outer else outer.diff alphabet
  (base.union on).diff off

end Options

/-- Kinds of characters that have a letter. -/
inductive Category where
  | digit
  | space
  | word
  deriving DecidableEq

/-- A member of a set. -/
inductive Member where
  | code (n : Nat)
  | range (low high : Nat)
  | category (c : Category) (isNegated : Bool)
  deriving DecidableEq

/-- A place between characters. -/
inductive Anchor where
  /-- The start of the text, or of a line. -/
  | lineStart
  /-- The end of the text or of its last line, or of a line. -/
  | lineEnd
  | textStart
  | textEnd
  | wordEdge
  | noWordEdge
  deriving DecidableEq

/-- In which order the numbers of repetitions are tried. -/
inductive Greed where
  /-- The most first. -/
  | greedy
  /-- The fewest first. -/
  | lazy
  /-- The most only. -/
  | possessive
  deriving DecidableEq

/-- The name of a repeat. -/
def Greed.name : Greed → String
  | .greedy => "MAX_REPEAT"
  | .lazy => "MIN_REPEAT"
  | .possessive => "POSSESSIVE_REPEAT"

/-- A part of an expression. -/
inductive Node where
  | code (n : Nat)
  | notCode (n : Nat)
  | any
  | set (isNegated : Bool) (members : List Member)
  | anchor (a : Anchor)
  | repeated (greed : Greed) (least : Nat) (most : Option Nat) (body : List Node)
  | group (number : Option Nat) (on off : Options) (body : List Node)
  | atomic (body : List Node)
  | look (isBehind isNegated : Bool) (body : List Node)
  | reference (group : Nat)
  | conditional (group : Nat) (yes : List Node) (no : Option (List Node))
  | branch (alternatives : List (List Node))
  | fail
  deriving Inhabited

/-- Numbers of repetitions are below this one. -/
def repeatLimit : Nat := 4294967295

/-- Least and greatest number of characters. -/
abbrev Width := Nat × Nat

/-- Widths above this one are not told apart. -/
def widthLimit : Nat := 18446744073709551616

/-- A width cut off at the greatest numbers that are told apart. -/
def Width.cut (w : Width) : Width := (min w.1 widthLimit, min w.2 widthLimit)

mutual

/-- How many characters a part takes. The widths of groups are given. -/
def Node.width (groups : Nat → Width) : Node → Width
  | .code _ | .notCode _ | .any | .set _ _ => (1, 1)
  | .anchor _ | .look _ _ _ | .fail => (0, 0)
  | .repeated _ least most body =>
    let (low, high) := widthOf groups body
    (low * least, high * most.getD widthLimit)
  | .group _ _ _ body | .atomic body => widthOf groups body
  | .reference group => groups group
  | .conditional _ yes no =>
    let (low, high) := widthOf groups yes
    match no with
    | some no =>
      let (low', high') := widthOf groups no
      (min low low', max high high')
    | none => (0, high)
  | .branch alternatives => widthOfBranches groups alternatives

/-- How many characters a sequence takes. -/
def widthOf (groups : Nat → Width) (body : List Node) : Width :=
  let (low, high) := sumOfWidths groups body
  Width.cut (low, high)

/-- The sum of the widths of parts. -/
def sumOfWidths (groups : Nat → Width) : List Node → Width
  | [] => (0, 0)
  | n :: ns =>
    let (low, high) := n.width groups
    let (low', high') := sumOfWidths groups ns
    (low + low', high + high')

/-- Least and greatest width of alternatives. -/
def widthOfBranches (groups : Nat → Width) : List (List Node) → Width
  | [] => (widthLimit, 0)
  | body :: bodies =>
    let (low, high) := widthOf groups body
    let (low', high') := widthOfBranches groups bodies
    (min low low', max high high')

end

mutual

/-- How deep sequences are nested in a part. -/
def Node.depth : Node → Nat
  | .repeated _ _ _ body | .group _ _ _ body | .atomic body | .look _ _ body => depthOf body + 1
  | .conditional _ yes none => depthOf yes + 1
  | .conditional _ yes (some no) => max (depthOf yes) (depthOf no) + 1
  | .branch alternatives => depthOfBranches alternatives + 1
  | _ => 0

/-- How deep sequences are nested in a sequence. -/
def depthOf : List Node → Nat
  | [] => 0
  | n :: ns => max n.depth (depthOf ns)

/-- How deep sequences are nested in alternatives. -/
def depthOfBranches : List (List Node) → Nat
  | [] => 0
  | body :: bodies => max (depthOf body) (depthOfBranches bodies)

end

/-- Whether two parts are the same character, set, anchor or reference. Parts with sequences in
them are never the same. -/
def Node.isSame : Node → Node → Bool
  | .code a, .code b => a = b
  | .notCode a, .notCode b => a = b
  | .any, .any => true
  | .set n a, .set m b => n = m && a = b
  | .anchor a, .anchor b => a = b
  | .reference a, .reference b => a = b
  | .fail, .fail => true
  | _, _ => false

end ChecklistReview.Regex
