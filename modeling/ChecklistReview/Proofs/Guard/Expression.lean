import ChecklistReview.Proofs.Guard.Grammar
import ChecklistReview.Proofs.Regex.FindAll
import ChecklistReview.Proofs.Regex.Meaning
import ChecklistReview.Proofs.Regex.Reading

/-!
# Guards as a regular expression

The guards of a name are also what a regular expression matches: the name is quoted, comparisons
and literals are choices, blanks are repeated greedily, and two assertions look at what stands on
the left and on the right. The expression is read as it should be whatever the name is, and
matching it finds what reading a guard finds.

## Main statements

* `expression`: the regular expression for a name.
* `compile_expression`: its steps.
* `matchAt?_guardRegex`: it matches at an offset exactly the guard that starts there.
* `guard_recognised`: searching finds the first guard of the grammar.
-/

namespace ChecklistReview.Guard

open Text Regex

-- ════════════════════════════════════════════════════════════════════════
-- The expression and its steps
-- ════════════════════════════════════════════════════════════════════════

/-- The regular expression for the guards of a name. -/
def expression (name : List Char) : List Char :=
  "(?<![\\w$.])".toList ++ quote name ++ "\\s*(?:".toList ++
    List.intercalate ['|'] (operators.map quote) ++ ")\\s*(?:".toList ++
    List.intercalate ['|'] literals ++ ")(?![\\w$])".toList

/-- The test for characters that would make the name part of a longer one. -/
def leftTest : CharTest :=
  .set false false false [.category .word false, .code '$'.toNat, .code '.'.toNat]

/-- The test for characters that would make the literal part of a longer name. -/
def rightTest : CharTest := .set false false false [.category .word false, .code '$'.toNat]

/-- The test for blanks. -/
def blankTest : CharTest := .set false false false [.category .space false]

/-- The expression for the guards of a name, ready for matching. -/
def guardRegex (name : List Char) : Regex where
  steps := .look 1 true [.one leftTest] :: (wordSteps name ++
    [.repeatOne .greedy 0 none blankTest, .branch (operators.map wordSteps),
      .repeatOne .greedy 0 none blankTest, .branch (literals.map wordSteps),
      .look 0 true [.one rightTest]])
  slots := 0

/-- The assertion about what stands on the left. -/
def leftNode : Node :=
  .look true true [.set false [.category .word false, .code '$'.toNat, .code '.'.toNat]]

/-- The assertion about what stands on the right. -/
def rightNode : Node := .look false true [.set false [.category .word false, .code '$'.toNat]]

/-- Blanks. -/
def blankNode : Node := .repeated .greedy 0 none [.set false [.category .space false]]

/-- A choice of words. -/
def choiceNode (words : List (List Char)) : Node :=
  .group none {} {} (joinAlternatives (words.map wordNodes))

/-- The parts of the expression. -/
def guardNodes (name : List Char) : List Node :=
  [leftNode] ++ (wordNodes name ++ [blankNode, .branch (operators.map wordNodes), blankNode,
    .branch (literals.map wordNodes), rightNode])

section Reading

variable {fuel : Nat} {isStart : Bool} {before nodes : List Node} {taken left : List Char}

theorem takes_blanks (hlazy : firstToken? (taken ++ left) ≠ some (.plain '?'))
    (hpossessive : firstToken? (taken ++ left) ≠ some (.plain '+')) (hleft : taken ++ left ≠ ['\\'])
    (h : Takes (parseSequence fuel none false isStart (before ++ [blankNode])) taken left nodes) :
    Takes (parseSequence (fuel + 2) none false isStart before) ('\\' :: 's' :: '*' :: taken) left
      nodes :=
  takes_sequence_escape (fun _ _ _ => rfl) (by simp)
    (takes_sequence_star hlazy hpossessive hleft h)

theorem takes_set_left :
    Takes parseSet ['\\', 'w', '$', '.', ']'] (')' :: left)
      (.set false [.category .word false, .code '$'.toNat, .code '.'.toNat]) := by
  refine takes_set (by decide) (by simp) (by simp [firstToken?]) ?_
  intro start fuel hfuel
  obtain ⟨fuel, rfl⟩ := Nat.exists_eq_add_of_le' hfuel
  refine takes_members_category rfl (by simp) (by simp [firstToken?]) ?_
  refine takes_members_plain (by decide) (by simp) (by simp [firstToken?]) ?_
  refine takes_members_plain (by decide) (by simp) (by simp [firstToken?]) ?_
  exact takes_members_end (by simp) (by simp)

theorem takes_set_right :
    Takes parseSet ['\\', 'w', '$', ']'] (')' :: left)
      (.set false [.category .word false, .code '$'.toNat]) := by
  refine takes_set (by decide) (by simp) (by simp [firstToken?]) ?_
  intro start fuel hfuel
  obtain ⟨fuel, rfl⟩ := Nat.exists_eq_add_of_le' hfuel
  refine takes_members_category rfl (by simp) (by simp [firstToken?]) ?_
  refine takes_members_plain (by decide) (by simp) (by simp [firstToken?]) ?_
  exact takes_members_end (by simp) (by simp)

/-- The expression in the order in which it is read. -/
theorem expression_eq (name : List Char) :
    expression name = '(' :: (['?', '<', '!'] ++ ('[' :: (['\\', 'w', '$', '.', ']'] ++ ')' ::
      (quote name ++ ('\\' :: 's' :: '*' :: '(' :: '?' :: ':' ::
        (List.intercalate ['|'] (operators.map quote) ++ ')' :: '\\' :: 's' :: '*' ::
          '(' :: '?' :: ':' :: (List.intercalate ['|'] (literals.map quote) ++ ')' ::
            '(' :: (['?', '!'] ++ ('[' :: (['\\', 'w', '$', ']'] ++ [')'])))))))))) := by
  have hbehind : "(?<![\\w$.])".toList = ['(', '?', '<', '!', '[', '\\', 'w', '$', '.', ']', ')'] :=
    rfl
  have hopen : "\\s*(?:".toList = ['\\', 's', '*', '(', '?', ':'] := rfl
  have hbetween : ")\\s*(?:".toList = [')', '\\', 's', '*', '(', '?', ':'] := rfl
  have hahead : ")(?![\\w$])".toList = [')', '(', '?', '!', '[', '\\', 'w', '$', ']', ')'] := rfl
  have hliterals : literals.map quote = literals := by decide
  unfold expression
  simp only [hbehind, hopen, hbetween, hahead, hliterals, List.append_assoc, List.cons_append,
    List.nil_append]

theorem takes_expression (name : List Char) (more : Nat) :
    Takes (parseSequence (more + 20 + name.length + 1) none false true []) (expression name) []
      ([leftNode] ++ wordNodes name ++ [blankNode] ++ [choiceNode operators] ++ [blankNode] ++
        [choiceNode literals] ++ [rightNode]) := by
  have hfuel : ∀ words : List (List Char), (∀ word ∈ words, word.length + words.length + 1 ≤ 12) →
      ∀ fuel, 12 ≤ fuel → ∀ word ∈ words, word.length + words.length + 1 ≤ fuel := by
    intro words hwords fuel hle word hword
    exact Nat.le_trans (hwords word hword) hle
  rw [expression_eq]
  have hname : more + 20 + name.length + 1 = more + name.length + 15 + 6 := by omega
  rw [hname]
  refine takes_sequence_look takes_opening_behind takes_set_left ?_ ?_
  · rw [List.append_nil]
    exact quote_append_ne name (by simp)
  have hname' : more + name.length + 15 + 5 = more + 20 + name.length := by omega
  rw [hname']
  refine takes_sequence_quote (by simp) ?_
  refine takes_blanks (by simp [firstToken?]) (by simp [firstToken?]) (by simp) ?_
  refine takes_sequence_choice (by decide) (hfuel operators (by decide) _ (by omega)) (by simp) ?_
  refine takes_blanks (by simp [firstToken?]) (by simp [firstToken?]) (by simp) ?_
  refine takes_sequence_choice (by decide) (hfuel literals (by decide) _ (by omega)) (by simp) ?_
  refine takes_sequence_look takes_opening_ahead takes_set_right (by simp) ?_
  exact takes_sequence_end (.inl rfl)

theorem parse_expression (name : List Char) :
    Regex.parse (expression name) =
      .ok { nodes := guardNodes name, options := {}, widths := #[none] } := by
  have hlength : name.length + 20 ≤ (expression name).length := by
    have hname := length_le_length_quote name
    rw [expression_eq]
    simp only [List.length_append, List.length_cons, List.length_nil]
    omega
  obtain ⟨more, hmore⟩ : ∃ more, 4 * (expression name).length + 8 =
      more + 20 + name.length + 1 + 1 + 1 :=
    ⟨4 * (expression name).length - name.length - 15, by omega⟩
  have hnodes := takes_expression name more
  have hitems := @takes_items_one _ _ _ true [] _ hnodes (by simp [firstToken?])
  have halternatives := takes_alternatives hitems
  rw [← hmore] at halternatives
  have hopened : openPlainGroups ([leftNode] ++ wordNodes name ++ [blankNode] ++
      [choiceNode operators] ++ [blankNode] ++ [choiceNode literals] ++ [rightNode]) =
      guardNodes name := by
    simp only [openPlainGroups_append, openPlainGroups_wordNodes, List.append_assoc]
    rfl
  rw [hopened] at halternatives
  refine parse_eq_of_takes ?_ halternatives
  rw [expression_eq]
  simp

end Reading

theorem lower_append {widths : Nat → Width} {options : Options} {first second : List Node}
    {steps steps' : List Step} (hfirst : lower widths options first = .ok steps)
    (hsecond : lower widths options second = .ok steps') :
    lower widths options (first ++ second) = .ok (steps ++ steps') := by
  induction first generalizing steps with
  | nil =>
    obtain rfl := Except.ok.inj hfirst
    exact hsecond
  | cons node first ih =>
    rw [lower] at hfirst
    rw [List.cons_append, lower]
    cases hnode : node.lower widths options with
    | error fault =>
      rw [hnode] at hfirst
      cases hfirst
    | ok own =>
      rw [hnode] at hfirst
      cases hrest : lower widths options first with
      | error fault =>
        rw [hrest] at hfirst
        cases hfirst
      | ok others =>
        rw [hrest] at hfirst
        obtain rfl := Except.ok.inj hfirst
        rw [ih hrest]
        exact congrArg Except.ok (List.append_assoc own others steps').symm

theorem lower_wordNodes (widths : Nat → Width) (word : List Char) :
    lower widths { unicode := true } (wordNodes word) = .ok (wordSteps word) := by
  induction word with
  | nil => rfl
  | cons c word ih =>
    rw [wordNodes, List.map_cons, lower, ← wordNodes, ih]
    rfl

/-- The expression is read as it should be, whatever characters the name has. -/
theorem compile_expression (name : List Char) :
    compile (expression name) = .ok (guardRegex name) := by
  have hlower : ∀ widths, lower widths { unicode := true } (guardNodes name) =
      .ok (guardRegex name).steps := by
    intro widths
    have hwidth : widthOf widths
        [.set false [.category .word false, .code '$'.toNat, .code '.'.toNat]] = (1, 1) := by
      simp [widthOf, sumOfWidths, Node.width, Width.cut, widthLimit]
    have hleft : lower widths { unicode := true } [leftNode] =
        .ok [.look 1 true [.one leftTest]] := by
      rw [lower, leftNode, Node.lower, hwidth]
      rfl
    have hrest : lower widths { unicode := true } [blankNode, .branch (operators.map wordNodes),
        blankNode, .branch (literals.map wordNodes), rightNode] =
        .ok [.repeatOne .greedy 0 none blankTest, .branch (operators.map wordSteps),
          .repeatOne .greedy 0 none blankTest, .branch (literals.map wordSteps),
          .look 0 true [.one rightTest]] :=
      rfl
    exact lower_append hleft (lower_append (lower_wordNodes widths name) hrest)
  rw [compile, parse_expression]
  show (lower _ { unicode := true } (guardNodes name) >>= fun steps => _) = _
  rw [hlower]
  rfl

-- ════════════════════════════════════════════════════════════════════════
-- What the expression matches
-- ════════════════════════════════════════════════════════════════════════

theorem accepts_leftTest (c : Char) : leftTest.accepts c = joinsLeft c := by
  have hdollar : c.toNat = 36 ↔ c = '$' := @Char.toNat_inj c '$'
  have hdot : c.toNat = 46 ↔ c = '.' := @Char.toNat_inj c '.'
  simp [leftTest, CharTest.accepts, Member.holds, Category.holds, joinsLeft, hdollar, hdot,
    Bool.or_assoc]

theorem accepts_rightTest (c : Char) : rightTest.accepts c = joinsRight c := by
  have hdollar : c.toNat = 36 ↔ c = '$' := @Char.toNat_inj c '$'
  simp [rightTest, CharTest.accepts, Member.holds, Category.holds, joinsRight, hdollar]

theorem accepts_blankTest (c : Char) : blankTest.accepts c = isBlank c := by
  simp [blankTest, CharTest.accepts, Member.holds, Category.holds]

/-- What may follow a literal. -/
def ending? (rest : List Char) : Option (List Char) :=
  if rest.head?.any joinsRight then none else some rest

/-- What follows the blanks before a literal, the literal and no more of it. -/
def afterValue? (left : List Char) : Option (List Char) :=
  (afterLiteral? (left.dropWhile isBlank)).bind ending?

/-- What follows the blanks before a comparison, the comparison and the literal. -/
def afterComparison? (left : List Char) : Option (List Char) :=
  (afterOperator? (left.dropWhile isBlank)).bind afterValue?

section Matching

variable {text : Array Char}

theorem reads_ending : Reads text [.look 0 true [.one rightTest]] .done ending? := by
  refine (Yields.look (yields_done.one rightTest) yields_done 0).congr fun place hplace => ?_
  have hend : text.size - (text.toList.drop place).length = place := by
    rw [List.length_drop, Array.length_toList, Nat.sub_sub_self hplace]
  rw [Nat.sub_zero, getElem?_eq_head?, endOf, ending?, funext accepts_rightTest]
  by_cases hjoins : (text.toList.drop place).head?.any joinsRight = true
  · rw [if_pos hjoins, if_pos hjoins, if_pos ⟨Nat.zero_le place, rfl⟩, Option.map_none]
  · rw [if_neg hjoins, if_neg hjoins, if_neg (by simp), Option.map_some, hend]

/-- A choice of words takes the one that is there, if no other word that is there can be gone on
after. -/
theorem findSome?_words {words : List (List Char)} {choice : Option (List Char)}
    {reader : List Char → Option (List Char)} {left : List Char}
    (hchoice : ∀ rest, choice = some rest → ∃ word ∈ words, left = word ++ rest)
    (hother : ∀ word ∈ words, ∀ rest, left = word ++ rest → choice = some rest ∨
      reader rest = none) :
    (words.findSome? fun word => (afterName? word left).bind reader) = choice.bind reader := by
  -- Whichever word is taken, the reader goes on after the choice or not at all.
  have hword : ∀ word ∈ words, ∀ stop, (afterName? word left).bind reader = some stop →
      choice.bind reader = some stop := by
    intro word hword stop hstop
    obtain ⟨rest, hrest, hreader⟩ := Option.bind_eq_some_iff.mp hstop
    rcases hother word hword rest (afterName?_eq_some_iff.mp hrest) with rfl | hnone
    · exact hreader
    · rw [hnone] at hreader
      cases hreader
  cases hfound : words.findSome? fun word => (afterName? word left).bind reader with
  | some stop =>
    obtain ⟨word, hmem, hstop⟩ := List.exists_of_findSome?_eq_some hfound
    exact (hword word hmem stop hstop).symm
  | none =>
    cases hread : choice.bind reader with
    | none => rfl
    | some stop =>
      obtain ⟨rest, rfl, hreader⟩ := Option.bind_eq_some_iff.mp hread
      obtain ⟨word, hmem, hleft⟩ := hchoice rest rfl
      have hnone := List.findSome?_eq_none_iff.mp hfound word hmem
      rw [afterName?_eq_some_iff.mpr hleft, Option.bind_some, hreader] at hnone
      cases hnone

theorem findSome?_literals (reader : List Char → Option (List Char)) (left : List Char) :
    (literals.findSome? fun word => (afterName? word left).bind reader) =
      (afterLiteral? left).bind reader := by
  refine findSome?_words (fun rest hrest => afterLiteral?_eq_some_iff.mp hrest) ?_
  intro word hword rest hleft
  exact .inl (afterLiteral?_eq_some_iff.mpr ⟨word, hword, hleft⟩)

theorem findSome?_operators {reader : List Char → Option (List Char)}
    (hreader : ∀ left, reader ('=' :: left) = none) (left : List Char) :
    (operators.findSome? fun word => (afterName? word left).bind reader) =
      (afterOperator? left).bind reader := by
  refine findSome?_words (fun rest hrest => exists_of_afterOperator? hrest) ?_
  rintro word hword rest rfl
  by_cases hlonger : rest.head? = some '='
  · obtain ⟨more, rfl⟩ := List.head?_eq_some_iff.mp hlonger
    exact .inr (hreader more)
  · exact .inl (afterOperator?_append hword hlonger)

/-- Nothing but a literal is read as one. -/
theorem afterLiteral?_cons_eq_none {c : Char} (hc : isBlank c = true ∨ c = '=')
    (left : List Char) : afterLiteral? (c :: left) = none := by
  cases hread : afterLiteral? (c :: left) with
  | none => rfl
  | some rest =>
    obtain ⟨literal, hliteral, hleft⟩ := afterLiteral?_eq_some_iff.mp hread
    have hhead := head_literal hliteral rest c (by rw [← hleft]; rfl)
    rcases hc with hblank | hequals
    · rw [hhead.1] at hblank
      cases hblank
    · exact absurd hequals hhead.2

theorem afterOperator?_cons_eq_none {c : Char} (hc : isBlank c = true) (left : List Char) :
    afterOperator? (c :: left) = none := by
  cases hread : afterOperator? (c :: left) with
  | none => rfl
  | some rest =>
    obtain ⟨operator, hoperator, hleft⟩ := exists_of_afterOperator? hread
    have hhead := head_operator hoperator rest c (by rw [← hleft]; rfl)
    rw [hhead] at hc
    cases hc

theorem afterValue?_equals (left : List Char) : afterValue? ('=' :: left) = none := by
  rw [afterValue?, List.dropWhile_cons_of_neg (by decide), afterLiteral?_cons_eq_none (.inr rfl),
    Option.bind_none]

theorem reads_value :
    Reads text [.repeatOne .greedy 0 none blankTest, .branch (literals.map wordSteps),
      .look 0 true [.one rightTest]] .done afterValue? := by
  have hliteral := Reads.words (@reads_ending text) literals
  simp only [findSome?_literals] at hliteral
  have hblanks := hliteral.greedy blankTest fun c left hc => by
    rw [accepts_blankTest] at hc
    rw [afterLiteral?_cons_eq_none (.inl hc), Option.bind_none]
  rwa [funext accepts_blankTest] at hblanks

theorem reads_comparison :
    Reads text [.repeatOne .greedy 0 none blankTest, .branch (operators.map wordSteps),
      .repeatOne .greedy 0 none blankTest, .branch (literals.map wordSteps),
      .look 0 true [.one rightTest]] .done afterComparison? := by
  have hoperator := Reads.words (@reads_value text) operators
  simp only [findSome?_operators afterValue?_equals] at hoperator
  have hblanks := hoperator.greedy blankTest fun c left hc => by
    rw [accepts_blankTest] at hc
    rw [afterOperator?_cons_eq_none hc, Option.bind_none]
  rwa [funext accepts_blankTest] at hblanks

theorem length_le_of_after? {name text rest : List Char} (h : after? name text = some rest) :
    rest.length ≤ text.length := by
  obtain ⟨⟨guard, -, rfl⟩, -⟩ := after?_eq_some_iff.mp h
  rw [List.length_append]
  omega

/-- The last character before an offset. -/
theorem previous_eq {place : Nat} (hplace : place ≤ text.size) :
    (if 1 ≤ place then text[place - 1]? else none) = (text.toList.take place).getLast? := by
  cases place with
  | zero => rfl
  | succ place =>
    have hlt : place < text.toList.length := by rwa [Array.length_toList]
    rw [if_pos (Nat.le_add_left 1 place), Nat.add_sub_cancel, ← Array.getElem?_toList,
      List.take_add_one, List.getElem?_eq_getElem hlt, Option.toList_some, List.getLast?_concat]

/-- The expression matches at an offset exactly the guard that starts there. -/
theorem matchAt?_guardRegex (name : List Char) {place : Nat} (hplace : place ≤ text.size) :
    (guardRegex name).matchAt? text place = endAt? name text.toList place := by
  have hname : Reads text (wordSteps name ++ [.repeatOne .greedy 0 none blankTest,
      .branch (operators.map wordSteps), .repeatOne .greedy 0 none blankTest,
      .branch (literals.map wordSteps), .look 0 true [.one rightTest]]) .done (after? name) :=
    -- Reading a guard takes the name and goes on with the comparison.
    Reads.word reads_comparison name
  have hsteps := Yields.look (Yields.one (@yields_done text) leftTest) hname 1
  rw [matchAt?_eq_of_yields (r := guardRegex name) hsteps hplace]
  have hleft : (1 ≤ place ∧ (if text[place - 1]?.any leftTest.accepts then some (place - 1 + 1)
      else none).isSome = true) ↔ (text.toList.take place).getLast?.any joinsLeft = true := by
    rw [← previous_eq hplace, funext accepts_leftTest]
    by_cases hpos : 1 ≤ place
    · simp [hpos]
    · simp [hpos]
  have hend : endOf text (after? name) place =
      (length? name (text.toList.drop place)).map (place + ·) := by
    rw [endOf, length?, Option.map_map]
    refine Option.map_congr fun rest hrest => ?_
    have hle := length_le_of_after? hrest
    have hsize : text.toList.length = text.size := Array.length_toList
    rw [List.length_drop, hsize] at hle
    rw [Function.comp_apply, List.length_drop, hsize]
    omega
  rw [endAt?, hend]
  simp only [hleft]

/-- Searching for the expression finds what searching for a guard finds. -/
theorem search?_guardRegex (name text : List Char) :
    (guardRegex name).search? text.toArray 0 =
      (find? name text).map fun span => ⟨span.1, span.2⟩ := by
  have hmatch : ∀ p ≤ text.length, (guardRegex name).matchAt? text.toArray p =
      endAt? name text p := by
    intro p hp
    exact matchAt?_guardRegex name (by rwa [List.size_toArray])
  refine Option.ext fun span => ?_
  have hfind : (find? name text).map (fun span => (⟨span.1, span.2⟩ : Span)) = some span ↔
      find? name text = some (span.start, span.stop) := by
    rw [Option.map_eq_some_iff]
    constructor
    · rintro ⟨pair, hpair, rfl⟩
      exact hpair
    · intro hpair
      exact ⟨_, hpair, rfl⟩
  rw [hfind, find?_eq_some_iff_endAt?, search?_eq_some_iff, List.size_toArray]
  constructor
  · rintro ⟨-, hsize, hstop, hbefore⟩
    refine ⟨hsize, by rw [← hmatch _ hsize, hstop], fun p hp => ?_⟩
    rw [← hmatch p (by omega), hbefore p (Nat.zero_le p) hp]
  · rintro ⟨hsize, hstop, hbefore⟩
    refine ⟨Nat.zero_le _, hsize, by rw [hmatch _ hsize, hstop], fun p _ hp => ?_⟩
    rw [hmatch p (by omega), hbefore p hp]

end Matching

/-- A text in which no guard is found has no guard at any offset. -/
theorem endAt?_of_find?_eq_none {name text : List Char} (h : find? name text = none) {p : Nat}
    (hp : p ≤ text.length) : endAt? name text p = none := by
  have hsize : p ≤ text.toArray.size := by rwa [List.size_toArray]
  have hsearch := search?_guardRegex name text
  rw [h, Option.map_none, search?_eq_none_iff] at hsearch
  have hmatch := hsearch p (Nat.zero_le p) hsize
  rwa [matchAt?_guardRegex name hsize] at hmatch

theorem Occurs.endAt?_eq_some {name text before guard after : List Char}
    (h : Occurs name text before guard after) :
    before.length ≤ text.length ∧
      endAt? name text before.length = some (before.length + guard.length) := by
  have hle : before.length ≤ text.length := by
    rw [h.text_eq, List.append_assoc, List.length_append]
    omega
  exact ⟨hle, (endAt?_eq_some_iff hle).mpr ⟨before, guard, after, h, rfl, rfl⟩⟩

/-- The guards of a name are what the grammar says, and what the regular expression for the name
matches, whatever characters the name has. The expression can be read, and searching for it finds
what `find?` finds. There is a guard exactly if the text is some text that does not go on into the
name, the name, blanks, a comparison, blanks, a literal and some text that does not make the literal
longer. What is found is the guard before which there is least, from the name to the literal. -/
theorem guard_recognised (name text : List Char) :
    (∃ r, compile (expression name) = .ok r ∧
      r.search? text.toArray 0 = (find? name text).map fun span => ⟨span.1, span.2⟩) ∧
    ((find? name text).isSome = true ↔
      ∃ before guard after, Occurs name text before guard after) ∧
    ∀ start stop, find? name text = some (start, stop) ↔
      ∃ before guard after, Occurs name text before guard after ∧
        start = before.length ∧ stop = before.length + guard.length ∧
        ∀ before' guard' after', Occurs name text before' guard' after' →
          before.length ≤ before'.length := by
  refine ⟨⟨guardRegex name, compile_expression name, search?_guardRegex name text⟩, ?_, ?_⟩
  · constructor
    · intro hsome
      obtain ⟨⟨start, stop⟩, hfind⟩ := Option.isSome_iff_exists.mp hsome
      obtain ⟨hle, hend, -⟩ := find?_eq_some_iff_endAt?.mp hfind
      obtain ⟨before, guard, after, hoccurs, -, -⟩ := (endAt?_eq_some_iff hle).mp hend
      exact ⟨before, guard, after, hoccurs⟩
    · rintro ⟨before, guard, after, hoccurs⟩
      obtain ⟨hle, hend⟩ := hoccurs.endAt?_eq_some
      cases hfind : find? name text with
      | some span => rfl
      | none =>
        rw [endAt?_of_find?_eq_none hfind hle] at hend
        cases hend
  · intro start stop
    rw [find?_eq_some_iff_endAt?]
    constructor
    · rintro ⟨hle, hend, hbefore⟩
      obtain ⟨before, guard, after, hoccurs, rfl, rfl⟩ := (endAt?_eq_some_iff hle).mp hend
      refine ⟨before, guard, after, hoccurs, rfl, rfl, fun before' guard' after' hother => ?_⟩
      refine Nat.le_of_not_lt fun hlt => ?_
      have hend' := hother.endAt?_eq_some.2
      rw [hbefore _ hlt] at hend'
      cases hend'
    · rintro ⟨before, guard, after, hoccurs, rfl, rfl, hleast⟩
      obtain ⟨hle, hend⟩ := hoccurs.endAt?_eq_some
      refine ⟨hle, hend, fun p hp => ?_⟩
      cases hother : endAt? name text p with
      | none => rfl
      | some stop =>
        obtain ⟨before', guard', after', hoccurs', rfl, -⟩ :=
          (endAt?_eq_some_iff (by omega)).mp hother
        exact absurd (hleast _ _ _ hoccurs') (Nat.not_le.mpr hp)

example : find? "$x".toList "a.$x==null||$x !== undefined".toList = some (12, 28) := by
  decide +kernel

end ChecklistReview.Guard
