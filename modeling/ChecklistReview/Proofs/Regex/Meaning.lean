import ChecklistReview.Guard
import ChecklistReview.Proofs.Regex.Fuel
import Mathlib.Data.List.TakeWhile

/-!
# What steps mean

Steps without marks mean a function: from the offset at which they start to the end of the match,
if there is one. The meaning of a sequence is put together from that of its first step and that of
the rest, where ways that are tried one after another become a search for the first that succeeds.
Most steps look at the text from the offset on and no further back, and then it is enough to say
what they leave of it.

## Main statements

* `Yields`: steps mean a function of the offset.
* `matchAt?_eq_of_yields`: the match at an offset is what the meaning says.
* `Reads`: steps mean a function of the text that is left.
* `Reads.word`, `Reads.words`, `Reads.greedy`: the meaning of words, choices of words and repeats.
-/

namespace ChecklistReview.Regex

variable {text : Array Char}

-- ════════════════════════════════════════════════════════════════════════
-- Functions of the offset
-- ════════════════════════════════════════════════════════════════════════

/-- From some amount of fuel on, steps outside repeats lead from each offset to what a function
gives, and note nothing. -/
def Yields (text : Array Char) (steps : List Step) (next : Next) (f : Nat → Option Nat) : Prop :=
  ∃ enough, ∀ fuel, enough ≤ fuel → ∀ place ≤ text.size, ∀ m,
    run text fuel steps false next place m = (f place, m)

/-- The match at an offset is what the meaning of the steps says. -/
theorem matchAt?_eq_of_yields {r : Regex} {f : Nat → Option Nat}
    (h : Yields text r.steps .done f) {place : Nat} (hplace : place ≤ text.size) :
    r.matchAt? text place = f place := by
  obtain ⟨enough, hrun⟩ := h
  refine Option.ext fun stop => ?_
  rw [matchAt?_eq_some_iff hplace]
  constructor
  · rintro ⟨other, hother⟩
    have hstop := hother (max enough other) (Nat.le_max_right _ _)
    rwa [hrun _ (Nat.le_max_left _ _) place hplace] at hstop
  · intro hstop
    refine ⟨enough, fun fuel hfuel => ?_⟩
    rw [hrun fuel hfuel place hplace]
    exact hstop

section Rules

variable {rest : List Step} {next : Next} {f g : Nat → Option Nat}

theorem Yields.congr {steps : List Step} (h : Yields text steps next f)
    (heq : ∀ place ≤ text.size, f place = g place) : Yields text steps next g := by
  obtain ⟨enough, hrun⟩ := h
  refine ⟨enough, fun fuel hfuel place hplace m => ?_⟩
  rw [hrun fuel hfuel place hplace m, heq place hplace]

theorem yields_done : Yields text [] .done some := by
  refine ⟨2, fun fuel hfuel place _ m => ?_⟩
  obtain ⟨fuel, rfl⟩ := Nat.exists_eq_add_of_le' hfuel
  rfl

/-- At the end of a sequence inside another the rest of the outer one follows. -/
theorem Yields.resume {steps : List Step} (h : Yields text steps next f) :
    Yields text [] (.sequence steps false next) f := by
  obtain ⟨enough, hrun⟩ := h
  refine ⟨enough + 2, fun fuel hfuel place hplace m => ?_⟩
  obtain ⟨fuel, rfl⟩ := Nat.exists_eq_add_of_le' (Nat.le_trans (Nat.le_add_left 2 enough) hfuel)
  exact hrun fuel (by omega) place hplace m

theorem Yields.one (h : Yields text rest next f) (test : CharTest) :
    Yields text (.one test :: rest) next fun place =>
      if text[place]?.any test.accepts then f (place + 1) else none := by
  obtain ⟨enough, hrun⟩ := h
  refine ⟨enough + 1, fun fuel hfuel place hplace m => ?_⟩
  obtain ⟨fuel, rfl⟩ := Nat.exists_eq_add_of_le' (Nat.le_trans (Nat.le_add_left 1 enough) hfuel)
  simp only [run]
  cases hc : text[place]? with
  | none => rfl
  | some c =>
    obtain ⟨hlt, -⟩ := Array.getElem?_eq_some_iff.mp hc
    by_cases haccepts : test.accepts c = true
    · simp only [haccepts, Option.any_some, if_true]
      exact hrun fuel (by omega) (place + 1) hlt m
    · simp only [haccepts, Option.any_some, if_false, Bool.false_eq_true]

/-- Ways that note nothing are tried until one succeeds. -/
theorem tryEach_map_eq {α β : Type} {putBack : Marks → Marks} {way : β → Marks → Outcome}
    {ways : List α} {toWay : α → β} {found : α → Option Nat} {m : Marks} (hback : putBack m = m)
    (h : ∀ a ∈ ways, way (toWay a) m = (found a, m)) :
    tryEach putBack way (ways.map toWay) m = (ways.findSome? found, m) := by
  induction ways with
  | nil => rfl
  | cons a ways ih =>
    have hrest := ih fun b hb => h b (List.mem_cons_of_mem a hb)
    rw [List.map_cons, tryEach, h a List.mem_cons_self, List.findSome?_cons]
    cases found a with
    | none =>
      simp only [hback]
      exact hrest
    | some stop => rfl

/-- What holds of each of some ways from some amount on holds of all of them from some amount on. -/
theorem exists_enough {α : Type} {ways : List α} {P : α → Nat → Prop}
    (h : ∀ a ∈ ways, ∃ enough, ∀ fuel, enough ≤ fuel → P a fuel) :
    ∃ enough, ∀ fuel, enough ≤ fuel → ∀ a ∈ ways, P a fuel := by
  induction ways with
  | nil => exact ⟨0, fun _ _ a ha => absurd ha List.not_mem_nil⟩
  | cons b ways ih =>
    obtain ⟨first, hfirst⟩ := h b List.mem_cons_self
    obtain ⟨others, hothers⟩ := ih fun a ha => h a (List.mem_cons_of_mem b ha)
    refine ⟨max first others, fun fuel hfuel a ha => ?_⟩
    rcases List.mem_cons.mp ha with rfl | ha
    · exact hfirst fuel (by omega)
    · exact hothers fuel (by omega) a ha

theorem yields_branch {α : Type} {ways : List α} {toSteps : α → List Step}
    {found : α → Nat → Option Nat}
    (h : ∀ a ∈ ways, Yields text (toSteps a) (.sequence rest false next) (found a)) :
    Yields text (.branch (ways.map toSteps) :: rest) next fun place =>
      ways.findSome? fun a => found a place := by
  obtain ⟨enough, hrun⟩ := exists_enough h
  refine ⟨enough + 1, fun fuel hfuel place hplace m => ?_⟩
  obtain ⟨fuel, rfl⟩ := Nat.exists_eq_add_of_le' (Nat.le_trans (Nat.le_add_left 1 enough) hfuel)
  rw [run]
  exact tryEach_map_eq rfl fun a ha => hrun fuel (by omega) a ha place hplace m

theorem Yields.repeatOne (h : Yields text rest next f) (greed : Greed) (test : CharTest) :
    Yields text (.repeatOne greed 0 none test :: rest) next fun place =>
      (tries greed 0 (countPassing text test (text.size - place) place)).findSome? fun n =>
        f (place + n) := by
  obtain ⟨enough, hrun⟩ := h
  refine ⟨enough + 1, fun fuel hfuel place hplace m => ?_⟩
  obtain ⟨fuel, rfl⟩ := Nat.exists_eq_add_of_le' (Nat.le_trans (Nat.le_add_left 1 enough) hfuel)
  rw [run]
  simp only [Option.getD_none, Nat.min_self, Nat.not_lt_zero, if_false]
  have hways := @tryEach_map_eq Nat Nat (Marks.afterFailure false m)
    (fun n m => run text fuel rest false next (place + n) m)
    (tries greed 0 (countPassing text test (text.size - place) place)) id (fun n => f (place + n)) m
    rfl
  rw [List.map_id] at hways
  refine hways fun n hn => hrun fuel (by omega) (place + n) ?_ m
  have hle := le_of_mem_tries hn (Nat.zero_le _)
  have hcount := @countPassing_le text test (text.size - place) place
  omega

theorem Yields.look {body : List Step} (hbody : Yields text body .done g)
    (h : Yields text rest next f) (back : Nat) :
    Yields text (.look back true body :: rest) next fun place =>
      if back ≤ place ∧ (g (place - back)).isSome = true then none else f place := by
  obtain ⟨first, hfirst⟩ := hbody
  obtain ⟨second, hsecond⟩ := h
  refine ⟨max first second + 1, fun fuel hfuel place hplace m => ?_⟩
  obtain ⟨fuel, rfl⟩ := Nat.exists_eq_add_of_le' (Nat.le_trans (Nat.le_add_left 1 _) hfuel)
  simp only [run]
  by_cases hback : place < back
  · have hnot : ¬back ≤ place := Nat.not_le.mpr hback
    simp only [hback, hnot, if_true, false_and, if_false]
    exact hsecond fuel (by omega) place hplace m
  · have hle : back ≤ place := Nat.le_of_not_lt hback
    have hseen := hfirst fuel (by omega) (place - back) (by omega) m
    rw [if_neg hback, hseen]
    cases g (place - back) with
    | some stop => simp only [hle, Option.isSome_some, and_self, if_true]
    | none =>
      simp only [Option.isSome_none, Bool.false_eq_true, and_false, if_false]
      exact hsecond fuel (by omega) place hplace m

end Rules

-- ════════════════════════════════════════════════════════════════════════
-- Functions of the text that is left
-- ════════════════════════════════════════════════════════════════════════

/-- The end of a match by what a reader leaves of the text from an offset on. -/
def endOf (text : Array Char) (reader : List Char → Option (List Char)) (place : Nat) :
    Option Nat :=
  (reader (text.toList.drop place)).map (text.size - ·.length)

/-- Steps leave of the text what a reader leaves. -/
def Reads (text : Array Char) (steps : List Step) (next : Next)
    (reader : List Char → Option (List Char)) : Prop :=
  Yields text steps next (endOf text reader)

/-- The test for a character. -/
def charTest (c : Char) : CharTest := .set false false false [.code c.toNat]

/-- The steps that match a word. -/
def wordSteps (word : List Char) : List Step := word.map (Step.one ∘ charTest)

theorem accepts_charTest {c d : Char} : (charTest c).accepts d = true ↔ c = d := by
  have h : (charTest c).accepts d = decide (d.toNat = c.toNat) := by
    simp [charTest, CharTest.accepts, Member.holds]
  rw [h, decide_eq_true_iff, Char.toNat_inj]
  exact eq_comm

theorem getElem?_eq_head? (place : Nat) : text[place]? = (text.toList.drop place).head? := by
  rw [List.head?_drop, Array.getElem?_toList]

section Readers

variable {rest : List Step} {next : Next} {reader : List Char → Option (List Char)}

theorem Reads.word (h : Reads text rest next reader) (word : List Char) :
    Reads text (wordSteps word ++ rest) next fun left =>
      (Guard.afterName? word left).bind reader := by
  induction word with
  | nil => exact h
  | cons c word ih =>
    refine (Yields.one ih (charTest c)).congr fun place _ => ?_
    rw [getElem?_eq_head?, endOf, endOf, ← List.tail_drop]
    cases text.toList.drop place with
    | nil => rfl
    | cons d left =>
      rw [List.head?_cons, Option.any_some, List.tail_cons, Guard.afterName?]
      by_cases hcd : c = d
      · rw [if_pos (accepts_charTest.mpr hcd), if_pos hcd]
      · rw [if_neg (mt accepts_charTest.mp hcd), if_neg hcd]
        rfl

/-- A choice of words takes the first word after which the rest can be read. -/
theorem Reads.words (h : Reads text rest next reader) (words : List (List Char)) :
    Reads text (.branch (words.map wordSteps) :: rest) next fun left =>
      words.findSome? fun word => (Guard.afterName? word left).bind reader := by
  have hwords : ∀ word ∈ words, Reads text (wordSteps word) (.sequence rest false next)
      fun left => (Guard.afterName? word left).bind reader := by
    intro word _
    have hword := @Reads.word text [] (.sequence rest false next) reader (Yields.resume h) word
    rwa [List.append_nil] at hword
  refine (yields_branch hwords).congr fun place _ => ?_
  simp only [endOf, List.map_findSome?, Function.comp_def]

theorem countPassing_eq_length (test : CharTest) (place : Nat) :
    countPassing text test (text.size - place) place =
      ((text.toList.drop place).takeWhile test.accepts).length := by
  generalize hlimit : text.size - place = limit
  induction limit generalizing place with
  | zero =>
    rw [List.drop_eq_nil_of_le (by rw [Array.length_toList]; omega)]
    rfl
  | succ limit ih =>
    have hlt : place < text.toList.length := by
      rw [Array.length_toList]
      omega
    rw [countPassing, getElem?_eq_head?, List.drop_eq_getElem_cons hlt, List.head?_cons,
      List.takeWhile_cons]
    by_cases haccepts : test.accepts text.toList[place] = true
    · simp only [haccepts, if_true, List.length_cons, ih (place + 1) (by omega)]
    · simp only [haccepts, if_false, List.length_nil, Bool.false_eq_true]

theorem tries_greedy (count : Nat) : tries .greedy 0 count = (List.range (count + 1)).reverse := by
  simp [tries]

/-- A greedy repeat takes all it can, if what follows it cannot start with what it repeats. -/
theorem Reads.greedy (h : Reads text rest next reader) (test : CharTest)
    (hstop : ∀ c left, test.accepts c = true → reader (c :: left) = none) :
    Reads text (.repeatOne .greedy 0 none test :: rest) next fun left =>
      reader (left.dropWhile test.accepts) := by
  refine (Yields.repeatOne h .greedy test).congr fun place _ => ?_
  rw [countPassing_eq_length, tries_greedy, List.range_succ, List.reverse_append,
    List.reverse_singleton, List.singleton_append, List.findSome?_cons]
  generalize hpass : (text.toList.drop place).takeWhile test.accepts = passing
  have hsplit : text.toList.drop place =
      passing ++ (text.toList.drop place).dropWhile test.accepts := by
    rw [← hpass, List.takeWhile_append_dropWhile]
  -- With fewer repetitions what is left starts with what is repeated.
  have hfewer : ∀ n < passing.length, endOf text reader (place + n) = none := by
    intro n hn
    have haccepts : test.accepts passing[n] = true := by
      refine List.mem_takeWhile_imp (l := text.toList.drop place) ?_
      rw [hpass]
      exact List.getElem_mem hn
    rw [endOf, ← List.drop_drop, hsplit, List.drop_append_of_le_length (Nat.le_of_lt hn),
      List.drop_eq_getElem_cons hn, List.cons_append, hstop _ _ haccepts, Option.map_none]
  have hall : endOf text reader (place + passing.length) =
      endOf text (fun left => reader (left.dropWhile test.accepts)) place := by
    have hdrop := congrArg (List.drop passing.length) hsplit
    rw [List.drop_left] at hdrop
    rw [endOf, endOf, ← List.drop_drop, hdrop]
  rw [hall]
  cases endOf text (fun left => reader (left.dropWhile test.accepts)) place with
  | some stop => rfl
  | none =>
    refine List.findSome?_eq_none_iff.mpr fun n hn => hfewer n ?_
    exact List.mem_range.mp (List.mem_reverse.mp hn)

end Readers

end ChecklistReview.Regex
