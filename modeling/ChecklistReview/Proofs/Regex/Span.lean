import ChecklistReview.Regex.Match

/-!
# Where matches lie

A match starts in the text and ends in it, at its start or after it. This holds for every
expression, because every step of matching goes forward within the text: steps that look back
give up the place they have reached.

## Main statements

* `forward`: matching from a place ends at it or after it, in the text.
* `mem_findAll`: what `findAll` lists starts at an offset of the text and ends in it.
* `pairwise_findAll`: matches are listed from left to right.
-/

namespace ChecklistReview.Regex

/-- Matching from a place that succeeds ends at that place or after it, in the text. -/
def Within (text : Array Char) (place : Nat) (outcome : Outcome) : Prop :=
  ∀ stop, outcome.1 = some stop → place ≤ stop ∧ stop ≤ text.size

variable {text : Array Char}

-- ════════════════════════════════════════════════════════════════════════
-- The parts of matching
-- ════════════════════════════════════════════════════════════════════════

theorem within_none (place : Nat) (m : Marks) : Within text place (none, m) := by
  intro stop h
  cases h

theorem within_some {place stop : Nat} (m : Marks) (hle : place ≤ stop) (hsize : stop ≤ text.size) :
    Within text place (some stop, m) := by
  intro stop' h
  cases h
  exact ⟨hle, hsize⟩

/-- Matching that goes on from a later place ends after an earlier one. -/
theorem Within.mono {place later : Nat} {outcome : Outcome} (h : Within text later outcome)
    (hle : place ≤ later) : Within text place outcome := by
  intro stop hstop
  have := h stop hstop
  omega

/-- One of several ways ends where each of them does. -/
theorem tryEach_within {α : Type} {putBack : Marks → Marks} {way : α → Marks → Outcome}
    {ways : List α} {place : Nat} (h : ∀ a ∈ ways, ∀ m, Within text place (way a m)) (m : Marks) :
    Within text place (tryEach putBack way ways m) := by
  induction ways generalizing m with
  | nil => exact within_none place m
  | cons a rest ih =>
    rw [tryEach]
    split
    · next stop m' hway =>
      rw [← hway]
      exact h a List.mem_cons_self m
    · exact ih (fun b hb => h b (List.mem_cons_of_mem _ hb)) _

/-- No more characters pass a test than are left. -/
theorem countPassing_le (test : CharTest) (limit place : Nat) :
    countPassing text test limit place ≤ limit := by
  induction limit generalizing place with
  | zero => simp [countPassing]
  | succ limit ih =>
    rw [countPassing]
    split
    · split
      · have := ih (place + 1)
        omega
      · omega
    · omega

/-- A repeat tries no number beyond the greatest. -/
theorem le_of_mem_tries {greed : Greed} {least count n : Nat} (h : n ∈ tries greed least count)
    (hle : least ≤ count) : n ≤ count := by
  have hupward : n ∈ (List.range (count + 1 - least)).map (· + least) → n ≤ count := by
    intro hn
    obtain ⟨k, hk, rfl⟩ := List.mem_map.mp hn
    have := List.mem_range.mp hk
    omega
  cases greed with
  | greedy => exact hupward (List.mem_reverse.mp h)
  | lazy => exact hupward h
  | possessive => exact Nat.le_of_eq (List.mem_singleton.mp h)

/-- A text that is repeated at a place lies within the whole text. -/
theorem isSameText_le {ignoreCase : Option Bool} {n i j : Nat} (hj : j ≤ text.size)
    (h : isSameText text ignoreCase n i j = true) : j + n ≤ text.size := by
  induction n generalizing i j with
  | zero => exact hj
  | succ n ih =>
    rw [isSameText] at h
    split at h
    · next a b _ hb =>
      obtain ⟨hlt, -⟩ := Array.getElem?_eq_some_iff.mp hb
      simp only [Bool.and_eq_true] at h
      have := ih (by omega) h.2
      omega
    · cases h

section Bodies

variable {body : Nat → Marks → Outcome}

/-- Matching a body so often goes forward if the body does. -/
theorem matchTimes_within (hbody : ∀ place m, place ≤ text.size → Within text place (body place m))
    (n place : Nat) (m : Marks) (hplace : place ≤ text.size) :
    Within text place (matchTimes body n place m) := by
  induction n generalizing place m with
  | zero => exact within_some m (Nat.le_refl place) hplace
  | succ n ih =>
    rw [matchTimes]
    split
    · exact within_none place _
    · next stop m' hstop =>
      have hwithin := hbody place m hplace stop (by rw [hstop])
      exact (ih stop m' hwithin.2).mono hwithin.1

/-- Matching a body as often as possible goes forward if the body does. -/
theorem matchOften_within (hbody : ∀ place m, place ≤ text.size → Within text place (body place m))
    (bound : Nat) (most : Option Nat) (fuel place : Nat) (m : Marks) (hplace : place ≤ text.size) :
    place ≤ (matchOften body bound most fuel place m).1 ∧
      (matchOften body bound most fuel place m).1 ≤ text.size := by
  induction fuel generalizing place m with
  | zero => exact ⟨Nat.le_refl place, hplace⟩
  | succ fuel ih =>
    rw [matchOften]
    split
    · exact ⟨Nat.le_refl place, hplace⟩
    · split
      · exact ⟨Nat.le_refl place, hplace⟩
      · next stop m' hstop =>
        have hwithin := hbody place m hplace stop (by rw [hstop])
        split
        · exact hwithin
        · have := ih stop m' hwithin.2
          omega

end Bodies

-- ════════════════════════════════════════════════════════════════════════
-- Matching
-- ════════════════════════════════════════════════════════════════════════

/-- So much fuel makes matching go forward. -/
structure Forward (text : Array Char) (fuel : Nat) : Prop where
  run : ∀ steps isNested next place m, place ≤ text.size →
    Within text place (run text fuel steps isNested next place m)
  resume : ∀ next place m, place ≤ text.size → Within text place (resume text fuel next place m)

/-- One step goes forward if what follows it does. -/
theorem Forward.step {fuel : Nat} (h : Forward text fuel) (step : Step) (rest : List Step)
    (isNested : Bool) (next : Next) (place : Nat) (m : Marks) (hplace : place ≤ text.size) :
    Within text place (Regex.run text (fuel + 1) (step :: rest) isNested next place m) := by
  cases step with
  | one test =>
    simp only [Regex.run]
    split
    · next c hc =>
      obtain ⟨hlt, -⟩ := Array.getElem?_eq_some_iff.mp hc
      split
      · exact (h.run _ _ _ _ _ hlt).mono (Nat.le_succ place)
      · exact within_none place m
    · exact within_none place m
  | place p =>
    simp only [Regex.run]
    split
    · exact h.run _ _ _ _ _ hplace
    · exact within_none place m
  | mark slot => exact h.run _ _ _ _ _ hplace
  | repeatOne greed least most test =>
    simp only [Regex.run]
    split
    · exact within_none place m
    · next hcount =>
      refine tryEach_within (fun n hn m => ?_) m
      have hn := le_of_mem_tries hn (Nat.le_of_not_lt hcount)
      have hle := @countPassing_le text test
        (min (text.size - place) (most.getD (text.size - place))) place
      exact (h.run _ _ _ _ _ (by omega)).mono (Nat.le_add_right place n)
  | repeated greed least most body =>
    cases greed with
    | greedy => exact h.resume _ _ _ hplace
    | lazy => exact h.resume _ _ _ hplace
    | possessive =>
      have hbody : ∀ place m, place ≤ text.size →
          Within text place (Regex.run text fuel body true .done place m) :=
        fun place m hplace => h.run _ _ _ _ _ hplace
      simp only [Regex.run]
      split
      · exact within_none place _
      · next stop m' hstop =>
        have htimes := matchTimes_within hbody least place m hplace stop (by rw [hstop])
        have hoften := matchOften_within hbody (text.size + 1) (most.map (· - least))
          (text.size + 1) stop m' htimes.2
        exact (h.run _ _ _ _ _ hoften.2).mono (Nat.le_trans htimes.1 hoften.1)
  | branch alternatives =>
    simp only [Regex.run]
    exact tryEach_within (fun steps _ m => h.run _ _ _ _ _ hplace) m
  | atomic body =>
    simp only [Regex.run]
    split
    · exact within_none place _
    · next stop m' hstop =>
      have hbody := h.run body isNested .done place m hplace stop (by rw [hstop])
      exact (h.run _ _ _ _ _ hbody.2).mono hbody.1
  | look back isNegated body =>
    simp only [Regex.run]
    split
    · split
      · exact h.run _ _ _ _ _ hplace
      · exact within_none place m
    · -- Whatever the assertion has seen, matching goes on from the same place.
      split
      · exact h.run _ _ _ _ _ hplace
      · exact within_none place _
      · exact within_none place _
      · exact h.run _ _ _ _ _ hplace
  | reference group ignoreCase =>
    simp only [Regex.run]
    split
    · exact within_none place m
    · next start stop hgroup =>
      split
      · next hsame =>
        exact (h.run _ _ _ _ _ (isSameText_le hplace hsame)).mono (Nat.le_add_right place _)
      · exact within_none place m
  | conditional group yes no => exact h.run _ _ _ _ _ hplace
  | fail => exact within_none place m

/-- The rest of a match goes forward if its parts do. -/
theorem Forward.rest {fuel : Nat} (h : Forward text fuel) (next : Next) (place : Nat) (m : Marks)
    (hplace : place ≤ text.size) :
    Within text place (Regex.resume text (fuel + 1) next place m) := by
  cases next with
  | done => exact within_some m (Nat.le_refl place) hplace
  | sequence steps isNested next => exact h.run _ _ _ _ _ hplace
  | loop l isNested next =>
    simp only [Regex.resume]
    split
    · exact h.run _ _ _ _ _ hplace
    · split
      · split
        · next stop m' hstop =>
          rw [← hstop]
          exact h.resume _ _ _ hplace
        · split
          · exact h.run _ _ _ _ _ hplace
          · exact within_none place _
      · split
        · split
          · next stop m' hstop =>
            rw [← hstop]
            exact h.run _ _ _ _ _ hplace
          · exact h.resume _ _ _ hplace
        · exact h.resume _ _ _ hplace

/-- Matching goes forward in the text, whatever the fuel. -/
theorem forward (text : Array Char) (fuel : Nat) : Forward text fuel := by
  induction fuel with
  | zero =>
    constructor
    · intro steps isNested next place m _
      simpa only [run] using within_none place m
    · intro next place m _
      simpa only [resume] using within_none place m
  | succ fuel ih =>
    refine ⟨?_, ih.rest⟩
    intro steps isNested next place m hplace
    cases steps with
    | nil => exact ih.resume next place m hplace
    | cons step rest => exact ih.step step rest isNested next place m hplace

-- ════════════════════════════════════════════════════════════════════════
-- Matches in a text
-- ════════════════════════════════════════════════════════════════════════

/-- A match that starts in the text ends in it, at its start or after it. -/
theorem matchAt?_within {r : Regex} {offset stop : Nat} (hoffset : offset ≤ text.size)
    (h : r.matchAt? text offset = some stop) : offset ≤ stop ∧ stop ≤ text.size :=
  (forward text _).run _ _ _ _ _ hoffset stop h

/-- The first match from an offset starts there or later, and lies in the text. -/
theorem searchFrom?_within {r : Regex} {more offset : Nat} {span : Span}
    (hoffset : offset + more ≤ text.size) (h : r.searchFrom? text more offset = some span) :
    offset ≤ span.start ∧ span.start ≤ span.stop ∧ span.stop ≤ text.size := by
  induction more generalizing offset with
  | zero =>
    simp only [searchFrom?, Option.map_eq_some_iff] at h
    obtain ⟨stop, hstop, rfl⟩ := h
    exact ⟨Nat.le_refl offset, matchAt?_within hoffset hstop⟩
  | succ more ih =>
    rw [searchFrom?] at h
    split at h
    · next stop hstop =>
      have hle : offset ≤ text.size := by omega
      cases h
      exact ⟨Nat.le_refl offset, matchAt?_within hle hstop⟩
    · have := ih (by omega) h
      omega

/-- What a search finds lies in the text, from the offset on. -/
theorem search?_within {r : Regex} {offset : Nat} {span : Span}
    (h : r.search? text offset = some span) :
    offset ≤ span.start ∧ span.start ≤ span.stop ∧ span.stop ≤ text.size := by
  rw [search?] at h
  split at h
  · exact searchFrom?_within (by omega) h
  · cases h

/-- The matches from an offset on lie in the text, none of them before the offset. -/
theorem matchesFrom_within {r : Regex} {fuel offset : Nat} {span : Span}
    (h : span ∈ r.matchesFrom text fuel offset) :
    offset ≤ span.start ∧ span.start ≤ span.stop ∧ span.stop ≤ text.size := by
  induction fuel generalizing offset with
  | zero => simp [matchesFrom] at h
  | succ fuel ih =>
    rw [matchesFrom] at h
    split at h
    · simp at h
    · next first hfirst =>
      have hwithin := search?_within hfirst
      rcases List.mem_cons.mp h with rfl | h
      · exact hwithin
      · have hlater := ih h
        split at hlater <;> omega

/-- The matches of a text lie in the text. -/
theorem mem_findAll {r : Regex} {span : Span} (h : span ∈ r.findAll text) :
    span.start ≤ span.stop ∧ span.stop ≤ text.size :=
  (matchesFrom_within h).2

/-- Each match starts where the one before it ends, or later. -/
theorem pairwise_matchesFrom (r : Regex) (fuel offset : Nat) :
    (r.matchesFrom text fuel offset).Pairwise fun a b => a.stop ≤ b.start := by
  induction fuel generalizing offset with
  | zero => simp [matchesFrom]
  | succ fuel ih =>
    rw [matchesFrom]
    split
    · exact List.Pairwise.nil
    · next first _ =>
      refine List.Pairwise.cons (fun later hlater => ?_) (ih _)
      have hafter := (matchesFrom_within hlater).1
      split at hafter <;> omega

/-- The matches of a text come from left to right. -/
theorem pairwise_findAll (r : Regex) :
    (r.findAll text).Pairwise fun a b => a.start ≤ b.start := by
  refine (pairwise_matchesFrom r _ 0).imp_of_mem fun ha _ hab => ?_
  exact Nat.le_trans (mem_findAll ha).1 hab

end ChecklistReview.Regex
