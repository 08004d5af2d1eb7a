import ChecklistReview.PatternCheck
import ChecklistReview.Proofs.Regex.Fuel

/-!
# All matches of a text

The matches of a text are found by a loop: search from a cursor, and go on at the end of what was
found, or one character further if that was nothing. The loop always ends, its matches are apart
from each other, and no offset at which the expression matches is passed over: it is the start of a
match that is listed, or lies inside one.

## Main statements

* `search?_eq_none_iff`, `search?_eq_some_iff`: a search finds the first offset that matches.
* `Lists`: the loop as a relation, which holds only of runs that end.
* `Lists.covers`: what one round passes over, and so what a whole run does.
* `findAll_lists_matches`: the loop ends with the matches of the text.
-/

namespace ChecklistReview.Regex

variable {r : Regex} {text : Array Char}

-- ════════════════════════════════════════════════════════════════════════
-- Searching
-- ════════════════════════════════════════════════════════════════════════

theorem searchFrom?_eq_none_iff {more offset : Nat} :
    r.searchFrom? text more offset = none ↔
      ∀ p, offset ≤ p → p ≤ offset + more → r.matchAt? text p = none := by
  induction more generalizing offset with
  | zero =>
    rw [searchFrom?, Option.map_eq_none_iff]
    constructor
    · intro h p hle hge
      obtain rfl : p = offset := by omega
      exact h
    · intro h
      exact h offset (Nat.le_refl _) (Nat.le_refl _)
  | succ more ih =>
    rw [searchFrom?]
    cases hhere : r.matchAt? text offset with
    | some stop =>
      refine iff_of_false (by simp) fun h => ?_
      rw [h offset (Nat.le_refl _) (by omega)] at hhere
      cases hhere
    | none =>
      simp only [ih]
      constructor
      · intro h p hle hge
        rcases Nat.eq_or_lt_of_le hle with rfl | hlt
        · exact hhere
        · exact h p hlt (by omega)
      · intro h p hle hge
        exact h p (by omega) (by omega)

theorem matchAt?_of_searchFrom? {more offset : Nat} {span : Span}
    (h : r.searchFrom? text more offset = some span) :
    r.matchAt? text span.start = some span.stop ∧
      ∀ p, offset ≤ p → p < span.start → r.matchAt? text p = none := by
  induction more generalizing offset with
  | zero =>
    obtain ⟨stop, hstop, rfl⟩ := Option.map_eq_some_iff.mp h
    exact ⟨hstop, fun p hle hlt => absurd hlt (Nat.not_lt.mpr hle)⟩
  | succ more ih =>
    rw [searchFrom?] at h
    cases hhere : r.matchAt? text offset with
    | some stop =>
      simp only [hhere, Option.some.injEq] at h
      subst h
      exact ⟨hhere, fun p hle hlt => absurd hlt (Nat.not_lt.mpr hle)⟩
    | none =>
      simp only [hhere] at h
      obtain ⟨hmatch, hbefore⟩ := ih h
      refine ⟨hmatch, fun p hle hlt => ?_⟩
      rcases Nat.eq_or_lt_of_le hle with rfl | hlt'
      · exact hhere
      · exact hbefore p hlt' hlt

/-- A search finds nothing exactly if no offset from the cursor on matches. -/
theorem search?_eq_none_iff {cursor : Nat} :
    r.search? text cursor = none ↔
      ∀ p, cursor ≤ p → p ≤ text.size → r.matchAt? text p = none := by
  rw [search?]
  split
  · next hle =>
    rw [searchFrom?_eq_none_iff, Nat.add_sub_cancel' hle]
  · next hgt =>
    refine iff_of_true rfl fun p hle hp => ?_
    omega

/-- A search finds a match before which no offset matches. -/
theorem matchAt?_of_search? {cursor : Nat} {span : Span}
    (h : r.search? text cursor = some span) :
    r.matchAt? text span.start = some span.stop ∧
      ∀ p, cursor ≤ p → p < span.start → r.matchAt? text p = none := by
  rw [search?] at h
  split at h
  · exact matchAt?_of_searchFrom? h
  · cases h

/-- What a search finds is the first offset from the cursor on that matches. -/
theorem search?_eq_some_iff {cursor : Nat} {span : Span} :
    r.search? text cursor = some span ↔
      cursor ≤ span.start ∧ span.start ≤ text.size ∧
        r.matchAt? text span.start = some span.stop ∧
        ∀ p, cursor ≤ p → p < span.start → r.matchAt? text p = none := by
  constructor
  · intro h
    have hwithin := search?_within h
    obtain ⟨hmatch, hbefore⟩ := matchAt?_of_search? h
    exact ⟨by omega, by omega, hmatch, hbefore⟩
  · rintro ⟨hcursor, hsize, hmatch, hbefore⟩
    cases hsearch : r.search? text cursor with
    | none =>
      rw [search?_eq_none_iff.mp hsearch span.start hcursor hsize] at hmatch
      cases hmatch
    | some other =>
      have hwithin := search?_within hsearch
      obtain ⟨hmatch', hbefore'⟩ := matchAt?_of_search? hsearch
      have hstart : other.start = span.start := by
        refine Nat.le_antisymm (Nat.le_of_not_lt fun hlt => ?_) (Nat.le_of_not_lt fun hlt => ?_)
        · rw [hbefore' span.start hcursor hlt] at hmatch
          cases hmatch
        · rw [hbefore other.start (by omega) hlt] at hmatch'
          cases hmatch'
      rw [hstart, hmatch] at hmatch'
      have hstop : other.stop = span.stop := (Option.some.inj hmatch').symm
      have heq : other = span := congr (congrArg Span.mk hstart) hstop
      rw [heq]

-- ════════════════════════════════════════════════════════════════════════
-- The loop
-- ════════════════════════════════════════════════════════════════════════

/-- The loop that lists matches, from a cursor to its end. -/
inductive Lists (r : Regex) (text : Array Char) : Nat → List Span → Prop
  /-- The cursor has passed the end of the text. -/
  | past {cursor : Nat} (h : text.size < cursor) : Lists r text cursor []
  /-- Nothing more is found. -/
  | silent {cursor : Nat} (hle : cursor ≤ text.size) (h : r.search? text cursor = none) :
    Lists r text cursor []
  /-- A match is listed, and the cursor moves to its end, or further if the match is empty. -/
  | found {cursor : Nat} {span : Span} {spans : List Span} (hle : cursor ≤ text.size)
    (h : r.search? text cursor = some span)
    (rest : Lists r text (if span.stop = span.start then span.stop + 1 else span.stop) spans) :
    Lists r text cursor (span :: spans)

/-- The offsets that a match keeps from being searched again: its own, and at least its start. -/
def Span.cover (span : Span) : Nat := max span.stop (span.start + 1)

theorem cursor_after {cursor : Nat} {span : Span} (h : r.search? text cursor = some span) :
    (if span.stop = span.start then span.stop + 1 else span.stop) = span.cover := by
  have hwithin := search?_within h
  rw [Span.cover]
  split <;> omega

/-- Fuel for each offset that is left lets the loop end by itself. -/
theorem lists_matchesFrom {fuel cursor : Nat} (h : text.size + 1 ≤ cursor + fuel) :
    Lists r text cursor (r.matchesFrom text fuel cursor) := by
  induction fuel generalizing cursor with
  | zero => exact .past (by omega)
  | succ fuel ih =>
    rw [matchesFrom]
    by_cases hle : cursor ≤ text.size
    · cases hsearch : r.search? text cursor with
      | none => exact .silent hle hsearch
      | some span =>
        refine .found hle hsearch (ih ?_)
        have hwithin := search?_within hsearch
        rw [cursor_after hsearch, Span.cover]
        omega
    · have hnone : r.search? text cursor = none := by rw [search?, if_neg hle]
      rw [hnone]
      exact .past (by omega)

section Runs

variable {cursor : Nat} {spans : List Span}

theorem Lists.search?_of_mem (h : Lists r text cursor spans) {span : Span} (hspan : span ∈ spans) :
    ∃ c, cursor ≤ c ∧ r.search? text c = some span := by
  induction h with
  | past => simp at hspan
  | silent => simp at hspan
  | @found cursor first spans hle hfirst rest ih =>
    rcases List.mem_cons.mp hspan with rfl | hspan
    · exact ⟨cursor, Nat.le_refl _, hfirst⟩
    · obtain ⟨c, hc, hsearch⟩ := ih hspan
      have hwithin := search?_within hfirst
      rw [cursor_after hfirst, Span.cover] at hc
      exact ⟨c, by omega, hsearch⟩

theorem Lists.pairwise (h : Lists r text cursor spans) :
    spans.Pairwise fun a b => a.cover ≤ b.start := by
  induction h with
  | past => exact .nil
  | silent => exact .nil
  | found hle hfirst rest ih =>
    refine .cons (fun later hlater => ?_) ih
    obtain ⟨c, hc, hsearch⟩ := rest.search?_of_mem hlater
    have hwithin := search?_within hsearch
    rw [cursor_after hfirst] at hc
    omega

theorem Lists.length_le (h : Lists r text cursor spans) :
    spans.length ≤ text.size + 1 - cursor := by
  induction h with
  | past => simp
  | silent => simp
  | found hle hfirst rest ih =>
    have hwithin := search?_within hfirst
    rw [cursor_after hfirst, Span.cover] at ih
    rw [List.length_cons]
    omega

/-- An offset from the cursor on that matches is covered. A round passes over the offsets before
its match, which do not match, and those that the match covers. -/
theorem Lists.covers (h : Lists r text cursor spans) {p : Nat} (hp : cursor ≤ p)
    (hsize : p ≤ text.size) (hmatch : r.matchAt? text p ≠ none) :
    ∃ span ∈ spans, span.start ≤ p ∧ p < span.cover := by
  induction h with
  | past => omega
  | silent hle hnone => exact absurd (search?_eq_none_iff.mp hnone p hp hsize) hmatch
  | @found cursor first spans hle hfirst rest ih =>
    obtain ⟨-, hbefore⟩ := matchAt?_of_search? hfirst
    have hstart : first.start ≤ p :=
      Nat.le_of_not_lt fun hlt => hmatch (hbefore p hp hlt)
    by_cases hcover : p < first.cover
    · exact ⟨first, List.mem_cons_self, hstart, hcover⟩
    · rw [cursor_after hfirst] at ih
      obtain ⟨span, hspan, hle⟩ := ih (by omega)
      exact ⟨span, List.mem_cons_of_mem _ hspan, hle⟩

end Runs

-- ════════════════════════════════════════════════════════════════════════
-- The matches of a text
-- ════════════════════════════════════════════════════════════════════════

/-- The text of a match is the part of the text between its offsets. -/
theorem exists_append_textOf {span : Span} (hle : span.start ≤ span.stop)
    (hsize : span.stop ≤ text.size) :
    ∃ before after, text.toList = before ++ (PatternCheck.textOf text span).toList ++ after ∧
      before.length = span.start ∧
      (PatternCheck.textOf text span).toList.length = span.stop - span.start := by
  have hpart : (PatternCheck.textOf text span).toList =
      (text.toList.drop span.start).take (span.stop - span.start) := by
    simp [PatternCheck.textOf, List.extract]
  refine ⟨text.toList.take span.start,
    (text.toList.drop span.start).drop (span.stop - span.start), ?_, ?_, ?_⟩
  · rw [hpart, List.append_assoc, List.take_append_drop, List.take_append_drop]
  · rw [List.length_take, Array.length_toList]
    omega
  · rw [hpart, List.length_take, List.length_drop, Array.length_toList]
    omega

/-- The loop that lists the matches of a text ends, after no more rounds than there are offsets.
Each match lies in the text, its text is the part between its offsets, and the expression matches
there. The matches start later and later, each at the end of the one before or after it. And each
offset at which the expression matches is the start of a match or lies inside one, where matching
means that some amount of fuel, and all beyond it, leads to the match. -/
theorem findAll_lists_matches (r : Regex) (text : Array Char) :
    r.Lists text 0 (r.findAll text) ∧
    (r.findAll text).length ≤ text.size + 1 ∧
    (∀ span ∈ r.findAll text,
      span.start ≤ span.stop ∧ span.stop ≤ text.size ∧
      (∃ before after, text.toList = before ++ (PatternCheck.textOf text span).toList ++ after ∧
        before.length = span.start ∧
        (PatternCheck.textOf text span).toList.length = span.stop - span.start) ∧
      r.Matches text span.start span.stop) ∧
    ((r.findAll text).Pairwise fun a b => a.start < b.start ∧ a.stop ≤ b.start) ∧
    ∀ start ≤ text.size, ∀ stop, r.Matches text start stop →
      ∃ span ∈ r.findAll text, span.start ≤ start ∧ start < max span.stop (span.start + 1) := by
  have hlists : r.Lists text 0 (r.findAll text) := lists_matchesFrom (by omega)
  refine ⟨hlists, hlists.length_le, ?_, ?_, ?_⟩
  · intro span hspan
    obtain ⟨hle, hsize⟩ := mem_findAll hspan
    obtain ⟨cursor, -, hsearch⟩ := hlists.search?_of_mem hspan
    refine ⟨hle, hsize, exists_append_textOf hle hsize, ?_⟩
    exact (matchAt?_eq_some_iff (by omega)).mp (matchAt?_of_search? hsearch).1
  · refine hlists.pairwise.imp fun hab => ?_
    rw [Span.cover] at hab
    omega
  · intro start hstart stop hmatches
    refine hlists.covers (Nat.zero_le start) hstart ?_
    rw [(matchAt?_eq_some_iff hstart).mpr hmatches]
    exact Option.some_ne_none stop

/-- What stands after an `a`, perhaps nothing but a lone `b`. -/
def afterLetter : Regex :=
  { steps := [.look 1 false [.one (.set false false false [.code 'a'.toNat])],
      .repeatOne .greedy 0 (some 1) (.set false false false [.code 'b'.toNat])]
    slots := 0 }

/-- The empty match at the end of the text is among the matches. -/
theorem findAll_lists_matches_at_end :
    afterLetter.findAll "aba".toList.toArray = [⟨1, 2⟩, ⟨3, 3⟩] ∧
      afterLetter.Matches "aba".toList.toArray 3 3 ∧
      ∃ span ∈ afterLetter.findAll "aba".toList.toArray,
        span.start ≤ 3 ∧ 3 < max span.stop (span.start + 1) := by
  have hmatch : afterLetter.Matches "aba".toList.toArray 3 3 :=
    (matchAt?_eq_some_iff (by decide)).mp (by decide +kernel)
  obtain ⟨-, -, -, -, hcovers⟩ := findAll_lists_matches afterLetter "aba".toList.toArray
  exact ⟨by decide +kernel, hmatch, hcovers 3 (by decide) 3 hmatch⟩

end ChecklistReview.Regex
