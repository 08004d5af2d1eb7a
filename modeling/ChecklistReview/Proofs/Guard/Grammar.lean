import ChecklistReview.Guard
import Mathlib.Data.List.TakeWhile

/-!
# The grammar of guards

A guard is a name, a comparison and a literal, with blanks between them. It stands in a text
between two parts that do not make the name or the literal longer. Reading a guard needs no
choice: blanks are followed by something that is no blank, and a comparison by something that
does not make it longer. So at each offset there is at most one guard.

## Main statements

* `Spells` and `Occurs`: how a guard is written, and where it stands in a text.
* `after?_eq_some_iff`: reading a guard at the start of a text follows the grammar.
* `endAt?_eq_some_iff`: so does reading one at an offset.
* `find?_eq_some_iff_endAt?`: a search finds the first offset at which there is a guard.
-/

namespace ChecklistReview.Guard

open Text

-- ════════════════════════════════════════════════════════════════════════
-- How a guard is written
-- ════════════════════════════════════════════════════════════════════════

/-- The comparisons. -/
def operators : List (List Char) :=
  [['=', '=', '='], ['!', '=', '='], ['=', '='], ['!', '=']]

/-- What a name is compared with. -/
def literals : List (List Char) :=
  [['n', 'u', 'l', 'l'], ['u', 'n', 'd', 'e', 'f', 'i', 'n', 'e', 'd']]

/-- A text is a guard for a name. -/
def Spells (name guard : List Char) : Prop :=
  ∃ blanks operator blanks' literal, (∀ c ∈ blanks, isBlank c = true) ∧ operator ∈ operators ∧
    (∀ c ∈ blanks', isBlank c = true) ∧ literal ∈ literals ∧
    guard = name ++ blanks ++ operator ++ blanks' ++ literal

/-- A guard for a name stands in a text between two parts that are apart from it. -/
structure Occurs (name text before guard after : List Char) : Prop where
  text_eq : text = before ++ guard ++ after
  spells : Spells name guard
  left : ∀ c, before.getLast? = some c → ¬(isWordChar c = true ∨ c = '$' ∨ c = '.')
  right : ∀ c, after.head? = some c → ¬(isWordChar c = true ∨ c = '$')

-- ════════════════════════════════════════════════════════════════════════
-- Reading the parts
-- ════════════════════════════════════════════════════════════════════════

theorem afterName?_eq_some_iff {name text rest : List Char} :
    afterName? name text = some rest ↔ text = name ++ rest := by
  induction name generalizing text with
  | nil => simp [afterName?]
  | cons a name ih =>
    cases text with
    | nil => simp [afterName?]
    | cons b text =>
      rw [afterName?]
      by_cases hab : a = b
      · subst hab
        rw [if_pos rfl, ih, List.cons_append, List.cons.injEq, and_iff_right rfl]
      · rw [if_neg hab]
        refine iff_of_false (by simp) fun h => hab ?_
        exact (List.cons.inj h).1.symm

theorem afterLiteral?_eq_some_iff {text rest : List Char} :
    afterLiteral? text = some rest ↔ ∃ literal ∈ literals, text = literal ++ rest := by
  constructor
  · intro h
    unfold afterLiteral? at h
    split at h
    · obtain rfl := Option.some.inj h
      exact ⟨['n', 'u', 'l', 'l'], by decide, rfl⟩
    · obtain rfl := Option.some.inj h
      exact ⟨['u', 'n', 'd', 'e', 'f', 'i', 'n', 'e', 'd'], by decide, rfl⟩
    · cases h
  · rintro ⟨literal, hliteral, rfl⟩
    rcases List.mem_cons.mp hliteral with rfl | hliteral
    · rfl
    · obtain rfl := List.mem_singleton.mp hliteral
      rfl

theorem exists_of_afterOperator? {text rest : List Char} (h : afterOperator? text = some rest) :
    ∃ operator ∈ operators, text = operator ++ rest := by
  unfold afterOperator? at h
  split at h
  · obtain rfl := Option.some.inj h
    exact ⟨['=', '=', '='], by decide, rfl⟩
  · obtain rfl := Option.some.inj h
    exact ⟨['!', '=', '='], by decide, rfl⟩
  · obtain rfl := Option.some.inj h
    exact ⟨['=', '='], by decide, rfl⟩
  · obtain rfl := Option.some.inj h
    exact ⟨['!', '='], by decide, rfl⟩
  · cases h

/-- A comparison is read as it is written unless what follows makes it longer. -/
theorem afterOperator?_append {operator rest : List Char} (h : operator ∈ operators)
    (hrest : rest.head? ≠ some '=') : afterOperator? (operator ++ rest) = some rest := by
  have hnot : ∀ more, rest ≠ '=' :: more := by
    rintro more rfl
    exact hrest rfl
  simp only [operators, List.mem_cons, List.not_mem_nil, or_false] at h
  rcases h with rfl | rfl | rfl | rfl
  · rfl
  · rfl
  · cases rest with
    | nil => rfl
    | cons c more =>
      have hc : c ≠ '=' := fun hc => hnot more (by rw [hc])
      simp [afterOperator?]
  · cases rest with
    | nil => rfl
    | cons c more =>
      have hc : c ≠ '=' := fun hc => hnot more (by rw [hc])
      simp [afterOperator?]

/-- Blanks are read to their end. -/
theorem dropWhile_blanks_append {blanks rest : List Char} (h : ∀ c ∈ blanks, isBlank c = true)
    (hrest : ∀ c, rest.head? = some c → isBlank c = false) :
    (blanks ++ rest).dropWhile isBlank = rest := by
  rw [List.dropWhile_append_of_pos h]
  cases rest with
  | nil => rfl
  | cons c rest =>
    have hc := hrest c rfl
    rw [List.dropWhile_cons_of_neg (by rw [hc]; exact Bool.false_ne_true)]

theorem head_operator {operator : List Char} (h : operator ∈ operators) (rest : List Char) :
    ∀ c, (operator ++ rest).head? = some c → isBlank c = false := by
  simp only [operators, List.mem_cons, List.not_mem_nil, or_false] at h
  rcases h with rfl | rfl | rfl | rfl <;>
    · rintro c hc
      obtain rfl := Option.some.inj hc
      decide

theorem head_literal {literal : List Char} (h : literal ∈ literals) (rest : List Char) :
    ∀ c, (literal ++ rest).head? = some c → isBlank c = false ∧ c ≠ '=' := by
  simp only [literals, List.mem_cons, List.not_mem_nil, or_false] at h
  rcases h with rfl | rfl <;>
    · rintro c hc
      obtain rfl := Option.some.inj hc
      decide

/-- What follows a comparison does not make it longer if it is blanks and a literal. -/
theorem head_blanks_literal {blanks literal : List Char} (hblanks : ∀ c ∈ blanks, isBlank c = true)
    (hliteral : literal ∈ literals) (rest : List Char) :
    (blanks ++ (literal ++ rest)).head? ≠ some '=' := by
  cases blanks with
  | nil =>
    intro hc
    exact (head_literal hliteral rest '=' hc).2 rfl
  | cons c blanks =>
    intro hc
    obtain rfl := Option.some.inj hc
    have hblank := hblanks '=' List.mem_cons_self
    revert hblank
    decide

-- ════════════════════════════════════════════════════════════════════════
-- Reading a guard
-- ════════════════════════════════════════════════════════════════════════

theorem any_joinsRight_eq_false_iff {after : List Char} :
    after.head?.any joinsRight = false ↔
      ∀ c, after.head? = some c → ¬(isWordChar c = true ∨ c = '$') := by
  simp only [Option.any_eq_false, joinsRight, Bool.or_eq_false_iff, decide_eq_false_iff_not, not_or,
    Bool.not_eq_true]

theorem any_joinsLeft_eq_false_iff {previous : Option Char} :
    previous.any joinsLeft = false ↔
      ∀ c, previous = some c → ¬(isWordChar c = true ∨ c = '$' ∨ c = '.') := by
  simp only [Option.any_eq_false, joinsLeft, Bool.or_eq_false_iff, decide_eq_false_iff_not, not_or,
    Bool.not_eq_true, and_assoc]

/-- Reading a guard at the start of a text follows the grammar. -/
theorem after?_eq_some_iff {name text rest : List Char} :
    after? name text = some rest ↔
      (∃ guard, Spells name guard ∧ text = guard ++ rest) ∧
        ∀ c, rest.head? = some c → ¬(isWordChar c = true ∨ c = '$') := by
  have hlast : ∀ tail, (if tail.head?.any joinsRight then none else some tail) = some rest ↔
      tail = rest ∧ ∀ c, rest.head? = some c → ¬(isWordChar c = true ∨ c = '$') := by
    intro tail
    rw [← any_joinsRight_eq_false_iff]
    by_cases hjoins : tail.head?.any joinsRight = true
    · rw [if_pos hjoins]
      refine iff_of_false (by simp) ?_
      rintro ⟨rfl, h⟩
      rw [hjoins] at h
      cases h
    · rw [if_neg hjoins, Option.some.injEq]
      constructor
      · rintro rfl
        exact ⟨rfl, by simpa using hjoins⟩
      · rintro ⟨rfl, -⟩
        rfl
  constructor
  · intro h
    obtain ⟨afterName, hname, h⟩ := Option.bind_eq_some_iff.mp h
    obtain ⟨afterOperator, hoperator, h⟩ := Option.bind_eq_some_iff.mp h
    obtain ⟨afterLiteral, hliteral, h⟩ := Option.bind_eq_some_iff.mp h
    obtain ⟨rfl, hright⟩ := (hlast afterLiteral).mp h
    obtain rfl := afterName?_eq_some_iff.mp hname
    obtain ⟨operator, hoperator, hrest⟩ := exists_of_afterOperator? hoperator
    obtain ⟨literal, hliteral, hrest'⟩ := afterLiteral?_eq_some_iff.mp hliteral
    refine ⟨⟨_, ⟨afterName.takeWhile isBlank, operator, afterOperator.takeWhile isBlank, literal,
      fun c hc => List.mem_takeWhile_imp hc, hoperator, fun c hc => List.mem_takeWhile_imp hc,
      hliteral, rfl⟩, ?_⟩, hright⟩
    have hname : afterName = afterName.takeWhile isBlank ++ (operator ++ afterOperator) := by
      rw [← hrest, List.takeWhile_append_dropWhile]
    have hoperator : afterOperator =
        afterOperator.takeWhile isBlank ++ (literal ++ afterLiteral) := by
      rw [← hrest', List.takeWhile_append_dropWhile]
    simp only [List.append_assoc]
    rw [← hoperator, ← hname]
  · rintro ⟨⟨guard, ⟨blanks, operator, blanks', literal, hblanks, hoperator, hblanks', hliteral,
      rfl⟩, rfl⟩, hright⟩
    have hname : afterName? name (name ++ blanks ++ operator ++ blanks' ++ literal ++ rest) =
        some (blanks ++ (operator ++ (blanks' ++ (literal ++ rest)))) := by
      rw [afterName?_eq_some_iff]
      simp only [List.append_assoc]
    have hafter := afterOperator?_append hoperator (head_blanks_literal hblanks' hliteral rest)
    have hend : afterLiteral? (literal ++ rest) = some rest :=
      afterLiteral?_eq_some_iff.mpr ⟨literal, hliteral, rfl⟩
    rw [after?, hname, Option.bind_eq_bind, Option.bind_some,
      dropWhile_blanks_append hblanks (head_operator hoperator _), hafter, Option.bind_some,
      dropWhile_blanks_append hblanks' fun c hc => (head_literal hliteral rest c hc).1, hend]
    exact (hlast rest).mpr ⟨rfl, hright⟩

/-- The end of the guard that starts at an offset. -/
def endAt? (name text : List Char) (offset : Nat) : Option Nat :=
  if (text.take offset).getLast?.any joinsLeft then none
  else (length? name (text.drop offset)).map (offset + ·)

/-- Reading a guard at an offset follows the grammar. -/
theorem endAt?_eq_some_iff {name text : List Char} {offset stop : Nat} (h : offset ≤ text.length) :
    endAt? name text offset = some stop ↔
      ∃ before guard after, Occurs name text before guard after ∧ before.length = offset ∧
        stop = offset + guard.length := by
  rw [endAt?]
  constructor
  · intro hend
    split at hend
    · cases hend
    · next hleft =>
      simp only [length?, Option.map_map, Option.map_eq_some_iff] at hend
      obtain ⟨after, hafter, rfl⟩ := hend
      obtain ⟨⟨guard, hspells, hdrop⟩, hright⟩ := after?_eq_some_iff.mp hafter
      refine ⟨text.take offset, guard, after, ⟨?_, hspells, ?_, hright⟩,
        List.length_take_of_le h, ?_⟩
      · rw [List.append_assoc, ← hdrop, List.take_append_drop]
      · exact any_joinsLeft_eq_false_iff.mp (by simpa using hleft)
      · rw [hdrop, Function.comp_apply, List.length_append, Nat.add_sub_cancel]
  · rintro ⟨before, guard, after, ⟨rfl, hspells, hleft, hright⟩, rfl, rfl⟩
    have hafter : after? name (guard ++ after) = some after :=
      after?_eq_some_iff.mpr ⟨⟨guard, hspells, rfl⟩, hright⟩
    rw [List.append_assoc, List.take_left, List.drop_left, any_joinsLeft_eq_false_iff.mpr hleft,
      length?, hafter]
    simp

-- ════════════════════════════════════════════════════════════════════════
-- Searching
-- ════════════════════════════════════════════════════════════════════════

theorem findFrom?_at? (name done rest : List Char) :
    findFrom?.at? name done.getLast? done.length rest =
      (endAt? name (done ++ rest) done.length).map (done.length, ·) := by
  rw [findFrom?.at?, endAt?, List.take_left, List.drop_left]
  split
  · rfl
  · rw [Option.map_map]
    rfl

theorem findFrom?_eq_some_iff {name done rest : List Char} {start stop : Nat} :
    findFrom? name done.getLast? done.length rest = some (start, stop) ↔
      done.length ≤ start ∧ start ≤ (done ++ rest).length ∧
        endAt? name (done ++ rest) start = some stop ∧
        ∀ p, done.length ≤ p → p < start → endAt? name (done ++ rest) p = none := by
  induction rest generalizing done with
  | nil =>
    rw [findFrom?, findFrom?_at?, List.append_nil, Option.map_eq_some_iff]
    constructor
    · rintro ⟨_, hend, hpair⟩
      obtain ⟨rfl, rfl⟩ := Prod.mk.inj hpair
      exact ⟨Nat.le_refl _, Nat.le_refl _, hend, fun p hle hlt => absurd hlt (Nat.not_lt.mpr hle)⟩
    · rintro ⟨hle, hge, hend, -⟩
      obtain rfl := Nat.le_antisymm hge hle
      exact ⟨stop, hend, rfl⟩
  | cons c rest ih =>
    rw [findFrom?, findFrom?_at?]
    cases hhere : endAt? name (done ++ c :: rest) done.length with
    | some stop' =>
      rw [Option.map_some, Option.some.injEq, Prod.mk.injEq]
      constructor
      · rintro ⟨rfl, rfl⟩
        exact ⟨Nat.le_refl _, by simp, hhere, fun p hle hlt => absurd hlt (Nat.not_lt.mpr hle)⟩
      · rintro ⟨hle, -, hend, hnone⟩
        have hstart : done.length = start := by
          refine Nat.le_antisymm hle (Nat.le_of_not_lt fun hlt => ?_)
          rw [hnone _ (Nat.le_refl _) hlt] at hhere
          cases hhere
        rw [← hstart, hhere] at hend
        exact ⟨hstart, Option.some.inj hend⟩
    | none =>
      have hmove := @ih (done ++ [c])
      rw [List.getLast?_concat, List.length_append, List.length_singleton,
        List.append_assoc, List.singleton_append] at hmove
      rw [Option.map_none, hmove]
      constructor
      · rintro ⟨hle, hge, hend, hnone⟩
        refine ⟨by omega, hge, hend, fun p hle' hlt => ?_⟩
        rcases Nat.eq_or_lt_of_le hle' with rfl | hlt'
        · exact hhere
        · exact hnone p hlt' hlt
      · rintro ⟨hle, hge, hend, hnone⟩
        refine ⟨Nat.lt_of_le_of_ne hle ?_, hge, hend, fun p hle' hlt => hnone p (by omega) hlt⟩
        rintro rfl
        rw [hhere] at hend
        cases hend

/-- A search finds the guard at the first offset that has one. -/
theorem find?_eq_some_iff_endAt? {name text : List Char} {start stop : Nat} :
    find? name text = some (start, stop) ↔
      start ≤ text.length ∧ endAt? name text start = some stop ∧
        ∀ p < start, endAt? name text p = none := by
  have h := @findFrom?_eq_some_iff name [] text start stop
  simpa [find?] using h

end ChecklistReview.Guard
