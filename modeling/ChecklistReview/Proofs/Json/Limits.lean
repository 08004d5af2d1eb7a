import ChecklistReview.Json.Reader

/-!
# Reading under limits

Limits change nothing of what is read. They only make readings stop that come to something beyond
them, so that what is read is within the limits.

## Main statements

* `Limits.Admit`: values within limits.
* `Bounded.bind`: readings one after another.
* `bounded_readers`: values, items and members.
* `read_limits` and `admit_of_read`: whole texts.
* `read_brackets`: arrays that are nested deeper than the limit are refused.
-/

namespace ChecklistReview.Json

variable {α β : Type} {limits inner : Limits}

-- ════════════════════════════════════════════════════════════════════════
-- Within and beyond limits
-- ════════════════════════════════════════════════════════════════════════

namespace Limits

mutual

/-- Whether a value is within limits: each of its parts is within the limits at its depth. -/
def Admit (limits : Limits) : Json → Prop
  | .array items => ∃ inner, limits.inner? = some inner ∧ AdmitItems inner items
  | .object ms => ∃ inner, limits.inner? = some inner ∧ AdmitMembers inner ms
  | j => limits.excess? j = none

/-- Whether each of the values is within limits. -/
def AdmitItems (limits : Limits) : List Json → Prop
  | [] => True
  | j :: js => limits.Admit j ∧ AdmitItems limits js

/-- Whether the value of each of the members is within limits. -/
def AdmitMembers (limits : Limits) : List (String × Json) → Prop
  | [] => True
  | (_, j) :: ms => limits.Admit j ∧ AdmitMembers limits ms

end

/-- Complaints about something beyond limits. -/
inductive Exceeded (limits : Limits) : Complaint → Prop where
  | longNumber {most digits : Nat} (hmost : limits.digits = some most) (hlt : most < digits) :
      Exceeded limits (.longNumber most digits)
  | tooDeep (isArray : Bool) (hdepth : limits.depth.isSome = true) :
      Exceeded limits (.tooDeep isArray)
  | noText (honly : limits.onlyTexts = true) : Exceeded limits .noText

theorem admitItems_iff {items : List Json} :
    limits.AdmitItems items ↔ ∀ j ∈ items, limits.Admit j := by
  induction items with
  | nil => simp [AdmitItems]
  | cons j items ih => simp [AdmitItems, ih]

theorem admitMembers_iff {ms : List (String × Json)} :
    limits.AdmitMembers ms ↔ ∀ m ∈ ms, limits.Admit m.2 := by
  induction ms with
  | nil => simp [AdmitMembers]
  | cons m ms ih => simp [AdmitMembers, ih]

theorem AdmitMembers.setMember {key : String} {value : Json} {ms : List (String × Json)}
    (hms : limits.AdmitMembers ms) (hvalue : limits.Admit value) :
    limits.AdmitMembers (setMember key value ms) := by
  induction ms with
  | nil => exact ⟨hvalue, trivial⟩
  | cons m ms ih =>
    rw [Json.setMember]
    split
    · exact ⟨hvalue, hms.2⟩
    · exact ⟨hms.1, ih hms.2⟩

/-- Only the depth is another one within a value. -/
theorem inner?_cases (h : limits.inner? = some inner) :
    inner.digits = limits.digits ∧ inner.countsSign = limits.countsSign ∧
      inner.depth.isSome = limits.depth.isSome ∧ inner.onlyTexts = limits.onlyTexts := by
  unfold inner? at h
  split at h
  · cases h
    simp
  · cases h
  · next hdepth =>
    cases h
    simp [hdepth]

theorem Exceeded.outward {c : Complaint} (hinner : limits.inner? = some inner)
    (h : inner.Exceeded c) : limits.Exceeded c := by
  obtain ⟨hdigits, -, hdepth, honly⟩ := inner?_cases hinner
  cases h with
  | longNumber hmost hlt => exact .longNumber (hdigits ▸ hmost) hlt
  | tooDeep isArray h => exact .tooDeep isArray (hdepth ▸ h)
  | noText h => exact .noText (honly ▸ h)

theorem exceeded_of_inner?_eq_none (isArray : Bool) (h : limits.inner? = none) :
    limits.Exceeded (.tooDeep isArray) := by
  refine .tooDeep isArray ?_
  unfold inner? at h
  split at h
  · cases h
  · next hdepth => rw [hdepth, Option.isSome_some]
  · cases h

theorem exceeded_of_excess? {j : Json} {c : Complaint} (h : limits.excess? j = some c) :
    limits.Exceeded c := by
  cases j with
  | int n =>
    simp only [excess?] at h
    cases hmost : limits.digits with
    | none => simp [hmost] at h
    | some most =>
      simp only [hmost] at h
      split at h
      · next hlt =>
        cases h
        exact .longNumber hmost hlt
      · cases h
  | broken codes =>
    simp only [excess?] at h
    split at h
    · next honly =>
      cases h
      exact .noText honly
    · cases h
  | _ => cases h

/-- Without limits nothing is beyond them. -/
theorem excess?_empty (j : Json) : ({} : Limits).excess? j = none := by
  cases j <;> rfl

end Limits

-- ════════════════════════════════════════════════════════════════════════
-- Readings with and without limits
-- ════════════════════════════════════════════════════════════════════════

/-- A reading under limits beside one without: both give the same, which is as it should be, or
stop alike, or the first one stops at something beyond the limits. -/
inductive Bounded (limits : Limits) (P : α → Prop) : Except Stop α → Except Stop α → Prop where
  | gives {a : α} (h : P a) : Bounded limits P (.ok a) (.ok a)
  | stops (s : Stop) : Bounded limits P (.error s) (.error s)
  | exceeds {s : Stop} (free : Except Stop α) (h : limits.Exceeded s.complaint) :
      Bounded limits P (.error s) free

namespace Bounded

variable {P : α → Prop} {Q : β → Prop}

theorem refl (x : Except Stop α) : Bounded limits (fun _ => True) x x := by
  cases x with
  | ok a => exact .gives trivial
  | error s => exact .stops s

theorem bind {x y : Except Stop α} {f g : α → Except Stop β} (hxy : Bounded limits P x y)
    (hfg : ∀ a, P a → Bounded limits Q (f a) (g a)) : Bounded limits Q (x >>= f) (y >>= g) := by
  cases hxy with
  | gives h => exact hfg _ h
  | stops s => exact .stops s
  | exceeds _ h => exact .exceeds _ h

theorem outward {x y : Except Stop α} (hinner : limits.inner? = some inner)
    (h : Bounded inner P x y) : Bounded limits P x y := by
  cases h with
  | gives h => exact .gives h
  | stops s => exact .stops s
  | exceeds _ h => exact .exceeds _ (h.outward hinner)

theorem check (value : Json) (text : List Char) :
    Bounded limits (fun _ => limits.excess? value = none) (limits.check value text)
      (({} : Limits).check value text) := by
  unfold Limits.check
  rw [Limits.excess?_empty]
  cases h : limits.excess? value with
  | none => exact .gives rfl
  | some complaint => exact .exceeds _ (Limits.exceeded_of_excess? h)

end Bounded

/-- Values without parts are words, which have no limits, and numbers. -/
theorem admit_of_mem_words {word : String} {value : Json} (h : (word, value) ∈ words) :
    limits.Admit value := by
  simp only [words, List.mem_cons, Prod.mk.injEq, List.not_mem_nil, or_false] at h
  rcases h with ⟨-, rfl⟩ | ⟨-, rfl⟩ | ⟨-, rfl⟩ | ⟨-, rfl⟩ | ⟨-, rfl⟩ | ⟨-, rfl⟩
  all_goals
    simp [Limits.Admit, Limits.excess?]

theorem admit_of_readWord? {text rest : List Char} {value : Json}
    (h : readWord? text = some (value, rest)) : limits.Admit value := by
  obtain ⟨⟨word, value'⟩, hmem, hfound⟩ := List.exists_of_findSome?_eq_some h
  obtain ⟨rest', -, heq⟩ := Option.map_eq_some_iff.mp hfound
  cases heq
  exact admit_of_mem_words hmem

theorem admit_of_readNumber {text rest : List Char} {value : Json}
    (h : readNumber text = some (value, rest)) (hexcess : limits.excess? value = none) :
    limits.Admit value := by
  have hatom : (∃ n, value = .int n) ∨ ∃ x, value = .real x := by
    unfold readNumber at h
    dsimp only at h
    split at h
    · cases h
    · split at h
      · cases h
        exact .inl ⟨_, rfl⟩
      · cases h
        exact .inr ⟨_, rfl⟩
  rcases hatom with ⟨n, rfl⟩ | ⟨x, rfl⟩
  · rwa [Limits.Admit]
    all_goals simp
  · rwa [Limits.Admit]
    all_goals simp

theorem admit_ofUnits {units : List Nat} (h : limits.excess? (ofUnits units) = none) :
    limits.Admit (ofUnits units) := by
  unfold ofUnits at h ⊢
  split
  · rfl
  · next hbroken =>
    rw [if_neg hbroken] at h
    exact h

theorem bounded_readAtom (text : List Char) :
    Bounded limits (fun found => limits.Admit found.1) (readAtom limits text)
      (readAtom {} text) := by
  unfold readAtom
  split
  · next found hword => exact .gives (admit_of_readWord? hword)
  · split
    · exact .stops _
    · next value rest hnumber =>
      exact (Bounded.check value text).bind fun _ hexcess =>
        .gives (admit_of_readNumber hnumber hexcess)

/-- Readers with the same fuel, of which one has limits. -/
structure BoundedReaders (fuel : Nat) : Prop where
  value : ∀ (limits : Limits) text, Bounded limits (fun found => limits.Admit found.1)
    (readValue limits fuel text) (readValue {} fuel text)
  items : ∀ (limits : Limits) text, Bounded limits (fun found => limits.AdmitItems found.1)
    (readItems limits fuel text) (readItems {} fuel text)
  members : ∀ (limits : Limits) before text, limits.AdmitMembers before →
    Bounded limits (fun found => limits.AdmitMembers found.1)
      (readMembers limits fuel before text) (readMembers {} fuel before text)

variable {fuel : Nat}

theorem BoundedReaders.readValue_succ (ih : BoundedReaders fuel) (limits : Limits)
    (text : List Char) : Bounded limits (fun found => limits.Admit found.1)
      (readValue limits (fuel + 1) text) (readValue {} (fuel + 1) text) := by
  unfold readValue
  split
  · next rest =>
    refine (Bounded.refl (readString _ rest)).bind ?_
    rintro ⟨units, rest⟩ -
    exact (Bounded.check _ _).bind fun _ hexcess => .gives (admit_ofUnits hexcess)
  · next rest =>
    cases hinner : limits.inner? with
    | none => exact .exceeds _ (Limits.exceeded_of_inner?_eq_none true hinner)
    | some inner =>
      dsimp only [Limits.inner?]
      split
      · exact .gives ⟨inner, hinner, trivial⟩
      · exact ((ih.items inner _).outward hinner).bind fun _ h => .gives ⟨inner, hinner, h⟩
  · next rest =>
    cases hinner : limits.inner? with
    | none => exact .exceeds _ (Limits.exceeded_of_inner?_eq_none false hinner)
    | some inner =>
      dsimp only [Limits.inner?]
      split
      · exact .gives ⟨inner, hinner, trivial⟩
      · exact ((ih.members inner [] _ trivial).outward hinner).bind fun _ h =>
          .gives ⟨inner, hinner, h⟩
  · exact bounded_readAtom text

theorem BoundedReaders.readItems_succ (ih : BoundedReaders fuel) (limits : Limits)
    (text : List Char) : Bounded limits (fun found => limits.AdmitItems found.1)
      (readItems limits (fuel + 1) text) (readItems {} (fuel + 1) text) := by
  unfold readItems
  refine (ih.value limits text).bind ?_
  rintro ⟨item, rest⟩ hitem
  dsimp only
  split
  · exact .gives ⟨hitem, trivial⟩
  · exact (ih.items limits _).bind fun _ hitems => .gives ⟨hitem, hitems⟩
  · exact .stops _

theorem BoundedReaders.readMembers_succ (ih : BoundedReaders fuel) (limits : Limits)
    (before : List (String × Json)) (text : List Char) (hbefore : limits.AdmitMembers before) :
    Bounded limits (fun found => limits.AdmitMembers found.1)
      (readMembers limits (fuel + 1) before text) (readMembers {} (fuel + 1) before text) := by
  unfold readMembers
  split
  · next rest =>
    refine (Bounded.refl (readString _ rest)).bind ?_
    rintro ⟨units, rest⟩ -
    refine (Bounded.check _ _).bind fun _ _ => ?_
    dsimp only
    split
    · refine (ih.value limits _).bind ?_
      rintro ⟨value, rest⟩ hvalue
      dsimp only
      split
      · exact .gives (hbefore.setMember hvalue)
      · exact ih.members limits _ _ (hbefore.setMember hvalue)
      · exact .stops _
    · exact .stops _
  · exact .stops _

/-- Limits only make readings stop. -/
theorem bounded_readers (fuel : Nat) : BoundedReaders fuel := by
  induction fuel with
  | zero => exact ⟨fun _ _ => .stops _, fun _ _ => .stops _, fun _ _ _ _ => .stops _⟩
  | succ fuel ih => exact ⟨ih.readValue_succ, ih.readItems_succ, ih.readMembers_succ⟩

theorem bounded_readAll (limits : Limits) (text : List Char) :
    Bounded limits limits.Admit (readAll limits text) (readAll {} text) := by
  unfold readAll
  split
  · exact .stops _
  · refine ((bounded_readers _).value limits _).bind ?_
    rintro ⟨value, rest⟩ hvalue
    dsimp only
    split
    · exact .gives hvalue
    · exact .stops _

/-- A text is read under limits as it is without, or refused for something beyond them. -/
theorem read_limits (limits : Limits) (text : List Char) :
    read text limits = read text ∨
      ∃ fault, limits.Exceeded fault.complaint ∧ read text limits = .error fault := by
  unfold read
  have h := bounded_readAll limits text
  generalize readAll limits text = x at h ⊢
  generalize readAll {} text = y at h ⊢
  cases h with
  | gives h => exact .inl rfl
  | stops s => exact .inl rfl
  | exceeds _ h => exact .inr ⟨_, h, rfl⟩

/-- What is read is within the limits. -/
theorem admit_of_read {text : List Char} {j : Json} (h : read text limits = .ok j) :
    limits.Admit j := by
  unfold read at h
  have hbounded := bounded_readAll limits text
  generalize readAll limits text = x at h hbounded
  generalize readAll {} text = y at hbounded
  cases hbounded with
  | gives hvalue =>
    cases h
    exact hvalue
  | stops _ => cases h
  | exceeds _ _ => cases h

/-- Arrays that are nested deeper than the limit end the reading, whatever is in them. -/
theorem readValue_brackets {depth n fuel : Nat} (hdepth : limits.depth = some depth)
    (hlt : depth < n) (hfuel : 2 * n ≤ fuel) (rest : List Char) :
    ∃ left, readValue limits fuel (List.replicate n '[' ++ rest) =
      .error { complaint := .tooDeep true, left } := by
  induction n generalizing limits depth fuel with
  | zero => exact absurd hlt (Nat.not_lt_zero depth)
  | succ n ih =>
    obtain ⟨fuel, rfl⟩ : ∃ more, fuel = more + 2 := ⟨fuel - 2, by omega⟩
    rw [List.replicate_succ, List.cons_append, readValue]
    cases depth with
    | zero =>
      have hinner : limits.inner? = none := by simp only [Limits.inner?, hdepth]
      simp only [hinner]
      exact ⟨_, rfl⟩
    | succ depth =>
      obtain ⟨n, rfl⟩ : ∃ more, n = more + 1 := ⟨n - 1, by omega⟩
      have hinner : limits.inner? = some { limits with depth := some depth } := by
        simp only [Limits.inner?, hdepth]
      obtain ⟨left, hread⟩ :=
        @ih { limits with depth := some depth } depth fuel rfl (by omega) (by omega)
      have hskip : skipGap ('[' :: (List.replicate n '[' ++ rest)) =
          '[' :: (List.replicate n '[' ++ rest) := rfl
      rw [List.replicate_succ, List.cons_append] at hread ⊢
      have hitems : readItems { limits with depth := some depth } (fuel + 1)
          ('[' :: (List.replicate n '[' ++ rest)) =
            .error { complaint := .tooDeep true, left } := by
        rw [readItems, hread]
        rfl
      refine ⟨left, ?_⟩
      simp only [hinner, hskip]
      split
      · next heq => exact absurd (List.cons.inj heq).1 (by decide)
      · rw [hitems]
        rfl

theorem read_brackets {depth n : Nat} (hdepth : limits.depth = some depth) (hlt : depth < n)
    (rest : List Char) :
    ∃ fault, read (List.replicate n '[' ++ rest) limits = .error fault ∧
      fault.complaint = .tooDeep true := by
  obtain ⟨n, rfl⟩ : ∃ more, n = more + 1 := ⟨n - 1, by omega⟩
  have hmark : (List.replicate (n + 1) '[' ++ rest).head? ≠ some (Char.ofNat 0xfeff) := by
    rw [List.replicate_succ, List.cons_append, List.head?_cons]
    decide
  have hskip : skipGap (List.replicate (n + 1) '[' ++ rest) =
      List.replicate (n + 1) '[' ++ rest := rfl
  have hfuel : 2 * (n + 1) ≤ 2 * (List.replicate (n + 1) '[' ++ rest).length + 2 := by
    rw [List.length_append, List.length_replicate]
    omega
  obtain ⟨left, hread⟩ := readValue_brackets hdepth hlt hfuel rest
  refine ⟨.ofStop (List.replicate (n + 1) '[' ++ rest) { complaint := .tooDeep true, left }, ?_,
    rfl⟩
  rw [read, readAll, if_neg hmark, hskip, hread]
  rfl

end ChecklistReview.Json
