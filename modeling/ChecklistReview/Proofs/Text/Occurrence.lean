import ChecklistReview.Text.Occurrence

/-!
# Occurrences of a text in a text

`cut?` finds an occurrence exactly if there is one, and what it finds is the first one.
`FirstOccurrence` says which one that is, and `Separates` which pieces lie between occurrences that
are taken from left to right; both are said without the functions that find them.

## Main statements

* `occursIn_iff`: a text is found exactly if it is part of the other.
* `cut?_eq_some_iff`: a text is cut around the first occurrence of the other.
* `separates_iff`: `piecesBetween` gives the pieces between occurrences from left to right.
* `separates_iff_of_not_mem`: if the separating text cannot overlap with itself, these are the only
  pieces that make up the text with it between them and not in them.
* `replaceFirst_cases`: the first occurrence is replaced, or there is none.
* `replaceFirst_self`: an occurrence that is replaced by itself leaves the text as it is.
* `piecesBetween_self`: a text lies between two empty pieces of itself.
* `mem_of_mem_replaceFirst`, `mem_of_mem_piecesBetween`: where a character comes from.
-/

namespace ChecklistReview.Text

variable {α : Type}

-- ════════════════════════════════════════════════════════════════════════
-- The first occurrence
-- ════════════════════════════════════════════════════════════════════════

/-- The first occurrence of a text in another: what stands before it is as short as it can be. -/
structure FirstOccurrence (sought text before after : List α) : Prop where
  eq_append : text = before ++ sought ++ after
  shortest : ∀ {before' after' : List α},
    text = before' ++ sought ++ after' → before.length ≤ before'.length

namespace FirstOccurrence

variable {sought text before after : List α}

theorem unique {before' after' : List α} (h : FirstOccurrence sought text before after)
    (h' : FirstOccurrence sought text before' after') : before = before' ∧ after = after' := by
  have hlength : before.length = before'.length :=
    Nat.le_antisymm (h.shortest h'.eq_append) (h'.shortest h.eq_append)
  have htext : before ++ (sought ++ after) = before' ++ (sought ++ after') := by
    rw [← List.append_assoc, ← List.append_assoc, ← h.eq_append, ← h'.eq_append]
  obtain ⟨hbefore, hrest⟩ := List.append_inj htext hlength
  exact ⟨hbefore, List.append_cancel_left hrest⟩

theorem before_eq_nil (h : FirstOccurrence [] text before after) : before = [] := by
  have hle : before.length ≤ 0 := h.shortest (show text = [] ++ [] ++ text from rfl)
  exact List.eq_nil_of_length_eq_zero (Nat.le_zero.mp hle)

/-- Before its first occurrence a text does not occur. -/
theorem not_infix (h : FirstOccurrence sought text before after) (hs : sought ≠ []) :
    ¬ sought <:+: before := by
  rintro ⟨front, back, rfl⟩
  have hearlier : text = front ++ sought ++ (back ++ (sought ++ after)) := by
    rw [h.eq_append]
    simp only [List.append_assoc]
  have hle := h.shortest hearlier
  have hpos : 0 < sought.length := List.length_pos_iff.mpr hs
  simp only [List.length_append] at hle
  omega

end FirstOccurrence

theorem firstOccurrence_start (sought after : List α) :
    FirstOccurrence sought (sought ++ after) [] after :=
  ⟨rfl, fun _ => Nat.zero_le _⟩

/-- A text whose first letter does not come again in it cannot overlap with itself. So its first
occurrence is where what stands before does not hold it. -/
theorem firstOccurrence_of_not_mem {c : α} {rest before : List α} (hc : c ∉ rest)
    (hfree : ¬ c :: rest <:+: before) (after : List α) :
    FirstOccurrence (c :: rest) (before ++ (c :: rest) ++ after) before after := by
  refine ⟨rfl, ?_⟩
  intro before' after' htext
  apply Nat.le_of_not_lt
  intro hlt
  rw [List.append_assoc, List.append_assoc] at htext
  have hbegins : before' <+: before :=
    List.prefix_of_prefix_length_le (htext ▸ List.prefix_append before' _)
      (List.prefix_append before _) (Nat.le_of_lt hlt)
  obtain ⟨middle, rfl⟩ := hbegins
  rw [List.append_assoc, List.append_cancel_left_eq] at htext
  -- The earlier occurrence ends within what stands before, or reaches into the later one.
  rcases List.append_eq_append_iff.mp htext with ⟨common, hword, hlater⟩ | ⟨more, rfl, -⟩
  · cases middle with
    | nil => simp at hlt
    | cons d middle =>
      obtain ⟨-, hrest⟩ := List.cons.inj hword
      cases common with
      | nil =>
        apply hfree
        rw [hword, List.append_nil]
        exact (List.suffix_append before' _).isInfix
      | cons x common =>
        obtain ⟨rfl, -⟩ := List.cons.inj hlater
        exact hc (hrest ▸ List.mem_append_right _ List.mem_cons_self)
  · apply hfree
    exact ⟨before', more, List.append_assoc _ _ _⟩

-- ════════════════════════════════════════════════════════════════════════
-- Pieces between occurrences
-- ════════════════════════════════════════════════════════════════════════

/-- A text separates another into pieces: its occurrences are taken from left to right, each one
after the end of the one before. -/
inductive Separates (sought : List α) : List α → List (List α) → Prop where
  | last {text : List α} (h : ¬ sought <:+: text) : Separates sought text [text]
  | next {text before after : List α} {pieces : List (List α)}
      (h : FirstOccurrence sought text before after) (rest : Separates sought after pieces) :
      Separates sought text (before :: pieces)

namespace Separates

variable {sought text : List α} {pieces : List (List α)}

theorem unique {pieces' : List (List α)} (h : Separates sought text pieces)
    (h' : Separates sought text pieces') : pieces = pieces' := by
  induction h generalizing pieces' with
  | last hnot =>
    cases h' with
    | last => rfl
    | next hfirst => exact absurd ⟨_, _, hfirst.eq_append.symm⟩ hnot
  | next hfirst _ ih =>
    cases h' with
    | last hnot => exact absurd ⟨_, _, hfirst.eq_append.symm⟩ hnot
    | next hfirst' hrest' =>
      obtain ⟨rfl, rfl⟩ := hfirst.unique hfirst'
      rw [ih hrest']

theorem ne_nil (h : Separates sought text pieces) : pieces ≠ [] := by
  cases h with
  | last => exact List.cons_ne_nil _ _
  | next => exact List.cons_ne_nil _ _

/-- The pieces with the separating text between them are the text. -/
theorem intercalate_eq (h : Separates sought text pieces) : sought.intercalate pieces = text := by
  induction h with
  | last => exact List.intercalate_singleton
  | next hfirst hrest ih =>
    rw [List.intercalate_cons_of_ne_nil hrest.ne_nil, ih, hfirst.eq_append]

theorem not_infix (h : Separates sought text pieces) (hs : sought ≠ []) :
    ∀ piece ∈ pieces, ¬ sought <:+: piece := by
  induction h with
  | last hnot => simpa using hnot
  | next hfirst _ ih => exact List.forall_mem_cons.mpr ⟨hfirst.not_infix hs, ih⟩

end Separates

/-- Pieces without a text that cannot overlap with itself, and with it between them, are separated
by it. -/
theorem separates_intercalate {c : α} {rest : List α} (hc : c ∉ rest) {pieces : List (List α)}
    (hne : pieces ≠ []) (hfree : ∀ piece ∈ pieces, ¬ c :: rest <:+: piece) :
    Separates (c :: rest) ((c :: rest).intercalate pieces) pieces := by
  induction pieces with
  | nil => exact absurd rfl hne
  | cons piece pieces ih =>
    obtain ⟨hpiece, hpieces⟩ := List.forall_mem_cons.mp hfree
    by_cases hlast : pieces = []
    · rw [hlast, List.intercalate_singleton]
      exact .last hpiece
    · rw [List.intercalate_cons_of_ne_nil hlast]
      exact .next (firstOccurrence_of_not_mem hc hpiece _) (ih hlast hpieces)

theorem separates_iff_of_not_mem {c : α} {rest text : List α} (hc : c ∉ rest)
    {pieces : List (List α)} :
    Separates (c :: rest) text pieces ↔ pieces ≠ [] ∧ (c :: rest).intercalate pieces = text ∧
      ∀ piece ∈ pieces, ¬ c :: rest <:+: piece := by
  constructor
  · intro h
    exact ⟨h.ne_nil, h.intercalate_eq, h.not_infix (List.cons_ne_nil c rest)⟩
  · rintro ⟨hne, rfl, hfree⟩
    exact separates_intercalate hc hne hfree

-- ════════════════════════════════════════════════════════════════════════
-- Finding and replacing
-- ════════════════════════════════════════════════════════════════════════

variable [DecidableEq α]

/-- Nothing is found exactly if the text is not part of the other. -/
theorem cut?_eq_none_iff {sought text : List α} : cut? sought text = none ↔ ¬ sought <:+: text := by
  induction text with
  | nil => simp [cut?]
  | cons c rest ih =>
    rw [List.infix_cons_iff, cut?]
    by_cases hp : sought <+: c :: rest
    · simp [hp, List.isPrefixOf_iff_prefix.mpr hp]
    · have hb : sought.isPrefixOf (c :: rest) = false := by
        rw [Bool.eq_false_iff, ne_eq, List.isPrefixOf_iff_prefix]
        exact hp
      simp [hp, hb, ih]

/-- A text occurs in another exactly if it is part of it. -/
theorem occursIn_iff {sought text : List α} : occursIn sought text = true ↔ sought <:+: text := by
  rw [occursIn, Option.isSome_iff_ne_none, ne_eq, cut?_eq_none_iff, Classical.not_not]

theorem length_le_of_cut?_eq_some {sought text before after before' after' : List α}
    (h : cut? sought text = some (before, after)) (htext : text = before' ++ sought ++ after') :
    before.length ≤ before'.length := by
  induction text generalizing before before' with
  | nil =>
    have hnil := eq_append_of_cut?_eq_some h
    rw [(List.append_eq_nil_iff.mp hnil.symm).1]
    exact Nat.zero_le _
  | cons c rest ih =>
    rw [cut?] at h
    by_cases hp : sought.isPrefixOf (c :: rest) = true
    · rw [if_pos hp] at h
      cases h
      exact Nat.zero_le _
    · rw [if_neg hp] at h
      obtain ⟨parts, hrest, hparts⟩ := Option.map_eq_some_iff.mp h
      obtain ⟨rfl, rfl⟩ := Prod.mk.inj hparts
      cases before' with
      | nil =>
        rw [htext] at hp
        exact absurd (List.isPrefixOf_iff_prefix.mpr (List.prefix_append sought after')) hp
      | cons d before' => exact Nat.succ_le_succ (ih hrest (List.cons.inj htext).2)

/-- A text is cut around the first occurrence. -/
theorem cut?_eq_some_iff {sought text before after : List α} :
    cut? sought text = some (before, after) ↔ FirstOccurrence sought text before after := by
  have hsound : ∀ {before after}, cut? sought text = some (before, after) →
      FirstOccurrence sought text before after := by
    intro before after h
    refine ⟨?_, fun htext => length_le_of_cut?_eq_some h htext⟩
    rw [List.append_assoc]
    exact eq_append_of_cut?_eq_some h
  refine ⟨hsound, ?_⟩
  intro h
  cases hcut : cut? sought text with
  | none => exact absurd ⟨before, after, h.eq_append.symm⟩ (cut?_eq_none_iff.mp hcut)
  | some parts =>
    obtain ⟨rfl, rfl⟩ := (hsound hcut).unique h
    rfl

/-- The first occurrence is replaced, or there is none and the text stays. -/
theorem replaceFirst_cases (sought new text : List α) :
    (∃ before after, FirstOccurrence sought text before after ∧
        replaceFirst sought new text = before ++ new ++ after) ∨
      (¬ sought <:+: text ∧ replaceFirst sought new text = text) := by
  rw [replaceFirst]
  cases hcut : cut? sought text with
  | none => exact .inr ⟨cut?_eq_none_iff.mp hcut, rfl⟩
  | some parts => exact .inl ⟨parts.1, parts.2, cut?_eq_some_iff.mp hcut, rfl⟩

theorem separates_piecesBetween {sought : List α} (hs : sought ≠ []) (text : List α) :
    Separates sought text (piecesBetween sought hs text) := by
  fun_induction piecesBetween sought hs text with
  | case1 text hcut => exact .last (cut?_eq_none_iff.mp hcut)
  | case2 text before after hcut ih => exact .next (cut?_eq_some_iff.mp hcut) ih

/-- The pieces between occurrences are those into which a text is separated. -/
theorem separates_iff {sought text : List α} (hs : sought ≠ []) {pieces : List (List α)} :
    Separates sought text pieces ↔ pieces = piecesBetween sought hs text := by
  constructor
  · intro h
    exact h.unique (separates_piecesBetween hs text)
  · rintro rfl
    exact separates_piecesBetween hs text

/-- An occurrence that is replaced by itself leaves the text as it is. -/
theorem replaceFirst_self (sought text : List α) : replaceFirst sought sought text = text := by
  rcases replaceFirst_cases sought sought text with ⟨before, after, hfirst, heq⟩ | ⟨-, heq⟩
  · rw [heq, ← hfirst.eq_append]
  · exact heq

/-- A text lies between two empty pieces of itself. -/
theorem piecesBetween_self {sought : List α} (h : sought ≠ []) :
    piecesBetween sought h sought = [[], []] := by
  have hlast : Separates sought [] [[]] := .last fun hinfix => h (List.infix_nil.mp hinfix)
  have hfirst : FirstOccurrence sought sought [] [] := by
    simpa using firstOccurrence_start sought []
  exact ((separates_iff h).mp (.next hfirst hlast)).symm

/-- A text with an occurrence replaced has its letters from the text and what is put in. -/
theorem mem_of_mem_replaceFirst {sought new text : List α} {c : α}
    (h : c ∈ replaceFirst sought new text) : c ∈ new ∨ c ∈ text := by
  rcases replaceFirst_cases sought new text with ⟨before, after, hfirst, heq⟩ | ⟨-, heq⟩
  · rw [heq] at h
    rw [hfirst.eq_append]
    simp only [List.mem_append] at h ⊢
    rcases h with (hb | hn) | ha
    · exact .inr (.inl (.inl hb))
    · exact .inl hn
    · exact .inr (.inr ha)
  · rw [heq] at h
    exact .inr h

/-- The pieces of a text have their letters from it. -/
theorem mem_of_mem_piecesBetween {sought text piece : List α} (hs : sought ≠ [])
    (hp : piece ∈ piecesBetween sought hs text) {c : α} (hc : c ∈ piece) : c ∈ text := by
  fun_induction piecesBetween sought hs text with
  | case1 text hcut =>
    rw [List.mem_singleton.mp hp] at hc
    exact hc
  | case2 text before after hcut ih =>
    rw [eq_append_of_cut?_eq_some hcut]
    rcases List.mem_cons.mp hp with rfl | hp
    · exact List.mem_append_left _ hc
    · exact List.mem_append_right _ (List.mem_append_right _ (ih hp))

end ChecklistReview.Text
