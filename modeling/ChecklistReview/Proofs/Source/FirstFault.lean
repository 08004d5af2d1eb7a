import ChecklistReview.Proofs.Tree
import ChecklistReview.Source.Syntax

/-!
# The first fault of a text

The search for the first error of a syntax tree passes over children that are not flagged. It
misses nothing as long as it enters every child with an error in it, and then finds the node that a
walk through the whole tree meets first. If the flags of all nodes tell the truth, a text that is
refused always has a first fault, with a line.

## Main statements

* `Tree.firstBad?_eq_find?`: the search gives the first error of the walk.
* `Tree.firstBad?_eq_none_iff`: it finds nothing exactly if the root is not flagged.
* `Source.refused_at_first_error`: what a text is refused for.
-/

namespace ChecklistReview

namespace Tree

-- ════════════════════════════════════════════════════════════════════════
-- Which children are searched
-- ════════════════════════════════════════════════════════════════════════

/-- Some node of the tree is an error. -/
def HasBad (t : Tree) : Prop := ∃ b ∈ t.walk, b.isBad = true

/-- The flags tell the truth: a node is flagged exactly if it or a node below it is an error. -/
def FlagsTell (t : Tree) : Prop := ∀ s ∈ t.walk, s.label.hasError = true ↔ s.HasBad

instance (t : Tree) : Decidable t.HasBad :=
  inferInstanceAs (Decidable (∃ b ∈ t.walk, b.isBad = true))

instance (t : Tree) : Decidable t.FlagsTell :=
  inferInstanceAs (Decidable (∀ s ∈ t.walk, s.label.hasError = true ↔ s.HasBad))

/-- The search enters the children of a node that have an error in them. What is below an error is
never searched, so nothing is asked of it. -/
def LeadsToBad (t : Tree) : Prop :=
  ∀ s ∈ t.walk, s.isBad = false → ∀ c ∈ s.children, c.HasBad →
    c.label.hasError = true ∨ c.label.status = .missing

theorem FlagsTell.leadsToBad {t : Tree} (h : t.FlagsTell) : t.LeadsToBad := by
  intro s hs _ c hc hbad
  have hwalk : c ∈ t.walk := mem_walk_trans hs (mem_walk_of_mem_children hc (mem_walk_self c))
  exact .inl ((h c hwalk).mpr hbad)

theorem LeadsToBad.of_mem_children {t c : Tree} (h : t.LeadsToBad) (hc : c ∈ t.children) :
    c.LeadsToBad :=
  fun s hs => h s (mem_walk_of_mem_children hc hs)

theorem find?_walk_eq_none_iff {t : Tree} : t.walk.find? isBad = none ↔ ¬ t.HasBad := by
  simp [HasBad]

-- ════════════════════════════════════════════════════════════════════════
-- The search
-- ════════════════════════════════════════════════════════════════════════

theorem firstBadAmong?_eq_find? {ts : List Tree}
    (hfind : ∀ c ∈ ts, c.firstBad? = c.walk.find? isBad)
    (hlead : ∀ c ∈ ts, c.HasBad → c.label.hasError = true ∨ c.label.status = .missing) :
    firstBadAmong? ts = (walkAll ts).find? isBad := by
  induction ts with
  | nil => rfl
  | cons c ts ih =>
    obtain ⟨hc, hts⟩ := List.forall_mem_cons.mp hfind
    obtain ⟨hleadc, hleadts⟩ := List.forall_mem_cons.mp hlead
    rw [firstBadAmong?, walkAll, List.find?_append, ← ih hts hleadts, hc]
    by_cases hsearch : c.label.hasError = true ∨ c.label.status = .missing
    · rw [if_pos (by simpa using hsearch)]
      cases c.walk.find? isBad with
      | none => rfl
      | some found => rfl
    · -- A child that is passed over has no error in it.
      have hnone : c.walk.find? isBad = none :=
        find?_walk_eq_none_iff.mpr fun hbad => hsearch (hleadc hbad)
      rw [if_neg (by simpa using hsearch), hnone, Option.none_or]

/-- The search gives the first error of a walk through the whole tree. -/
theorem firstBad?_eq_find? {t : Tree} (h : t.LeadsToBad) :
    t.firstBad? = t.walk.find? isBad := by
  induction t using child_induction with
  | node l cs ih =>
    rw [firstBad?, walk, List.find?_cons]
    cases hbad : (Tree.node l cs).isBad with
    | true => rfl
    | false =>
      have hlead := h (.node l cs) (mem_walk_self _) hbad
      exact firstBadAmong?_eq_find? (fun c hc => ih c hc (h.of_mem_children hc)) hlead

theorem firstBad?_eq_none_iff {t : Tree} (h : t.FlagsTell) :
    t.firstBad? = none ↔ t.label.hasError = false := by
  rw [firstBad?_eq_find? h.leadsToBad, find?_walk_eq_none_iff, ← h t (mem_walk_self t),
    Bool.not_eq_true]

end Tree

-- ════════════════════════════════════════════════════════════════════════
-- Refused texts
-- ════════════════════════════════════════════════════════════════════════

namespace Source

theorem value_soundTreeOf (path : Option Path) (text : List Char) (parse : SyntaxReader) :
    (soundTreeOf path text parse).value =
      requireSound path (parse (dialectOf path) text.toArray) := by
  rw [soundTreeOf, Logged.value_bind, Logged.value_pure, treeOf]
  -- Both notes in the log leave the tree as it is.
  by_cases hflag : (parse (dialectOf path) text.toArray).label.hasError = true
  · rw [if_pos hflag]
    rfl
  · rw [if_neg hflag]
    rfl

theorem requireSound_eq_error_iff {path : Option Path} {t : Tree} (h : t.FlagsTell)
    {fault : SyntaxFault} :
    requireSound path t = .error fault ↔
      ∃ bad, t.walk.find? Tree.isBad = some bad ∧
        fault = { path, line := some (bad.label.row + 1) } := by
  rw [requireSound, ← Tree.firstBad?_eq_find? h.leadsToBad]
  have hnone := Tree.firstBad?_eq_none_iff h
  cases hfirst : t.firstBad? with
  | none =>
    rw [if_neg (by simp [hnone.mp hfirst])]
    simp
  | some bad =>
    have hflag : t.label.hasError = true := by
      rw [← Bool.not_eq_false, ← hnone, hfirst]
      simp
    rw [if_pos hflag]
    simp [eq_comm]

/-- In every tree whose flags tell the truth, the search that passes over unflagged children gives
the first error of the whole walk, and nothing exactly if the root is not flagged. A text is refused
exactly if its tree has an error, with the line of the first one. -/
theorem refused_at_first_error :
    (∀ t : Tree, t.FlagsTell →
      t.firstBad? = t.walk.find? Tree.isBad ∧
      (t.firstBad? = none ↔ t.label.hasError = false)) ∧
    (∀ (path : Option Path) (text : List Char) (parse : SyntaxReader) (fault : SyntaxFault),
      (parse (dialectOf path) text.toArray).FlagsTell →
      ((soundTreeOf path text parse).value = .error fault ↔
        ∃ bad, (parse (dialectOf path) text.toArray).walk.find? Tree.isBad = some bad ∧
          fault = { path, line := some (bad.label.row + 1) })) := by
  constructor
  · intro t h
    exact ⟨Tree.firstBad?_eq_find? h.leadsToBad, Tree.firstBad?_eq_none_iff h⟩
  · intro path text parse fault h
    rw [value_soundTreeOf]
    exact requireSound_eq_error_iff h

namespace TornBlock

/-- A node without children. -/
def leaf (kind : String) (status : Tree.Status) (row : Nat) : Tree :=
  .node
    { kind, isNamed := true, field := none, status, hasError := status ≠ .sound
      start := row, stop := row, row } []

/-- A node with children, flagged or not. -/
def branch (kind : String) (hasError : Bool) (row : Nat) (children : List Tree) : Tree :=
  .node
    { kind, isNamed := true, field := none, status := .sound, hasError
      start := row, stop := row, row } children

/-- A terminal that is missing within the second part, and an error after it. -/
def tree : Tree :=
  branch "program" true 0
    [branch "comment" false 0 [leaf "text" .sound 0],
      branch "statement" true 1
        [leaf "identifier" .sound 1, branch "call" true 2 [leaf ")" .missing 3]],
      leaf "ERROR" .error 4]

end TornBlock

/-- A text whose first fault is a terminal that is missing on its fourth line. -/
theorem refused_at_missing_terminal :
    TornBlock.tree.FlagsTell ∧
    TornBlock.tree.firstBad? = some (TornBlock.leaf ")" .missing 3) ∧
    (soundTreeOf none [] fun _ _ => TornBlock.tree).value =
      .error { path := none, line := some 4 } := by
  obtain ⟨hsearch, hrefused⟩ := refused_at_first_error
  have htell : TornBlock.tree.FlagsTell := by decide
  refine ⟨htell, (hsearch TornBlock.tree htell).1, ?_⟩
  exact (hrefused none [] _ _ htell).mpr ⟨TornBlock.leaf ")" .missing 3, rfl, rfl⟩

end Source

end ChecklistReview
