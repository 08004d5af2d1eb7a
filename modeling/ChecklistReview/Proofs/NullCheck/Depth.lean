import ChecklistReview.NullCheck
import ChecklistReview.Proofs.Tree

/-!
# How deep a scan goes

The calls that scan a tree are nested as deep as the nodes that they visit. A search for guards
makes two calls for each node and ends at the first guard, and a search for a fault ends at the
first one, so the height of the tree bounds both.

## Main statements

* `Tree.height_le_of_mem_walk`: a node is no higher than the tree that it is in.
* `NullCheck.callDepth_le`: a scan takes no more than two calls for each level of the tree.
* `NullCheck.height_le_callDepth`: a scan of a tree without faults visits every level.
-/

namespace ChecklistReview

namespace Tree

theorem height_le_heightOfAll {ts : List Tree} {t : Tree} (h : t ∈ ts) :
    t.height ≤ heightOfAll ts := by
  induction ts with
  | nil => simp at h
  | cons s ts ih =>
    rw [heightOfAll]
    rcases List.mem_cons.mp h with rfl | h
    · exact Nat.le_max_left _ _
    · exact Nat.le_trans (ih h) (Nat.le_max_right _ _)

/-- A node is no higher than the tree that it is in. -/
theorem height_le_of_mem_walk {s t : Tree} (h : s ∈ t.walk) : s.height ≤ t.height := by
  induction t using child_induction with
  | node l cs ih =>
    rcases mem_walk_iff.mp h with rfl | h
    · exact Nat.le_refl _
    · obtain ⟨c, hc, hs⟩ := mem_descendants_iff.mp h
      have hle := ih c hc hs
      have hchild : c.height ≤ heightOfAll cs := height_le_heightOfAll hc
      rw [height]
      omega

mutual

theorem badDepth_le (t : Tree) : t.badDepth ≤ t.height := by
  match t with
  | .node l cs =>
    have hcs := badDepthAmong_le cs
    rw [badDepth, height]
    split <;> omega

theorem badDepthAmong_le (ts : List Tree) : badDepthAmong ts ≤ heightOfAll ts := by
  match ts with
  | [] => exact Nat.le_refl 0
  | t :: ts =>
    have ht := badDepth_le t
    have hts := badDepthAmong_le ts
    rw [badDepthAmong, heightOfAll]
    split
    · split <;> omega
    · omega

end

end Tree

namespace NullCheck

mutual

theorem guardDepth_le (source : Array Char) (name : List Char) (t : Tree) :
    guardDepth source name t ≤ t.height := by
  match t with
  | .node l cs =>
    have hcs := guardDepthAmong_le source name cs
    rw [guardDepth, Tree.height]
    split <;> omega

theorem guardDepthAmong_le (source : Array Char) (name : List Char) (ts : List Tree) :
    guardDepthAmong source name ts ≤ Tree.heightOfAll ts := by
  match ts with
  | [] => exact Nat.le_refl 0
  | t :: ts =>
    have ht := guardDepth_le source name t
    have hts := guardDepthAmong_le source name ts
    rw [guardDepthAmong, Tree.heightOfAll]
    split <;> omega

end

/-- Guards are searched for in the body of a function, which is a part of it. -/
theorem le_height_of_mem_guardDepths {source : Array Char} {function : Tree} {depth : Nat}
    (h : depth ∈ guardDepths source function) : depth ≤ function.height := by
  unfold guardDepths at h
  split at h
  · split at h
    · next body hbody =>
      obtain ⟨p, -, rfl⟩ := List.mem_map.mp h
      have hmem : body ∈ function.children := List.mem_of_find?_eq_some hbody
      have hwalk := Tree.mem_walk_of_mem_children hmem (Tree.mem_walk_self body)
      exact Nat.le_trans (guardDepth_le source _ body) (Tree.height_le_of_mem_walk hwalk)
    · simp at h
  · simp at h

theorem foldl_max_le {xs : List Nat} {first bound : Nat} (hfirst : first ≤ bound)
    (h : ∀ x ∈ xs, x ≤ bound) : xs.foldl max first ≤ bound := by
  induction xs generalizing first with
  | nil => exact hfirst
  | cons x xs ih =>
    obtain ⟨hx, hxs⟩ := List.forall_mem_cons.mp h
    exact ih (Nat.max_le.mpr ⟨hfirst, hx⟩) hxs

theorem le_foldl_max (xs : List Nat) (first : Nat) : first ≤ xs.foldl max first := by
  induction xs generalizing first with
  | nil => exact Nat.le_refl first
  | cons x xs ih => exact Nat.le_trans (Nat.le_max_left first x) (ih _)

/-- A scan takes no more than two calls for each level of the tree. -/
theorem callDepth_le (source : Array Char) (tree : Tree) :
    callDepth source tree ≤ 2 * tree.height := by
  rw [callDepth]
  split
  · have hbad := Tree.badDepth_le tree
    omega
  · refine foldl_max_le (by omega) ?_
    intro x hx
    obtain ⟨depth, hdepth, rfl⟩ := List.mem_map.mp hx
    obtain ⟨function, hfunction, hdepth⟩ := List.mem_flatMap.mp hdepth
    have hlevel := le_height_of_mem_guardDepths hdepth
    have hfunction := Tree.height_le_of_mem_walk hfunction
    omega

/-- A scan of a tree without faults visits every level. -/
theorem height_le_callDepth (source : Array Char) {tree : Tree} (h : tree.label.hasError = false) :
    tree.height ≤ callDepth source tree := by
  rw [callDepth, h]
  exact le_foldl_max _ _

end NullCheck

end ChecklistReview
