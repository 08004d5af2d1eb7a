import ChecklistReview.FileTree

/-!
# What writing a file changes

Writing to a file that is there changes the bytes of that file and nothing else: all other names
lead to what they led to before, and paths are followed to the same places.

## Main statements

* `outline_nodeAt?_insert`: what names lead to after a file was written.
* `follow_congr`: where a path leads depends on the kinds of nodes only.
* `write_frame`: a file that is read and then written can be read again, and no other file has
  changed.
-/

namespace ChecklistReview.FileTree

-- ════════════════════════════════════════════════════════════════════════
-- What is below a node
-- ════════════════════════════════════════════════════════════════════════

/-- The node that names lead to below a node. -/
def Node.below? : Node → List String → Option Node
  | node, [] => some node
  | .directory entries, name :: rest =>
    match entries.lookup name with
    | some node => node.below? rest
    | none => none
  | _, _ :: _ => none

@[simp]
theorem Node.below?_nil (node : Node) : node.below? [] = some node := by
  rw [Node.below?]

theorem Node.below?_directory_cons (entries : List (String × Node)) (name : String)
    (rest : List String) :
    (Node.directory entries).below? (name :: rest) =
      (entries.lookup name).bind fun node => node.below? rest := by
  rw [Node.below?]
  cases entries.lookup name <;> rfl

@[simp]
theorem Node.below?_file_cons (bytes : List UInt8) (name : String) (rest : List String) :
    (Node.file bytes).below? (name :: rest) = none := by
  rw [Node.below?]
  simp

@[simp]
theorem Node.below?_link_cons (target : Path) (name : String) (rest : List String) :
    (Node.link target).below? (name :: rest) = none := by
  rw [Node.below?]
  simp

/-- Names lead below a node in steps. -/
theorem Node.below?_append (node : Node) (names rest : List String) :
    node.below? (names ++ rest) = (node.below? names).bind fun inner => inner.below? rest := by
  induction names generalizing node with
  | nil => simp
  | cons name names ih =>
    cases node with
    | file bytes => simp
    | link target => simp
    | directory entries =>
      rw [List.cons_append, below?_directory_cons, below?_directory_cons]
      cases entries.lookup name with
      | none => rfl
      | some inner => exact ih inner

theorem nodeIn?_eq_below? (entries : List (String × Node)) (names : List String) :
    nodeIn? entries names = (Node.directory entries).below? names := by
  induction names generalizing entries with
  | nil => simp [nodeIn?]
  | cons name rest ih =>
    rw [Node.below?_directory_cons]
    cases rest with
    | nil =>
      rw [nodeIn?]
      cases entries.lookup name <;> simp
    | cons next rest =>
      rw [nodeIn?]
      · cases entries.lookup name with
        | none => rfl
        | some node =>
          cases node with
          | file bytes => simp
          | link target => simp
          | directory inner => exact ih inner
      · simp

/-- What a name in a directory leads to. -/
theorem nodeAt?_append_singleton {t : FileTree} {here : List String}
    {entries : List (String × Node)} (h : t.nodeAt? here = some (.directory entries))
    (name : String) : t.nodeAt? (here ++ [name]) = entries.lookup name := by
  rw [nodeAt?, nodeIn?_eq_below?] at h ⊢
  rw [Node.below?_append, h, Option.bind_some, Node.below?_directory_cons]
  cases entries.lookup name <;> simp

-- ════════════════════════════════════════════════════════════════════════
-- Setting a file
-- ════════════════════════════════════════════════════════════════════════

/-- A node without what is below it. -/
def Node.outline : Node → Node
  | .directory _ => .directory []
  | node => node

theorem lookup_cons_eq (key other : String) (node : Node) (entries : List (String × Node)) :
    ((key, node) :: entries).lookup other =
      if other = key then some node else entries.lookup other := by
  rw [List.lookup_cons]
  by_cases h : other = key
  · simp [h]
  · simp [beq_eq_false_iff_ne.2 h, h]

theorem lookup_setEntry (name other : String) (node : Node) (entries : List (String × Node)) :
    (setEntry name node entries).lookup other =
      if other = name then some node else entries.lookup other := by
  induction entries with
  | nil => rw [setEntry, lookup_cons_eq]
  | cons entry entries ih =>
    obtain ⟨key, old⟩ := entry
    rw [setEntry]
    split
    · next hkey =>
      subst hkey
      rw [lookup_cons_eq, lookup_cons_eq]
      by_cases h : other = key <;> simp [h]
    · next hkey =>
      rw [lookup_cons_eq, lookup_cons_eq, ih]
      by_cases h : other = key
      · simp [h, hkey]
      · simp [h]

/-- What names lead to after the node of a name was set. -/
theorem below?_setEntry (name other : String) (node : Node) (entries : List (String × Node))
    (rest : List String) :
    (Node.directory (setEntry name node entries)).below? (other :: rest) =
      if other = name then node.below? rest
      else (Node.directory entries).below? (other :: rest) := by
  rw [Node.below?_directory_cons, lookup_setEntry]
  split
  · rfl
  · rw [Node.below?_directory_cons]

/-- Setting a file that is there sets it, and leaves what other names lead to. -/
theorem below?_insertIn {old new : List UInt8} {place : List String}
    {entries : List (String × Node)}
    (h : (Node.directory entries).below? place = some (.file old)) :
    (Node.directory (insertIn (.file new) place entries)).below? place = some (.file new) ∧
      ∀ names, names ≠ place →
        ((Node.directory (insertIn (.file new) place entries)).below? names).map Node.outline =
          ((Node.directory entries).below? names).map Node.outline := by
  induction place generalizing entries with
  | nil => simp at h
  | cons name rest ih =>
    rw [Node.below?_directory_cons, Option.bind_eq_some_iff] at h
    obtain ⟨node, hlookup, hnode⟩ := h
    -- the node of the first name: the file itself, or a directory in which the file is set
    obtain ⟨node', hinsert, hself, hrest⟩ : ∃ node',
        insertIn (.file new) (name :: rest) entries = setEntry name node' entries ∧
        node'.below? rest = some (.file new) ∧ ∀ names, names ≠ rest →
          (node'.below? names).map Node.outline = (node.below? names).map Node.outline := by
      cases rest with
      | nil =>
        obtain rfl : node = .file old := by simpa using hnode
        refine ⟨.file new, rfl, by simp, fun names hne => ?_⟩
        obtain ⟨next, names, rfl⟩ := List.exists_cons_of_ne_nil hne
        simp
      | cons next rest =>
        cases node with
        | file bytes => simp at hnode
        | link target => simp at hnode
        | directory inner =>
          refine ⟨.directory (insertIn (.file new) (next :: rest) inner), ?_, ih hnode⟩
          rw [insertIn]
          · simp only [hlookup]
          · simp
    rw [hinsert]
    refine ⟨by rw [below?_setEntry, if_pos rfl, hself], fun names hne => ?_⟩
    cases names with
    | nil => simp [Node.outline]
    | cons other names =>
      rw [below?_setEntry]
      split
      · next heq =>
        subst heq
        rw [Node.below?_directory_cons, hlookup, Option.bind_some]
        exact hrest names fun heq => hne (by rw [heq])
      · rfl

section Insert

variable {t : FileTree} {place : List String} {old new : List UInt8}
  (h : t.nodeAt? place = some (.file old))
include h

theorem nodeAt?_insert : (t.insert place (.file new)).nodeAt? place = some (.file new) := by
  rw [nodeAt?, nodeIn?_eq_below?] at h ⊢
  exact (below?_insertIn h).1

/-- Names lead to what they led to before a file was set, but for the names of the file. -/
theorem outline_nodeAt?_insert {names : List String} (hne : names ≠ place) :
    ((t.insert place (.file new)).nodeAt? names).map Node.outline =
      (t.nodeAt? names).map Node.outline := by
  rw [nodeAt?, nodeIn?_eq_below?] at h ⊢
  rw [nodeAt?, nodeIn?_eq_below?]
  exact (below?_insertIn h).2 names hne

end Insert

-- ════════════════════════════════════════════════════════════════════════
-- Following paths
-- ════════════════════════════════════════════════════════════════════════

/-- What a path ends at is where its place says. -/
theorem nodeAt?_of_follow {t : FileTree} {followLast : Bool} {budget : Nat}
    {here names : List String} {place : Place}
    (h : t.follow followLast budget here names = .ok place) :
    t.nodeAt? place.names = some place.node := by
  fun_induction follow t followLast budget here names with
  | case1 budget here node hnode =>
    cases h
    exact hnode
  | case3 budget here rest inner hinner ih => exact ih h
  | case6 budget here name rest inner hinner _ _ target htarget _ =>
    cases h
    rw [nodeAt?_append_singleton hinner, htarget]
  | case8 here name rest inner hinner _ _ target htarget _ less ih => exact ih h
  | case9 budget here name rest inner hinner _ _ node _ hnode ih => exact ih h
  | _ => exact nomatch h

/-- A node without its bytes and without what is below it. -/
def Node.kind : Node → Node
  | .file _ => .file []
  | .link target => .link target
  | .directory _ => .directory []

theorem Node.eq_link_of_kind_eq {node : Node} {target : Path}
    (h : node.kind = (Node.link target).kind) : node = .link target := by
  cases node with
  | link target' => exact h
  | _ => exact nomatch h

/-- File trees in which the same names lead to nodes of the same kinds. -/
def SameKinds (t t' : FileTree) : Prop :=
  ∀ names, (t'.nodeAt? names).map Node.kind = (t.nodeAt? names).map Node.kind

namespace SameKinds

variable {t t' : FileTree} (h : SameKinds t t') {names : List String}
include h

theorem exists_nodeAt? {node : Node} (hnode : t.nodeAt? names = some node) :
    ∃ node', t'.nodeAt? names = some node' ∧ node'.kind = node.kind := by
  have hkind := h names
  rw [hnode, Option.map_some, Option.map_eq_some_iff] at hkind
  exact hkind

theorem exists_directory {entries : List (String × Node)}
    (hnode : t.nodeAt? names = some (.directory entries)) :
    ∃ entries', t'.nodeAt? names = some (.directory entries') := by
  obtain ⟨node', hnode', hkind⟩ := h.exists_nodeAt? hnode
  cases node' with
  | directory entries' => exact ⟨entries', hnode'⟩
  | _ => exact nomatch hkind

/-- An entry of a directory has one of its kind in the other tree. -/
theorem exists_entry {entries : List (String × Node)} {name : String} {node : Node}
    (hdirectory : t.nodeAt? names = some (.directory entries))
    (hentry : entries.lookup name = some node) :
    ∃ entries' node', t'.nodeAt? names = some (.directory entries') ∧
      entries'.lookup name = some node' ∧ node'.kind = node.kind := by
  obtain ⟨entries', hdirectory'⟩ := h.exists_directory hdirectory
  rw [← nodeAt?_append_singleton hdirectory] at hentry
  obtain ⟨node', hentry', hkind⟩ := h.exists_nodeAt? hentry
  rw [nodeAt?_append_singleton hdirectory'] at hentry'
  exact ⟨entries', node', hdirectory', hentry', hkind⟩

end SameKinds

/-- Where a path leads depends on the kinds of nodes only. -/
theorem follow_congr {t t' : FileTree} (hkinds : SameKinds t t') {followLast : Bool} {budget : Nat}
    {here names : List String} {place : Place}
    (h : t.follow followLast budget here names = .ok place) :
    ∃ node, t'.follow followLast budget here names = .ok { place with node } := by
  fun_induction follow t followLast budget here names with
  | case1 budget here node hnode =>
    cases h
    obtain ⟨node', hnode', -⟩ := hkinds.exists_nodeAt? hnode
    exact ⟨node', by rw [follow, hnode']⟩
  | case3 budget here rest inner hinner ih =>
    obtain ⟨inner', hinner'⟩ := hkinds.exists_directory hinner
    obtain ⟨node', hfollow⟩ := ih h
    refine ⟨node', ?_⟩
    rw [follow, hinner']
    simpa using hfollow
  | case6 budget here name rest inner hinner hup hsize target htarget hlast =>
    cases h
    obtain ⟨inner', node', hinner', hentry, hkind⟩ := hkinds.exists_entry hinner htarget
    obtain rfl := Node.eq_link_of_kind_eq hkind
    refine ⟨.link target, ?_⟩
    rw [follow, hinner']
    simp only [if_neg hup, if_neg hsize, hentry, if_pos hlast]
  | case8 here name rest inner hinner hup hsize target htarget hlast less ih =>
    obtain ⟨inner', node', hinner', hentry, hkind⟩ := hkinds.exists_entry hinner htarget
    obtain rfl := Node.eq_link_of_kind_eq hkind
    obtain ⟨last, hfollow⟩ := ih h
    refine ⟨last, ?_⟩
    rw [follow, hinner']
    simp only [if_neg hup, if_neg hsize, hentry, if_neg hlast]
    exact hfollow
  | case9 budget here name rest inner hinner hup hsize node hlink hnode ih =>
    obtain ⟨inner', node', hinner', hentry, hkind⟩ := hkinds.exists_entry hinner hnode
    obtain ⟨last, hfollow⟩ := ih h
    refine ⟨last, ?_⟩
    rw [follow, hinner']
    simp only [if_neg hup, if_neg hsize, hentry]
    cases node' with
    | file bytes => exact hfollow
    | directory entries => exact hfollow
    | link target => exact absurd (Node.eq_link_of_kind_eq hkind.symm) (hlink target)
  | _ => exact nomatch h

theorem sameKinds_insert {t : FileTree} {place : List String} {old new : List UInt8}
    (h : t.nodeAt? place = some (.file old)) : SameKinds t (t.insert place (.file new)) := by
  intro names
  by_cases hne : names = place
  · rw [hne, nodeAt?_insert h, h]
    rfl
  · have hkind : ∀ x : Option Node, x.map Node.kind = (x.map Node.outline).map Node.kind := by
      intro x
      cases x with
      | none => rfl
      | some node => cases node <;> rfl
    rw [hkind, outline_nodeAt?_insert h hne, ← hkind]

theorem read_eq_ok_iff {t : FileTree} {path : Path} {bytes : List UInt8} :
    t.read path = .ok bytes ↔ ∃ place, t.locate path = .ok place ∧ place.node = .file bytes := by
  unfold read
  cases hlocate : t.locate path with
  | error fault => simp
  | ok place =>
    obtain ⟨names, node, budget⟩ := place
    cases node <;> simp

/-- A file that is read can be written. It is read as it was written then, and all other names
lead to what they led to before. -/
theorem write_frame {t : FileTree} {path : Path} {place : Place} {old : List UInt8}
    (hlocate : t.locate path = .ok place) (hnode : place.node = .file old) (new : List UInt8) :
    ∃ t', t.write path new = .ok t' ∧ t'.read path = .ok new ∧
      t'.nodeAt? place.names = some (.file new) ∧
      ∀ names, names ≠ place.names →
        (t'.nodeAt? names).map Node.outline = (t.nodeAt? names).map Node.outline := by
  have hold : t.nodeAt? place.names = some (.file old) := by
    rw [nodeAt?_of_follow hlocate, hnode]
  have hnew : (t.insert place.names (.file new)).nodeAt? place.names = some (.file new) :=
    nodeAt?_insert hold
  refine ⟨t.insert place.names (.file new), ?_, ?_, hnew, fun _ => outline_nodeAt?_insert hold⟩
  · have hplace : t.writePlace path = .ok place.names := by
      obtain ⟨names, node, budget⟩ := place
      subst hnode
      rw [writePlace, hlocate]
    rw [write, hplace]
  · have hkinds : SameKinds t (t.insert place.names (.file new)) := sameKinds_insert hold
    obtain ⟨node, hlocate'⟩ := follow_congr hkinds hlocate
    have hnode' : node = .file new :=
      Option.some.inj ((nodeAt?_of_follow hlocate').symm.trans hnew)
    exact read_eq_ok_iff.2 ⟨_, hlocate', hnode'⟩

end ChecklistReview.FileTree
