import ChecklistReview.Proofs.FileTree

/-!
# Directories list their entries in any order

A file tree holds the entries of a directory as a list, because a directory lists them in some
order. `Relisted` relates trees that differ in these orders only. As long as no directory has two
entries of one name, names lead to the same kinds of nodes in both, and paths are the same without
links.

## Main statements

* `Node.Relisted.kind_below?`: names lead to the same kinds of nodes in both.
* `Relisted.realPath_eq`: a path is the same without links in both.
* `Relisted.exists_directory`: a path leads to the same directory in both.
-/

namespace ChecklistReview.FileTree

/-- No directory at or below a node has two entries of one name. -/
inductive Node.HasDistinctNames : Node → Prop where
  | file (bytes : List UInt8) : HasDistinctNames (.file bytes)
  | link (target : Path) : HasDistinctNames (.link target)
  | directory {entries : List (String × Node)} (hnames : (entries.map Prod.fst).Nodup)
      (hnodes : ∀ entry ∈ entries, HasDistinctNames entry.2) :
      HasDistinctNames (.directory entries)

namespace Node.HasDistinctNames

variable {entries : List (String × Node)}

theorem nodup (h : (Node.directory entries).HasDistinctNames) : (entries.map Prod.fst).Nodup := by
  cases h with
  | directory hnames _ => exact hnames

theorem of_mem (h : (Node.directory entries).HasDistinctNames) {entry : String × Node}
    (hentry : entry ∈ entries) : entry.2.HasDistinctNames := by
  cases h with
  | directory _ hnodes => exact hnodes entry hentry

theorem tail {entry : String × Node} (h : (Node.directory (entry :: entries)).HasDistinctNames) :
    (Node.directory entries).HasDistinctNames := by
  refine .directory (List.nodup_cons.mp h.nodup).2 ?_
  intro other hother
  exact h.of_mem (List.mem_cons_of_mem entry hother)

end Node.HasDistinctNames

/-- Nodes that differ in the order in which directories list their entries. -/
inductive Node.Relisted : Node → Node → Prop where
  | refl (node : Node) : Relisted node node
  /-- A directory lists its entries in another order. -/
  | here {entries entries' : List (String × Node)} (h : entries.Perm entries') :
      Relisted (.directory entries) (.directory entries')
  /-- An entry of a directory is relisted. -/
  | within {before after : List (String × Node)} {name : String} {node node' : Node}
      (h : Relisted node node') :
      Relisted (.directory (before ++ (name, node) :: after))
        (.directory (before ++ (name, node') :: after))
  | trans {a b c : Node} (hab : Relisted a b) (hbc : Relisted b c) : Relisted a c

/-- File trees that differ in the order in which directories list their entries. -/
structure Relisted (t t' : FileTree) : Prop where
  home_eq : t'.home = t.home
  root : Node.Relisted (.directory t.entries) (.directory t'.entries)

-- ════════════════════════════════════════════════════════════════════════
-- Entries by name
-- ════════════════════════════════════════════════════════════════════════

theorem Node.exists_directory_of_below? {node inner : Node} {names : List String}
    (hne : names ≠ []) (h : node.below? names = some inner) :
    ∃ entries, node = .directory entries := by
  obtain ⟨name, rest, rfl⟩ := List.exists_cons_of_ne_nil hne
  cases node with
  | file bytes => simp at h
  | link target => simp at h
  | directory entries => exact ⟨entries, rfl⟩

theorem lookup_eq_some_iff {entries : List (String × Node)}
    (hnames : (entries.map Prod.fst).Nodup) {name : String} {node : Node} :
    entries.lookup name = some node ↔ (name, node) ∈ entries := by
  induction entries with
  | nil => simp
  | cons entry entries ih =>
    obtain ⟨key, first⟩ := entry
    rw [List.map_cons, List.nodup_cons] at hnames
    rw [lookup_cons_eq, List.mem_cons, Prod.mk.injEq]
    by_cases hkey : name = key
    · have hfresh : (name, node) ∉ entries := by
        intro hmem
        exact hnames.1 (List.mem_map.mpr ⟨(name, node), hmem, hkey⟩)
      simp [hkey, hkey ▸ hfresh, eq_comm]
    · simp [hkey, ih hnames.2]

/-- The order of entries does not matter for what a name leads to. -/
theorem lookup_perm {entries entries' : List (String × Node)} (h : entries.Perm entries')
    (hnames : (entries.map Prod.fst).Nodup) (name : String) :
    entries'.lookup name = entries.lookup name := by
  have hnames' : (entries'.map Prod.fst).Nodup := (h.map Prod.fst).nodup_iff.mp hnames
  apply Option.ext
  intro node
  rw [lookup_eq_some_iff hnames', lookup_eq_some_iff hnames]
  exact h.mem_iff.symm

theorem Node.HasDistinctNames.of_below? {node inner : Node} (hnode : node.HasDistinctNames)
    {names : List String} (h : node.below? names = some inner) : inner.HasDistinctNames := by
  induction names generalizing node with
  | nil =>
    obtain rfl : node = inner := by simpa using h
    exact hnode
  | cons name rest ih =>
    obtain ⟨entries, rfl⟩ := Node.exists_directory_of_below? (by simp) h
    rw [below?_directory_cons, Option.bind_eq_some_iff] at h
    obtain ⟨next, hnext, hbelow⟩ := h
    exact ih (hnode.of_mem ((lookup_eq_some_iff hnode.nodup).mp hnext)) hbelow

theorem lookup_append_cons (before after : List (String × Node)) (name other : String)
    (node : Node) :
    (before ++ (name, node) :: after).lookup other =
      (before.lookup other).or (if other = name then some node else after.lookup other) := by
  rw [List.lookup_append, lookup_cons_eq]

-- ════════════════════════════════════════════════════════════════════════
-- What relisting keeps
-- ════════════════════════════════════════════════════════════════════════

theorem Node.HasDistinctNames.relisted {node node' : Node} (hnode : node.HasDistinctNames)
    (h : node.Relisted node') : node'.HasDistinctNames := by
  induction h with
  | refl node => exact hnode
  | here h =>
    cases hnode with
    | directory hnames hnodes =>
      refine .directory ((h.map Prod.fst).nodup_iff.mp hnames) ?_
      intro entry hentry
      exact hnodes entry (h.mem_iff.mpr hentry)
  | @within before after name node node' h ih =>
    cases hnode with
    | directory hnames hnodes =>
      refine .directory (by simpa using hnames) ?_
      intro entry hentry
      rw [List.mem_append, List.mem_cons] at hentry
      rcases hentry with hbefore | rfl | hafter
      · exact hnodes entry (by simp [hbefore])
      · exact ih (hnodes (name, node) (by simp))
      · exact hnodes entry (by simp [hafter])
  | trans _ _ ihab ihbc => exact ihbc (ihab hnode)

/-- Names lead to nodes of the same kinds however directories are listed. -/
theorem Node.Relisted.kind_below? {node node' : Node} (h : node.Relisted node')
    (hnode : node.HasDistinctNames) (names : List String) :
    (node'.below? names).map Node.kind = (node.below? names).map Node.kind := by
  induction h generalizing names with
  | refl node => rfl
  | here h =>
    cases hnode with
    | directory hnames _ =>
      cases names with
      | nil => simp [Node.kind]
      | cons name rest =>
        rw [below?_directory_cons, below?_directory_cons, lookup_perm h hnames]
  | @within before after name node node' h ih =>
    cases hnode with
    | directory hnames hnodes =>
      cases names with
      | nil => simp [Node.kind]
      | cons other rest =>
        rw [below?_directory_cons, below?_directory_cons, lookup_append_cons, lookup_append_cons]
        cases before.lookup other with
        | some found => rfl
        | none =>
          by_cases hother : other = name
          · simpa [hother] using ih (hnodes (name, node) (by simp)) rest
          · simp [hother]
  | trans hab _ ihab ihbc => exact (ihbc (hnode.relisted hab) names).trans (ihab hnode names)

theorem linksIn_append (a b : List (String × Node)) :
    linksIn (a ++ b) = linksIn a + linksIn b := by
  induction a with
  | nil => simp [linksIn]
  | cons entry a ih =>
    rw [List.cons_append, linksIn, linksIn, ih]
    omega

theorem linksIn_perm {a b : List (String × Node)} (h : a.Perm b) : linksIn a = linksIn b := by
  induction h with
  | nil => rfl
  | cons entry _ ih => rw [linksIn, linksIn, ih]
  | swap first second rest =>
    simp only [linksIn]
    omega
  | trans _ _ ihab ihbc => exact ihab.trans ihbc

theorem Node.Relisted.linksAt_eq {node node' : Node} (h : node.Relisted node') :
    linksAt node' = linksAt node := by
  induction h with
  | refl node => rfl
  | here h => exact (linksIn_perm h).symm
  | within h ih => simp [linksAt, linksIn_append, linksIn, ih]
  | trans _ _ ihab ihbc => exact ihbc.trans ihab

-- ════════════════════════════════════════════════════════════════════════
-- Paths
-- ════════════════════════════════════════════════════════════════════════

theorem nodeAt?_append {t : FileTree} {here : List String} {node : Node}
    (h : t.nodeAt? here = some node) (names : List String) :
    t.nodeAt? (here ++ names) = node.below? names := by
  rw [nodeAt?, nodeIn?_eq_below?] at h ⊢
  rw [Node.below?_append, h, Option.bind_some]

theorem SameKinds.nodeAt?_eq_link_iff {t t' : FileTree} (h : SameKinds t t') {names : List String}
    {target : Path} :
    t'.nodeAt? names = some (.link target) ↔ t.nodeAt? names = some (.link target) := by
  have hkind := h names
  constructor
  · intro hlink
    rw [hlink, Option.map_some, eq_comm, Option.map_eq_some_iff] at hkind
    obtain ⟨node, hnode, heq⟩ := hkind
    rw [hnode, Node.eq_link_of_kind_eq heq]
  · intro hlink
    rw [hlink, Option.map_some, Option.map_eq_some_iff] at hkind
    obtain ⟨node, hnode, heq⟩ := hkind
    rw [hnode, Node.eq_link_of_kind_eq heq]

/-- Which names are left without links depends on the kinds of nodes only. -/
theorem realNames_congr {t t' : FileTree} (h : SameKinds t t') (budget : Nat)
    (seen : List (List String)) (here names : List String) :
    t'.realNames budget seen here names = t.realNames budget seen here names := by
  fun_induction realNames t budget seen here names with
  | case1 => rw [realNames]
  | case2 budget seen here rest ih =>
    rw [realNames, if_pos rfl]
    exact ih
  | case3 budget seen here name rest hup target hlink hseen =>
    rw [realNames, if_neg hup, h.nodeAt?_eq_link_iff.mpr hlink]
    simp only [if_pos hseen]
  | case4 seen here name rest hup target hlink hseen =>
    rw [realNames, if_neg hup, h.nodeAt?_eq_link_iff.mpr hlink]
    simp only [if_neg hseen]
  | case5 seen here name rest hup target hlink hseen less inner hinner ihtarget ihrest =>
    have htarget : t'.realNames less ((here ++ [name]) :: seen)
        (if target.isAbsolute then [] else here) target.names = (inner, true) :=
      ihtarget.trans hinner
    rw [realNames, if_neg hup, h.nodeAt?_eq_link_iff.mpr hlink]
    simp only [if_neg hseen, htarget]
    exact ihrest
  | case6 seen here name rest hup target hlink hseen less inner hinner ihtarget =>
    have htarget : t'.realNames less ((here ++ [name]) :: seen)
        (if target.isAbsolute then [] else here) target.names = (inner, false) :=
      ihtarget.trans hinner
    rw [realNames, if_neg hup, h.nodeAt?_eq_link_iff.mpr hlink]
    simp only [if_neg hseen, htarget]
  | case7 budget seen here name rest hup hlink ih =>
    rw [realNames, if_neg hup]
    split
    · next target htarget => exact absurd (h.nodeAt?_eq_link_iff.mp htarget) (hlink target)
    · exact ih

namespace Relisted

variable {t t' : FileTree} (h : Relisted t t')
  (hnames : (Node.directory t.entries).HasDistinctNames)
include h hnames

theorem sameKinds : SameKinds t t' := by
  intro names
  rw [nodeAt?, nodeAt?, nodeIn?_eq_below?, nodeIn?_eq_below?]
  exact h.root.kind_below? hnames names

theorem realPath_eq (path : Path) : t'.realPath path = t.realPath path := by
  have hstart : t'.startOf path = t.startOf path := by
    rw [startOf, startOf, h.home_eq]
  have hlinks : linksIn t'.entries = linksIn t.entries := h.root.linksAt_eq
  rw [realPath, realPath, hstart, hlinks, realNames_congr (h.sameKinds hnames)]

/-- A path leads to the same directory, and from there names lead to nodes of the same kinds. -/
theorem exists_directory {path : Path} {place : Place} {entries : List (String × Node)}
    (hplace : t.locate path = .ok place) (hroot : place.node = .directory entries) :
    ∃ entries', t'.locate path = .ok { place with node := .directory entries' } ∧ ∀ names,
      ((Node.directory entries').below? names).map Node.kind =
        (place.node.below? names).map Node.kind := by
  have hkinds := h.sameKinds hnames
  have hstart : t'.startOf path = t.startOf path := by
    rw [startOf, startOf, h.home_eq]
  have hat : t.nodeAt? place.names = some place.node := nodeAt?_of_follow hplace
  rw [hroot] at hat
  obtain ⟨entries', hat'⟩ := hkinds.exists_directory hat
  obtain ⟨node, hnode⟩ := follow_congr hkinds hplace
  obtain rfl : node = .directory entries' :=
    Option.some.inj ((nodeAt?_of_follow hnode).symm.trans hat')
  refine ⟨entries', by rw [locate, hstart, hnode], ?_⟩
  intro names
  rw [← nodeAt?_append hat', hroot, ← nodeAt?_append hat]
  exact hkinds (place.names ++ names)

end Relisted

end ChecklistReview.FileTree
