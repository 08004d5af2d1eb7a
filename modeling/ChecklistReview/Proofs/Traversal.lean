import ChecklistReview.Proofs.FileTree.Relisting
import ChecklistReview.Proofs.Path.Order

/-!
# Which files a search finds

A search that follows no links finds a file exactly if the names from the root to the file lead
through directories only, none of which is ignored or refuses to be listed, and the file itself is
one to keep. `Finds` says this entry by entry, as the tree is built, and `IsReviewFile` name by
name. From the second form it can be seen that the order of entries does not matter, and that a
directory that cannot be listed hides what is below it and nothing else.

## Main statements

* `mem_collect_iff`: a walk through entries collects what `Finds` says.
* `Finds.isReviewFile`, `finds_of_isReviewFile`: what `Finds` says, name by name.
* `exists_files`: a search gives the review files in strict order.
* `search_finds_review_files`: this with what orders of entries and failing directories change.
-/

namespace ChecklistReview

/-- The path that names lead to from a path. -/
def Path.descend (p : Path) (names : List String) : Path := { p with names := p.names ++ names }

namespace Path

@[simp]
theorem descend_nil (p : Path) : p.descend [] = p := by
  simp [descend]

@[simp]
theorem child_descend (p : Path) (name : String) (names : List String) :
    (p.child name).descend names = p.descend (name :: names) := by
  simp [descend, child]

theorem descend_inj {p : Path} {a b : List String} : p.descend a = p.descend b ↔ a = b := by
  simp [descend]

theorem name_child (p : Path) (name : String) : (p.child name).name = name := by
  simp [child, Path.name]

theorem parent_descend (p : Path) (names : List String) (name : String) :
    (p.descend (names ++ [name])).parent = p.descend names := by
  simp [descend, parent, ← List.append_assoc]

/-- One path leads to another by names if its own names are the first ones. -/
theorem relativeTo?_descend_isNone (p : Path) (above names : List String) :
    ((p.descend names).relativeTo? (p.descend above)).isNone = true ↔ ¬ above <+: names := by
  by_cases h : above <+: names
  · simp [relativeTo?, descend, h]
  · simp [relativeTo?, descend, h]

end Path

namespace Traversal

open FileTree

/-- A file that a search takes: its language is known and the filter lets it pass. -/
def Keeps (search : Search) (p : Path) : Prop :=
  Source.isReviewable p = true ∧ search.filter.all (· p) = true

/-- What a search finds below the entries of a directory that is known under a path. -/
inductive Finds (access : Access) (search : Search) :
    Path → List (String × Node) → Path → Prop where
  | file {path : Path} {entries : List (String × Node)} {name : String} {bytes : List UInt8}
      (hentry : (name, .file bytes) ∈ entries) (hkeep : Keeps search (path.child name)) :
      Finds access search path entries (path.child name)
  | directory {path p : Path} {entries inner : List (String × Node)} {name : String}
      (hentry : (name, .directory inner) ∈ entries) (hname : name ∉ search.ignored)
      (hlist : access.listing (path.child name) = none)
      (h : Finds access search (path.child name) inner p) : Finds access search path entries p

/-- A file that a search should find: names lead to it through directories that are not ignored
and can be listed, and the search takes it. -/
def IsReviewFile (access : Access) (search : Search) (root : Path) (tree : Node) (p : Path) :
    Prop :=
  ∃ way name bytes, p = root.descend (way ++ [name]) ∧
    tree.below? (way ++ [name]) = some (.file bytes) ∧
    (∀ directory ∈ way, directory ∉ search.ignored) ∧
    (∀ above, above <+: way → access.listing (root.descend above) = none) ∧ Keeps search p

section Walk

variable {t : FileTree} {access : Access} {search : Search} {budget : Nat} {here : List String}
  {path p : Path} {entries : List (String × Node)}

-- ════════════════════════════════════════════════════════════════════════
-- Steps of a walk
-- ════════════════════════════════════════════════════════════════════════

theorem value_keepFile (search : Search) (path : Path) :
    (keepFile search path).value =
      if Source.isReviewable path ∧ search.filter.all (· path) then [path] else [] := by
  rw [keepFile]
  by_cases hlanguage : Source.isReviewable path = true
  · by_cases hfilter : search.filter.all (· path) = true
    · simp [hlanguage, hfilter]
    · simp [hlanguage, hfilter]
  · simp [hlanguage]

theorem mem_keepFile_iff : p ∈ (keepFile search path).value ↔ p = path ∧ Keeps search path := by
  rw [value_keepFile]
  split
  · next hkeep => simp [Keeps, hkeep]
  · next hkeep =>
    have hno : ¬ Keeps search path := hkeep
    simp [hno]

theorem value_mayEnter_eq_true_iff :
    (mayEnter access search path).value = true ↔
      path.name ∉ search.ignored ∧ access.listing path = none := by
  rw [mayEnter]
  by_cases hname : path.name ∈ search.ignored
  · simp [hname]
  · cases hlist : access.listing path with
    | none => simp [hname]
    | some fault => simp [hname]

-- The equations of each case are slow to derive here, so the lemmas start from the whole
-- definition.
theorem value_collect_nil : (collect t access search budget here path []).value = [] := by
  rw [collect.eq_def]
  rfl

theorem value_collect_file (name : String) (bytes : List UInt8) (rest : List (String × Node)) :
    (collect t access search budget here path ((name, .file bytes) :: rest)).value =
      (keepFile search (path.child name)).value ++
        (collect t access search budget here path rest).value := by
  rw [collect.eq_def]
  rfl

theorem value_collect_directory (name : String) (inner rest : List (String × Node)) :
    (collect t access search budget here path ((name, .directory inner) :: rest)).value =
      (if (mayEnter access search (path.child name)).value then
        (collect t access search budget (here ++ [name]) (path.child name) inner).value else []) ++
        (collect t access search budget here path rest).value := by
  rw [collect.eq_def]
  by_cases henter : (mayEnter access search (path.child name)).value = true
  · simp [henter]
  · simp [henter]

theorem value_collect_link (hlinks : search.followLinks = false) (name : String) (target : Path)
    (rest : List (String × Node)) :
    (collect t access search budget here path ((name, .link target) :: rest)).value =
      (collect t access search budget here path rest).value := by
  rw [collect.eq_def]
  simp [hlinks]

-- ════════════════════════════════════════════════════════════════════════
-- What a walk collects
-- ════════════════════════════════════════════════════════════════════════

theorem Finds.mono {more : List (String × Node)} (h : Finds access search path entries p)
    (hsub : entries ⊆ more) : Finds access search path more p := by
  cases h with
  | file hentry hkeep => exact .file (hsub hentry) hkeep
  | directory hentry hname hlist h => exact .directory (hsub hentry) hname hlist h

theorem finds_cons_iff {entry : String × Node} {rest : List (String × Node)} :
    Finds access search path (entry :: rest) p ↔
      Finds access search path [entry] p ∨ Finds access search path rest p := by
  constructor
  · intro h
    cases h with
    | file hentry hkeep =>
      rcases List.mem_cons.mp hentry with rfl | hrest
      · exact .inl (.file List.mem_cons_self hkeep)
      · exact .inr (.file hrest hkeep)
    | directory hentry hname hlist h =>
      rcases List.mem_cons.mp hentry with rfl | hrest
      · exact .inl (.directory List.mem_cons_self hname hlist h)
      · exact .inr (.directory hrest hname hlist h)
  · rintro (h | h)
    · exact h.mono (by simp)
    · exact h.mono (by simp)

theorem finds_file_iff {name : String} {bytes : List UInt8} :
    Finds access search path [(name, .file bytes)] p ↔
      p ∈ (keepFile search (path.child name)).value := by
  rw [mem_keepFile_iff]
  constructor
  · intro h
    cases h with
    | file hentry hkeep =>
      obtain ⟨rfl, -⟩ : _ = name ∧ _ = bytes := by simpa using hentry
      exact ⟨rfl, hkeep⟩
    | directory hentry _ _ _ => simp at hentry
  · rintro ⟨rfl, hkeep⟩
    exact .file List.mem_cons_self hkeep

theorem finds_directory_iff {name : String} {inner : List (String × Node)} :
    Finds access search path [(name, .directory inner)] p ↔
      (mayEnter access search (path.child name)).value = true ∧
        Finds access search (path.child name) inner p := by
  rw [value_mayEnter_eq_true_iff, Path.name_child]
  constructor
  · intro h
    cases h with
    | file hentry _ => simp at hentry
    | directory hentry hname hlist h =>
      obtain ⟨rfl, rfl⟩ : _ = name ∧ _ = inner := by simpa using hentry
      exact ⟨⟨hname, hlist⟩, h⟩
  · rintro ⟨⟨hname, hlist⟩, h⟩
    exact .directory List.mem_cons_self hname hlist h

theorem not_finds_link {name : String} {target : Path} :
    ¬ Finds access search path [(name, .link target)] p := by
  intro h
  cases h with
  | file hentry _ => simp at hentry
  | directory hentry _ _ _ => simp at hentry

theorem not_finds_nil : ¬ Finds access search path [] p := by
  intro h
  cases h with
  | file hentry _ => simp at hentry
  | directory hentry _ _ _ => simp at hentry

/-- A walk through entries collects what there is to find. -/
theorem mem_collect_iff (hlinks : search.followLinks = false) :
    p ∈ (collect t access search budget here path entries).value ↔
      Finds access search path entries p := by
  induction budget, here, path, entries using collect.induct t access search with
  | case1 budget here path => simp [value_collect_nil, not_finds_nil]
  | case2 budget here path name bytes rest ih =>
    rw [value_collect_file, List.mem_append, ih, finds_cons_iff, finds_file_iff]
  | case3 budget here path name inner rest ihrest ihinner =>
    rw [value_collect_directory, List.mem_append, ihrest, finds_cons_iff, finds_directory_iff,
      ← ihinner]
    by_cases henter : (mayEnter access search (path.child name)).value = true
    · simp [henter]
    · simp [henter]
  | case9 budget here path name target rest _ ih =>
    rw [value_collect_link hlinks, ih, finds_cons_iff, or_iff_right not_finds_link]
  | _ =>
    -- All other cases follow a link.
    exact absurd ‹search.followLinks = true› (by simp [hlinks])

-- ════════════════════════════════════════════════════════════════════════
-- Nothing is collected twice
-- ════════════════════════════════════════════════════════════════════════

theorem Finds.exists_name (h : Finds access search path entries p) :
    ∃ name ∈ entries.map Prod.fst, (path.child name).names <+: p.names := by
  induction h with
  | @file path entries name bytes hentry hkeep =>
    exact ⟨name, List.mem_map_of_mem hentry, List.prefix_refl _⟩
  | @directory path p entries inner name hentry hname hlist h ih =>
    obtain ⟨next, -, hnext⟩ := ih
    refine ⟨name, List.mem_map_of_mem hentry, ?_⟩
    exact (List.prefix_append _ [next]).trans hnext

theorem eq_of_child_isPrefix {a b : String} (ha : (path.child a).names <+: p.names)
    (hb : (path.child b).names <+: p.names) : a = b := by
  have hlength : (path.child a).names.length = (path.child b).names.length := by
    simp [Path.child]
  have hsame := (List.prefix_of_prefix_length_le ha hb hlength.le).eq_of_length hlength
  simpa [Path.child] using hsame

/-- Files below entries of different names are different. -/
theorem ne_of_finds_cons {entry : String × Node} {rest : List (String × Node)} {q : Path}
    (hdistinct : (Node.directory (entry :: rest)).HasDistinctNames)
    (hp : Finds access search path [entry] p) (hq : Finds access search path rest q) : p ≠ q := by
  rintro rfl
  have hnames := hdistinct.nodup
  obtain ⟨a, ha, hpa⟩ := hp.exists_name
  obtain ⟨b, hb, hpb⟩ := hq.exists_name
  rw [List.map_cons, List.nodup_cons] at hnames
  obtain rfl : a = entry.1 := by simpa using ha
  exact hnames.1 (eq_of_child_isPrefix hpa hpb ▸ hb)

theorem nodup_collect (hlinks : search.followLinks = false)
    (hdistinct : (Node.directory entries).HasDistinctNames) :
    (collect t access search budget here path entries).value.Nodup := by
  induction budget, here, path, entries using collect.induct t access search with
  | case1 budget here path => simp [value_collect_nil]
  | case2 budget here path name bytes rest ih =>
    rw [value_collect_file, List.nodup_append]
    refine ⟨?_, ih hdistinct.tail, ?_⟩
    · rw [value_keepFile]
      split <;> simp
    · intro p hp q hq
      exact ne_of_finds_cons hdistinct (finds_file_iff.mpr hp) ((mem_collect_iff hlinks).mp hq)
  | case3 budget here path name inner rest ihrest ihinner =>
    rw [value_collect_directory, List.nodup_append]
    by_cases henter : (mayEnter access search (path.child name)).value = true
    · rw [if_pos henter]
      refine ⟨ihinner (hdistinct.of_mem List.mem_cons_self), ihrest hdistinct.tail, ?_⟩
      intro p hp q hq
      have hp := finds_directory_iff.mpr ⟨henter, (mem_collect_iff hlinks).mp hp⟩
      exact ne_of_finds_cons hdistinct hp ((mem_collect_iff hlinks).mp hq)
    · rw [if_neg henter]
      refine ⟨List.nodup_nil, ihrest hdistinct.tail, ?_⟩
      intro p hp
      simp at hp
  | case9 budget here path name target rest _ ih =>
    rw [value_collect_link hlinks]
    exact ih hdistinct.tail
  | _ =>
    -- All other cases follow a link.
    exact absurd ‹search.followLinks = true› (by simp [hlinks])

-- ════════════════════════════════════════════════════════════════════════
-- Name by name
-- ════════════════════════════════════════════════════════════════════════

theorem Finds.isReviewFile (h : Finds access search path entries p)
    (hdistinct : (Node.directory entries).HasDistinctNames)
    (hlist : access.listing path = none) :
    IsReviewFile access search path (.directory entries) p := by
  induction h with
  | @file path entries name bytes hentry hkeep =>
    cases hdistinct with
    | directory hnames _ =>
      refine ⟨[], name, bytes, ?_, ?_, ?_, ?_, hkeep⟩
      · simp [Path.descend, Path.child]
      · simp [Node.below?_directory_cons, (lookup_eq_some_iff hnames).mpr hentry]
      · simp
      · intro above habove
        simpa [List.prefix_nil.mp habove] using hlist
  | @directory path p entries inner name hentry hname hinner h ih =>
    cases hdistinct with
    | directory hnames hnodes =>
      obtain ⟨way, last, bytes, hp, hbelow, hway, hopen, hkeep⟩ := ih (hnodes _ hentry) hinner
      refine ⟨name :: way, last, bytes, ?_, ?_, ?_, ?_, hkeep⟩
      · simpa using hp
      · rw [List.cons_append, Node.below?_directory_cons, (lookup_eq_some_iff hnames).mpr hentry,
          Option.bind_some, hbelow]
      · simpa [hname] using hway
      · intro above habove
        cases above with
        | nil => simpa using hlist
        | cons first above =>
          obtain ⟨rfl, htail⟩ := List.cons_prefix_cons.mp habove
          simpa using hopen above htail

theorem finds_of_isReviewFile (h : IsReviewFile access search path (.directory entries) p)
    (hdistinct : (Node.directory entries).HasDistinctNames) :
    Finds access search path entries p := by
  obtain ⟨way, last, bytes, rfl, hbelow, hway, hopen, hkeep⟩ := h
  induction way generalizing path entries with
  | nil =>
    have hentry : entries.lookup last = some (.file bytes) := by
      simpa [Node.below?_directory_cons] using hbelow
    have hchild : path.descend ([] ++ [last]) = path.child last := by
      simp [Path.descend, Path.child]
    rw [hchild] at hkeep ⊢
    exact .file ((lookup_eq_some_iff hdistinct.nodup).mp hentry) hkeep
  | cons name way ih =>
    rw [List.cons_append, Node.below?_directory_cons, Option.bind_eq_some_iff] at hbelow
    obtain ⟨node, hlookup, hnode⟩ := hbelow
    obtain ⟨inner, rfl⟩ := Node.exists_directory_of_below? (by simp) hnode
    have hentry := (lookup_eq_some_iff hdistinct.nodup).mp hlookup
    have hlist : access.listing (path.child name) = none := by
      simpa [Path.descend, Path.child] using hopen [name] (by simp)
    refine .directory hentry (hway name List.mem_cons_self) hlist ?_
    have hsame :
        path.descend (name :: way ++ [last]) = (path.child name).descend (way ++ [last]) := by
      simp
    rw [hsame] at hkeep ⊢
    refine ih (hdistinct.of_mem hentry) hnode ?_ ?_ hkeep
    · intro directory hdirectory
      exact hway directory (List.mem_cons_of_mem name hdirectory)
    · intro above habove
      rw [Path.child_descend]
      exact hopen (name :: above) (List.cons_prefix_cons.mpr ⟨rfl, habove⟩)

end Walk

-- ════════════════════════════════════════════════════════════════════════
-- What changes the files that should be found
-- ════════════════════════════════════════════════════════════════════════

/-- The same access, but one more directory cannot be listed. -/
def refusing (access : Access) (directory : Path) (fault : FileTree.Fault) : Access :=
  { access with
    listing := fun p => if p = directory then some fault else access.listing p }

section Change

variable {access : Access} {search : Search} {root p : Path} {tree tree' : Node}
  {fault : FileTree.Fault}

theorem listing_refusing_eq_none_iff {directory : Path} :
    (refusing access directory fault).listing p = none ↔
      p ≠ directory ∧ access.listing p = none := by
  by_cases h : p = directory
  · simp [refusing, h]
  · simp [refusing, h]

/-- A directory that cannot be listed hides the files below it and no others. -/
theorem isReviewFile_refusing_iff {above : List String} :
    IsReviewFile (refusing access (root.descend above) fault) search root tree p ↔
      IsReviewFile access search root tree p ∧
        (p.parent.relativeTo? (root.descend above)).isNone = true := by
  constructor
  · rintro ⟨way, name, bytes, rfl, hbelow, hway, hopen, hkeep⟩
    have hopen' := fun between hbetween => listing_refusing_eq_none_iff.mp (hopen between hbetween)
    refine ⟨⟨way, name, bytes, rfl, hbelow, hway, fun b hb => (hopen' b hb).2, hkeep⟩, ?_⟩
    rw [Path.parent_descend, Path.relativeTo?_descend_isNone]
    intro habove
    exact (hopen' above habove).1 rfl
  · rintro ⟨⟨way, name, bytes, rfl, hbelow, hway, hopen, hkeep⟩, hnot⟩
    rw [Path.parent_descend, Path.relativeTo?_descend_isNone] at hnot
    refine ⟨way, name, bytes, rfl, hbelow, hway, ?_, hkeep⟩
    intro between hbetween
    rw [listing_refusing_eq_none_iff, ne_eq, Path.descend_inj]
    refine ⟨?_, hopen between hbetween⟩
    rintro rfl
    exact hnot hbetween

theorem isReviewFile_refusing_elsewhere {directory : Path}
    (helsewhere : ∀ above, directory ≠ root.descend above) :
    IsReviewFile (refusing access directory fault) search root tree p ↔
      IsReviewFile access search root tree p := by
  have hlisting : ∀ above, (refusing access directory fault).listing (root.descend above) = none ↔
      access.listing (root.descend above) = none := by
    intro above
    rw [listing_refusing_eq_none_iff]
    exact and_iff_right (helsewhere above).symm
  simp only [IsReviewFile, hlisting]

/-- Which files should be found depends on the kinds of nodes only. -/
theorem IsReviewFile.of_kinds (h : IsReviewFile access search root tree p)
    (hkinds : ∀ names, (tree'.below? names).map Node.kind = (tree.below? names).map Node.kind) :
    IsReviewFile access search root tree' p := by
  obtain ⟨way, name, bytes, hp, hbelow, hrest⟩ := h
  have hkind := hkinds (way ++ [name])
  rw [hbelow, Option.map_some, Option.map_eq_some_iff] at hkind
  obtain ⟨node, hnode, hfile⟩ := hkind
  cases node with
  | file bytes' => exact ⟨way, name, bytes', hp, hnode, hrest⟩
  | link _ => exact nomatch hfile
  | directory _ => exact nomatch hfile

end Change

-- ════════════════════════════════════════════════════════════════════════
-- Searches
-- ════════════════════════════════════════════════════════════════════════

section Search

variable {t : FileTree} {access : Access} {search : Search} {root : Path} {place : Place}
  {entries : List (String × Node)}

theorem value_files (hplace : t.locate (t.realPath root) = .ok place)
    (hroot : place.node = .directory entries) :
    (files t access search root).value = .ok (List.mergeSort
      (if access.listing (t.realPath root) = none then
        (collect t access search place.budget place.names (t.realPath root) entries).value
      else []) inOrder) := by
  obtain ⟨names, node, budget⟩ := place
  obtain rfl : node = .directory entries := hroot
  rw [files, hplace]
  cases access.listing (t.realPath root) with
  | none => rfl
  | some fault => rfl

/-- A search that follows no links gives the review files below its root, in strict order. -/
theorem exists_files (access : Access) (hlinks : search.followLinks = false)
    (hplace : t.locate (t.realPath root) = .ok place) (hroot : place.node = .directory entries)
    (hnames : (Node.directory t.entries).HasDistinctNames) :
    ∃ found, (files t access search root).value = .ok found ∧ Path.StrictlyOrdered found ∧
      ∀ p, p ∈ found ↔ IsReviewFile access search (t.realPath root) place.node p := by
  have hdistinct : (Node.directory entries).HasDistinctNames := by
    have hnode := nodeAt?_of_follow hplace
    rw [nodeAt?, nodeIn?_eq_below?, hroot] at hnode
    exact hnames.of_below? hnode
  refine ⟨_, value_files hplace hroot, ?_⟩
  by_cases hlist : access.listing (t.realPath root) = none
  · have hmem : ∀ p, p ∈ (collect t access search place.budget place.names (t.realPath root)
        entries).value ↔ IsReviewFile access search (t.realPath root) (.directory entries) p := by
      intro p
      rw [mem_collect_iff hlinks]
      exact ⟨fun h => h.isReviewFile hdistinct hlist, fun h => finds_of_isReviewFile h hdistinct⟩
    rw [if_pos hlist, hroot]
    constructor
    · apply Path.strictlyOrdered_mergeSort (t.realPath root).anchor
      · intro p hp
        obtain ⟨way, name, bytes, rfl, -⟩ := (hmem p).mp hp
        rfl
      · exact nodup_collect hlinks hdistinct
    · intro p
      rw [List.mem_mergeSort, hmem]
  · rw [if_neg hlist]
    constructor
    · simp [Path.StrictlyOrdered]
    · intro p
      rw [List.mem_mergeSort]
      refine iff_of_false List.not_mem_nil ?_
      rintro ⟨way, name, bytes, -, -, -, hopen, -⟩
      exact hlist (by simpa using hopen [] List.nil_prefix)

theorem files_eq_of_mem_iff (access : Access) (hlinks : search.followLinks = false)
    (hplace : t.locate (t.realPath root) = .ok place) (hroot : place.node = .directory entries)
    (hnames : (Node.directory t.entries).HasDistinctNames) {found : List Path}
    (hordered : Path.StrictlyOrdered found)
    (hmem : ∀ p, p ∈ found ↔ IsReviewFile access search (t.realPath root) place.node p) :
    (files t access search root).value = .ok found := by
  obtain ⟨found', hfound', hordered', hmem'⟩ := exists_files access hlinks hplace hroot hnames
  rw [hfound']
  apply congrArg Except.ok
  apply hordered'.eq_of_mem_iff hordered
  intro p
  rw [hmem', hmem]

end Search

/-- A search from a directory that follows no links gives the review files below the directory, in
strict order and so each of them once. In which order directories list their entries makes no
difference. One more directory that cannot be listed takes away the files below it, and none if it
is neither the root nor below the root. -/
theorem search_finds_review_files (t : FileTree) (access : Access) (search : Search) (root : Path)
    (place : Place) (entries : List (String × Node)) (hlinks : search.followLinks = false)
    (hplace : t.locate (t.realPath root) = .ok place) (hroot : place.node = .directory entries)
    (hnames : (Node.directory t.entries).HasDistinctNames) :
    ∃ found, (files t access search root).value = .ok found ∧
      found.Pairwise (fun p q => p.compare q = .lt) ∧
      (∀ p, p ∈ found ↔ IsReviewFile access search (t.realPath root) place.node p) ∧
      (∀ t', Relisted t t' → (files t' access search root).value = .ok found) ∧
      (∀ above fault, (files t (refusing access ((t.realPath root).descend above) fault) search
          root).value = .ok (found.filter fun p =>
            (p.parent.relativeTo? ((t.realPath root).descend above)).isNone)) ∧
      (∀ directory fault, (∀ above, directory ≠ (t.realPath root).descend above) →
        (files t (refusing access directory fault) search root).value = .ok found) := by
  obtain ⟨found, hfound, hordered, hmem⟩ := exists_files access hlinks hplace hroot hnames
  refine ⟨found, hfound, hordered, hmem, ?_, ?_, ?_⟩
  · intro t' hrelisted
    have hreal := hrelisted.realPath_eq hnames root
    obtain ⟨entries', hplace', hkinds⟩ := hrelisted.exists_directory hnames hplace hroot
    rw [← hreal] at hplace'
    apply files_eq_of_mem_iff access hlinks hplace' rfl (hnames.relisted hrelisted.root) hordered
    intro p
    rw [hmem, hreal]
    exact ⟨fun h => h.of_kinds hkinds, fun h => h.of_kinds fun names => (hkinds names).symm⟩
  · intro above fault
    apply files_eq_of_mem_iff _ hlinks hplace hroot hnames (hordered.filter _)
    intro p
    rw [List.mem_filter, hmem, isReviewFile_refusing_iff]
  · intro directory fault helsewhere
    apply files_eq_of_mem_iff _ hlinks hplace hroot hnames hordered
    intro p
    rw [hmem, isReviewFile_refusing_elsewhere helsewhere]

namespace Workspace

/-- What is in a working directory: files, a link to one and a directory that is ignored. -/
def sample : List (String × Node) :=
  [("b.ts", .file []), ("a", .directory [("x.ts", .file [])]),
    ("l.ts", .link ⟨.relative, ["b.ts"]⟩), ("out", .directory [("o.ts", .file [])])]

/-- A file tree with these entries in a given order. -/
def treeOf (entries : List (String × Node)) : FileTree :=
  { entries := [("work", .directory entries)], home := ["work"] }

/-- The working directory. -/
def root : Path := ⟨.relative, []⟩

/-- The path of names below the working directory. -/
def below (names : List String) : Path := ⟨.root, "work" :: names⟩

theorem realPath_root : (treeOf sample).realPath root = below [] := by
  simp [FileTree.realPath, FileTree.realNames, FileTree.startOf, treeOf, root, below,
    Path.isAbsolute]

theorem locate_root :
    (treeOf sample).locate (below []) = .ok ⟨["work"], .directory sample, linkLimit⟩ := by
  have hsize : ¬ nameLimit < "work".utf8ByteSize := by decide
  simp [FileTree.locate, FileTree.startOf, Path.isAbsolute, treeOf, below, FileTree.follow,
    FileTree.nodeAt?, FileTree.nodeIn?, hsize]

theorem hasDistinctNames : (Node.directory (treeOf sample).entries).HasDistinctNames := by
  have hsingle : ∀ name node, node.HasDistinctNames →
      (Node.directory [(name, node)]).HasDistinctNames := by
    intro name node hnode
    exact .directory (by simp) (by simpa using hnode)
  have hentries : (Node.directory sample).HasDistinctNames := by
    refine .directory (by decide) ?_
    simp only [sample, List.forall_mem_cons]
    exact ⟨.file _, hsingle _ _ (.file _), .link _, hsingle _ _ (.file _), by simp⟩
  exact hsingle "work" (.directory sample) hentries

theorem not_isReviewFile_link :
    ¬ IsReviewFile .free {} (below []) (.directory sample) (below ["l.ts"]) := by
  rintro ⟨way, name, bytes, hp, hbelow, -⟩
  have hway : way ++ [name] = ["l.ts"] := by
    simpa [below, Path.descend] using hp.symm
  rw [hway] at hbelow
  simp [Node.below?_directory_cons, sample, lookup_cons_eq] at hbelow

theorem not_isReviewFile_ignored :
    ¬ IsReviewFile .free {} (below []) (.directory sample) (below ["out", "o.ts"]) := by
  rintro ⟨way, name, bytes, hp, -, hignored, -⟩
  have hway : way ++ [name] = ["out"] ++ ["o.ts"] := by
    simpa [below, Path.descend] using hp.symm
  obtain ⟨rfl, -⟩ := List.append_inj' hway rfl
  exact hignored "out" (by simp) (by decide)

end Workspace

open Workspace

/-- A search of the working directory finds the files, but neither the link nor what is ignored.
It finds the same if the entries come in reverse, and if a directory elsewhere cannot be listed. A
directory of its own that cannot be listed hides the file in it only. -/
theorem search_finds_files_of_workspace :
    ∃ found, (files (treeOf sample) .free {} root).value = .ok found ∧
      below ["a", "x.ts"] ∈ found ∧ below ["b.ts"] ∈ found ∧
      below ["l.ts"] ∉ found ∧ below ["out", "o.ts"] ∉ found ∧
      (files (treeOf sample.reverse) .free {} root).value = .ok found ∧
      (files (treeOf sample) (refusing .free ⟨.root, ["home"]⟩ .refused) {} root).value =
        .ok found ∧
      ∃ fewer, (files (treeOf sample) (refusing .free (below ["a"]) .refused) {} root).value =
          .ok fewer ∧ below ["b.ts"] ∈ fewer ∧ below ["a", "x.ts"] ∉ fewer := by
  have hplace := locate_root
  rw [← realPath_root] at hplace
  obtain ⟨found, hfound, -, hmem, hrelisted, hrefused, helsewhere⟩ := search_finds_review_files
    (treeOf sample) .free {} root _ sample rfl hplace rfl hasDistinctNames
  rw [realPath_root] at hmem hrefused helsewhere
  have hx : below ["a", "x.ts"] ∈ found := by
    rw [hmem]
    refine ⟨["a"], "x.ts", [], rfl, ?_, by decide, fun _ _ => rfl, by decide, rfl⟩
    simp [Node.below?_directory_cons, sample, lookup_cons_eq]
  have hb : below ["b.ts"] ∈ found := by
    rw [hmem]
    refine ⟨[], "b.ts", [], rfl, ?_, by decide, fun _ _ => rfl, by decide, rfl⟩
    simp [Node.below?_directory_cons, sample]
  have hreverse : Relisted (treeOf sample) (treeOf sample.reverse) :=
    ⟨rfl, @Node.Relisted.within [] [] "work" _ _ (.here (List.reverse_perm sample).symm)⟩
  refine ⟨found, hfound, hx, hb, ?_, ?_, hrelisted _ hreverse, helsewhere _ _ ?_, _,
    hrefused ["a"] .refused, ?_, ?_⟩
  · rw [hmem]
    exact not_isReviewFile_link
  · rw [hmem]
    exact not_isReviewFile_ignored
  · intro above
    simp [below, Path.descend]
  · exact List.mem_filter.mpr ⟨hb, by decide⟩
  · intro h
    exact absurd (List.mem_filter.mp h).2 (by decide)

end Traversal

end ChecklistReview
