import ChecklistReview.Path

/-!
# Paths are read as they were written

A path is normal if its names are such that none is left out or cut when the path is read. Paths
that are read are normal, and normal paths are read as they were written.

## Main statements

* `isNormal_ofString`: what is read is normal.
* `ofString_toString`: what is written for a normal path is read as that path.
-/

namespace ChecklistReview.Path

/-- Whether a text is a name that stays as it is when a path is read. -/
def IsName (name : String) : Prop := name ≠ "" ∧ name ≠ "." ∧ '/' ∉ name.toList

instance (name : String) : Decidable (IsName name) := inferInstanceAs (Decidable (_ ∧ _))

/-- A path all of whose names stay as they are when it is read. -/
def IsNormal (p : Path) : Prop := ∀ name ∈ p.names, IsName name

instance (p : Path) : Decidable p.IsNormal := inferInstanceAs (Decidable (∀ _ ∈ _, _))

-- ════════════════════════════════════════════════════════════════════════
-- Names
-- ════════════════════════════════════════════════════════════════════════

theorem not_mem_of_mem_splitOn {c : Char} {text part : List Char} (h : part ∈ text.splitOn c) :
    c ∉ part := by
  induction text generalizing part with
  | nil =>
    rw [List.splitOn_nil, List.mem_singleton] at h
    simp [h]
  | cons d text ih =>
    rw [List.splitOn_cons_eq_if_modifyHead] at h
    split at h
    · rcases List.mem_cons.1 h with rfl | h
      · simp
      · exact ih h
    · next hd =>
      obtain ⟨first, rest, hsplit⟩ := List.exists_cons_of_ne_nil (List.splitOn_ne_nil c text)
      rw [hsplit] at h ih
      rcases List.mem_cons.1 h with rfl | h
      · have hd : c ≠ d := fun heq => hd (by simp [heq])
        simpa [hd] using ih List.mem_cons_self
      · exact ih (List.mem_cons_of_mem _ h)

theorem isName_of_mem_namesOf {text : List Char} {name : String} (h : name ∈ namesOf text) :
    IsName name := by
  obtain ⟨hname, htest⟩ := List.mem_filter.1 h
  obtain ⟨part, hpart, rfl⟩ := List.mem_map.1 hname
  have hslash : '/' ∉ (String.ofList part).toList := by
    rw [String.toList_ofList]
    exact not_mem_of_mem_splitOn hpart
  simp only [ne_eq, Bool.and_eq_true, decide_not, Bool.not_eq_true', decide_eq_false_iff_not]
    at htest
  exact ⟨htest.1, htest.2, hslash⟩

/-- What is read is normal. -/
theorem isNormal_ofString (text : String) : (ofString text).IsNormal :=
  fun _ h => isName_of_mem_namesOf h

/-- Names with slashes between them. -/
def namesForm (names : List String) : List Char := ['/'].intercalate (names.map String.toList)

@[simp]
theorem namesOf_slash (text : List Char) : namesOf ('/' :: text) = namesOf text := by
  simp [namesOf, List.splitOn_cons_eq_if_modifyHead]

/-- Names are read as they were written. -/
theorem namesOf_namesForm {names : List String} (h : ∀ name ∈ names, IsName name) :
    namesOf (namesForm names) = names := by
  cases names with
  | nil => decide
  | cons first rest =>
    have hsplit : (namesForm (first :: rest)).splitOn '/' = (first :: rest).map String.toList := by
      refine List.splitOn_intercalate '/' ?_ (by simp)
      intro part hpart
      obtain ⟨name, hname, rfl⟩ := List.mem_map.1 hpart
      exact (h name hname).2.2
    have hmap : ((first :: rest).map String.toList).map String.ofList = first :: rest := by
      simp
    rw [namesOf, hsplit, hmap, List.filter_eq_self]
    intro name hname
    have hname := h name hname
    simp [hname.1, hname.2.1]

-- ════════════════════════════════════════════════════════════════════════
-- Anchors
-- ════════════════════════════════════════════════════════════════════════

theorem takeWhile_namesForm {names : List String} (h : ∀ name ∈ names, IsName name) :
    (namesForm names).takeWhile (· = '/') = [] := by
  cases names with
  | nil => rfl
  | cons first rest =>
    have hfirst := h first List.mem_cons_self
    cases hlist : first.toList with
    | nil => exact absurd (String.toList_eq_nil_iff.1 hlist) hfirst.1
    | cons c more =>
      have hc : c ≠ '/' := fun heq => hfirst.2.2 (by simp [hlist, heq])
      cases rest <;> simp [namesForm, hlist, hc]

/-- What is written for a normal path is read as that path. -/
theorem ofString_toString {p : Path} (h : p.IsNormal) : ofString p.toString = p := by
  obtain ⟨anchor, names⟩ := p
  have hnames := namesOf_namesForm h
  have hanchor := takeWhile_namesForm h
  have hform : ("/".intercalate names).toList = namesForm names := by
    simp [namesForm]
  cases anchor with
  | relative =>
    cases names with
    | nil => decide
    | cons first rest =>
      simp [toString, ofString, Anchor.ofText, Anchor.text, hform, hnames, hanchor]
  | root => simp [toString, ofString, Anchor.ofText, Anchor.text, hform, hnames, hanchor]
  | doubleRoot => simp [toString, ofString, Anchor.ofText, Anchor.text, hform, hnames, hanchor]

end ChecklistReview.Path
