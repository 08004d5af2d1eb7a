import ChecklistReview.Report.Display
import Mathlib.Data.List.Induction
import Mathlib.Data.List.Nodup
import Mathlib.Logic.ExistsUnique

/-!
# Findings file by file

A report has a section for each file with findings. `Groups` says what it means that sections group
findings: they come in the order in which the files come up, and each holds the findings of its
file in the order of the findings. Every finding that is added keeps this.

## Main statements

* `addFinding_cases`: what adding a finding does to the sections.
* `groups_sections`: the sections of a report group its findings.
* `existsUnique_section`: each finding is in one section.
* `flatMap_sections_perm`: the sections hold every finding as often as there is one.
* `flatMap_sections_flatMap`: findings that come file by file stay in order.
-/

namespace ChecklistReview.Report

/-- The text of the file that a section is about. -/
def FileSection.text (s : FileSection) : String := s.file.toString

/-- The text of the file that a finding is in. -/
def textOf (f : Finding) : String := f.file.toString

/-- Sections that hold findings by file. -/
structure Groups (findings : List Finding) (parts : List FileSection) : Prop where
  texts_eq : parts.map FileSection.text = (findings.map textOf).eraseDups
  findings_eq : ∀ s ∈ parts, s.findings = findings.filter fun f => textOf f = s.text

-- ════════════════════════════════════════════════════════════════════════
-- Adding a finding
-- ════════════════════════════════════════════════════════════════════════

/-- A finding gets a section of its own at the end if its file has none, and otherwise goes to the
end of a section of its file. -/
theorem addFinding_cases (f : Finding) (parts : List FileSection) :
    (∀ s ∈ parts, s.text ≠ textOf f) ∧
        addFinding f parts = parts ++ [{ file := f.file, findings := [f] }] ∨
      ∃ before s after, parts = before ++ s :: after ∧ s.text = textOf f ∧
        addFinding f parts = before ++ { s with findings := s.findings ++ [f] } :: after := by
  induction parts with
  | nil => exact .inl ⟨by simp, rfl⟩
  | cons s parts ih =>
    by_cases hs : s.text = textOf f
    · exact .inr ⟨[], s, parts, rfl, hs, if_pos hs⟩
    · have hstep : addFinding f (s :: parts) = s :: addFinding f parts := if_neg hs
      rw [hstep]
      rcases ih with ⟨hnone, hadd⟩ | ⟨before, found, after, rfl, hfound, hadd⟩
      · refine .inl ⟨?_, by rw [hadd, List.cons_append]⟩
        intro other hother
        rcases List.mem_cons.mp hother with rfl | hother
        · exact hs
        · exact hnone other hother
      · exact .inr ⟨s :: before, found, after, rfl, hfound, by rw [hadd, List.cons_append]⟩

theorem nodup_eraseDups (texts : List String) : texts.eraseDups.Nodup := by
  cases texts with
  | nil => exact List.nodup_nil
  | cons text texts =>
    rw [List.eraseDups_cons, List.nodup_cons]
    constructor
    · simp
    · exact nodup_eraseDups _
termination_by texts.length
decreasing_by exact Nat.lt_succ_of_le (List.length_filter_le _ _)

theorem eraseDups_append_singleton (texts : List String) (text : String) :
    (texts ++ [text]).eraseDups =
      if text ∈ texts then texts.eraseDups else texts.eraseDups ++ [text] := by
  rw [List.eraseDups_append]
  by_cases h : text ∈ texts
  · simp [List.removeAll, h]
  · simp [List.removeAll, h, List.eraseDups_cons]

namespace Groups

variable {findings : List Finding} {parts : List FileSection}

theorem nodup (h : Groups findings parts) : (parts.map FileSection.text).Nodup := by
  rw [h.texts_eq]
  exact nodup_eraseDups _

theorem exists_section (h : Groups findings parts) {f : Finding} (hf : f ∈ findings) :
    ∃ s ∈ parts, s.text = textOf f := by
  have htext : textOf f ∈ parts.map FileSection.text := by
    rw [h.texts_eq, List.mem_eraseDups]
    exact List.mem_map_of_mem hf
  exact List.mem_map.mp htext

theorem exists_finding (h : Groups findings parts) {s : FileSection} (hs : s ∈ parts) :
    ∃ f ∈ findings, textOf f = s.text := by
  have htext : s.text ∈ (findings.map textOf).eraseDups := by
    rw [← h.texts_eq]
    exact List.mem_map_of_mem hs
  rw [List.mem_eraseDups] at htext
  exact List.mem_map.mp htext

theorem filter_eq_nil (h : Groups findings parts) {text : String}
    (hnone : ∀ s ∈ parts, s.text ≠ text) : (findings.filter fun f => textOf f = text) = [] := by
  rw [List.filter_eq_nil_iff]
  intro f hf heq
  obtain ⟨s, hs, htext⟩ := h.exists_section hf
  exact hnone s hs (htext.trans (of_decide_eq_true heq))

/-- A finding in a file without a section begins a new section. -/
theorem add_new (h : Groups findings parts) {f : Finding} (hnone : ∀ s ∈ parts, s.text ≠ textOf f) :
    Groups (findings ++ [f]) (parts ++ [{ file := f.file, findings := [f] }]) := by
  constructor
  · have hnew : textOf f ∉ findings.map textOf := by
      rw [← List.mem_eraseDups, ← h.texts_eq, List.mem_map]
      rintro ⟨s, hs, htext⟩
      exact hnone s hs htext
    rw [List.map_append, List.map_append, h.texts_eq, List.map_singleton, List.map_singleton,
      eraseDups_append_singleton, if_neg hnew]
    rfl
  · intro s hs
    rw [List.filter_append]
    rcases List.mem_append.mp hs with hs | hs
    · rw [h.findings_eq s hs]
      simp [(hnone s hs).symm]
    · obtain rfl := List.mem_singleton.mp hs
      have hold := h.filter_eq_nil hnone
      show [f] = (findings.filter fun g => textOf g = textOf f) ++ _
      rw [hold, List.nil_append]
      simp [FileSection.text, textOf]

/-- A finding in a file with a section continues it. -/
theorem add_known {before after : List FileSection} {s : FileSection}
    (h : Groups findings (before ++ s :: after)) {f : Finding} (hs : s.text = textOf f) :
    Groups (findings ++ [f]) (before ++ { s with findings := s.findings ++ [f] } :: after) := by
  constructor
  · have hknown : textOf f ∈ findings.map textOf := by
      rw [← List.mem_eraseDups, ← h.texts_eq, ← hs]
      simp
    have hmap : (findings ++ [f]).map textOf = findings.map textOf ++ [textOf f] := by
      simp
    rw [hmap, eraseDups_append_singleton, if_pos hknown, ← h.texts_eq]
    simp [FileSection.text]
  · have hkeep : ∀ part ∈ before ++ s :: after, part.text ≠ s.text →
        part.findings = (findings ++ [f]).filter fun g => textOf g = part.text := by
      intro part hpart hne
      rw [List.filter_append, h.findings_eq part hpart]
      simp [← hs, hne.symm]
    have hnodup := h.nodup
    rw [List.map_append, List.map_cons, List.nodup_append, List.nodup_cons] at hnodup
    obtain ⟨-, ⟨hafter, -⟩, hbefore⟩ := hnodup
    intro part hpart
    rw [List.mem_append, List.mem_cons] at hpart
    rcases hpart with hpart | rfl | hpart
    · apply hkeep part (List.mem_append_left _ hpart)
      intro heq
      exact hbefore _ (List.mem_map_of_mem hpart) _ List.mem_cons_self heq
    · show s.findings ++ [f] = (findings ++ [f]).filter fun g => textOf g = s.text
      rw [List.filter_append, ← h.findings_eq s (by simp)]
      simp [hs]
    · apply hkeep part (List.mem_append_right _ (List.mem_cons_of_mem s hpart))
      intro heq
      exact hafter (heq ▸ List.mem_map_of_mem hpart)

/-- Adding a finding to its section keeps the grouping. -/
theorem addFinding (h : Groups findings parts) (f : Finding) :
    Groups (findings ++ [f]) (addFinding f parts) := by
  rcases addFinding_cases f parts with ⟨hnone, hadd⟩ | ⟨before, s, after, rfl, hs, hadd⟩
  · rw [hadd]
    exact h.add_new hnone
  · rw [hadd]
    exact h.add_known hs

end Groups

-- ════════════════════════════════════════════════════════════════════════
-- All findings
-- ════════════════════════════════════════════════════════════════════════

theorem sections_append_singleton (findings : List Finding) (f : Finding) :
    sections (findings ++ [f]) = addFinding f (sections findings) := by
  simp [sections]

/-- What adding a finding keeps holds of all sections of a report. -/
theorem sections_induction {motive : List Finding → List FileSection → Prop} (nil : motive [] [])
    (add : ∀ findings parts f, motive findings parts →
      motive (findings ++ [f]) (addFinding f parts)) (findings : List Finding) :
    motive findings (sections findings) := by
  induction findings using List.reverseRecOn with
  | nil => exact nil
  | append_singleton findings f ih =>
    rw [sections_append_singleton]
    exact add findings _ f ih

/-- The sections of a report group its findings. -/
theorem groups_sections (findings : List Finding) : Groups findings (sections findings) := by
  apply sections_induction
  · exact ⟨rfl, by simp⟩
  · intro findings parts f h
    exact h.addFinding f

/-- Each finding is in one section. -/
theorem existsUnique_section {findings : List Finding} {f : Finding} (hf : f ∈ findings) :
    ∃! s, s ∈ sections findings ∧ f ∈ s.findings := by
  have h := groups_sections findings
  have hmem : ∀ s ∈ sections findings, f ∈ s.findings ↔ s.text = textOf f := by
    intro s hs
    rw [h.findings_eq s hs, List.mem_filter]
    simp [hf, eq_comm]
  obtain ⟨s, hs, htext⟩ := h.exists_section hf
  refine ⟨s, ⟨hs, (hmem s hs).mpr htext⟩, ?_⟩
  rintro other ⟨hother, hfother⟩
  have heq : other.text = s.text := ((hmem other hother).mp hfother).trans htext.symm
  exact List.inj_on_of_nodup_map h.nodup hother hs heq

/-- The sections hold every finding as often as there is one. -/
theorem flatMap_sections_perm (findings : List Finding) :
    ((sections findings).flatMap FileSection.findings).Perm findings := by
  apply sections_induction (motive := fun findings parts =>
    (parts.flatMap FileSection.findings).Perm findings)
  · exact .nil
  · intro findings parts f h
    refine List.Perm.trans ?_ (h.append_right [f])
    rcases addFinding_cases f parts with ⟨-, hadd⟩ | ⟨before, s, after, rfl, -, hadd⟩
    · simp [hadd]
    · rw [hadd]
      simp only [List.flatMap_append, List.flatMap_cons, List.append_assoc]
      apply List.Perm.append_left
      apply List.Perm.append_left
      exact List.perm_append_comm

-- ════════════════════════════════════════════════════════════════════════
-- Findings that come file by file
-- ════════════════════════════════════════════════════════════════════════

theorem addFinding_append {f : Finding} {earlier parts : List FileSection}
    (h : ∀ s ∈ earlier, s.text ≠ textOf f) :
    addFinding f (earlier ++ parts) = earlier ++ addFinding f parts := by
  induction earlier with
  | nil => rfl
  | cons s earlier ih =>
    have hs : ¬ s.text = textOf f := h s List.mem_cons_self
    have hstep : addFinding f (s :: (earlier ++ parts)) = s :: addFinding f (earlier ++ parts) :=
      if_neg hs
    rw [List.cons_append, hstep, ih fun other hother => h other (List.mem_cons_of_mem s hother),
      List.cons_append]

/-- Findings in files without earlier ones have sections of their own. -/
theorem sections_append {first rest : List Finding}
    (h : ∀ f ∈ first, ∀ g ∈ rest, textOf f ≠ textOf g) :
    sections (first ++ rest) = sections first ++ sections rest := by
  induction rest using List.reverseRecOn with
  | nil => rw [List.append_nil, show sections [] = [] from rfl, List.append_nil]
  | append_singleton rest g ih =>
    have hg : ∀ s ∈ sections first, s.text ≠ textOf g := by
      intro s hs heq
      obtain ⟨f, hf, htext⟩ := (groups_sections first).exists_finding hs
      exact h f hf g (by simp) (htext.trans heq)
    have hrest : ∀ f ∈ first, ∀ g ∈ rest, textOf f ≠ textOf g := by
      intro f hf g hg
      exact h f hf g (List.mem_append_left _ hg)
    rw [← List.append_assoc, sections_append_singleton, sections_append_singleton, ih hrest,
      addFinding_append hg]

/-- Findings in one file have one section. -/
theorem flatMap_sections_of_forall {findings : List Finding} {text : String}
    (h : ∀ f ∈ findings, textOf f = text) :
    (sections findings).flatMap FileSection.findings = findings := by
  have hgroups := groups_sections findings
  have hall : ∀ s ∈ sections findings, s.text = text := by
    intro s hs
    obtain ⟨f, hf, htext⟩ := hgroups.exists_finding hs
    exact htext.symm.trans (h f hf)
  match hparts : sections findings with
  | [] =>
    have hperm := flatMap_sections_perm findings
    rw [hparts] at hperm
    exact hperm.nil_eq
  | [s] =>
    have hs : s ∈ sections findings := by simp [hparts]
    rw [List.flatMap_singleton, hgroups.findings_eq s hs, List.filter_eq_self]
    intro f hf
    exact decide_eq_true ((h f hf).trans (hall s hs).symm)
  | s :: other :: parts =>
    have hnodup := hgroups.nodup
    rw [hparts, List.map_cons, List.map_cons, List.nodup_cons] at hnodup
    have heq : s.text = other.text :=
      (hall s (by simp [hparts])).trans (hall other (by simp [hparts])).symm
    exact absurd (heq ▸ List.mem_cons_self) hnodup.1

/-- Findings that come file by file are in the order of their sections. -/
theorem flatMap_sections_flatMap {ι : Type} {items : List ι} {block : ι → List Finding}
    {text : ι → String} (htext : ∀ i, ∀ f ∈ block i, textOf f = text i)
    (hnodup : (items.map text).Nodup) :
    (sections (items.flatMap block)).flatMap FileSection.findings = items.flatMap block := by
  induction items with
  | nil => rfl
  | cons i items ih =>
    rw [List.map_cons, List.nodup_cons] at hnodup
    have hapart : ∀ f ∈ block i, ∀ g ∈ items.flatMap block, textOf f ≠ textOf g := by
      intro f hf g hg heq
      obtain ⟨j, hj, hg⟩ := List.mem_flatMap.mp hg
      rw [htext i f hf, htext j g hg] at heq
      exact hnodup.1 (heq ▸ List.mem_map_of_mem hj)
    rw [List.flatMap_cons, sections_append hapart, List.flatMap_append, ih hnodup.2,
      flatMap_sections_of_forall (htext i)]

end ChecklistReview.Report
