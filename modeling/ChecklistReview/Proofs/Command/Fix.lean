import ChecklistReview.Command.Run
import ChecklistReview.Proofs.Artifact
import ChecklistReview.Proofs.FileTree
import ChecklistReview.Proofs.Fix.LineStructure
import ChecklistReview.Proofs.Text.Utf8

/-!
# What the fix command changes

A command that does not finish changes nothing, unless the standard output refuses a line after the
change. The fix command, when it finishes, has replaced the bytes of one line of one file: the bytes
around them, the breaks and all other files are as they were, also where the bytes are no text.

## Main statements

* `fixText_bytes`: what a fix of a text does to the bytes that the text was read from.
* `fixFinding_cases` and `runFix_cases`: how the fix command can end.
* `leavesTree_run`: a command that does not finish changes nothing, unless a line is refused.
* `fix_command_frame`: what the fix command changes.
-/

namespace ChecklistReview.Command

open Text Text.Utf8 Environment

-- ════════════════════════════════════════════════════════════════════════
-- Bytes around a line
-- ════════════════════════════════════════════════════════════════════════

/-- A fix of a text replaces one line of the bytes that the text was read from. -/
theorem fixText_bytes {f : Finding} {r : Option Rule} {old : List UInt8}
    {result : Fix.Result Letter} (h : Fix.fixText f r (decodeKeeping old) = .ok result) :
    ∃ P L S, (splitLines old)[f.line - 1]? = some L ∧ P = join ((lines old).take (f.line - 1)) ∧
      old = P ++ L ++ S ∧
      encodeLetters result.text = P ++ encodeLetters result.edit.replacement ++ S := by
  obtain ⟨-, hget, before, ending, after, hcut, hlength, -, htext, hresult⟩ := Fix.fixText_frame h
  have hlines := lines_eq_map_decodeKeeping old
  refine ⟨encodeLetters (join before), encodeLetters result.edit.before,
    encodeLetters (ending ++ join after), ?_, ?_, ?_, ?_⟩
  · rw [splitLines, hlines, hcut, List.map_append, List.map_append, List.getElem?_append_right]
    · simp [hlength, Line.flatMap, encodeLetters]
    · simp [hlength]
  · rw [hlines, hcut, ← List.map_take, ← hlength, List.take_left, join_map_flatMap]
    rfl
  · conv => lhs; rw [← encodeLetters_decodeKeeping old, htext]
    simp
  · rw [hresult]
    simp

-- ════════════════════════════════════════════════════════════════════════
-- Printing
-- ════════════════════════════════════════════════════════════════════════

/-- No line is refused. -/
def Output.Accepts (output : Output) : Prop := ∀ count line, output count line = none

/-- A command has failed since a line was refused. -/
def RefusedBy (output : Output) (outcome : Outcome) : Prop :=
  ∃ reason count line, outcome.ending = .failed (.output reason) ∧ output count line = some reason

theorem Output.Accepts.not_refusedBy {output : Output} (h : output.Accepts) (outcome : Outcome) :
    ¬ RefusedBy output outcome := by
  rintro ⟨reason, count, line, -, hrefused⟩
  rw [h count line] at hrefused
  cases hrefused

theorem Output.exists_of_print {output : Output} {count : Nat} {lines : List (List Char)}
    {reason : String} (h : (output.print count lines).2 = some reason) :
    ∃ count line, output count line = some reason := by
  induction lines generalizing count with
  | nil => cases h
  | cons line rest ih =>
    rw [print] at h
    cases hline : output count line with
    | some found =>
      rw [hline] at h
      exact ⟨count, line, hline.trans h⟩
    | none =>
      rw [hline] at h
      exact ih h

/-- Lines that are printed leave the rest of an outcome as it is, or one of them is refused. -/
theorem Outcome.print_cases (outcome : Outcome) (output : Output) (lines : List (List Char)) :
    (outcome.print output lines).tree = outcome.tree ∧
      ((outcome.print output lines).ending = outcome.ending ∨
        RefusedBy output (outcome.print output lines)) := by
  rw [print]
  split
  · exact ⟨rfl, .inl rfl⟩
  · next printed reason hprint =>
    obtain ⟨count, line, hrefused⟩ := Output.exists_of_print (congrArg Prod.snd hprint)
    exact ⟨rfl, .inr ⟨reason, count, line, rfl, hrefused⟩⟩

theorem tree_finish (env : Environment) (lines : List (List Char)) (ending : Ending) :
    (env.finish lines ending).tree = env.tree :=
  (Outcome.print_cases _ _ _).1

-- ════════════════════════════════════════════════════════════════════════
-- How commands end
-- ════════════════════════════════════════════════════════════════════════

/-- An outcome has changed nothing, unless the command has finished or a line was refused. -/
def LeavesTree (env : Environment) (outcome : Outcome) : Prop :=
  outcome.ending.status ≠ 0 → outcome.tree = env.tree ∨ RefusedBy env.output outcome

theorem leavesTree_of_tree_eq {env : Environment} {outcome : Outcome}
    (h : outcome.tree = env.tree) : LeavesTree env outcome :=
  fun _ => .inl h

/-- A command that has done its work when it prints its last lines. -/
theorem leavesTree_print (env : Environment) {outcome : Outcome}
    (h : outcome.ending.status = 0) (lines : List (List Char)) :
    LeavesTree env (outcome.print env.output lines) := by
  intro hstatus
  rcases (outcome.print_cases env.output lines).2 with hending | hrefused
  · rw [hending] at hstatus
    exact absurd h hstatus
  · exact .inr hrefused

theorem leavesTree_reviewSelection (env : Environment) (selection : Selection) (rules : List Rule)
    (keepsArtifact isVerbose : Bool) :
    LeavesTree env (reviewSelection env selection rules keepsArtifact isVerbose).value := by
  simp only [reviewSelection, Logged.value_bind]
  split
  · next hfinished =>
    split
    · simp only [Logged.value_bind]
      split
      · exact leavesTree_of_tree_eq (tree_finish _ _ _)
      · refine leavesTree_print env ?_ _
        exact congrArg Ending.status hfinished
    · refine leavesTree_print env ?_ _
      exact congrArg Ending.status hfinished
  · exact leavesTree_of_tree_eq (tree_finish _ _ _)

theorem leavesTree_runReview (env : Environment) (target : Path) (checklist : Option Path)
    (keepsArtifact isVerbose : Bool) :
    LeavesTree env (runReview env target checklist keepsArtifact isVerbose).value := by
  simp only [runReview, Logged.value_bind]
  split
  · exact leavesTree_of_tree_eq rfl
  · split
    · exact leavesTree_of_tree_eq (tree_finish _ _ _)
    · split
      · exact leavesTree_of_tree_eq (tree_finish _ _ _)
      · exact leavesTree_reviewSelection _ _ _ _ _

theorem leavesTree_runRules (env : Environment) (root : Path) (checklist artifact : Option Path) :
    LeavesTree env (runRules env root checklist artifact).value := by
  simp only [runRules, Logged.value_bind]
  split
  · exact leavesTree_of_tree_eq rfl
  · split
    · exact leavesTree_of_tree_eq (tree_finish _ _ _)
    · split
      · exact leavesTree_of_tree_eq rfl
      · exact leavesTree_of_tree_eq (tree_finish _ _ _)

theorem value_readBytes (read : Source.Reader) (path : Path) :
    (Source.readBytes read path).value = (read path).toOption := by
  unfold Source.readBytes
  split
  · next h =>
    rw [h]
    rfl
  · next h =>
    rw [h]
    rfl

theorem read_of_readerOf {t : FileTree} {access : FileTree.Access} {path : Path}
    {bytes : List UInt8} (h : Source.readerOf t access path = .ok bytes) :
    t.read path = .ok bytes := by
  unfold Source.readerOf at h
  split at h
  · exact nomatch h
  · exact h

theorem write_of_writeSource {env : Environment} {path : Path} {bytes : List UInt8}
    {tree : FileTree} (h : writeSource env path bytes = .ok tree) :
    env.tree.write path bytes = .ok tree := by
  unfold writeSource at h
  split at h
  · exact nomatch h
  · exact h

/-- How a fix of a finding can end: with a reason and nothing changed, or with the bytes of the
mended text in place of those that were read, and then it only has to print. -/
theorem fixFinding_cases (env : Environment) (finding : Finding) (rules : List Rule) :
    ((fixFinding env finding rules).value.ending.status ≠ 0 ∧
      (fixFinding env finding rules).value.tree = env.tree) ∨
    ∃ old result tree, env.tree.read finding.file = .ok old ∧
      Fix.fixText finding (Fix.findRule? rules finding.ruleId) (decodeKeeping old) = .ok result ∧
      env.tree.write finding.file (encodeLetters result.text) = .ok tree ∧
      (fixFinding env finding rules).value =
        Outcome.print { ending := .finished, tree } env.output (fixLines finding result.edit) := by
  simp only [fixFinding, Logged.value_bind, value_readBytes]
  cases hread : Source.readerOf env.tree env.access finding.file with
  | error fault => exact .inl ⟨Nat.succ_ne_zero 0, rfl⟩
  | ok old =>
    simp only [Except.toOption, Logged.value_bind]
    cases hfix : (Fix.applyFix finding (Fix.findRule? rules finding.ruleId)
        (decodeKeeping old)).value with
    | error unavailable => exact .inl ⟨Nat.succ_ne_zero 0, rfl⟩
    | ok result =>
      cases hhalf : unencodable? result.text with
      | some fault =>
        refine .inl ?_
        simp only [hhalf]
        exact ⟨Nat.succ_ne_zero 0, rfl⟩
      | none =>
        cases hwrite : writeSource env finding.file (encodeLetters result.text) with
        | error fault =>
          refine .inl ?_
          simp only [hhalf, hwrite]
          exact ⟨Nat.succ_ne_zero 0, rfl⟩
        | ok tree =>
          refine .inr ⟨old, result, tree, read_of_readerOf hread,
            Fix.applyFix_value_eq_ok_iff.1 hfix, write_of_writeSource hwrite, ?_⟩
          simp only [hhalf, hwrite]
          rfl

/-- How the fix command can end: with nothing changed and a status that says so, or with a
finding of the artifact mended. -/
theorem runFix_cases (env : Environment) (path : Path) (index : Nat) (checklist : Option Path) :
    ((runFix env path index checklist).value.ending.status ≠ 0 ∧
      (runFix env path index checklist).value.tree = env.tree) ∨
    ∃ artifact finding rules, env.loadArtifact path = .ok artifact ∧
      artifact.findings[index]? = some finding ∧
      (Checklist.load env.tree.read (checklistPath path.parent checklist) env.runtime).value =
        .ok rules ∧
      (runFix env path index checklist).value = (fixFinding env finding rules).value := by
  unfold runFix
  cases hartifact : env.loadArtifact path with
  | error fault => exact .inl ⟨Nat.succ_ne_zero 1, rfl⟩
  | ok artifact =>
    cases hfinding : artifact.findings[index]? with
    | none =>
      refine .inl ?_
      simp only [hfinding]
      exact ⟨Nat.succ_ne_zero 1, rfl⟩
    | some finding =>
      simp only [hfinding, Logged.value_bind]
      cases hrules : (Checklist.load env.tree.read (checklistPath path.parent checklist)
          env.runtime).value with
      | error fault => exact .inl ⟨Nat.succ_ne_zero 0, rfl⟩
      | ok rules => exact .inr ⟨artifact, finding, rules, rfl, hfinding, rfl, rfl⟩

theorem leavesTree_runFix (env : Environment) (path : Path) (index : Nat)
    (checklist : Option Path) : LeavesTree env (runFix env path index checklist).value := by
  rcases runFix_cases env path index checklist with ⟨-, htree⟩ | ⟨_, finding, rules, -, -, -, hrun⟩
  · exact leavesTree_of_tree_eq htree
  · rw [hrun]
    rcases fixFinding_cases env finding rules with ⟨-, htree⟩ | ⟨_, _, _, -, -, -, hprint⟩
    · exact leavesTree_of_tree_eq htree
    · rw [hprint]
      exact leavesTree_print env rfl _

/-- A command that does not finish changes nothing, unless a line is refused. -/
theorem leavesTree_run (env : Environment) (words : List String) :
    LeavesTree env (run env words).value := by
  unfold run
  split
  · exact leavesTree_of_tree_eq rfl
  · next invocation hread =>
    cases invocation.request with
    | review target checklist keepsArtifact isVerbose =>
      exact leavesTree_runReview (env.atLevel invocation.isDebug) _ _ _ _
    | rules root checklist artifact =>
      exact leavesTree_runRules (env.atLevel invocation.isDebug) _ _ _
    | fix artifact index checklist =>
      exact leavesTree_runFix (env.atLevel invocation.isDebug) _ _ _
    | help usage => exact leavesTree_of_tree_eq (tree_finish _ _ _)

-- ════════════════════════════════════════════════════════════════════════
-- The frame of the fix command
-- ════════════════════════════════════════════════════════════════════════

/-- A fix that has finished, or has changed anything, has mended the finding in the file that it is
in, and has left all other files. -/
theorem fixFinding_frame {env : Environment} {finding : Finding} {rules : List Rule}
    (h : (fixFinding env finding rules).value.ending.status = 0 ∨
      (fixFinding env finding rules).value.tree ≠ env.tree) :
    ∃ place old result P L S, env.tree.locate finding.file = .ok place ∧ place.node = .file old ∧
      Fix.fixText finding (Fix.findRule? rules finding.ruleId) (decodeKeeping old) = .ok result ∧
      (splitLines old)[finding.line - 1]? = some L ∧
      P = join ((lines old).take (finding.line - 1)) ∧ old = P ++ L ++ S ∧
      (fixFinding env finding rules).value.tree.read finding.file =
        .ok (P ++ encodeLetters result.edit.replacement ++ S) ∧
      ∀ names, names ≠ place.names →
        ((fixFinding env finding rules).value.tree.nodeAt? names).map FileTree.Node.outline =
          (env.tree.nodeAt? names).map FileTree.Node.outline := by
  rcases fixFinding_cases env finding rules with ⟨hstatus, htree⟩ |
    ⟨old, result, written, hread, hfix, hwrite, hprint⟩
  · exact (h.elim hstatus fun hchanged => hchanged htree).elim
  · obtain ⟨place, hlocate, hnode⟩ := FileTree.read_eq_ok_iff.1 hread
    obtain ⟨P, L, S, hline, hP, hold, hnew⟩ := fixText_bytes hfix
    obtain ⟨tree, hwrite', hread', -, hframe⟩ :=
      FileTree.write_frame hlocate hnode (encodeLetters result.text)
    obtain rfl : tree = written := Except.ok.inj (hwrite'.symm.trans hwrite)
    have htree : (fixFinding env finding rules).value.tree = tree := by
      rw [hprint, (Outcome.print_cases _ _ _).1]
    rw [hnew] at hread'
    rw [htree]
    exact ⟨place, old, result, P, L, S, hlocate, hnode, hfix, hline, hP, hold, hread', hframe⟩

/-- The template of a rule has bytes: every half of a character in it stands for a byte. -/
def HasBytes (r : Option Rule) : Prop :=
  ∀ rule template code, r = some rule → rule.template = some template →
    Letter.half code ∉ Fix.letters template

/-- A finding that can be mended in a file that can be read and written is mended. -/
theorem fixFinding_finishes {env : Environment} {finding : Finding} {rules : List Rule}
    {old : List UInt8} (hread : Source.readerOf env.tree env.access finding.file = .ok old)
    (hwrite : env.access.writing finding.file = none) (houtput : env.output.Accepts)
    (hbytes : HasBytes (Fix.findRule? rules finding.ruleId))
    (hmend : Fix.Mendable finding (Fix.findRule? rules finding.ruleId) (decodeKeeping old)) :
    (fixFinding env finding rules).value.ending.status = 0 := by
  obtain ⟨result, hfix⟩ := Fix.exists_fixText_eq_ok_iff.2 hmend
  obtain ⟨rule, template, -, hrule, -, htemplate, -⟩ := Fix.fixText_eq_ok_iff.1 hfix
  obtain ⟨place, hlocate, hnode⟩ := FileTree.read_eq_ok_iff.1 (read_of_readerOf hread)
  obtain ⟨tree, htree, -⟩ := FileTree.write_frame hlocate hnode (encodeLetters result.text)
  have hsource : writeSource env finding.file (encodeLetters result.text) = .ok tree := by
    simp only [writeSource, hwrite, htree]
  have hhalf : unencodable? result.text = none := by
    refine unencodable?_eq_none fun code hcode => ?_
    rw [hrule] at hfix
    rcases Fix.mem_of_mem_fixText htemplate hfix hcode with hold | hnew
    · exact half_not_mem_decodeKeeping hold
    · exact hbytes rule template code hrule htemplate hnew
  have hfix := Fix.applyFix_value_eq_ok_iff.2 hfix
  simp only [fixFinding, Logged.value_bind, value_readBytes, hread, Except.toOption, hfix, hhalf,
    hsource, Logged.value_pure]
  rcases (Outcome.print_cases { ending := .finished, tree } env.output
    (fixLines finding result.edit)).2 with hending | hrefused
  · rw [hending]
    rfl
  · exact absurd hrefused (houtput.not_refusedBy _)

/-- An artifact that was written is loaded. -/
theorem loadArtifact_of_read {env : Environment} {path : Path} {a : Artifact} (h : a.IsStable)
    (hread : env.tree.read path = .ok (encode a.toText.toList)) :
    env.loadArtifact path = .ok a := by
  simp only [loadArtifact, hread, Artifact.ofBytes_toText h]

/-- A checklist that was written is read as its text. -/
theorem load_of_read {read : Source.Reader} {path : Path} {text : List Char}
    (hread : read path = .ok (encode text)) (runtime : Runtime) :
    Checklist.load read path runtime = Checklist.ofText path (unifyBreaks text) runtime := by
  simp only [Checklist.load, hread, decodeStrict_encode]

namespace Sample

/-- A finding in the second line of a file. -/
def finding : Finding where
  ruleId := "x"
  description := ""
  severity := .warning
  isFixable := true
  file := ⟨.relative, ["a.ts"]⟩
  line := 2
  one_le_line := by decide
  snippet := "x"
  found := some (.text "x")
  language := none

/-- The artifact with that finding. -/
def artifact : Artifact where
  generatedAt := ⟨{ year := 2024, month := 2, day := 29 }, by decide⟩
  scope := .singleFile
  findings := [finding]

/-- The rule of the finding, which takes out what was found. -/
def rule : Rule where
  id := some (.text "x")
  title := none
  description := none
  severity := none
  languages := none
  isFixable := true
  template := some (.text "")
  check := .pattern "x"

/-- The checklist with that rule. -/
def checklistText : String :=
  "\x7b\"items\":[\x7b\"id\":\"x\",\"pattern\":\"x\",\"autoFixable\":true," ++
    "\"autoFix\":\x7b\"replaceTemplate\":\"\"\x7d\x7d]\x7d"

/-- Three lines of bytes, none of which is text: a byte that begins nothing, the two bytes of a
character with a letter between them, and the start of a surrogate. -/
def source : List UInt8 := [0xff, 13, 0xc3, 0x78, 0xa9, 13, 10, 0xed, 0xa0]

/-- The files of the sample. -/
def files (checklist artifact source : List UInt8) : List (String × FileTree.Node) :=
  [("checklist.json", .file checklist), ("review-artifact.json", .file artifact),
    ("a.ts", .file source)]

/-- A working directory with a checklist, an artifact and a source. -/
def treeOf (checklist artifact source : List UInt8) : FileTree where
  entries := [("work", .directory (files checklist artifact source))]
  home := ["work"]

/-- The environment of the sample. -/
def environment : Environment where
  tree := treeOf (encode checklistText.toList) (encode artifact.toText.toList) source
  runtime := .usual
  now := artifact.generatedAt

/-- The command line of the sample. -/
def words : List String := ["fix", "review-artifact.json", "0"]

/-- The path of the artifact. -/
def artifactPath : Path := ⟨.root, ["work", "review-artifact.json"]⟩

section Locating

variable {checklist artifact source bytes : List UInt8} {name : String}

theorem locate_eq (hname : name ≠ "..") (hsize : name.utf8ByteSize ≤ FileTree.nameLimit)
    (h : (files checklist artifact source).lookup name = some (.file bytes)) :
    ∃ place, place.node = .file bytes ∧
      (treeOf checklist artifact source).locate ⟨.root, ["work", name]⟩ = .ok place ∧
      (treeOf checklist artifact source).locate ⟨.relative, [name]⟩ = .ok place := by
  have hwork : "work".utf8ByteSize ≤ FileTree.nameLimit := by decide
  refine ⟨⟨["work", name], .file bytes, FileTree.linkLimit⟩, rfl, ?_, ?_⟩
  all_goals
    simp [FileTree.locate, FileTree.startOf, Path.isAbsolute, treeOf, FileTree.follow,
      FileTree.nodeAt?, FileTree.nodeIn?, hname, h, Nat.not_lt.2 hsize, Nat.not_lt.2 hwork]

end Locating

theorem read_file (checklist artifact source : List UInt8) :
    (treeOf checklist artifact source).read artifactPath = .ok artifact ∧
      (treeOf checklist artifact source).read ⟨.root, ["work", "checklist.json"]⟩ = .ok checklist ∧
      (treeOf checklist artifact source).read ⟨.relative, ["a.ts"]⟩ = .ok source := by
  obtain ⟨_, hartifact, hlocate, -⟩ := @locate_eq checklist artifact source _
    "review-artifact.json" (by decide) (by decide) rfl
  obtain ⟨_, hchecklist, hlocate', -⟩ := @locate_eq checklist artifact source _
    "checklist.json" (by decide) (by decide) rfl
  obtain ⟨_, hsource, -, hlocate''⟩ := @locate_eq checklist artifact source _
    "a.ts" (by decide) (by decide) rfl
  simp only [FileTree.read_eq_ok_iff]
  exact ⟨⟨_, hlocate, hartifact⟩, ⟨_, hlocate', hchecklist⟩, ⟨_, hlocate'', hsource⟩⟩

theorem readPlace_artifact (checklist artifact source : List UInt8) :
    readPlace (treeOf checklist artifact source) .file "artifact" "review-artifact.json" =
      .ok artifactPath := by
  have hpath : Path.ofString "review-artifact.json" = ⟨.relative, ["review-artifact.json"]⟩ := by
    decide
  have hreal : (treeOf checklist artifact source).realPath ⟨.relative, ["review-artifact.json"]⟩ =
      artifactPath := by
    simp [FileTree.realPath, FileTree.realNames, FileTree.startOf, treeOf, files,
      Path.isAbsolute, FileTree.nodeAt?, FileTree.nodeIn?, FileTree.lookup_cons_eq, artifactPath]
  obtain ⟨place, hnode, hlocate, -⟩ := @locate_eq checklist artifact source _
    "review-artifact.json" (by decide) (by decide) rfl
  have hfile : pathDefect? (treeOf checklist artifact source) .file artifactPath
      "review-artifact.json" = none := by
    obtain ⟨names, node, budget⟩ := place
    obtain rfl : node = .file artifact := hnode
    simp [pathDefect?, FileTree.hasPath, FileTree.isDirectory, artifactPath, hlocate, Except.isOk,
      Except.toBool]
  simp only [readPlace, hpath, hreal, hfile]

theorem read_words (checklist artifact source : List UInt8) :
    Invocation.read (treeOf checklist artifact source) words =
      .ok ⟨false, .fix artifactPath 0 none⟩ := by
  have hcommon : Words.read commonChoices false words = .ok ⟨[], words⟩ := by
    simp [words, Words.read, isOption]
  have hwords : Words.read fixChoices true ["review-artifact.json", "0"] =
      .ok ⟨[], ["review-artifact.json", "0"]⟩ := by
    simp [Words.read, isOption]
  have hname : (Name.all.find? fun name => name.word = "fix") = some .fix := by decide
  have hcommand : readCommand (treeOf checklist artifact source) words =
      .ok (.fix artifactPath 0 none) := by
    simp only [words, readCommand, hname, Name.choices, hwords]
    simp only [bind, Except.bind, Name.request, readFix, readPlace_artifact, List.not_mem_nil,
      if_false]
    rfl
  rw [Invocation.read, hcommon]
  simp [bind, Except.bind, hcommand]

theorem loadArtifact_eq : environment.loadArtifact artifactPath = .ok artifact := by
  have hstable : artifact.IsStable := by
    refine ⟨by simp [artifact, Timestamp.HasWholeMinutes], fun f hf => ?_⟩
    rw [List.mem_singleton.1 hf]
    exact ⟨by decide, Validation.lt_limit (by decide), by decide⟩
  exact loadArtifact_of_read hstable (read_file _ _ _).1

theorem load_eq :
    (Checklist.load environment.tree.read (checklistPath artifactPath.parent none)
      .usual).value = .ok [rule] := by
  have hread : environment.tree.read (checklistPath artifactPath.parent none) =
      .ok (encode checklistText.toList) := (read_file _ _ _).2.1
  have htext : (Checklist.ofText (checklistPath artifactPath.parent none)
      (unifyBreaks checklistText.toList) .usual).value.toOption = some [rule] := by
    decide +kernel
  rw [← load_of_read hread] at htext
  generalize (Checklist.load environment.tree.read (checklistPath artifactPath.parent none)
    .usual).value = loaded at htext
  cases loaded with
  | error fault => exact nomatch htext
  | ok rules => exact congrArg Except.ok (Option.some.inj htext)

theorem splitLines_source : splitLines (decodeKeeping source) =
    [[.byte 0xff], [.byte 0xc3, .char 'x', .byte 0xa9], [.byte 0xed, .byte 0xa0]] := by
  decide +kernel

theorem mendable :
    Fix.Mendable finding (Fix.findRule? [rule] finding.ruleId) (decodeKeeping source) := by
  refine ⟨rule, by decide, by decide, ?_, [.byte 0xc3, .char 'x', .byte 0xa9], ?_, ?_⟩
  · rw [splitLines_source]
    decide
  · rw [splitLines_source]
    decide
  · decide

theorem hasBytes : HasBytes (Fix.findRule? [rule] finding.ruleId) := by
  intro found template code hfound htemplate
  obtain rfl : rule = found := Option.some.inj hfound
  obtain rfl : .text "" = template := Option.some.inj htemplate
  exact List.not_mem_nil

theorem replacement_eq {result : Fix.Result Letter}
    (h : Fix.fixText finding (Fix.findRule? [rule] finding.ruleId) (decodeKeeping source) =
      .ok result) : result.edit.replacement = [.byte 0xc3, .byte 0xa9] := by
  have hrule : Fix.findRule? [rule] finding.ruleId = some rule := by decide
  obtain ⟨_, template, line, hfound, -, htemplate, hline, -, rfl⟩ := Fix.fixText_eq_ok_iff.1 h
  obtain rfl := Option.some.inj (hrule.symm.trans hfound)
  obtain rfl : .text "" = template := Option.some.inj htemplate
  have hcontent : (splitLines (decodeKeeping source))[1]? = some line.content := by
    simp only [splitLines, List.getElem?_map]
    exact congrArg (Option.map Line.content) hline
  rw [splitLines_source] at hcontent
  rw [← Option.some.inj hcontent]
  decide +kernel

end Sample

end ChecklistReview.Command
