import ChecklistReview.Log
import ChecklistReview.Proofs.Regex.Reading
import Mathlib

/-!
# Limits of expressions

An expression that is malformed is refused with a complaint. There are limits besides: a number of
repetitions may be too large to be counted, or have too many digits to be read, two alphabets may be
chosen for the whole expression, and its parts may be nested deeper than the stack has room for.
Wherever reading ends at a limit, the text has a number in braces, settings in parentheses, or so
many parentheses that they are to blame. Each nested call that reads a group has taken its opening
parenthesis, so that their number bounds the calls.

## Main statements

* `counts` and `settingLetters`: the numbers in braces of a text, and the letters of its settings.
* `Overruns`: what exceeds a limit has in it; `withinLimits` computes that it has not.
* `Sound`: what is known of every state in which a text is read.
* `founded_of_compile_eq_error`: a failure at a limit has its reason in the text.
-/

set_option mvcgen.warning false

namespace ChecklistReview.Regex

open Std.Do

-- ════════════════════════════════════════════════════════════════════════
-- Numbers and settings in a text
-- ════════════════════════════════════════════════════════════════════════

/-- The numbers in the braces at the beginning of a text. -/
def countsAt : List Char → List (List Char)
  | '{' :: text =>
    let low := text.takeWhile Char.isDigit
    match text.dropWhile Char.isDigit with
    | '}' :: _ => [low]
    | ',' :: text =>
      if (text.dropWhile Char.isDigit).head? = some '}' then
        [low, text.takeWhile Char.isDigit]
      else []
    | _ => []
  | _ => []

/-- The numbers in braces of a text. -/
def counts (text : List Char) : List (List Char) := text.tails.flatMap countsAt

/-- Whether a letter stands for a setting. -/
def isSetting (c : Char) : Bool := (Options.ofLetter? c).isSome

/-- The letters of the settings in the parentheses at the beginning of a text. -/
def lettersAt : List Char → List Char
  | '(' :: '?' :: text =>
    if (text.dropWhile isSetting).head? = some ')' then text.takeWhile isSetting else []
  | _ => []

/-- The letters of all settings for the whole expression. -/
def settingLetters (text : List Char) : List Char := text.tails.flatMap lettersAt

variable {text low high letters rest : List Char}

theorem mem_counts_of_suffix {digits : List Char} (h : rest <:+ text)
    (hd : digits ∈ countsAt rest) : digits ∈ counts text :=
  List.mem_flatMap.mpr ⟨rest, (List.mem_tails rest text).mpr h, hd⟩

theorem takeWhile_append_stop {p : Char → Bool} {c : Char} (hlow : ∀ d ∈ low, p d = true)
    (hc : p c = false) : (low ++ c :: rest).takeWhile p = low := by
  rw [List.takeWhile_append_of_pos hlow, List.takeWhile_cons_of_neg (by simp [hc]),
    List.append_nil]

theorem dropWhile_append_stop {p : Char → Bool} {c : Char} (hlow : ∀ d ∈ low, p d = true)
    (hc : p c = false) : (low ++ c :: rest).dropWhile p = c :: rest := by
  rw [List.dropWhile_append_of_pos hlow, List.dropWhile_cons_of_neg (by simp [hc])]

/-- A number that stands alone in braces. -/
theorem mem_counts_of_one (hlow : ∀ d ∈ low, d.isDigit = true)
    (h : '{' :: (low ++ '}' :: rest) <:+ text) : low ∈ counts text := by
  have hbrace : Char.isDigit '}' = false := by decide
  refine mem_counts_of_suffix h ?_
  simp [countsAt, takeWhile_append_stop hlow hbrace, dropWhile_append_stop hlow hbrace]

/-- Two numbers in braces. -/
theorem mem_counts_of_two (hlow : ∀ d ∈ low, d.isDigit = true)
    (hhigh : ∀ d ∈ high, d.isDigit = true)
    (h : '{' :: (low ++ ',' :: (high ++ '}' :: rest)) <:+ text) :
    low ∈ counts text ∧ high ∈ counts text := by
  have hcomma : Char.isDigit ',' = false := by decide
  have hbrace : Char.isDigit '}' = false := by decide
  have hat : countsAt ('{' :: (low ++ ',' :: (high ++ '}' :: rest))) = [low, high] := by
    simp [countsAt, takeWhile_append_stop hlow hcomma, dropWhile_append_stop hlow hcomma,
      takeWhile_append_stop hhigh hbrace, dropWhile_append_stop hhigh hbrace]
  exact ⟨mem_counts_of_suffix h (by simp [hat]), mem_counts_of_suffix h (by simp [hat])⟩

theorem mem_settingLetters {c : Char} (hletters : ∀ d ∈ letters, isSetting d = true)
    (h : '(' :: '?' :: (letters ++ ')' :: rest) <:+ text) (hc : c ∈ letters) :
    c ∈ settingLetters text := by
  have hclose : isSetting ')' = false := by decide
  refine List.mem_flatMap.mpr ⟨_, (List.mem_tails _ text).mpr h, ?_⟩
  rw [lettersAt, dropWhile_append_stop hletters hclose, takeWhile_append_stop hletters hclose]
  exact hc

-- ════════════════════════════════════════════════════════════════════════
-- Reasons
-- ════════════════════════════════════════════════════════════════════════

/-- What limits are held against. -/
structure Extent where
  /-- The text of an expression. -/
  text : List Char
  /-- How many nested calls the stack has room for, if it is bounded. -/
  room : Option Nat
  /-- How deep the expression is nested. -/
  depth : Nat

/-- The extent of an expression. One that cannot be read has no depth. -/
def extentOf (text : List Char) (halves : List (Nat × Nat) := []) (setup : Setup := {}) :
    Extent where
  text
  room := setup.room
  depth := match parse text halves setup with
    | .ok e => depthOf e.nodes
    | .error _ => 0

/-- What an expression has in it if it exceeds a limit. -/
def Overruns (x : Extent) : Log.Failure → Prop
  | .tooLarge => ∃ digits ∈ counts x.text,
      digits.length ≤ Text.numeralLimit ∧ repeatLimit ≤ valueOf 10 digits
  | .longNumber n => Text.numeralLimit < n ∧ ∃ digits ∈ counts x.text, digits.length = n
  | .contradiction => 'a' ∈ settingLetters x.text ∧ 'u' ∈ settingLetters x.text
  | .tooDeep => ∃ room, x.room = some room ∧ (room < 2 * x.text.count '(' + 2 ∨ room ≤ x.depth)

/-- Whether an expression stays within the limits. -/
def withinLimits (x : Extent) : Bool :=
  (counts x.text).all (fun digits =>
    digits.length ≤ Text.numeralLimit && valueOf 10 digits < repeatLimit) &&
  !('a' ∈ settingLetters x.text && 'u' ∈ settingLetters x.text) &&
  x.room.all fun room => 2 * x.text.count '(' + 2 ≤ room && x.depth < room

variable {x : Extent}

theorem Overruns.withinLimits_eq_false {failure : Log.Failure} (h : Overruns x failure) :
    withinLimits x = false := by
  rw [withinLimits, Bool.and_eq_false_iff, Bool.and_eq_false_iff, List.all_eq_false]
  cases failure with
  | tooLarge =>
    obtain ⟨digits, hdigits, -, hlarge⟩ := h
    exact .inl (.inl ⟨digits, hdigits, by simp [Nat.not_lt.mpr hlarge]⟩)
  | longNumber n =>
    obtain ⟨hlong, digits, hdigits, rfl⟩ := h
    exact .inl (.inl ⟨digits, hdigits, by simp [Nat.not_le.mpr hlong]⟩)
  | contradiction =>
    left
    right
    simp [h.1, h.2]
  | tooDeep =>
    right
    obtain ⟨room, hroom, hdeep⟩ := h
    rw [hroom, Option.all_some, Bool.and_eq_false_iff, decide_eq_false_iff_not,
      decide_eq_false_iff_not]
    omega

/-- The failure that a fault is, unless the text is malformed. -/
def Fault.failure? : Fault → Option Log.Failure
  | .malformed _ _ => none
  | .repeatTooLarge => some .tooLarge
  | .longNumber digits => some (.longNumber digits)
  | .alphabetClash => some .contradiction
  | .tooDeep => some .tooDeep

/-- A fault that is a failure has its reason in the expression. -/
def Founded (x : Extent) (fault : Fault) : Prop :=
  match fault.failure? with
  | none => True
  | some failure => Overruns x failure

/-- An alphabet is chosen only if its letter is there. -/
structure Options.ChosenBy (options : Options) (letters : List Char) : Prop where
  ascii : options.ascii = true → 'a' ∈ letters
  unicode : options.unicode = true → 'u' ∈ letters

/-- What is left to read. -/
def Scan.left (s : Scan) : List Char := s.text.toList.drop s.index

/-- How far the reading of an expression has come. -/
structure Stage extends Extent where
  /-- So many parentheses have been opened. -/
  opened : Nat

/-- The stage after one more parenthesis. -/
abbrev Stage.inner (x : Stage) : Stage := { x with opened := x.opened + 1 }

/-- What is known of every state in which a text is read. -/
structure Sound (x : Stage) (s : Scan) : Prop where
  text_eq : s.text.toList = x.text
  chosen : s.options.ChosenBy (settingLetters x.text)
  opened_le : x.opened + s.left.count '(' ≤ x.text.count '('

/-- From one state to the next, some characters are read and nothing else changes that matters for
limits. -/
structure Scan.Moved (read : List Char) (s t : Scan) : Prop where
  text_eq : t.text = s.text
  options_eq : t.options = s.options
  left_eq : s.left = read ++ t.left

/-- These characters were read last. -/
def Scan.HasRead (s : Scan) (read : List Char) : Prop := read ++ s.left <:+ s.text.toList

variable {x : Stage} {s t : Scan} {read : List Char}

theorem Sound.of_eq (h : Sound x s) (htext : t.text = s.text)
    (hoptions : t.options = s.options) (hindex : t.index = s.index) : Sound x t := by
  constructor
  · rw [htext, h.text_eq]
  · rw [hoptions]
    exact h.chosen
  · rw [Scan.left, htext, hindex]
    exact h.opened_le

theorem Sound.moved (h : Sound x s) (hmoved : s.Moved read t) : Sound x t := by
  have hopened := h.opened_le
  rw [hmoved.left_eq, List.count_append] at hopened
  constructor
  · rw [hmoved.text_eq, h.text_eq]
  · rw [hmoved.options_eq]
    exact h.chosen
  · omega

/-- Reading a parenthesis opens one more. -/
theorem Sound.opens (h : Sound x s) (hmoved : s.Moved ['('] t) : Sound x.inner t := by
  have hopened := h.opened_le
  rw [hmoved.left_eq, List.count_append, List.count_singleton_self] at hopened
  refine ⟨(h.moved hmoved).text_eq, (h.moved hmoved).chosen, ?_⟩
  show x.opened + 1 + t.left.count '(' ≤ x.text.count '('
  omega

theorem Sound.weaken (h : Sound x.inner s) : Sound x s := by
  have hopened : x.opened + 1 + s.left.count '(' ≤ x.text.count '(' := h.opened_le
  exact ⟨h.text_eq, h.chosen, by omega⟩

/-- The state is sound as well at the place from which some characters were read. -/
theorem Sound.back (h : Sound x s) (hmoved : s.Moved read t) :
    Sound x { t with index := s.index } :=
  h.of_eq hmoved.text_eq hmoved.options_eq rfl

theorem Sound.goes (h : Sound x s) {index : Nat} (hle : s.index ≤ index) :
    Sound x { s with index } := by
  have hsuffix : s.text.toList.drop index <:+ s.left := by
    obtain ⟨more, rfl⟩ := Nat.exists_eq_add_of_le hle
    rw [Scan.left, ← List.drop_drop]
    exact List.drop_suffix _ _
  refine ⟨h.text_eq, h.chosen, Nat.le_trans ?_ h.opened_le⟩
  exact Nat.add_le_add_left (hsuffix.sublist.count_le '(') x.opened

theorem Scan.HasRead.moved {before : List Char} (h : s.HasRead before) (hmoved : s.Moved read t) :
    t.HasRead (before ++ read) := by
  rw [Scan.HasRead, List.append_assoc, ← hmoved.left_eq, hmoved.text_eq]
  exact h

theorem Scan.Moved.hasRead (h : s.Moved read t) : t.HasRead read := by
  have hstart : s.HasRead [] := List.drop_suffix _ _
  exact hstart.moved h

theorem Scan.Moved.refl (s : Scan) : s.Moved [] s := ⟨rfl, rfl, rfl⟩

theorem Scan.Moved.trans {u : Scan} {more : List Char} (h : s.Moved read t) (hu : t.Moved more u) :
    s.Moved (read ++ more) u :=
  ⟨hu.text_eq.trans h.text_eq, hu.options_eq.trans h.options_eq, by
    rw [h.left_eq, hu.left_eq, List.append_assoc]⟩

-- ════════════════════════════════════════════════════════════════════════
-- Readers that only complain
-- ════════════════════════════════════════════════════════════════════════

variable {α : Type}

/-- From a sound state a reader comes to a sound state, or fails for a reason. -/
abbrev Keeps (x : Stage) (reader : ParserM α) : Prop :=
  ⦃fun s => ⌜Sound x s⌝⦄ reader
    ⦃post⟨fun _ s => ⌜Sound x s⌝, fun fault => ⌜Founded x.toExtent fault⌝⟩⦄

/-- After a fault nothing is read. -/
theorem throw_spec {Q : PostCond α (.arg Scan (.except Fault .pure))} (fault : Fault) :
    ⦃fun _ => Q.2.1 fault⦄ (throw fault : ParserM α) ⦃Q⦄ := by
  intro s h
  exact h

@[spec]
theorem failAt_spec {Q : PostCond α (.arg Scan (.except Fault .pure))} (complaint : Complaint)
    (back : Nat) :
    ⦃fun s => Q.2.1 (.malformed complaint (some (s.index - back)))⦄
      (failAt complaint back : ParserM α) ⦃Q⦄ := by
  intro s h
  exact h

-- ════════════════════════════════════════════════════════════════════════
-- Places
-- ════════════════════════════════════════════════════════════════════════

theorem Scan.moved_of_tokenAt? {c : Char} (h : s.tokenAt? s.index = some (.plain c)) :
    s.Moved [c] { s with index := s.index + 1 } := by
  refine ⟨rfl, rfl, ?_⟩
  rw [tokenAt?_eq rfl] at h
  cases hleft : s.text.toList.drop s.index with
  | nil =>
    rw [hleft] at h
    cases h
  | cons d left =>
    rw [hleft, firstToken?] at h
    split at h
    · cases hhead : left.head? <;> simp [hhead] at h
    · obtain rfl := Token.plain.inj (Option.some.inj h)
      simp [Scan.left, hleft, ← List.tail_drop]

theorem next_moved (s₀ : Scan) :
    ⦃fun s => ⌜s = s₀ ∧ Sound x s⌝⦄ next
      ⦃post⟨fun token s => ⌜Sound x s ∧ token = s₀.tokenAt? s₀.index ∧
        ∀ c, token = some (.plain c) → s₀.Moved [c] s⌝,
        fun fault => ⌜Founded x.toExtent fault⌝⟩⦄ := by
  mvcgen [next, peek, goTo, throw_spec, -Spec.throw_MonadExcept]
  · next h _ token htoken _ _ =>
    obtain ⟨rfl, hsound⟩ := h
    refine ⟨hsound.goes (Nat.le_add_right _ _), rfl, fun c hc => ?_⟩
    obtain rfl : token = .plain c := Option.some.inj (htoken.symm.trans hc)
    exact Scan.moved_of_tokenAt? hc
  · next h _ _ hnone heq =>
    obtain ⟨rfl, hsound⟩ := h
    exact ⟨hsound, rfl, fun c hc => absurd (heq.symm.trans hc) (hnone _)⟩

theorem accept_moved (c : Char) (s₀ : Scan) :
    ⦃fun s => ⌜s = s₀ ∧ Sound x s⌝⦄ accept c
      ⦃post⟨fun isThere s => ⌜Sound x s ∧ if isThere then s₀.Moved [c] s else s = s₀⌝,
        fun fault => ⌜Founded x.toExtent fault⌝⟩⦄ := by
  mvcgen [accept, peek, next_moved]
  · next h _ => exact ⟨trivial, h.2⟩
  · next h htoken _ _ hread =>
    obtain ⟨rfl, -⟩ := h
    rw [if_pos trivial]
    exact ⟨hread.1, hread.2.2 c (hread.2.1.trans htoken)⟩
  · next h _ => exact ⟨h.2, h.1⟩

theorem takeAtMost_moved (isIn : Char → Bool) (n : Nat) (s₀ : Scan) :
    ⦃fun s => ⌜s = s₀ ∧ Sound x s⌝⦄ takeAtMost isIn n
      ⦃post⟨fun taken s => ⌜Sound x s ∧ s₀.Moved taken s ∧ ∀ c ∈ taken, isIn c = true⌝,
        fun fault => ⌜Founded x.toExtent fault⌝⟩⦄ := by
  induction n generalizing s₀ with
  | zero =>
    mvcgen [takeAtMost]
    next h => exact ⟨h.2, h.1 ▸ .refl _, by simp⟩
  | succ n ih =>
    mvcgen [takeAtMost, ih, peek, next_moved]
    · next h _ _ _ => exact ⟨trivial, h.2⟩
    · next hread => exact ⟨trivial, hread.1⟩
    · next h c htoken hc _ _ hread taken _ hrest =>
      obtain ⟨rfl, -⟩ := h
      have hmoved := (hread.2.2 c (hread.2.1.trans htoken)).trans hrest.2.1
      exact ⟨hrest.1, hmoved, List.forall_mem_cons.mpr ⟨hc, hrest.2.2⟩⟩
    · next h _ _ _ => exact ⟨h.2, h.1 ▸ .refl _, by simp⟩
    · next h _ _ _ => exact ⟨h.2, h.1 ▸ .refl _, by simp⟩

theorem goTo_founded (index : Nat) :
    ⦃fun s => ⌜Sound x { s with index }⌝⦄ goTo index
      ⦃post⟨fun _ s => ⌜Sound x s⌝, fun fault => ⌜Founded x.toExtent fault⌝⟩⦄ := by
  mvcgen [goTo, throw_spec, -Spec.throw_MonadExcept]

@[spec]
theorem keeps_peek : Keeps x peek := by
  mvcgen [peek]

@[spec]
theorem keeps_next : Keeps x next := by
  mvcgen [next, goTo_founded]
  next h => exact h.goes (Nat.le_add_right _ _)

@[spec]
theorem keeps_accept (c : Char) : Keeps x (accept c) := by
  mvcgen [accept]

@[spec]
theorem keeps_codeTaken (c : Char) : Keeps x (codeTaken c) := by
  mvcgen [codeTaken]

@[spec]
theorem keeps_takeAtMost (isIn : Char → Bool) (n : Nat) : Keeps x (takeAtMost isIn n) := by
  induction n with
  | zero => mvcgen [takeAtMost]
  | succ n ih => mvcgen [takeAtMost, ih]

@[spec]
theorem keeps_takeUntil_go (terminator : Char) (what : String) (fuel : Nat) (before : List Char) :
    Keeps x (takeUntil.go terminator what fuel before) := by
  induction fuel generalizing before with
  | zero => mvcgen [takeUntil.go]
  | succ fuel ih => mvcgen [takeUntil.go, ih]

@[spec]
theorem keeps_takeUntil (terminator : Char) (what : String) :
    Keeps x (takeUntil terminator what) := by
  mvcgen [takeUntil]

@[spec]
theorem keeps_numberEscape (letter : Char) (count : Nat) :
    Keeps x (numberEscape letter count) := by
  mvcgen [numberEscape]

@[spec]
theorem keeps_nameEscape : Keeps x nameEscape := by
  mvcgen [nameEscape]

@[spec]
theorem keeps_codeEscape? (c : Char) : Keeps x (codeEscape? c) := by
  mvcgen [codeEscape?]

@[spec]
theorem keeps_plainEscape (c : Char) : Keeps x (plainEscape c) := by
  mvcgen [plainEscape]

@[spec]
theorem keeps_setEscape (c : Char) : Keeps x (setEscape c) := by
  mvcgen [setEscape]

@[spec]
theorem keeps_isClosed (number : Nat) : Keeps x (isClosed number) := by
  mvcgen [isClosed]

@[spec]
theorem keeps_checkLookbehind (number : Nat) : Keeps x (checkLookbehind number) := by
  mvcgen [checkLookbehind]

@[spec]
theorem keeps_digitEscape (c : Char) : Keeps x (digitEscape c) := by
  mvcgen [digitEscape]

@[spec]
theorem keeps_escape (c : Char) : Keeps x (escape c) := by
  mvcgen [escape]

@[spec]
theorem keeps_setMember (token : Token) : Keeps x (setMember token) := by
  mvcgen [setMember]

@[spec]
theorem keeps_parseMembers (start fuel : Nat) (before : List Member) :
    Keeps x (parseMembers start fuel before) := by
  induction fuel generalizing before with
  | zero => mvcgen [parseMembers]
  | succ fuel ih => mvcgen [parseMembers, ih]

@[spec]
theorem keeps_parseSet : Keeps x parseSet := by
  mvcgen [parseSet]

@[spec]
theorem keeps_readGreed : Keeps x readGreed := by
  mvcgen [readGreed]

@[spec]
theorem keeps_parseRepeat (here least : Nat) (most : Option Nat) (before : List Node) :
    Keeps x (parseRepeat here least most before) := by
  mvcgen [parseRepeat]

@[spec]
theorem keeps_checkName (name : List Char) : Keeps x (checkName name) := by
  mvcgen [checkName]

@[spec]
theorem keeps_openGroup (name : Option (List Char)) : Keeps x (openGroup name) := by
  mvcgen [openGroup]
  · next h _ _ _ => exact h.of_eq rfl rfl rfl
  · next h _ _ _ _ _ => exact h.of_eq rfl rfl rfl

@[spec]
theorem keeps_closeGroup (number : Nat) (body : List Node) :
    Keeps x (closeGroup number body) := by
  mvcgen [closeGroup]
  next h _ => exact h.of_eq rfl rfl rfl

@[spec]
theorem keeps_parseNamedReference : Keeps x parseNamedReference := by
  mvcgen [parseNamedReference]

@[spec]
theorem keeps_parseCondition : Keeps x parseCondition := by
  mvcgen [parseCondition]
  next h _ _ => exact h.of_eq rfl rfl rfl

@[spec]
theorem keeps_skipComment (start fuel : Nat) : Keeps x (skipComment start fuel) := by
  induction fuel with
  | zero => mvcgen [skipComment]
  | succ fuel ih => mvcgen [skipComment, ih]

@[spec]
theorem keeps_skipLine (fuel : Nat) : Keeps x (skipLine fuel) := by
  induction fuel with
  | zero => mvcgen [skipLine]
  | succ fuel ih => mvcgen [skipLine, ih]

@[spec]
theorem keeps_closeParenthesis (start : Nat) : Keeps x (closeParenthesis start) := by
  mvcgen [closeParenthesis]

@[spec]
theorem keeps_parseOptionsOff (fuel : Nat) (c : Char) (before : Options) :
    Keeps x (parseOptionsOff fuel c before) := by
  induction fuel generalizing c before with
  | zero => mvcgen [parseOptionsOff]
  | succ fuel ih => mvcgen [parseOptionsOff, ih]

-- ════════════════════════════════════════════════════════════════════════
-- Numbers and settings
-- ════════════════════════════════════════════════════════════════════════

theorem readCount_founded (digits : List Char) :
    ⦃fun s => ⌜Sound x s ∧ digits ∈ counts x.text⌝⦄ readCount digits
      ⦃post⟨fun _ s => ⌜Sound x s⌝, fun fault => ⌜Founded x.toExtent fault⌝⟩⦄ := by
  mvcgen [readCount, throw_spec, -Spec.throw_MonadExcept]
  · next hlong _ h => exact ⟨hlong, digits, h.2, rfl⟩
  · next hshort _ _ hlarge _ h => exact ⟨digits, h.2, Nat.not_lt.mp hshort, hlarge⟩
  · next h => exact h.1

theorem Sound.mem_counts_of_one {u : Scan} (h : Sound x s) (hopen : s.HasRead ['{'])
    (hlow : ∀ d ∈ low, d.isDigit = true) (hread : s.Moved low t) (hclose : t.Moved ['}'] u) :
    low ∈ counts x.text := by
  have hsuffix : u.HasRead (['{'] ++ (low ++ ['}'])) := hopen.moved (hread.trans hclose)
  rw [Scan.HasRead, (h.moved (hread.trans hclose)).text_eq] at hsuffix
  exact Regex.mem_counts_of_one hlow (by simpa using hsuffix)

theorem Sound.mem_counts_of_two {u v w : Scan} (h : Sound x s) (hopen : s.HasRead ['{'])
    (hlow : ∀ d ∈ low, d.isDigit = true) (hhigh : ∀ d ∈ high, d.isDigit = true)
    (hread : s.Moved low t) (hcomma : t.Moved [','] u) (hmore : u.Moved high v)
    (hclose : v.Moved ['}'] w) : low ∈ counts x.text ∧ high ∈ counts x.text := by
  have hall := hread.trans (hcomma.trans (hmore.trans hclose))
  have hsuffix := hopen.moved hall
  rw [Scan.HasRead, (h.moved hall).text_eq] at hsuffix
  exact Regex.mem_counts_of_two hlow hhigh (by simpa using hsuffix)

theorem parseCounts_founded (c : Char) :
    ⦃fun s => ⌜Sound x s ∧ s.HasRead [c] ∧
      (c = '*' || c = '+' || c = '?' || c = '{') = true⌝⦄ parseCounts c
      ⦃post⟨fun _ s => ⌜Sound x s⌝, fun fault => ⌜Founded x.toExtent fault⌝⟩⦄ := by
  mvcgen [parseCounts, peek, takeAtMost_moved, accept_moved, goTo_founded, readCount_founded,
    -keeps_peek, -keeps_takeAtMost, -keeps_accept]
  all_goals grind [→ Sound.mem_counts_of_one, → Sound.mem_counts_of_two, → Scan.Moved.trans,
    → Sound.back]

theorem Options.ChosenBy.union {on one : Options} {more : List Char} (h : on.ChosenBy letters)
    (hone : one.ChosenBy more) : (on.union one).ChosenBy (letters ++ more) := by
  constructor
  · intro hchosen
    rcases Bool.or_eq_true_iff.mp hchosen with hon | hone'
    · exact List.mem_append_left more (h.ascii hon)
    · exact List.mem_append_right letters (hone.ascii hone')
  · intro hchosen
    rcases Bool.or_eq_true_iff.mp hchosen with hon | hone'
    · exact List.mem_append_left more (h.unicode hon)
    · exact List.mem_append_right letters (hone.unicode hone')

theorem Options.ChosenBy.mono {options : Options} {more : List Char} (h : options.ChosenBy letters)
    (hsubset : letters ⊆ more) : options.ChosenBy more :=
  ⟨fun hascii => hsubset (h.ascii hascii), fun hunicode => hsubset (h.unicode hunicode)⟩

theorem Options.chosenBy_letter (c : Char) : ((ofLetter? c).getD {}).ChosenBy [c] := by
  unfold ofLetter?
  split <;> constructor <;> simp

theorem parseOptionsOn_moved (fuel : Nat) (c : Char) (before : Options) (s₀ : Scan) :
    ⦃fun s => ⌜s = s₀ ∧ Sound x s⌝⦄ parseOptionsOn fuel c before
      ⦃post⟨fun (on, terminator) s => ⌜Sound x s ∧ ∃ more, s₀.Moved (more ++ [terminator]) s ∧
          (∀ d ∈ more, isSetting d = true) ∧
          ∀ letters, before.ChosenBy letters → on.ChosenBy (letters ++ c :: more)⌝,
        fun fault => ⌜Founded x.toExtent fault⌝⟩⦄ := by
  induction fuel generalizing c before s₀ with
  | zero =>
    mvcgen [parseOptionsOn]
  | succ fuel ih =>
    mvcgen [parseOptionsOn, ih, next_moved, -keeps_next]
    · next h => exact ⟨trivial, h.2⟩
    · next h _ _ _ d _ _ s hread =>
      obtain ⟨rfl, -⟩ := h
      refine ⟨hread.1, [], hread.2.2 d rfl, by simp, fun letters hletters => ?_⟩
      exact hletters.union (Options.chosenBy_letter c)
    · next hread => exact ⟨trivial, hread.1⟩
    · next h _ _ _ d _ _ hd s hread result s' =>
      obtain ⟨rfl, -⟩ := h
      rintro hsound ⟨more, hmore, hall, hchosen⟩
      refine ⟨hsound, d :: more, (hread.2.2 d rfl).trans hmore, ?_, fun letters hletters => ?_⟩
      · exact List.forall_mem_cons.mpr ⟨hd, hall⟩
      · have hon := hchosen _ (hletters.union (Options.chosenBy_letter c))
        rwa [List.append_assoc] at hon

/-- Settings for the whole expression are those of the letters. -/
theorem Sound.union (h : Sound x s) (hread : s.HasRead ('(' :: '?' :: (letters ++ [')'])))
    (hletters : ∀ d ∈ letters, isSetting d = true) {on : Options} (hon : on.ChosenBy letters) :
    Sound x { s with options := s.options.union on } := by
  rw [Scan.HasRead, h.text_eq] at hread
  have hsuffix : '(' :: '?' :: (letters ++ ')' :: s.left) <:+ x.text := by simpa using hread
  have hsubset : letters ⊆ settingLetters x.text :=
    fun _ hletter => mem_settingLetters hletters hsuffix hletter
  exact ⟨h.text_eq, (h.chosen.union hon).mono (List.append_subset.mpr ⟨fun _ h => h, hsubset⟩),
    h.opened_le⟩

theorem Sound.options {more : List Char} {c : Char} {on : Options} (h : Sound x t)
    (hopen : s.HasRead ['(', '?', c]) (hc : isSetting c = true) (hread : s.Moved (more ++ [')']) t)
    (hmore : ∀ d ∈ more, isSetting d = true)
    (hon : ∀ letters, ({} : Options).ChosenBy letters → on.ChosenBy (letters ++ c :: more)) :
    Sound x { t with options := t.options.union on } := by
  have hall : t.HasRead ('(' :: '?' :: (c :: more ++ [')'])) := by simpa using hopen.moved hread
  exact h.union hall (List.forall_mem_cons.mpr ⟨hc, hmore⟩) (hon [] ⟨nofun, nofun⟩)

theorem parseOptions_founded (first : Char) :
    ⦃fun s => ⌜Sound x s ∧ s.HasRead ['(', '?', first] ∧
      (isSetting first || first = '-') = true⌝⦄ parseOptions first
      ⦃post⟨fun _ s => ⌜Sound x s⌝, fun fault => ⌜Founded x.toExtent fault⌝⟩⦄ := by
  mvcgen [parseOptions, parseOptionsOn_moved]
  all_goals grind [Sound.options]

theorem parseOpening_founded (start : Nat) :
    ⦃fun s => ⌜Sound x s ∧ s.HasRead ['(']⌝⦄ parseOpening start
      ⦃post⟨fun _ s => ⌜Sound x s⌝, fun fault => ⌜Founded x.toExtent fault⌝⟩⦄ := by
  mvcgen [parseOpening, accept_moved, next_moved, parseOptions_founded, -keeps_accept, -keeps_next]
  all_goals grind [isSetting, → Scan.HasRead.moved]

-- ════════════════════════════════════════════════════════════════════════
-- Whole expressions
-- ════════════════════════════════════════════════════════════════════════

/-- The room of a nested call is at least that of the whole, less what has been used. -/
def Covers (whole room : Option Nat) (used : Nat) : Prop :=
  ∀ r, room = some r → ∃ total, whole = some total ∧ total ≤ r + used

theorem Covers.mono {whole room : Option Nat} {used more : Nat} (h : Covers whole room used)
    (hle : used ≤ more) : Covers whole room more := by
  intro r hr
  obtain ⟨total, hwhole, htotal⟩ := h r hr
  exact ⟨total, hwhole, by omega⟩

/-- A nested call fails only if the parentheses have used up the room. -/
theorem enter_founded {room : Option Nat} {used : Nat} (hcovers : Covers x.room room used)
    (hused : used ≤ 2 * x.opened + 1) :
    ⦃fun s => ⌜Sound x s⌝⦄ enter room
      ⦃post⟨fun inner s => ⌜Sound x s ∧ Covers x.room inner (used + 1)⌝,
        fun fault => ⌜Founded x.toExtent fault⌝⟩⦄ := by
  intro s hs
  cases room with
  | none => exact ⟨hs, nofun⟩
  | some room =>
    cases room with
    | zero =>
      obtain ⟨total, hwhole, htotal⟩ := hcovers 0 rfl
      have hopened := Sound.opened_le hs
      exact ⟨total, hwhole, .inl (by omega)⟩
    | succ room =>
      refine ⟨hs, ?_⟩
      rintro r ⟨⟩
      obtain ⟨total, hwhole, htotal⟩ := hcovers (room + 1) rfl
      exact ⟨total, hwhole, by omega⟩

/-- Readers of sequences that keep states sound, with the room that each of them has. -/
structure KeepsSequences (fuel : Nat) : Prop where
  alternatives : ∀ (x : Stage) room verbose isTop, Covers x.room room (2 * x.opened) →
    Keeps x (parseAlternatives fuel room verbose isTop)
  items : ∀ (x : Stage) room verbose isTop before, Covers x.room room (2 * x.opened + 1) →
    Keeps x (parseItems fuel room verbose isTop before)
  sequence : ∀ (x : Stage) room verbose isStart before, Covers x.room room (2 * x.opened + 2) →
    Keeps x (parseSequence fuel room verbose isStart before)
  group : ∀ (x : Stage) room verbose start opening, Covers x.room room (2 * x.opened) →
    Keeps x (parseGroup fuel room verbose start opening)

theorem keepsSequences_zero : KeepsSequences 0 := by
  constructor <;> intros
  · mvcgen [parseAlternatives]
  · mvcgen [parseItems]
  · mvcgen [parseSequence]
  · mvcgen [parseGroup]

namespace KeepsSequences

variable {fuel : Nat} {room : Option Nat}

theorem alternatives_succ (ih : KeepsSequences fuel) (x : Stage) (verbose isTop : Bool)
    (hcovers : Covers x.room room (2 * x.opened)) :
    Keeps x (parseAlternatives (fuel + 1) room verbose isTop) := by
  have henter := enter_founded hcovers (Nat.le_succ _)
  have hitems := ih.items x
  mvcgen [parseAlternatives, henter, hitems]
  · next h => exact h.2
  · next h => exact h.1

theorem items_succ (ih : KeepsSequences fuel) (x : Stage) (verbose isTop : Bool)
    (before : List (List Node)) (hcovers : Covers x.room room (2 * x.opened + 1)) :
    Keeps x (parseItems (fuel + 1) room verbose isTop before) := by
  have henter := enter_founded hcovers (Nat.le_refl _)
  have hitems := fun verbose isTop before => ih.items x room verbose isTop before hcovers
  have hsequence := ih.sequence x
  mvcgen [parseItems, henter, hitems, hsequence]
  · next h => exact h.2
  · next h => exact h.1

theorem sequence_succ (ih : KeepsSequences fuel) (x : Stage) (verbose isStart : Bool)
    (before : List Node) (hcovers : Covers x.room room (2 * x.opened + 2)) :
    Keeps x (parseSequence (fuel + 1) room verbose isStart before) := by
  have hnext := fun s₀ => @next_moved x s₀
  have hopening := fun start => @parseOpening_founded x.inner start
  have hgroup := fun verbose start opening => ih.group x.inner room verbose start opening hcovers
  have hsequence := fun verbose isStart before => ih.sequence x room verbose isStart before hcovers
  have hopens := fun s t => @Sound.opens x s t
  have hweaken := fun s => @Sound.weaken x s
  -- Numbers and settings need to know which character was read just before them, which the laws
  -- of `peek` and `next` that only keep a state sound do not tell.
  mvcgen [parseSequence, peek, hnext, parseCounts_founded, hopening, hsequence, hgroup, -keeps_peek,
    -keeps_next]
  all_goals grind [→ Scan.Moved.hasRead]

theorem group_succ (ih : KeepsSequences fuel) (x : Stage) (verbose : Bool) (start : Nat)
    (opening : Opening) (hcovers : Covers x.room room (2 * x.opened)) :
    Keeps x (parseGroup (fuel + 1) room verbose start opening) := by
  have henter := enter_founded hcovers (Nat.le_succ _)
  have halternatives := fun verbose isTop => ih.alternatives x room verbose isTop hcovers
  have hsequence := ih.sequence x
  mvcgen [parseGroup, henter, halternatives, hsequence]
  · next h _ _ _ _ => exact h.of_eq rfl rfl rfl
  · next h _ => exact h.of_eq rfl rfl rfl
  · next h => exact h.2.mono (Nat.le_succ _)
  · next h => exact h.1
  · next h => exact h.2.mono (Nat.le_succ _)
  · next h => exact h.1

end KeepsSequences

/-- The four readers call each other with less fuel, so one induction follows them all. -/
theorem keepsSequences (fuel : Nat) : KeepsSequences fuel := by
  induction fuel with
  | zero => exact keepsSequences_zero
  | succ fuel ih =>
    exact ⟨fun x _ => ih.alternatives_succ x, fun x _ => ih.items_succ x,
      fun x _ => ih.sequence_succ x, fun x _ => ih.group_succ x⟩

/-- The stage at which nothing has been read. -/
abbrev Extent.start (x : Extent) : Stage := { x with opened := 0 }

theorem sound_of_index_zero {x : Extent} (htext : s.text.toList = x.text)
    (hchosen : s.options.ChosenBy (settingLetters x.text)) :
    Sound x.start { s with index := 0 } := by
  refine ⟨htext, hchosen, ?_⟩
  show 0 + (s.text.toList.drop 0).count '(' ≤ x.text.count '('
  rw [List.drop_zero, htext, Nat.zero_add]

theorem keeps_parseWhole (x : Extent) : Keeps x.start (parseWhole x.room) := by
  have hcovers : Covers x.room x.room 0 := fun total htotal => ⟨total, htotal, Nat.le_refl _⟩
  have halternatives := fun fuel verbose isTop =>
    (keepsSequences fuel).alternatives x.start x.room verbose isTop hcovers
  mvcgen [parseWhole, goTo_founded, halternatives, throw_spec, -Spec.throw_MonadExcept] invariants
  · post⟨fun _ s => ⌜Sound x.start s⌝, fun fault => ⌜Founded x fault⌝⟩
  next h => exact sound_of_index_zero h.text_eq h.chosen
  -- Two alphabets are refused only at the end, when each was chosen by a letter of the text.
  next h _ hboth =>
    rw [Bool.and_eq_true] at hboth
    exact ⟨h.chosen.ascii hboth.1, h.chosen.unicode hboth.2⟩

theorem sound_start (x : Extent) (halves : List (Nat × Nat)) (named : Text.NameTable) :
    Sound x.start (Scan.start x.text halves named) :=
  @sound_of_index_zero (Scan.start x.text halves named) x rfl ⟨nofun, nofun⟩

theorem Keeps.founded {reader : ParserM α} {fault : Fault} (h : Keeps x reader)
    (hs : Sound x s) (hrun : reader.run s = .error fault) : Founded x.toExtent fault := by
  have hwp : (wp⟦reader.run s⟧ (post⟨fun result => ⌜Sound x result.2⌝,
      fun fault => ⌜Founded x.toExtent fault⌝⟩)).down := h s hs
  rw [hrun] at hwp
  exact hwp

section

variable {halves : List (Nat × Nat)} {setup : Setup} {fault : Fault}

theorem founded_of_parse_eq_error (h : parse text halves setup = .error fault) :
    Founded (extentOf text halves setup) fault := by
  refine (keeps_parseWhole (extentOf text halves setup)).founded
    (sound_start _ halves setup.named) ?_
  rw [parse] at h
  cases hrun : (parseWhole setup.room).run (Scan.start text halves setup.named) with
  | ok result =>
    rw [hrun] at h
    cases h
  | error found =>
    rw [hrun] at h
    exact hrun.trans (congrArg Except.error (Except.error.inj h))

end

/-- A computation that fails does so because a text is malformed. -/
def OnlyComplains {ε : Type} (result : Except Fault ε) : Prop :=
  ∀ fault, result = .error fault → fault.failure? = none

section Steps

variable {β γ : Type}

theorem onlyComplains_ok (b : β) : OnlyComplains (.ok b : Except Fault β) := by
  intro fault h
  cases h

theorem OnlyComplains.bind {x : Except Fault β} {f : β → Except Fault γ} (hx : OnlyComplains x)
    (hf : ∀ b, OnlyComplains (f b)) : OnlyComplains (x >>= f) := by
  intro fault h
  cases x with
  | ok b => exact hf b fault h
  | error found =>
    obtain rfl : found = fault := Except.error.inj h
    exact hx found rfl

mutual

theorem Node.onlyComplains_lower (widths : Nat → Width) (options : Options) :
    (n : Node) → OnlyComplains (n.lower widths options)
  | .code _ | .notCode _ | .any | .set _ _ | .anchor _ | .reference _ | .fail => by
    rw [Node.lower]
    exact onlyComplains_ok _
  | .repeated _ _ _ body => by
    rw [Node.lower]
    split
    · rintro fault ⟨⟩
      rfl
    · exact (onlyComplains_lower widths options body).bind fun _ => onlyComplains_ok _
  | .group number on off body => by
    rw [Node.lower]
    refine (onlyComplains_lower widths (options.within on off) body).bind fun _ => ?_
    cases number <;> exact onlyComplains_ok _
  | .atomic body => by
    rw [Node.lower]
    exact (onlyComplains_lower widths options body).bind fun _ => onlyComplains_ok _
  | .look isBehind isNegated body => by
    rw [Node.lower]
    dsimp only
    split
    · rintro fault ⟨⟩
      rfl
    · split
      · rintro fault ⟨⟩
        rfl
      · exact (onlyComplains_lower widths options body).bind fun _ => onlyComplains_ok _
  | .conditional _ yes none => by
    rw [Node.lower]
    exact (onlyComplains_lower widths options yes).bind fun _ => onlyComplains_ok _
  | .conditional _ yes (some no) => by
    rw [Node.lower]
    exact (onlyComplains_lower widths options yes).bind fun _ =>
      (onlyComplains_lower widths options no).bind fun _ => onlyComplains_ok _
  | .branch alternatives => by
    rw [Node.lower]
    exact (onlyComplains_lowerBranches widths options alternatives).bind fun _ =>
      onlyComplains_ok _

theorem onlyComplains_lower (widths : Nat → Width) (options : Options) :
    (nodes : List Node) → OnlyComplains (lower widths options nodes)
  | [] => by
    rw [lower]
    exact onlyComplains_ok _
  | n :: nodes => by
    rw [lower]
    exact (n.onlyComplains_lower widths options).bind fun _ =>
      (onlyComplains_lower widths options nodes).bind fun _ => onlyComplains_ok _

theorem onlyComplains_lowerBranches (widths : Nat → Width) (options : Options) :
    (bodies : List (List Node)) → OnlyComplains (lowerBranches widths options bodies)
  | [] => by
    rw [lowerBranches]
    exact onlyComplains_ok _
  | body :: bodies => by
    rw [lowerBranches]
    exact (onlyComplains_lower widths options body).bind fun _ =>
      (onlyComplains_lowerBranches widths options bodies).bind fun _ => onlyComplains_ok _

end

end Steps

/-- A failure at a limit has its reason in the expression. -/
theorem founded_of_compile_eq_error {halves : List (Nat × Nat)} {setup : Setup} {fault : Fault}
    (h : compile text halves setup = .error fault) :
    Founded (extentOf text halves setup) fault := by
  rw [compile] at h
  cases hparse : parse text halves setup with
  | error found =>
    rw [hparse] at h
    obtain rfl : found = fault := Except.error.inj h
    exact founded_of_parse_eq_error hparse
  | ok e =>
    rw [hparse] at h
    cases hsteps : e.steps setup.room with
    | ok steps =>
      simp only [bind, Except.bind, hsteps] at h
      cases h
    | error found =>
      simp only [bind, Except.bind, hsteps] at h
      obtain rfl : found = fault := Except.error.inj h
      rw [Expression.steps] at hsteps
      split at hsteps
      · next hdeep =>
        cases hsteps
        cases hroom : setup.room with
        | none => simp [hroom] at hdeep
        | some room =>
          have hle : room ≤ depthOf e.nodes := by simpa [hroom] using hdeep
          exact ⟨room, hroom, .inr (by simpa [extentOf, hparse] using hle)⟩
      · rw [Founded, onlyComplains_lower _ _ _ found hsteps]
        trivial

end ChecklistReview.Regex
