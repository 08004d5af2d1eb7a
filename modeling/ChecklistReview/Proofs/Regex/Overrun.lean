import ChecklistReview.Proofs.Regex.Reading

/-!
# Expressions beyond the limits

Reading ends at a number of repetitions that is too large to be counted, before it is known
whether there is anything to repeat and whether the rest of the expression is well formed. It ends
as well at groups that are nested deeper than the stack has room for.

## Main statements

* `Fails`: a reader fails wherever a text is left.
* `compile_eq_error_of_count`: a number that is too large ends the reading after any quoted text
  and whatever follows it.
* `compile_eq_error_of_nested`: groups that are nested too deep end the reading, whatever is in
  them and follows them.
-/

namespace ChecklistReview.Regex

variable {α β : Type} {left digits after : List Char} {fault : Fault}

/-- Wherever a text without halves of characters is left, a reader fails with a fault. -/
def Fails (reader : ParserM α) (left : List Char) (fault : Fault) : Prop :=
  ∀ s : Scan, s.halves = [] → s.text.toList.drop s.index = left → reader.run s = .error fault

theorem Continues.fails {reader rest : ParserM α} {p : List Char}
    (h : Continues reader p left rest) (hrest : Fails rest left fault) :
    Fails reader (p ++ left) fault := by
  intro s hhalves hs
  rw [h s hhalves hs]
  refine hrest _ hhalves ?_
  rw [← List.drop_drop, hs, List.drop_left]

theorem Takes.fails {reader : ParserM α} {f : α → ParserM β} {a : α} (h : Takes reader [] left a)
    (hf : Fails (f a) left fault) : Fails (reader >>= f) left fault :=
  h.continues.fails hf

theorem Fails.bind {reader : ParserM α} {f : α → ParserM β} (h : Fails reader left fault) :
    Fails (reader >>= f) left fault := by
  intro s hhalves hs
  rw [StateT.run_bind, h s hhalves hs]
  rfl

theorem fails_get {f : Scan → ParserM α}
    (h : ∀ s : Scan, left.length ≤ s.text.size → Fails (f s) left fault) :
    Fails (get >>= f) left fault := by
  intro s hhalves hs
  refine h s ?_ s hhalves hs
  rw [← hs, List.length_drop, Array.length_toList]
  omega

theorem append_brace_ne (digits after : List Char) : digits ++ '}' :: after ≠ ['\\'] := by
  cases digits <;> simp

/-- Digits are taken up to a closing brace. -/
theorem takes_digits {n : Nat} (hdigits : ∀ d ∈ digits, d.isDigit = true) (hn : digits.length ≤ n) :
    Takes (takeAtMost Char.isDigit n) digits ('}' :: after) digits := by
  induction digits generalizing n with
  | nil =>
    cases n with
    | zero => exact takes_pure []
    | succ n => exact Takes.bind (p := []) (q := []) takes_peek (takes_pure [])
  | cons c digits ih =>
    obtain ⟨hc, hrest⟩ := List.forall_mem_cons.mp hdigits
    obtain ⟨n, rfl⟩ := Nat.exists_eq_add_of_le' (Nat.le_trans (Nat.le_add_left 1 _) hn)
    have hslash : c ≠ '\\' := by
      rintro rfl
      cases hc
    have htoken : firstToken? (c :: digits ++ '}' :: after) = some (.plain c) := if_neg hslash
    rw [takeAtMost]
    refine Takes.bind (p := []) takes_peek ?_
    rw [htoken]
    simp only [hc, if_true]
    refine Takes.bind (p := [c]) (takes_next_plain hslash (append_brace_ne digits after)) ?_
    rw [← List.append_nil digits]
    exact Takes.bind (q := []) (by simpa using ih hrest (by simpa using hn)) (takes_pure _)

/-- The fault of a number of repetitions that is too large. -/
def countFault (digits : List Char) : Fault :=
  if Text.numeralLimit < digits.length then .longNumber digits.length else .repeatTooLarge

theorem readCount_eq_throw (h : repeatLimit ≤ valueOf 10 digits) :
    readCount digits = throw (countFault digits) := by
  rw [readCount, countFault]
  split
  · rfl
  · simp only [h, if_true]
    rfl

theorem fails_parseCounts (hdigits : ∀ d ∈ digits, d.isDigit = true)
    (hlarge : repeatLimit ≤ valueOf 10 digits) (hafter : after ≠ ['\\']) :
    Fails (parseCounts '{') (digits ++ '}' :: after) (countFault digits) := by
  have hfirst : firstToken? (digits ++ '}' :: after) ≠ some (.plain '}') := by
    cases digits with
    | nil => exact absurd hlarge (by decide)
    | cons d digits =>
      have hd := hdigits d List.mem_cons_self
      rw [List.cons_append, firstToken?]
      split
      · cases (digits ++ '}' :: after).head? <;> simp
      · rintro ⟨⟩
        cases hd
  refine fails_get fun s _ => ?_
  refine takes_peek.fails ?_
  rw [if_neg hfirst]
  refine fails_get fun s hsize => ?_
  rw [List.length_append] at hsize
  refine (takes_digits hdigits (by omega)).continues.fails ?_
  refine (takes_accept_not (by simp [firstToken?])).fails ?_
  refine (takes_pure digits).fails ?_
  refine Continues.fails (p := ['}']) (takes_accept (by decide) hafter).continues ?_
  rw [readCount_eq_throw hlarge]
  exact Fails.bind fun s _ _ => rfl

theorem fails_sequence {fuel : Nat} {room : Option Nat} {isStart : Bool} {before : List Node}
    (hdigits : ∀ d ∈ digits, d.isDigit = true)
    (hlarge : repeatLimit ≤ valueOf 10 digits) (hafter : after ≠ ['\\']) :
    Fails (parseSequence (fuel + 1) room false isStart before) ('{' :: (digits ++ '}' :: after))
      (countFault digits) := by
  have htoken : firstToken? ('{' :: (digits ++ '}' :: after)) = some (.plain '{') := rfl
  rw [parseSequence]
  refine takes_peek.fails ?_
  rw [htoken]
  refine Continues.fails (p := ['{'])
    (takes_next_plain (by decide) (append_brace_ne digits after)).continues ?_
  refine fails_get fun s _ => ?_
  exact (fails_parseCounts hdigits hlarge hafter).bind

/-- Where the reading of alternatives fails from the start, no expression is compiled. -/
theorem compile_eq_error_of_fails {text : List Char} {setup : Setup} (hne : text ≠ ['\\'])
    (h : Fails (parseAlternatives (4 * text.length + 8) setup.room false true) text fault) :
    compile text [] setup = .error fault := by
  have hfail := h (Scan.start text [] setup.named) rfl rfl
  have hsize : (Scan.start text [] setup.named).text.size = text.length := List.size_toArray
  have hparse : parse text [] setup = .error fault := by
    rw [parse, parseWhole]
    simp only [StateT.run_bind, StateT.run_get, pure_bind, run_goTo_start hne, hsize, hfail]
    rfl
  rw [compile, hparse]
  rfl

/-- After any quoted text, a number of repetitions that is too large ends the reading, whatever
follows it. -/
theorem compile_eq_error_of_count {setup : Setup}
    (hroom : ∀ room, setup.room = some room → 2 ≤ room) (word : List Char)
    (hdigits : ∀ d ∈ digits, d.isDigit = true)
    (hlarge : repeatLimit ≤ valueOf 10 digits) (hafter : after ≠ ['\\']) :
    compile (quote word ++ '{' :: (digits ++ '}' :: after)) [] setup =
      .error (countFault digits) := by
  have hbrace : '{' :: (digits ++ '}' :: after) ≠ ['\\'] := by simp
  have hsequence (fuel : Nat) (room : Option Nat) :
      Fails (parseSequence (fuel + 1 + word.length) room false true [])
        (quote word ++ '{' :: (digits ++ '}' :: after)) (countFault digits) :=
    (continues_sequence_quote word hbrace).fails (fails_sequence hdigits hlarge hafter)
  generalize htext : quote word ++ '{' :: (digits ++ '}' :: after) = text at hsequence
  have hlength : word.length ≤ text.length := by
    rw [← htext, List.length_append]
    exact Nat.le_trans (length_le_length_quote word) (Nat.le_add_right _ _)
  refine compile_eq_error_of_fails (htext ▸ quote_append_ne word hbrace) ?_
  obtain ⟨fuel, hfuel⟩ : ∃ fuel, 4 * text.length + 8 = fuel + 1 + word.length + 1 + 1 :=
    ⟨4 * text.length + 5 - word.length, by omega⟩
  rw [hfuel, parseAlternatives]
  cases hbound : setup.room with
  | none =>
    refine takes_enter.fails (Fails.bind ?_)
    rw [parseItems]
    exact takes_enter.fails (hsequence fuel none).bind
  | some room =>
    obtain ⟨room, rfl⟩ := Nat.exists_eq_add_of_le' (hroom room hbound)
    refine (takes_enter_succ (room + 1)).fails (Fails.bind ?_)
    rw [parseItems]
    exact (takes_enter_succ room).fails (hsequence fuel (some room)).bind

-- ════════════════════════════════════════════════════════════════════════
-- Nested groups
-- ════════════════════════════════════════════════════════════════════════

theorem fails_enter : Fails (enter (some 0)) left .tooDeep := fun _ _ _ => rfl

/-- Without room for two calls no sequence is read. -/
theorem fails_alternatives_of_lt {fuel room : Nat} {verbose isTop : Bool} (h : room < 2) :
    Fails (parseAlternatives (fuel + 2) (some room) verbose isTop) left .tooDeep := by
  rw [parseAlternatives]
  cases room with
  | zero => exact fails_enter.bind
  | succ room =>
    obtain rfl : room = 0 := by omega
    refine (takes_enter_succ 0).fails (Fails.bind ?_)
    rw [parseItems]
    exact fails_enter.bind

/-- A group is opened before what is in it is read. -/
theorem fails_group {fuel start : Nat} {room : Option Nat} {verbose : Bool}
    (h : Fails (parseAlternatives fuel room verbose false) left fault) :
    Fails (parseGroup (fuel + 1) room verbose start (.capture none)) left fault := by
  intro s hhalves hs
  have hopen : (openGroup none).run s =
      pure (s.widths.size, { s with widths := s.widths.push none }) := rfl
  rw [parseGroup, StateT.run_bind, hopen, pure_bind]
  exact Fails.bind h { s with widths := s.widths.push none } hhalves hs

theorem replicate_append_ne (n : Nat) (hafter : after ≠ ['\\']) :
    List.replicate n '(' ++ after ≠ ['\\'] := by
  cases n with
  | zero => simpa using hafter
  | succ n => simp [List.replicate_succ]

theorem firstToken?_replicate_append_ne (n : Nat) (hafter : after.head? ≠ some '?') :
    firstToken? (List.replicate n '(' ++ after) ≠ some (.plain '?') := by
  cases n with
  | zero =>
    cases after with
    | nil => simp [firstToken?]
    | cons c after =>
      rw [List.replicate_zero, List.nil_append, firstToken?]
      split
      · cases after.head? <;> simp
      · intro h
        exact hafter (congrArg some (Token.plain.inj (Option.some.inj h)))
  | succ n => simp [List.replicate_succ, firstToken?]

theorem fails_alternatives_nested {n fuel room : Nat} {isTop : Bool}
    (hafter : after ≠ ['\\']) (hmark : after.head? ≠ some '?') (hroom : room < 2 * n + 2)
    (hfuel : 4 * n + 2 ≤ fuel) :
    Fails (parseAlternatives fuel (some room) false isTop) (List.replicate n '(' ++ after)
      .tooDeep := by
  induction n generalizing fuel room isTop with
  | zero =>
    obtain ⟨fuel, rfl⟩ := Nat.exists_eq_add_of_le' hfuel
    exact fails_alternatives_of_lt hroom
  | succ n ih =>
    obtain ⟨fuel, rfl⟩ : ∃ more, fuel = more + 4 := ⟨fuel - 4, by omega⟩
    by_cases hsmall : room < 2
    · exact fails_alternatives_of_lt hsmall
    · obtain ⟨room, rfl⟩ : ∃ more, room = more + 2 := ⟨room - 2, by omega⟩
      have hinner : Fails (parseAlternatives fuel (some room) false false)
          (List.replicate n '(' ++ after) .tooDeep := ih (by omega) (by omega)
      rw [parseAlternatives]
      refine (takes_enter_succ (room + 1)).fails (Fails.bind ?_)
      rw [parseItems]
      refine (takes_enter_succ room).fails (Fails.bind ?_)
      rw [List.replicate_succ, List.cons_append, parseSequence]
      have htoken : firstToken? ('(' :: (List.replicate n '(' ++ after)) = some (.plain '(') := rfl
      refine takes_peek.fails ?_
      rw [htoken]
      refine Continues.fails (p := ['('])
        (takes_next_plain (by decide) (replicate_append_ne n hafter)).continues ?_
      refine fails_get fun s _ => ?_
      have hopening : Takes (parseOpening (s.index - 1)) [] (List.replicate n '(' ++ after)
          (.capture none) := by
        refine Takes.bind (p := []) (q := [])
          (takes_accept_not (firstToken?_replicate_append_ne n hmark)) (takes_pure _)
      refine hopening.fails ?_
      exact (fails_group hinner).bind

/-- Groups that are nested deeper than there is room for end the reading, whatever is in them and
follows them. -/
theorem compile_eq_error_of_nested {setup : Setup} {n room : Nat} (hbound : setup.room = some room)
    (hroom : room < 2 * n + 2) (hafter : after ≠ ['\\']) (hmark : after.head? ≠ some '?') :
    compile (List.replicate n '(' ++ after) [] setup = .error .tooDeep := by
  refine compile_eq_error_of_fails (replicate_append_ne n hafter) ?_
  rw [hbound]
  refine fails_alternatives_nested hafter hmark hroom ?_
  rw [List.length_append, List.length_replicate]
  omega

end ChecklistReview.Regex
