import ChecklistReview.Regex.Step

/-!
# Reading expressions

How an expression is read depends on the text that is left and on nothing before it. Each part of
an expression has a rule: what it takes from the text that is left, and what it gives. The rules
are put together along the text, so that an expression with any text in it can be read, as long as
that text is quoted.

## Main statements

* `Takes`: a reader takes some characters and gives a value, wherever they are.
* `Continues`: a reader takes some characters and goes on as another reader.
* `continues_sequence_quote`: a quoted text is read as its characters, whatever they are.
* `takes_sequence_set`, `takes_sequence_star`, `takes_sequence_group`: the rules for other parts.
* `takes_items`: quoted texts divided by bars are read one by one.
* `parse_eq_of_takes`: the rules give the whole expression.
-/

namespace ChecklistReview.Regex

-- ════════════════════════════════════════════════════════════════════════
-- Reading what is left
-- ════════════════════════════════════════════════════════════════════════

/-- Wherever a text without halves of characters is left that begins with some characters, a reader
takes exactly these, gives a value and changes nothing else. -/
def Takes {α : Type} (reader : ParserM α) (taken left : List Char) (a : α) : Prop :=
  ∀ s : Scan, s.halves = [] → s.text.toList.drop s.index = taken ++ left →
    reader.run s = .ok (a, { s with index := s.index + taken.length })

variable {α β : Type} {taken left : List Char}

theorem takes_pure (a : α) : Takes (pure a) [] left a := fun _ _ _ => rfl

theorem Takes.bind {reader : ParserM α} {f : α → ParserM β} {p q : List Char} {a : α} {b : β}
    (h : Takes reader p (q ++ left) a) (hf : Takes (f a) q left b) :
    Takes (reader >>= f) (p ++ q) left b := by
  intro s hhalves hs
  have hfirst := h s hhalves (by rw [hs, List.append_assoc])
  have hrest : s.text.toList.drop (s.index + p.length) = q ++ left := by
    rw [← List.drop_drop, hs, List.append_assoc, List.drop_left]
  have hsecond := hf { s with index := s.index + p.length } hhalves hrest
  rw [StateT.run_bind, hfirst]
  refine hsecond.trans ?_
  rw [List.length_append, Nat.add_assoc]

/-- Wherever a text without halves of characters is left that begins with some characters, a reader
takes exactly these and goes on as another reader. -/
def Continues (reader : ParserM α) (taken left : List Char) (rest : ParserM α) : Prop :=
  ∀ s : Scan, s.halves = [] → s.text.toList.drop s.index = taken ++ left →
    reader.run s = rest.run { s with index := s.index + taken.length }

theorem Takes.continues {reader : ParserM α} {f : α → ParserM β} {a : α}
    (h : Takes reader taken left a) : Continues (reader >>= f) taken left (f a) := by
  intro s hhalves hs
  rw [StateT.run_bind, h s hhalves hs]
  rfl

theorem Continues.trans {reader second third : ParserM α} {p q : List Char}
    (h : Continues reader p (q ++ left) second) (hsecond : Continues second q left third) :
    Continues reader (p ++ q) left third := by
  intro s hhalves hs
  have hrest : s.text.toList.drop (s.index + p.length) = q ++ left := by
    rw [← List.drop_drop, hs, List.append_assoc, List.drop_left]
  rw [h s hhalves (by rw [hs, List.append_assoc]),
    hsecond { s with index := s.index + p.length } hhalves hrest, List.length_append, Nat.add_assoc]

theorem Continues.takes {reader rest : ParserM α} {p q : List Char} {a : α}
    (h : Continues reader p (q ++ left) rest) (hrest : Takes rest q left a) :
    Takes reader (p ++ q) left a := by
  have hlast : Continues rest q left (pure a) := hrest
  exact h.trans hlast

/-- What is read may depend on the state, whose text is at least as long as what is left. -/
theorem takes_get {f : Scan → ParserM α} {a : α}
    (h : ∀ s : Scan, (taken ++ left).length ≤ s.text.size → Takes (f s) taken left a) :
    Takes (get >>= f) taken left a := by
  intro s hhalves hs
  have hsize : (taken ++ left).length ≤ s.text.size := by
    rw [← hs, List.length_drop, Array.length_toList]
    omega
  exact h s hsize s hhalves hs

-- ════════════════════════════════════════════════════════════════════════
-- Tokens
-- ════════════════════════════════════════════════════════════════════════

/-- The first token of a text. A lone backslash is none. -/
def firstToken? : List Char → Option Token
  | [] => none
  | c :: text => if c = '\\' then text.head?.map .escape else some (.plain c)

theorem tokenAt?_eq {s : Scan} (h : s.text.toList.drop s.index = left) :
    s.tokenAt? s.index = firstToken? left := by
  have hhead : s.text[s.index]? = left.head? := by
    rw [← h, List.head?_drop, Array.getElem?_toList]
  have hnext : s.text[s.index + 1]? = left.tail.head? := by
    rw [← h, List.tail_drop, List.head?_drop, Array.getElem?_toList]
  rw [Scan.tokenAt?, hhead, hnext]
  cases left with
  | nil => rfl
  | cons c left =>
    rw [firstToken?]
    split
    · next hnone => cases hnone
    · next hsome =>
      obtain rfl := Option.some.inj hsome
      rfl
    · next d hne hsome =>
      obtain rfl := Option.some.inj hsome
      rw [if_neg fun hc => hne (by rw [hc])]

theorem endsInEscape_eq_false {s : Scan} {index : Nat} (h : s.text.toList.drop index ≠ ['\\']) :
    s.endsInEscape index = false := by
  rw [Scan.endsInEscape, Bool.and_eq_false_iff, decide_eq_false_iff_not, decide_eq_false_iff_not]
  by_cases hlast : index + 1 = s.text.size
  · left
    intro hc
    refine h ?_
    obtain ⟨hlt, hget⟩ := Array.getElem?_eq_some_iff.mp hc
    have hlength : index < s.text.toList.length := hlt
    rw [List.drop_eq_getElem_cons hlength, Array.getElem_toList, hget,
      List.drop_eq_nil_of_le (by rw [Array.length_toList]; omega)]
  · exact .inr hlast

theorem takes_peek : Takes peek [] left (firstToken? left) := by
  intro s _ hs
  have htoken : s.tokenAt? s.index = firstToken? left := tokenAt?_eq hs
  rw [← htoken]
  rfl

theorem run_next {s : Scan} {t : Token} (ht : s.tokenAt? s.index = some t)
    (hend : s.endsInEscape (s.index + t.length) = false) :
    next.run s = .ok (some t, { s with index := s.index + t.length }) := by
  have hpeek : peek.run s = .ok (some t, s) := by
    rw [← ht]
    rfl
  have hgo : (goTo (s.index + t.length)).run s =
      .ok ((), { s with index := s.index + t.length }) := by
    simp only [goTo, StateT.run_bind, StateT.run_get, pure_bind, hend, Bool.false_eq_true, if_false]
    rfl
  rw [next, StateT.run_bind, hpeek]
  show (do let _ ← goTo (s.index + t.length); pure (some t) : ParserM (Option Token)).run s = _
  rw [StateT.run_bind, hgo]
  rfl

theorem takes_next_plain {c : Char} (hc : c ≠ '\\') (hleft : left ≠ ['\\']) :
    Takes next [c] left (some (.plain c)) := by
  intro s _ hs
  have htoken : s.tokenAt? s.index = some (.plain c) := by
    rw [tokenAt?_eq hs, List.singleton_append, firstToken?, if_neg hc]
  refine run_next htoken (endsInEscape_eq_false ?_)
  rwa [← List.drop_drop, hs]

theorem takes_next_escape (c : Char) (hleft : left ≠ ['\\']) :
    Takes next ['\\', c] left (some (.escape c)) := by
  intro s _ hs
  have htoken : s.tokenAt? s.index = some (.escape c) := by
    rw [tokenAt?_eq hs]
    rfl
  refine run_next htoken (endsInEscape_eq_false ?_)
  rwa [← List.drop_drop, hs]

theorem takes_accept {c : Char} (hc : c ≠ '\\') (hleft : left ≠ ['\\']) :
    Takes (accept c) [c] left true := by
  have htoken : firstToken? ([c] ++ left) = some (.plain c) := if_neg hc
  refine Takes.bind (p := []) takes_peek ?_
  rw [htoken, if_pos rfl]
  exact (takes_next_plain hc hleft).bind (q := []) (takes_pure true)

theorem takes_accept_not {c : Char} (h : firstToken? left ≠ some (.plain c)) :
    Takes (accept c) [] left false := by
  refine Takes.bind (p := []) (q := []) takes_peek ?_
  rw [List.nil_append, if_neg h]
  exact takes_pure false

-- ════════════════════════════════════════════════════════════════════════
-- Sequences
-- ════════════════════════════════════════════════════════════════════════

theorem takes_codeTaken (c : Char) : Takes (codeTaken c) [] left c.toNat := by
  rintro ⟨_, _, _, _, _, _, _, _, _⟩ ⟨⟩ _
  rfl

/-- Without a bound there is room for every nested call. -/
theorem takes_enter : Takes (enter none) [] left none := takes_pure none

theorem takes_enter_succ (room : Nat) : Takes (enter (some (room + 1))) [] left (some room) :=
  takes_pure (some room)

section Sequences

variable {fuel : Nat} {room : Option Nat} {isStart : Bool} {before nodes : List Node}

theorem takes_sequence_end (h : firstToken? left = none ∨ firstToken? left = some (.plain '|') ∨
      firstToken? left = some (.plain ')')) :
    Takes (parseSequence (fuel + 1) room false isStart before) [] left before := by
  rw [parseSequence]
  refine Takes.bind (p := []) (q := []) takes_peek ?_
  rw [List.nil_append]
  rcases h with h | h | h <;>
    · rw [h]
      exact takes_pure before

theorem continues_sequence_escape {c : Char} {node : Node}
    (hescape : Takes (escape c) [] left node) (hleft : left ≠ ['\\']) :
    Continues (parseSequence (fuel + 1) room false isStart before) ['\\', c] left
      (parseSequence fuel room false isStart (before ++ [node])) := by
  rw [parseSequence]
  refine Continues.trans (p := []) takes_peek.continues ?_
  have htoken : firstToken? (['\\', c] ++ left) = some (.escape c) := rfl
  rw [htoken]
  refine Continues.trans (p := ['\\', c]) (q := []) (takes_next_escape c hleft).continues ?_
  exact hescape.continues

theorem takes_sequence_escape {c : Char} {node : Node}
    (hescape : Takes (escape c) [] (taken ++ left) node) (hleft : taken ++ left ≠ ['\\'])
    (h : Takes (parseSequence fuel room false isStart (before ++ [node])) taken left nodes) :
    Takes (parseSequence (fuel + 1) room false isStart before) ('\\' :: c :: taken) left nodes :=
  (continues_sequence_escape hescape hleft).takes h

/-- Characters that have a meaning in expressions, or stand for blanks. -/
def special : List Char :=
  ['(', ')', '[', ']', '{', '}', '?', '*', '+', '-', '|', '^', '$', '\\', '.', '&', '~', '#', ' ',
    '\t', '\n', '\r', '\x0b', '\x0c']

theorem continues_sequence_plain {c : Char} (hc : c ∉ special) (hleft : left ≠ ['\\']) :
    Continues (parseSequence (fuel + 1) room false isStart before) [c] left
      (parseSequence fuel room false isStart (before ++ [.code c.toNat])) := by
  have hne : ∀ d ∈ special, c ≠ d := by
    rintro d hd rfl
    exact hc hd
  have hslash : c ≠ '\\' := hne _ (by decide)
  rw [parseSequence]
  refine Continues.trans (p := []) takes_peek.continues ?_
  have htoken : firstToken? ([c] ++ left) = some (.plain c) := if_neg hslash
  rw [htoken]
  have hstop : (decide (Token.plain c = .plain '|') ||
      decide (Token.plain c = .plain ')')) = false := by
    simp [hne '|' (by decide), hne ')' (by decide)]
  simp only [hstop, Bool.false_eq_true, if_false, Bool.false_and]
  refine Continues.trans (p := [c]) (q := []) (takes_next_plain hslash hleft).continues ?_
  split
  · exact absurd rfl (hne '[' (by decide))
  · exact absurd rfl (hne '.' (by decide))
  · exact absurd rfl (hne '^' (by decide))
  · exact absurd rfl (hne '$' (by decide))
  · exact absurd rfl (hne '(' (by decide))
  · have hquantifier : (decide (c = '*') || decide (c = '+') || decide (c = '?') ||
        decide (c = '{')) = false := by
      simp [hne '*' (by decide), hne '+' (by decide), hne '?' (by decide), hne '{' (by decide)]
    simp only [hquantifier, Bool.false_eq_true, if_false]
    exact (takes_codeTaken c).continues

theorem takes_escape_special {c : Char} (hc : c ∈ special) :
    Takes (escape c) [] left (.code c.toNat) := by
  simp only [special, List.mem_cons, List.not_mem_nil, or_false] at hc
  rcases hc with rfl | rfl | rfl | rfl | rfl | rfl | rfl | rfl | rfl | rfl | rfl | rfl | rfl | rfl |
    rfl | rfl | rfl | rfl | rfl | rfl | rfl | rfl | rfl | rfl <;>
    · rintro ⟨_, _, _, _, _, _, _, _, _⟩ ⟨⟩ _
      rfl

/-- The parts that stand for the characters of a word. -/
def wordNodes (word : List Char) : List Node := word.map fun c => .code c.toNat

/-- A text as an expression that matches this text only. -/
def quote (word : List Char) : List Char :=
  word.flatMap fun c => if c ∈ special then ['\\', c] else [c]

theorem quote_cons (c : Char) (word : List Char) :
    quote (c :: word) = (if c ∈ special then ['\\', c] else [c]) ++ quote word :=
  List.flatMap_cons

theorem length_le_length_quote (word : List Char) : word.length ≤ (quote word).length := by
  induction word with
  | nil => exact Nat.le_refl _
  | cons c word ih =>
    rw [quote_cons, List.length_append, List.length_cons]
    by_cases hc : c ∈ special
    · rw [if_pos hc, List.length_cons, List.length_singleton]
      omega
    · rw [if_neg hc, List.length_singleton]
      omega

theorem quote_append_ne (word : List Char) (hleft : left ≠ ['\\']) :
    quote word ++ left ≠ ['\\'] := by
  cases word with
  | nil => exact hleft
  | cons c word =>
    rw [quote_cons]
    by_cases hc : c ∈ special
    · rw [if_pos hc]
      simp
    · rw [if_neg hc]
      intro h
      obtain ⟨rfl, -⟩ := List.cons.inj h
      exact hc (by decide)

/-- A quoted text is read as its characters, and what follows it is read after them. -/
theorem continues_sequence_quote (word : List Char) (hleft : left ≠ ['\\']) :
    Continues (parseSequence (fuel + word.length) room false isStart before) (quote word) left
      (parseSequence fuel room false isStart (before ++ wordNodes word)) := by
  induction word generalizing before with
  | nil =>
    intro s _ _
    rw [wordNodes, List.map_nil, List.append_nil]
    rfl
  | cons c word ih =>
    have hrest : Continues (parseSequence (fuel + word.length) room false isStart
        (before ++ [.code c.toNat])) (quote word) left
        (parseSequence fuel room false isStart (before ++ wordNodes (c :: word))) := by
      have hword := @ih (before ++ [.code c.toNat])
      rwa [List.append_assoc] at hword
    have hne : quote word ++ left ≠ ['\\'] := quote_append_ne word hleft
    rw [quote_cons, List.length_cons, ← Nat.add_assoc]
    by_cases hc : c ∈ special
    · rw [if_pos hc]
      exact (continues_sequence_escape (takes_escape_special hc) hne).trans hrest
    · rw [if_neg hc]
      exact (continues_sequence_plain hc hne).trans hrest

theorem takes_sequence_quote {word : List Char} (hleft : taken ++ left ≠ ['\\'])
    (h : Takes (parseSequence fuel room false isStart (before ++ wordNodes word)) taken left
      nodes) :
    Takes (parseSequence (fuel + word.length) room false isStart before) (quote word ++ taken) left
      nodes :=
  (continues_sequence_quote word hleft).takes h

theorem takes_sequence_set {node : Node} {p : List Char}
    (hset : Takes parseSet p (taken ++ left) node) (hleft : p ++ taken ++ left ≠ ['\\'])
    (h : Takes (parseSequence fuel room false isStart (before ++ [node])) taken left nodes) :
    Takes (parseSequence (fuel + 1) room false isStart before) ('[' :: (p ++ taken)) left
      nodes := by
  rw [parseSequence]
  refine Takes.bind (p := []) takes_peek ?_
  have htoken : firstToken? ('[' :: (p ++ taken) ++ left) = some (.plain '[') := rfl
  rw [htoken]
  refine Takes.bind (p := ['[']) (takes_next_plain (by decide) hleft) ?_
  exact Takes.bind hset h

theorem takes_repeat {isNegated : Bool} {members : List Member} {here least : Nat}
    {most : Option Nat} (hlazy : firstToken? left ≠ some (.plain '?'))
    (hpossessive : firstToken? left ≠ some (.plain '+')) :
    Takes (parseRepeat here least most (before ++ [.set isNegated members])) [] left
      (before ++ [.repeated .greedy least most [.set isNegated members]]) := by
  have hgreed : Takes readGreed [] left .greedy := by
    refine Takes.bind (p := []) (q := []) (takes_accept_not hlazy) ?_
    refine Takes.bind (p := []) (q := []) (takes_accept_not hpossessive) ?_
    exact takes_pure _
  rw [parseRepeat]
  refine takes_get fun s _ => ?_
  rw [List.getLast?_concat, List.dropLast_concat]
  exact Takes.bind (p := []) (q := []) hgreed (takes_pure _)

theorem takes_sequence_star {isNegated : Bool} {members : List Member}
    (hlazy : firstToken? (taken ++ left) ≠ some (.plain '?'))
    (hpossessive : firstToken? (taken ++ left) ≠ some (.plain '+')) (hleft : taken ++ left ≠ ['\\'])
    (h : Takes (parseSequence fuel room false isStart
      (before ++ [.repeated .greedy 0 none [.set isNegated members]])) taken left nodes) :
    Takes (parseSequence (fuel + 1) room false isStart (before ++ [.set isNegated members]))
      ('*' :: taken) left nodes := by
  rw [parseSequence]
  refine Takes.bind (p := []) takes_peek ?_
  have htoken : firstToken? ('*' :: taken ++ left) = some (.plain '*') := rfl
  rw [htoken]
  refine Takes.bind (p := ['*']) (takes_next_plain (by decide) hleft) ?_
  refine takes_get fun s _ => ?_
  refine Takes.bind (p := []) (takes_pure (some (0, none))) ?_
  exact Takes.bind (p := []) (takes_repeat hlazy hpossessive) h

end Sequences

-- ════════════════════════════════════════════════════════════════════════
-- Sets
-- ════════════════════════════════════════════════════════════════════════

section Sets

variable {start fuel : Nat} {before members : List Member}

theorem takes_members_end (hbefore : before ≠ []) (hleft : left ≠ ['\\']) :
    Takes (parseMembers start (fuel + 1) before) [']'] left before := by
  rw [parseMembers]
  refine Takes.bind (p := [']']) (q := []) (takes_next_plain (by decide) hleft) ?_
  have hmembers : before.isEmpty = false := by simpa using hbefore
  rw [hmembers]
  exact takes_pure before

theorem takes_members_one {p : List Char} {this : Token} {low : Member}
    (hnext : Takes next p (taken ++ left) (some this)) (hthis : this ≠ .plain ']')
    (hlow : Takes (setMember this) [] (taken ++ left) low)
    (hrange : firstToken? (taken ++ left) ≠ some (.plain '-'))
    (h : Takes (parseMembers start fuel (before ++ [low])) taken left members) :
    Takes (parseMembers start (fuel + 1) before) (p ++ taken) left members := by
  rw [parseMembers]
  refine Takes.bind hnext ?_
  simp only [hthis, decide_false, Bool.false_and, Bool.false_eq_true, if_false]
  refine Takes.bind (p := []) hlow ?_
  exact Takes.bind (p := []) (takes_accept_not hrange) h

theorem takes_members_plain {c : Char} (hc : c ≠ '\\' ∧ c ≠ ']') (hleft : taken ++ left ≠ ['\\'])
    (hrange : firstToken? (taken ++ left) ≠ some (.plain '-'))
    (h : Takes (parseMembers start fuel (before ++ [.code c.toNat])) taken left members) :
    Takes (parseMembers start (fuel + 1) before) (c :: taken) left members := by
  have hmember : Takes (setMember (.plain c)) [] (taken ++ left) (.code c.toNat) :=
    (takes_codeTaken c).bind (q := []) (takes_pure _)
  refine takes_members_one (p := [c]) (takes_next_plain hc.1 hleft) ?_ hmember hrange h
  intro hthis
  exact hc.2 (Token.plain.inj hthis)

theorem takes_members_category {c : Char} {member : Member} (hc : categoryEscape? c = some member)
    (hleft : taken ++ left ≠ ['\\']) (hrange : firstToken? (taken ++ left) ≠ some (.plain '-'))
    (h : Takes (parseMembers start fuel (before ++ [member])) taken left members) :
    Takes (parseMembers start (fuel + 1) before) ('\\' :: c :: taken) left members := by
  have hmember : Takes (setEscape c) [] (taken ++ left) member := by
    unfold categoryEscape? at hc
    split at hc <;> cases hc <;> exact fun _ _ _ => rfl
  exact takes_members_one (p := ['\\', c]) (takes_next_escape c hleft) Token.noConfusion hmember
    hrange h

/-- A set of several members is read as such. -/
theorem takes_set (hdistinct : members.eraseDups = members) (hmembers : ∀ n, members ≠ [.code n])
    (hfirst : firstToken? (taken ++ left) ≠ some (.plain '^'))
    (h : ∀ start fuel, taken.length ≤ fuel →
      Takes (parseMembers start fuel []) taken left members) :
    Takes parseSet taken left (.set false members) := by
  rw [parseSet]
  refine takes_get fun s _ => ?_
  refine Takes.bind (p := []) (takes_accept_not hfirst) ?_
  refine takes_get fun s hsize => ?_
  rw [List.length_append] at hsize
  rw [← List.append_nil taken]
  refine Takes.bind (h _ _ (by omega)) ?_
  rw [hdistinct]
  split
  · next n _ => exact absurd rfl (hmembers n)
  · next n _ => exact absurd rfl (hmembers n)
  · exact takes_pure _

end Sets

-- ════════════════════════════════════════════════════════════════════════
-- Alternatives and groups
-- ════════════════════════════════════════════════════════════════════════

section Groups

variable {fuel start : Nat} {isTop : Bool}

theorem takes_alternatives {items : List (List Node)}
    (h : Takes (parseItems fuel none false isTop []) taken left items) :
    Takes (parseAlternatives (fuel + 1) none false isTop) taken left (joinAlternatives items) := by
  rw [parseAlternatives, ← List.append_nil taken]
  exact Takes.bind (p := []) takes_enter (Takes.bind h (takes_pure _))

theorem takes_items_one {before : List (List Node)} {nodes : List Node}
    (h : Takes (parseSequence fuel none false (isTop && before.isEmpty) []) taken left nodes)
    (hbar : firstToken? left ≠ some (.plain '|')) :
    Takes (parseItems (fuel + 1) none false isTop before) taken left
      (before ++ [openPlainGroups nodes]) := by
  rw [parseItems, ← List.append_nil taken]
  refine Takes.bind (p := []) takes_enter (Takes.bind (q := []) h ?_)
  exact Takes.bind (p := []) (q := []) (takes_accept_not hbar) (takes_pure _)

theorem takes_word {word : List Char} {isStart : Bool}
    (hend : firstToken? left = some (.plain '|') ∨ firstToken? left = some (.plain ')'))
    (hfuel : word.length + 1 ≤ fuel) :
    Takes (parseSequence fuel none false isStart []) (quote word) left
      (wordNodes word) := by
  obtain ⟨more, rfl⟩ := Nat.exists_eq_add_of_le' hfuel
  have hleft : left ≠ ['\\'] := by
    rintro rfl
    rcases hend with h | h <;> cases h
  have h : Takes (parseSequence (more + 1) none false isStart (wordNodes word)) [] left
      (wordNodes word) :=
    takes_sequence_end (.inr hend)
  have hword : Takes (parseSequence (more + 1 + word.length) none false isStart [])
      (quote word ++ []) left (wordNodes word) :=
    takes_sequence_quote hleft h
  rwa [List.append_nil, Nat.add_assoc, Nat.add_comm 1] at hword

theorem append_parenthesis_ne (before left : List Char) : before ++ ')' :: left ≠ ['\\'] := by
  cases before with
  | nil => simp
  | cons c before => simp

theorem openPlainGroups_append (nodes nodes' : List Node) :
    openPlainGroups (nodes ++ nodes') = openPlainGroups nodes ++ openPlainGroups nodes' :=
  List.flatMap_append

theorem openPlainGroups_wordNodes (word : List Char) :
    openPlainGroups (wordNodes word) = wordNodes word := by
  rw [openPlainGroups, wordNodes, List.flatMap_map]
  exact List.map_eq_flatMap.symm

/-- Quoted texts divided by bars are read one by one. -/
theorem takes_items {words : List (List Char)} {before : List (List Node)} (hwords : words ≠ [])
    (hfuel : ∀ word ∈ words, word.length + words.length + 1 ≤ fuel) :
    Takes (parseItems fuel none false false before) (List.intercalate ['|'] (words.map quote))
      (')' :: left) (before ++ words.map wordNodes) := by
  induction words generalizing fuel before with
  | nil => exact absurd rfl hwords
  | cons word words ih =>
    have hword := hfuel word List.mem_cons_self
    obtain ⟨fuel, rfl⟩ := Nat.exists_eq_add_of_le' (Nat.le_trans (Nat.le_add_left 1 _) hword)
    rw [List.length_cons] at hword
    cases words with
    | nil =>
      have h : Takes (parseItems (fuel + 1) none false false before) (quote word) (')' :: left)
          (before ++ [openPlainGroups (wordNodes word)]) :=
        takes_items_one (takes_word (.inr rfl) (by omega)) (by simp [firstToken?])
      rw [openPlainGroups_wordNodes] at h
      simpa [List.intercalate] using h
    | cons second words =>
      have hrest : Takes (parseItems fuel none false false
          (before ++ [openPlainGroups (wordNodes word)]))
          (List.intercalate ['|'] ((second :: words).map quote)) (')' :: left)
          (before ++ [openPlainGroups (wordNodes word)] ++
            (second :: words).map wordNodes) := by
        refine ih (List.cons_ne_nil _ _) fun w hw => ?_
        have hw := hfuel w (List.mem_cons_of_mem word hw)
        rw [List.length_cons] at hw
        omega
      rw [openPlainGroups_wordNodes, List.append_assoc] at hrest
      rw [parseItems, List.map_cons, List.map_cons, List.map_cons, List.intercalate_cons_cons,
        List.append_assoc]
      refine Takes.bind (p := []) takes_enter ?_
      refine Takes.bind (p := quote word) (takes_word (.inl rfl) (by omega)) ?_
      refine Takes.bind (p := ['|']) (takes_accept (by decide) (append_parenthesis_ne _ left)) ?_
      refine takes_get fun s _ => ?_
      rw [openPlainGroups_wordNodes]
      exact hrest

/-- The parenthesis that closes a group. -/
theorem takes_closeParenthesis (hleft : left ≠ ['\\']) :
    Takes (closeParenthesis start) [')'] left () := by
  rw [closeParenthesis]
  exact Takes.bind (p := [')']) (q := []) (takes_accept (by decide) hleft) (takes_pure ())

theorem takes_group_plain {body : List Node} (hleft : left ≠ ['\\'])
    (h : Takes (parseAlternatives fuel none false false) taken (')' :: left) body) :
    Takes (parseGroup (fuel + 1) none false start (.plain {} {})) (taken ++ [')']) left
      (.group none {} {} body) := by
  rw [parseGroup]
  refine Takes.bind h ?_
  exact Takes.bind (p := [')']) (q := []) (takes_closeParenthesis hleft) (takes_pure _)

/-- An assertion that looks behind notes the number of groups before it and forgets it again. -/
theorem takes_group_look {isBehind : Bool} {body : List Node} (hbody : body ≠ [])
    (hleft : left ≠ ['\\'])
    (h : Takes (parseAlternatives fuel none false false) taken (')' :: left) body) :
    Takes (parseGroup (fuel + 1) none false start (.look isBehind true)) (taken ++ [')']) left
      (.look isBehind true body) := by
  have hmembers : body.isEmpty = false := by simpa using hbody
  have hclose : Takes (closeParenthesis start >>= fun _ =>
      pure (if (true && body.isEmpty) = true then Node.fail else Node.look isBehind true body))
      [')'] left (.look isBehind true body) := by
    rw [hmembers]
    exact Takes.bind (p := [')']) (q := []) (takes_closeParenthesis hleft) (takes_pure _)
  intro s hhalves hs
  have hrest : s.text.toList.drop (s.index + taken.length) = [')'] ++ left := by
    rw [← List.drop_drop, hs, List.append_assoc, List.drop_left]
  rw [List.append_assoc] at hs
  have hend := hclose { s with index := s.index + taken.length } hhalves hrest
  rw [Nat.add_assoc, ← List.length_append] at hend
  rw [parseGroup, StateT.run_bind, StateT.run_get, pure_bind]
  by_cases hnote : (isBehind && s.lookbehindGroups.isNone) = true
  · have hnone : s.lookbehindGroups = none := by
      rw [Bool.and_eq_true, Option.isNone_iff_eq_none] at hnote
      exact hnote.2
    have hread := h { s with lookbehindGroups := some s.widths.size } hhalves hs
    rw [hnone] at hend
    simp only [hnote, if_true]
    rw [StateT.run_bind, StateT.run_modify, pure_bind, StateT.run_bind, hread, hnone]
    exact hend
  · have hread := h s hhalves hs
    simp only [hnote, Bool.false_eq_true, if_false]
    rw [StateT.run_bind, hread]
    exact hend

theorem takes_opening_plain (start : Nat) (left : List Char) (hleft : left ≠ ['\\']) :
    Takes (parseOpening start) ['?', ':'] left (.plain {} {}) := by
  refine Takes.bind (p := ['?']) (takes_accept (by decide) (by simp)) ?_
  exact Takes.bind (p := [':']) (q := []) (takes_next_plain (by decide) hleft) (takes_pure _)

theorem takes_opening_ahead (start : Nat) (left : List Char) (hleft : left ≠ ['\\']) :
    Takes (parseOpening start) ['?', '!'] left (.look false true) := by
  refine Takes.bind (p := ['?']) (takes_accept (by decide) (by simp)) ?_
  exact Takes.bind (p := ['!']) (q := []) (takes_next_plain (by decide) hleft) (takes_pure _)

theorem takes_opening_behind (start : Nat) (left : List Char) (hleft : left ≠ ['\\']) :
    Takes (parseOpening start) ['?', '<', '!'] left (.look true true) := by
  refine Takes.bind (p := ['?']) (takes_accept (by decide) (by simp)) ?_
  refine Takes.bind (p := ['<']) (takes_next_plain (by decide) (by simp)) ?_
  exact Takes.bind (p := ['!']) (q := []) (takes_next_plain (by decide) hleft) (takes_pure _)

theorem takes_sequence_group {isStart : Bool} {before nodes : List Node} {opening : Opening}
    {node : Node} {p q : List Char}
    (hopening : (∃ on off, opening = .plain on off) ∨
      ∃ isBehind isNegated, opening = .look isBehind isNegated)
    (hopen : ∀ start, Takes (parseOpening start) p (q ++ taken ++ left) opening)
    (hgroup : ∀ start, Takes (parseGroup fuel none false start opening) q (taken ++ left) node)
    (hleft : p ++ (q ++ taken) ++ left ≠ ['\\'])
    (h : Takes (parseSequence fuel none false isStart (before ++ [node])) taken left nodes) :
    Takes (parseSequence (fuel + 1) none false isStart before) ('(' :: (p ++ (q ++ taken))) left
      nodes := by
  rw [parseSequence]
  refine Takes.bind (p := []) takes_peek ?_
  have htoken : firstToken? ('(' :: (p ++ (q ++ taken)) ++ left) = some (.plain '(') := rfl
  rw [htoken]
  refine Takes.bind (p := ['(']) (takes_next_plain (by decide) hleft) ?_
  refine takes_get fun s _ => ?_
  refine Takes.bind (hopen _) ?_
  rcases hopening with ⟨on, off, rfl⟩ | ⟨isBehind, isNegated, rfl⟩
  · exact Takes.bind (hgroup _) h
  · exact Takes.bind (hgroup _) h

/-- A choice of quoted texts. -/
theorem takes_sequence_choice {isStart : Bool} {before nodes : List Node}
    {words : List (List Char)} (hwords : words ≠ [])
    (hfuel : ∀ word ∈ words, word.length + words.length + 1 ≤ fuel) (hleft : taken ++ left ≠ ['\\'])
    (h : Takes (parseSequence (fuel + 2) none false isStart (before ++ [.group none {} {}
      (joinAlternatives (words.map wordNodes))])) taken left
      nodes) :
    Takes (parseSequence (fuel + 3) none false isStart before)
      ('(' :: '?' :: ':' :: (List.intercalate ['|'] (words.map quote) ++ ')' :: taken)) left
      nodes := by
  have hitems : Takes (parseAlternatives (fuel + 1) none false false)
      (List.intercalate ['|'] (words.map quote)) (')' :: (taken ++ left))
      (joinAlternatives (words.map wordNodes)) :=
    takes_alternatives (takes_items hwords hfuel)
  have hread := takes_sequence_group (p := ['?', ':']) (.inl ⟨{}, {}, rfl⟩)
    (fun start => takes_opening_plain start _ ?_) (fun start => takes_group_plain hleft hitems) ?_ h
  · rwa [List.append_assoc] at hread
  · simpa using append_parenthesis_ne _ _
  · simp

/-- An assertion that a character of a set does not come next, or was not the last one. -/
theorem takes_sequence_look {isStart isBehind isNegated : Bool} {before nodes : List Node}
    {members : List Member} {p q : List Char}
    (hopen : ∀ start left, left ≠ ['\\'] → Takes (parseOpening start) p left (.look isBehind true))
    (hset : Takes parseSet q (')' :: (taken ++ left)) (.set isNegated members))
    (hleft : taken ++ left ≠ ['\\'])
    (h : Takes (parseSequence (fuel + 5) none false isStart
      (before ++ [.look isBehind true [.set isNegated members]])) taken left nodes) :
    Takes (parseSequence (fuel + 6) none false isStart before)
      ('(' :: (p ++ ('[' :: (q ++ ')' :: taken)))) left nodes := by
  have hsequence : Takes (parseSequence (fuel + 2) none false false []) ('[' :: (q ++ []))
      (')' :: (taken ++ left)) [.set isNegated members] :=
    takes_sequence_set hset (by simpa using append_parenthesis_ne q _)
      (takes_sequence_end (.inr (.inr rfl)))
  rw [List.append_nil] at hsequence
  have hbar : firstToken? (')' :: (taken ++ left)) ≠ some (.plain '|') := by
    simp [firstToken?]
  have hitems : Takes (parseItems (fuel + 3) none false false []) ('[' :: q)
      (')' :: (taken ++ left)) [[.set isNegated members]] :=
    @takes_items_one _ _ _ false [] _ hsequence hbar
  have hbody : Takes (parseAlternatives (fuel + 4) none false false) ('[' :: q)
      (')' :: (taken ++ left)) [.set isNegated members] :=
    takes_alternatives hitems
  have hread := takes_sequence_group (.inr ⟨isBehind, true, rfl⟩)
    (fun start => hopen start _ ?_)
    (fun start => takes_group_look (List.cons_ne_nil _ _) hleft hbody) ?_ h
  · simpa using hread
  · simp
  · intro hslash
    have hlength := congrArg List.length hslash
    simp only [List.length_append, List.length_cons, List.length_nil] at hlength
    omega

end Groups

-- ════════════════════════════════════════════════════════════════════════
-- Whole expressions
-- ════════════════════════════════════════════════════════════════════════

theorem run_goTo_start {text : List Char} {halves : List (Nat × Nat)} {named : Text.NameTable}
    (hne : text ≠ ['\\']) :
    (goTo 0).run (Scan.start text halves named) = pure ((), Scan.start text halves named) := by
  have hescape : (Scan.start text halves named).endsInEscape 0 = false := endsInEscape_eq_false hne
  simp only [goTo, StateT.run_bind, StateT.run_get, pure_bind, hescape, Bool.false_eq_true,
    if_false]
  rfl

theorem parse_eq_of_takes {text : List Char} {nodes : List Node} (hne : text ≠ ['\\'])
    (h : Takes (parseAlternatives (4 * text.length + 8) none false true) text [] nodes) :
    parse text = .ok { nodes, options := {}, widths := #[none] } := by
  obtain ⟨stop, hread, hpeek, hoptions, hwidths, hconditions⟩ : ∃ stop : Scan,
      (parseAlternatives (4 * text.length + 8) none false true).run (Scan.start text) =
        pure (nodes, stop) ∧ peek.run stop = pure (none, stop) ∧ stop.options = {} ∧
      stop.widths = #[none] ∧ stop.conditions = [] := by
    refine ⟨_, h (Scan.start text) rfl (List.append_nil text).symm, ?_, rfl, rfl, rfl⟩
    have hend : Takes peek [] [] none := takes_peek
    refine hend _ rfl ?_
    simp [Scan.start]
  have hsize : (Scan.start text).text.size = text.length := List.size_toArray
  rw [parse, parseWhole]
  simp only [StateT.run_bind, StateT.run_get, pure_bind, run_goTo_start hne, hsize, hread, hoptions,
    hwidths, hconditions, Bool.false_and, Bool.false_eq_true, if_false, hpeek, Option.isSome_none]
  rfl

end ChecklistReview.Regex
