import ChecklistReview.Proofs.Text.Lines
import ChecklistReview.Text.Utf8
import Mathlib.Data.List.Basic
import Mathlib.Data.List.TakeWhile

/-!
# Bytes and characters

Bytes are cut into pieces that make up the bytes again, and the bytes of a character are cut
into that character alone. Hence what is read with undecodable bytes kept is written as the
same bytes, and what is written is read as the same text.

## Main statements

* `nextPiece_cases`: what the first piece of bytes can be.
* `encodeLetters_decodeKeeping`: reading and writing bytes gives them back.
* `pieces_encode` and `decodeStrict_encode`: writing and reading a text gives it back.
* `lines_eq_map_decodeKeeping`: the lines of bytes are those of the text they are read as.
* `decodeReplacing_slice`: the bytes between two offsets that cut no character are the characters
  between them.
-/

namespace ChecklistReview.Text.Utf8

-- ════════════════════════════════════════════════════════════════════════
-- Bytes as numbers
-- ════════════════════════════════════════════════════════════════════════

theorem toNat_toUInt8 {n : Nat} (h : n < 256) : n.toUInt8.toNat = n := by
  simp only [Nat.toUInt8_eq, UInt8.toNat_ofNat', Nat.reducePow]
  omega

/-- A byte is the one that a number stands for. -/
theorem toUInt8_eq {n : Nat} {b : UInt8} (h : n = b.toNat) : n.toUInt8 = b := by
  rw [h]
  exact UInt8.ofNat_toNat

theorem isContinuation_iff {b : UInt8} :
    isContinuation b = true ↔ 0x80 ≤ b.toNat ∧ b.toNat ≤ 0xbf := by
  simp [isContinuation, UInt8.le_iff_toNat_le]

/-- What may come second, by numbers. -/
theorem maySecond_iff {a b : UInt8} :
    maySecond a b = true ↔ (0x80 ≤ b.toNat ∧ b.toNat ≤ 0xbf) ∧ (a.toNat = 0xe0 → 0xa0 ≤ b.toNat) ∧
      (a.toNat = 0xed → b.toNat < 0xa0) ∧ (a.toNat = 0xf0 → 0x90 ≤ b.toNat) ∧
      (a.toNat = 0xf4 → b.toNat < 0x90) := by
  simp only [maySecond, Bool.and_eq_true, isContinuation_iff, ← UInt8.toNat_inj,
    UInt8.le_iff_toNat_le, UInt8.lt_iff_toNat_lt, UInt8.reduceToNat]
  repeat' split
  all_goals simp only [decide_eq_true_eq, and_true]
  all_goals omega

/-- How many bytes follow, by numbers. -/
theorem followers?_eq_some_iff {b : UInt8} {count : Nat} :
    followers? b = some count ↔ (b.toNat < 0x80 ∧ count = 0) ∨
      ((0xc2 ≤ b.toNat ∧ b.toNat ≤ 0xdf) ∧ count = 1) ∨
      ((0xe0 ≤ b.toNat ∧ b.toNat ≤ 0xef) ∧ count = 2) ∨
      ((0xf0 ≤ b.toNat ∧ b.toNat ≤ 0xf4) ∧ count = 3) := by
  simp only [followers?, Bool.and_eq_true, decide_eq_true_eq, UInt8.le_iff_toNat_le,
    UInt8.lt_iff_toNat_lt, UInt8.reduceToNat]
  repeat' split
  all_goals simp only [Option.some.injEq, reduceCtorEq, false_iff]
  all_goals omega

-- ════════════════════════════════════════════════════════════════════════
-- The bytes of a character
-- ════════════════════════════════════════════════════════════════════════

/-- Bytes that are a character. -/
inductive IsCharacter : List UInt8 → Prop where
  | one {a : UInt8} (ha : a.toNat < 0x80) : IsCharacter [a]
  | two {a b : UInt8} (ha : 0xc2 ≤ a.toNat ∧ a.toNat ≤ 0xdf) (hb : maySecond a b = true) :
      IsCharacter [a, b]
  | three {a b c : UInt8} (ha : 0xe0 ≤ a.toNat ∧ a.toNat ≤ 0xef) (hb : maySecond a b = true)
      (hc : isContinuation c = true) : IsCharacter [a, b, c]
  | four {a b c d : UInt8} (ha : 0xf0 ≤ a.toNat ∧ a.toNat ≤ 0xf4) (hb : maySecond a b = true)
      (hc : isContinuation c = true) (hd : isContinuation d = true) : IsCharacter [a, b, c, d]

/-- The number of a character's bytes is one that characters have. -/
theorem IsCharacter.isValidChar {bytes : List UInt8} (h : IsCharacter bytes) :
    (codeOf bytes).isValidChar := by
  cases h with
  | one ha =>
    simp only [codeOf, Nat.isValidChar]
    omega
  | two ha hb =>
    simp only [codeOf, payload, Nat.isValidChar]
    omega
  | three ha hb hc =>
    rw [maySecond_iff] at hb
    simp only [codeOf, payload, Nat.isValidChar]
    omega
  | four ha hb hc hd =>
    rw [maySecond_iff] at hb
    simp only [codeOf, payload, Nat.isValidChar]
    omega

theorem toNat_ofNat {n : Nat} (h : n.isValidChar) : (Char.ofNat n).toNat = n := by
  rw [Char.ofNat, dif_pos h]
  rfl

/-- The bytes of a character are those it is written as. -/
theorem IsCharacter.encodeChar_eq {bytes : List UInt8} (h : IsCharacter bytes) :
    encodeChar (Char.ofNat (codeOf bytes)) = bytes := by
  have hcode := toNat_ofNat h.isValidChar
  generalize Char.ofNat (codeOf bytes) = x at hcode
  simp only [encodeChar]
  generalize x.toNat = n at hcode
  cases h with
  | one ha =>
    simp only [codeOf] at hcode
    rw [if_pos (by omega), toUInt8_eq hcode]
  | two ha hb =>
    rw [maySecond_iff] at hb
    simp only [codeOf, payload] at hcode
    rw [if_neg (by omega), if_pos (by omega)]
    simp only [List.cons.injEq, and_true]
    exact ⟨toUInt8_eq (by omega), toUInt8_eq (by omega)⟩
  | three ha hb hc =>
    rw [maySecond_iff] at hb
    rw [isContinuation_iff] at hc
    simp only [codeOf, payload] at hcode
    rw [if_neg (by omega), if_neg (by omega), if_pos (by omega)]
    simp only [List.cons.injEq, and_true]
    exact ⟨toUInt8_eq (by omega), toUInt8_eq (by omega), toUInt8_eq (by omega)⟩
  | four ha hb hc hd =>
    rw [maySecond_iff] at hb
    rw [isContinuation_iff] at hc hd
    simp only [codeOf, payload] at hcode
    rw [if_neg (by omega), if_neg (by omega), if_neg (by omega)]
    simp only [List.cons.injEq, and_true]
    exact ⟨toUInt8_eq (by omega), toUInt8_eq (by omega), toUInt8_eq (by omega),
      toUInt8_eq (by omega)⟩

/-- What a character is written as are its bytes. -/
theorem isCharacter_encodeChar (c : Char) :
    IsCharacter (encodeChar c) ∧ codeOf (encodeChar c) = c.toNat := by
  have hc : c.toNat.isValidChar := c.valid
  simp only [encodeChar]
  generalize c.toNat = n at hc
  simp only [Nat.isValidChar] at hc
  repeat' split
  · refine ⟨.one ?_, ?_⟩
    all_goals simp only [codeOf, toNat_toUInt8 (show n < 256 by omega)]
    omega
  · have ha := toNat_toUInt8 (show 0xc0 + n / 64 < 256 by omega)
    have hb := toNat_toUInt8 (show 0x80 + n % 64 < 256 by omega)
    refine ⟨.two ?_ (maySecond_iff.2 ?_), ?_⟩
    all_goals simp only [codeOf, payload, ha, hb]
    all_goals omega
  · have ha := toNat_toUInt8 (show 0xe0 + n / 4096 < 256 by omega)
    have hb := toNat_toUInt8 (show 0x80 + n / 64 % 64 < 256 by omega)
    have hd := toNat_toUInt8 (show 0x80 + n % 64 < 256 by omega)
    refine ⟨.three ?_ (maySecond_iff.2 ?_) (isContinuation_iff.2 ?_), ?_⟩
    all_goals simp only [codeOf, payload, ha, hb, hd]
    all_goals omega
  · have ha := toNat_toUInt8 (show 0xf0 + n / 262144 < 256 by omega)
    have hb := toNat_toUInt8 (show 0x80 + n / 4096 % 64 < 256 by omega)
    have hd := toNat_toUInt8 (show 0x80 + n / 64 % 64 < 256 by omega)
    have he := toNat_toUInt8 (show 0x80 + n % 64 < 256 by omega)
    refine ⟨.four ?_ (maySecond_iff.2 ?_) (isContinuation_iff.2 ?_) (isContinuation_iff.2 ?_), ?_⟩
    all_goals simp only [codeOf, payload, ha, hb, hd, he]
    all_goals omega

-- ════════════════════════════════════════════════════════════════════════
-- The first piece
-- ════════════════════════════════════════════════════════════════════════

/-- Bytes each of which may come next after those before it. -/
def Follows (taken : List UInt8) : List UInt8 → Prop
  | [] => True
  | b :: rest => mayFollow taken b = true ∧ Follows (taken ++ [b]) rest

theorem le_of_mayFollow {taken : List UInt8} {b : UInt8} (h : mayFollow taken b = true) :
    0x80 ≤ b.toNat := by
  unfold mayFollow at h
  split at h
  · exact (maySecond_iff.1 h).1.1
  · exact (isContinuation_iff.1 h).1

/-- The bytes that follow are taken until one may not, or until there are enough. -/
theorem take_cases (taken : List UInt8) (count : Nat) (bytes : List UInt8) :
    ∃ more tail, bytes = more ++ tail ∧ (∀ b ∈ more, 0x80 ≤ b.toNat) ∧
      ((Follows taken more ∧ more.length = count ∧
          take taken count bytes = (.char (Char.ofNat (codeOf (taken ++ more))), tail)) ∨
        ∃ flaw, take taken count bytes = (.bad (taken ++ more) flaw, tail)) := by
  induction count generalizing taken bytes with
  | zero => exact ⟨[], bytes, rfl, by simp, .inl ⟨trivial, rfl, by simp [take]⟩⟩
  | succ count ih =>
    cases bytes with
    | nil => exact ⟨[], [], rfl, by simp, .inr ⟨.truncated, by simp [take]⟩⟩
    | cons b rest =>
      by_cases hb : mayFollow taken b = true
      · obtain ⟨more, tail, rfl, hmore, h⟩ := ih (taken ++ [b]) rest
        refine ⟨b :: more, tail, rfl, ?_, ?_⟩
        · simpa using ⟨le_of_mayFollow hb, hmore⟩
        · simpa [take, hb, Follows] using h
      · exact ⟨[], b :: rest, rfl, by simp, .inr ⟨.continuation, by simp [take, hb]⟩⟩

/-- As many bytes as follow the first one of a character make it one. -/
theorem isCharacter_of_follows {b : UInt8} {more : List UInt8}
    (hb : followers? b = some more.length) (h : Follows [b] more) : IsCharacter (b :: more) := by
  rcases followers?_eq_some_iff.1 hb with
    ⟨ha, hlength⟩ | ⟨ha, hlength⟩ | ⟨ha, hlength⟩ | ⟨ha, hlength⟩
  · rw [List.length_eq_zero_iff.1 hlength]
    exact .one ha
  · obtain ⟨x, rfl⟩ := List.length_eq_one_iff.1 hlength
    exact .two ha h.1
  · obtain ⟨x, y, rfl⟩ := List.length_eq_two.1 hlength
    exact .three ha h.1 h.2.1
  · obtain ⟨x, y, z, rfl⟩ := List.length_eq_three.1 hlength
    exact .four ha h.1 h.2.1 h.2.2.1

/-- The first piece is a character, or bytes none of which is a character alone. -/
theorem nextPiece_cases (b : UInt8) (bytes : List UInt8) :
    ∃ more tail, bytes = more ++ tail ∧
      ((IsCharacter (b :: more) ∧
          nextPiece b bytes = (.char (Char.ofNat (codeOf (b :: more))), tail)) ∨
        ((∀ x ∈ b :: more, 0x80 ≤ x.toNat) ∧
          ∃ flaw, nextPiece b bytes = (.bad (b :: more) flaw, tail))) := by
  by_cases hb : b.toNat < 0x80
  · have hzero : followers? b = some 0 := followers?_eq_some_iff.2 (.inl ⟨hb, rfl⟩)
    exact ⟨[], bytes, rfl, .inl ⟨.one hb, by simp [nextPiece, hzero, take]⟩⟩
  cases hcount : followers? b with
  | none =>
    refine ⟨[], bytes, rfl, .inr ⟨?_, .start, by simp [nextPiece, hcount]⟩⟩
    simpa using hb
  | some count =>
    obtain ⟨more, tail, hbytes, hmore, h⟩ := take_cases [b] count bytes
    have hnext : nextPiece b bytes = take [b] count bytes := by simp [nextPiece, hcount]
    refine ⟨more, tail, hbytes, ?_⟩
    rw [hnext]
    rcases h with ⟨hfollows, rfl, h⟩ | h
    · exact .inl ⟨isCharacter_of_follows hcount hfollows, h⟩
    · exact .inr ⟨by simpa using ⟨Nat.le_of_not_lt hb, hmore⟩, h⟩

theorem IsCharacter.follows {b : UInt8} {more : List UInt8} (h : IsCharacter (b :: more)) :
    followers? b = some more.length ∧ Follows [b] more := by
  rw [followers?_eq_some_iff]
  cases h with
  | one ha => simp [ha, Follows]
  | two ha hb => simp [ha, hb, Follows, mayFollow]
  | three ha hb hc => simp [ha, hb, hc, Follows, mayFollow]
  | four ha hb hc hd => simp [ha, hb, hc, hd, Follows, mayFollow]

theorem take_of_follows {taken more : List UInt8} (h : Follows taken more) (rest : List UInt8) :
    take taken more.length (more ++ rest) =
      (.char (Char.ofNat (codeOf (taken ++ more))), rest) := by
  induction more generalizing taken with
  | nil => simp [take]
  | cons b more ih =>
    rw [List.length_cons, List.cons_append, take, if_pos h.1, ih h.2, List.append_assoc]
    rfl

/-- The bytes of a character are taken as that character. -/
theorem nextPiece_of_isCharacter {b : UInt8} {more : List UInt8} (h : IsCharacter (b :: more))
    (rest : List UInt8) :
    nextPiece b (more ++ rest) = (.char (Char.ofNat (codeOf (b :: more))), rest) := by
  obtain ⟨hcount, hfollows⟩ := h.follows
  rw [nextPiece, hcount]
  exact take_of_follows hfollows rest

theorem nextPiece_encodeChar (c : Char) (rest : List UInt8) :
    ∃ b more, encodeChar c = b :: more ∧ nextPiece b (more ++ rest) = (.char c, rest) := by
  obtain ⟨h, hcode⟩ := isCharacter_encodeChar c
  cases hbytes : encodeChar c with
  | nil =>
    rw [hbytes] at h
    cases h
  | cons b more =>
    rw [hbytes] at h hcode
    refine ⟨b, more, rfl, ?_⟩
    rw [nextPiece_of_isCharacter h, hcode, Char.ofNat_toNat]

-- ════════════════════════════════════════════════════════════════════════
-- Reading and writing
-- ════════════════════════════════════════════════════════════════════════

@[simp]
theorem pieces_nil : pieces [] = [] := by
  rw [pieces]

theorem pieces_cons (b : UInt8) (rest : List UInt8) :
    pieces (b :: rest) = (nextPiece b rest).1 :: pieces (nextPiece b rest).2 := by
  rw [pieces]

@[simp]
theorem encodeLetters_nil : encodeLetters [] = [] := rfl

@[simp]
theorem encodeLetters_append (text text' : List Letter) :
    encodeLetters (text ++ text') = encodeLetters text ++ encodeLetters text' :=
  List.flatMap_append

theorem encodeLetters_map_byte (bytes : List UInt8) : encodeLetters (bytes.map .byte) = bytes := by
  induction bytes with
  | nil => rfl
  | cons b bytes ih => simpa [encodeLetters, Letter.bytes] using ih

/-- The first piece is written as the bytes that it was taken from. -/
theorem encodeLetters_nextPiece (b : UInt8) (rest : List UInt8) :
    encodeLetters (nextPiece b rest).1.letters ++ (nextPiece b rest).2 = b :: rest := by
  obtain ⟨more, tail, rfl, ⟨hchar, h⟩ | ⟨-, flaw, h⟩⟩ := nextPiece_cases b rest
  · rw [h]
    simp [Piece.letters, encodeLetters, Letter.bytes, hchar.encodeChar_eq]
  · rw [h]
    simp only [Piece.letters, encodeLetters_map_byte, List.cons_append]

theorem decodeKeeping_cons (b : UInt8) (rest : List UInt8) :
    decodeKeeping (b :: rest) =
      (nextPiece b rest).1.letters ++ decodeKeeping (nextPiece b rest).2 := by
  simp only [decodeKeeping, pieces_cons, List.flatMap_cons]

/-- What is read with undecodable bytes kept is written as the bytes it was read from. -/
theorem encodeLetters_decodeKeeping (bytes : List UInt8) :
    encodeLetters (decodeKeeping bytes) = bytes := by
  induction bytes using pieces.induct with
  | case1 => simp [decodeKeeping]
  | case2 b rest ih =>
    rw [decodeKeeping_cons, encodeLetters_append, ih, encodeLetters_nextPiece]

/-- What is written is cut into the characters that were written, whatever follows. -/
theorem pieces_encode_append (text : List Char) (rest : List UInt8) :
    pieces (encode text ++ rest) = text.map .char ++ pieces rest := by
  induction text with
  | nil => simp [encode]
  | cons c text ih =>
    obtain ⟨b, more, hc, hnext⟩ := nextPiece_encodeChar c (encode text ++ rest)
    have hcons : encode (c :: text) ++ rest = b :: (more ++ (encode text ++ rest)) := by
      rw [encode, List.flatMap_cons, hc, List.append_assoc]
      rfl
    rw [hcons, pieces_cons, hnext, ih, List.map_cons, List.cons_append]

theorem pieces_encode (text : List Char) : pieces (encode text) = text.map .char := by
  simpa using pieces_encode_append text []

/-- What begins with the bytes of a text is written from something that begins with the text. -/
theorem exists_append_of_encode {before text : List Char} {rest : List UInt8}
    (h : encode text = encode before ++ rest) : ∃ after, text = before ++ after := by
  have hpieces := congrArg pieces h
  rw [pieces_encode, pieces_encode_append] at hpieces
  obtain ⟨first, after, rfl, hfirst, -⟩ := List.map_eq_append_iff.1 hpieces
  have hinjective : Function.Injective Piece.char := fun _ _ heq => Piece.char.inj heq
  exact ⟨after, by rw [List.map_injective_iff.2 hinjective hfirst]⟩

theorem charsOf_map_char (offset : Nat) (text : List Char) :
    charsOf offset (text.map .char) = .ok text := by
  induction text generalizing offset with
  | nil => rfl
  | cons c text ih =>
    rw [List.map_cons, charsOf, ih]
    rfl

/-- What is written is read as the text that was written. -/
theorem decodeStrict_encode (text : List Char) : decodeStrict (encode text) = .ok text := by
  rw [decodeStrict, pieces_encode, charsOf_map_char]

theorem eq_map_char_of_charsOf {offset : Nat} {ps : List Piece} {text : List Char}
    (h : charsOf offset ps = .ok text) : ps = text.map .char := by
  induction ps generalizing offset text with
  | nil =>
    cases h
    rfl
  | cons piece ps ih =>
    cases piece with
    | bad bytes flaw => exact nomatch h
    | char c =>
      rw [charsOf] at h
      cases hrest : charsOf (offset + (encodeChar c).length) ps with
      | error fault =>
        rw [hrest] at h
        exact nomatch h
      | ok more =>
        rw [hrest] at h
        cases h
        rw [ih hrest, List.map_cons]

/-- What is read as a text without faults is written from it. -/
theorem encode_of_decodeStrict {bytes : List UInt8} {text : List Char}
    (h : decodeStrict bytes = .ok text) : bytes = encode text := by
  have hpieces := eq_map_char_of_charsOf h
  have hkept := encodeLetters_decodeKeeping bytes
  rw [decodeKeeping, hpieces, List.flatMap_map, encodeLetters, List.flatMap_assoc] at hkept
  rw [← hkept, encode]
  simp [Piece.letters, Letter.bytes]

/-- A text without carriage returns has only line feeds for breaks. -/
theorem unifyBreaks_of_forall_ne {text : List Char} (h : ∀ c ∈ text, c ≠ '\r') :
    unifyBreaks text = text := by
  induction text with
  | nil => rfl
  | cons c text ih =>
    obtain ⟨hc, htext⟩ := List.forall_mem_cons.1 h
    rw [unifyBreaks, ih htext]
    · rintro rest rfl
      exact absurd rfl hc
    · exact hc

-- ════════════════════════════════════════════════════════════════════════
-- Lines of bytes
-- ════════════════════════════════════════════════════════════════════════

theorem unbroken_of_forall_le {bytes : List UInt8} (h : ∀ b ∈ bytes, 0x80 ≤ b.toNat) :
    Unbroken bytes := by
  intro b hb
  have hle := h b hb
  constructor
  · rintro rfl
    exact absurd hle (by decide)
  · rintro rfl
    exact absurd hle (by decide)

/-- The bytes of a character are a small one, or all are large. -/
theorem IsCharacter.small_or_large {bytes : List UInt8} (h : IsCharacter bytes) :
    (∃ a, bytes = [a]) ∨ ∀ b ∈ bytes, 0x80 ≤ b.toNat := by
  cases h with
  | one ha => exact .inl ⟨_, rfl⟩
  | two ha hb =>
    rw [maySecond_iff] at hb
    refine .inr ?_
    simp only [List.forall_mem_cons, List.not_mem_nil, false_implies, implies_true, and_true]
    omega
  | three ha hb hc =>
    rw [maySecond_iff] at hb
    rw [isContinuation_iff] at hc
    refine .inr ?_
    simp only [List.forall_mem_cons, List.not_mem_nil, false_implies, implies_true, and_true]
    omega
  | four ha hb hc hd =>
    rw [maySecond_iff] at hb
    rw [isContinuation_iff] at hc hd
    refine .inr ?_
    simp only [List.forall_mem_cons, List.not_mem_nil, false_implies, implies_true, and_true]
    omega

theorem unbroken_encodeChar {c : Char} (h : c ≠ '\r' ∧ c ≠ '\n') : Unbroken (encodeChar c) := by
  obtain ⟨hchar, hcode⟩ := isCharacter_encodeChar c
  rcases hchar.small_or_large with ⟨a, ha⟩ | hlarge
  · rw [ha] at hcode ⊢
    -- the one byte of a character has the number of the character
    have hc : Char.ofNat a.toNat = c := by
      rw [show a.toNat = c.toNat from hcode, Char.ofNat_toNat]
    intro b hb
    rw [List.mem_singleton.1 hb]
    constructor
    · rintro rfl
      exact h.1 hc.symm
    · rintro rfl
      exact h.2 hc.symm
  · exact unbroken_of_forall_le hlarge

theorem keepsBreaks_char (c : Char) : KeepsBreaks Letter.bytes (.char c) where
  cr_eq h := by
    rw [h]
    decide
  lf_eq h := by
    rw [h]
    decide
  ne_nil := by
    obtain ⟨b, more, h, -⟩ := nextPiece_encodeChar c []
    simp [Letter.bytes, h]
  unbroken h := by
    refine unbroken_encodeChar ⟨?_, ?_⟩
    · rintro rfl
      exact h.1 rfl
    · rintro rfl
      exact h.2 rfl

theorem keepsBreaks_byte {b : UInt8} (h : 0x80 ≤ b.toNat) : KeepsBreaks Letter.bytes (.byte b) where
  cr_eq h := nomatch h
  lf_eq h := nomatch h
  ne_nil := by simp [Letter.bytes]
  unbroken _ := unbroken_of_forall_le (by simpa [Letter.bytes] using h)

/-- A byte that is kept is no character of its own. -/
theorem le_of_mem_decodeKeeping {bytes : List UInt8} {x : UInt8}
    (h : Letter.byte x ∈ decodeKeeping bytes) : 0x80 ≤ x.toNat := by
  induction bytes using pieces.induct with
  | case1 => simp [decodeKeeping] at h
  | case2 b rest ih =>
    rw [decodeKeeping_cons, List.mem_append] at h
    rcases h with h | h
    · obtain ⟨more, tail, rfl, ⟨-, hnext⟩ | ⟨hlarge, flaw, hnext⟩⟩ := nextPiece_cases b rest
      · rw [hnext] at h
        cases List.mem_singleton.1 h
      · rw [hnext] at h
        obtain ⟨y, hy, heq⟩ := List.mem_map.1 h
        exact Letter.byte.inj heq ▸ hlarge y hy
    · exact ih h

/-- No halves of characters are read from bytes. -/
theorem half_not_mem_decodeKeeping {bytes : List UInt8} {code : Nat} :
    Letter.half code ∉ decodeKeeping bytes := by
  induction bytes using pieces.induct with
  | case1 => simp [decodeKeeping]
  | case2 b rest ih =>
    rw [decodeKeeping_cons, List.mem_append]
    refine not_or.2 ⟨?_, ih⟩
    cases (nextPiece b rest).1 <;> simp [Piece.letters]

/-- Letters without halves have bytes. -/
theorem unencodable?_eq_none {text : List Letter} (h : ∀ code, Letter.half code ∉ text) :
    unencodable? text = none := by
  have hall : ∀ l ∈ text, (!l.isHalf) = true := by
    intro l hl
    cases l with
    | half code => exact absurd hl (h code)
    | _ => rfl
  rw [unencodable?, List.dropWhile_eq_nil_iff.mpr hall]

/-- The letters that are read keep breaks apart: a byte that is no character is no break. -/
theorem keepsBreaks_of_mem_decodeKeeping {bytes : List UInt8} {l : Letter}
    (h : l ∈ decodeKeeping bytes) : KeepsBreaks Letter.bytes l := by
  cases l with
  | char c => exact keepsBreaks_char c
  | byte b => exact keepsBreaks_byte (le_of_mem_decodeKeeping h)
  | half code => exact absurd h half_not_mem_decodeKeeping

/-- The lines of bytes are the lines of the text that they are read as. -/
theorem lines_eq_map_decodeKeeping (bytes : List UInt8) :
    lines bytes = (lines (decodeKeeping bytes)).map (Line.flatMap Letter.bytes) := by
  rw [← lines_flatMap fun l hl => keepsBreaks_of_mem_decodeKeeping hl]
  exact congrArg lines (encodeLetters_decodeKeeping bytes).symm

-- ════════════════════════════════════════════════════════════════════════
-- Parts of a text by their bytes
-- ════════════════════════════════════════════════════════════════════════

theorem encode_append (before after : List Char) :
    encode (before ++ after) = encode before ++ encode after :=
  List.flatMap_append

theorem exists_append_of_decodeStrict {text before : List Char} {byte : Nat}
    (h : decodeStrict ((encode text).take byte) = .ok before) :
    ∃ after, text = before ++ after := by
  have hbytes : encode text = encode before ++ (encode text).drop byte := by
    rw [← encode_of_decodeStrict h, List.take_append_drop]
  exact exists_append_of_encode hbytes

theorem decodeReplacing_encode (text : List Char) : decodeReplacing (encode text) = text := by
  rw [decodeReplacing, pieces_encode, List.map_map]
  exact List.map_id text

/-- The bytes between two offsets that cut no character are the characters between them. -/
theorem decodeReplacing_slice {text before through : List Char} {first last : Nat}
    (hfirst : decodeStrict ((encode text).take first) = .ok before)
    (hlast : decodeStrict ((encode text).take last) = .ok through)
    (hle : before.length ≤ through.length) :
    decodeReplacing (((encode text).take last).drop first) =
      (text.drop before.length).take (through.length - before.length) := by
  obtain ⟨after, hafter⟩ := exists_append_of_decodeStrict hfirst
  obtain ⟨rest, hrest⟩ := exists_append_of_decodeStrict hlast
  have hbegins : before <+: through :=
    List.prefix_of_prefix_length_le ⟨after, hafter.symm⟩ ⟨rest, hrest.symm⟩ hle
  obtain ⟨middle, rfl⟩ := hbegins
  have hchars : (text.drop before.length).take ((before ++ middle).length - before.length) =
      middle := by
    rw [hrest, List.append_assoc, List.drop_left, List.length_append, Nat.add_sub_cancel_left,
      List.take_left]
  -- An offset beyond the last byte leaves as much as the last one does.
  have hsize : min first (encode text).length = (encode before).length := by
    rw [← List.length_take, encode_of_decodeStrict hfirst]
  have hdrop : ((encode text).take last).drop first =
      ((encode text).take last).drop (encode before).length := by
    have hmin : min first ((encode text).take last).length =
        min (encode before).length ((encode text).take last).length := by
      rw [List.length_take]
      omega
    rw [List.drop_eq_drop_min, hmin, ← List.drop_eq_drop_min]
  rw [hchars, hdrop, encode_of_decodeStrict hlast, encode_append, List.drop_left,
    decodeReplacing_encode]

end ChecklistReview.Text.Utf8
