import ChecklistReview.Proofs.Text.Utf8
import ChecklistReview.Source.Reading

/-!
# Lines of decoded files

A review reads a file with a replacement character for each run of bytes that is no character, and
a fix reads it with these bytes kept. The two texts differ in length and in letters, and yet line
numbers mean the same in both: cutting a file into lines commutes with either way to decode it.

A run of bytes that is no character may reach up to a break, and there the whole file and the line
alone differ in what is wrong with the run: a byte that does not continue it, or none at all. What
is read from the run does not depend on this. `KeepsCharacters` asks for that and for little more.

## Main statements

* `flatMap_pieces_append`: bytes before a small byte are read as if they stood alone.
* `splitLines_flatMap_pieces`: cutting into lines commutes with decoding.
* `review_and_fix_see_same_lines`: line numbers mean the same in a review and in a fix.
-/

namespace ChecklistReview.Text.Utf8

-- ════════════════════════════════════════════════════════════════════════
-- Bytes that continue nothing
-- ════════════════════════════════════════════════════════════════════════

/-- Bytes whose first one cannot continue a character. -/
def StartsAfresh (bytes : List UInt8) : Prop := ∀ b ∈ bytes.head?, b.toNat < 0x80

theorem StartsAfresh.mayFollow_eq_false {taken rest : List UInt8} {b : UInt8}
    (h : StartsAfresh (b :: rest)) : mayFollow taken b = false := by
  by_contra hfollow
  have hlarge : 0x80 ≤ b.toNat := le_of_mayFollow (by simpa using hfollow)
  have hsmall : b.toNat < 0x80 := h b rfl
  omega

/-- A way to write pieces in an alphabet that keeps characters. What it writes for other bytes
holds no break and does not depend on what is wrong with them. -/
structure KeepsCharacters {α : Type} [Alphabet α] (view : Piece → List α) : Prop where
  char_eq : ∀ c, view (.char c) = [Alphabet.ofChar c]
  flaw_eq : ∀ bytes flaw other, view (.bad bytes flaw) = view (.bad bytes other)
  ne_nil : ∀ {bytes}, bytes ≠ [] → ∀ flaw, view (.bad bytes flaw) ≠ []
  unbroken : ∀ bytes flaw, Unbroken (view (.bad bytes flaw))

variable {α : Type} [Alphabet α] {view : Piece → List α}

/-- One step of the decoder: bytes that start afresh add nothing to the piece before them. -/
theorem take_append (hview : KeepsCharacters view) {b : List UInt8} (hb : StartsAfresh b)
    (taken : List UInt8) (count : Nat) (a : List UInt8) :
    view (take taken count (a ++ b)).1 = view (take taken count a).1 ∧
      (take taken count (a ++ b)).2 = (take taken count a).2 ++ b := by
  induction count generalizing taken a with
  | zero => simp [take]
  | succ count ih =>
    cases a with
    | nil =>
      -- The bytes end here, and in the longer text a byte comes that does not continue them.
      cases b with
      | nil => exact ⟨rfl, rfl⟩
      | cons x rest =>
        have hstop : take taken (count + 1) (x :: rest) =
            (.bad taken .continuation, x :: rest) := by
          simp [take, hb.mayFollow_eq_false]
        rw [List.nil_append, hstop]
        exact ⟨hview.flaw_eq taken _ _, rfl⟩
    | cons x a =>
      rw [List.cons_append, take, take]
      by_cases hx : mayFollow taken x = true
      · rw [if_pos hx, if_pos hx]
        exact ih (taken ++ [x]) a
      · rw [if_neg hx, if_neg hx]
        exact ⟨rfl, rfl⟩

theorem nextPiece_append (hview : KeepsCharacters view) {b : List UInt8} (hb : StartsAfresh b)
    (x : UInt8) (a : List UInt8) :
    view (nextPiece x (a ++ b)).1 = view (nextPiece x a).1 ∧
      (nextPiece x (a ++ b)).2 = (nextPiece x a).2 ++ b := by
  unfold nextPiece
  split
  · exact ⟨rfl, rfl⟩
  · exact take_append hview hb [x] _ a

/-- Bytes before bytes that start afresh are read as if they stood alone. -/
theorem flatMap_pieces_append (hview : KeepsCharacters view) (a : List UInt8) {b : List UInt8}
    (hb : StartsAfresh b) :
    (pieces (a ++ b)).flatMap view = (pieces a).flatMap view ++ (pieces b).flatMap view := by
  induction a using pieces.induct with
  | case1 => simp
  | case2 x rest ih =>
    obtain ⟨hfirst, hrest⟩ := nextPiece_append hview hb x rest
    rw [List.cons_append, pieces_cons, pieces_cons, hrest, List.flatMap_cons, List.flatMap_cons, ih,
      hfirst, List.append_assoc]

-- ════════════════════════════════════════════════════════════════════════
-- Characters among the pieces
-- ════════════════════════════════════════════════════════════════════════

/-- The first piece is a character only if the bytes begin with those of the character. -/
theorem encodeChar_prefix_of_nextPiece {b : UInt8} {rest : List UInt8} {c : Char}
    (h : (nextPiece b rest).1 = .char c) : b :: rest = encodeChar c ++ (nextPiece b rest).2 := by
  have hwritten := encodeLetters_nextPiece b rest
  rw [h] at hwritten
  simpa [Piece.letters, encodeLetters, Letter.bytes] using hwritten.symm

/-- The bytes of a character that is read are among those it is read from. -/
theorem encodeChar_subset_of_mem_pieces {bytes : List UInt8} {c : Char}
    (h : Piece.char c ∈ pieces bytes) : encodeChar c ⊆ bytes := by
  induction bytes using pieces.induct with
  | case1 => simp at h
  | case2 b rest ih =>
    have hwhole := encodeLetters_nextPiece b rest
    rw [pieces_cons] at h
    intro x hx
    rcases List.mem_cons.mp h with hfirst | hlater
    · rw [encodeChar_prefix_of_nextPiece hfirst.symm]
      exact List.mem_append_left _ hx
    · rw [← hwhole]
      exact List.mem_append_right _ (ih hlater hx)

theorem pieces_cons_of_small {b : UInt8} (hb : b.toNat < 0x80) (rest : List UInt8) :
    pieces (b :: rest) = .char (Char.ofNat b.toNat) :: pieces rest := by
  have hnext : nextPiece b rest = (.char (Char.ofNat b.toNat), rest) :=
    nextPiece_of_isCharacter (.one hb) rest
  rw [pieces_cons, hnext]

/-- Small bytes are characters of their own, whatever follows. -/
theorem pieces_append_of_small {a : List UInt8} (ha : ∀ b ∈ a, b.toNat < 0x80) (rest : List UInt8) :
    pieces (a ++ rest) = pieces a ++ pieces rest := by
  induction a with
  | nil => simp
  | cons b a ih =>
    obtain ⟨hb, ha⟩ := List.forall_mem_cons.mp ha
    rw [List.cons_append, pieces_cons_of_small hb, pieces_cons_of_small hb, ih ha, List.cons_append]

-- ════════════════════════════════════════════════════════════════════════
-- Lines
-- ════════════════════════════════════════════════════════════════════════

/-- Bytes without breaks are read as a text without breaks. -/
theorem unbroken_flatMap_pieces (hview : KeepsCharacters view) {bytes : List UInt8}
    (h : Unbroken bytes) : Unbroken ((pieces bytes).flatMap view) := by
  intro l hl
  obtain ⟨piece, hpiece, hl⟩ := List.mem_flatMap.mp hl
  cases piece with
  | bad run flaw => exact hview.unbroken run flaw l hl
  | char c =>
    rw [hview.char_eq, List.mem_singleton] at hl
    have hbytes := encodeChar_subset_of_mem_pieces hpiece
    constructor
    · intro hcr
      obtain rfl : c = '\r' := Alphabet.ofChar_inj (hl.symm.trans hcr)
      exact (h 13 (hbytes (by decide))).1 rfl
    · intro hlf
      obtain rfl : c = '\n' := Alphabet.ofChar_inj (hl.symm.trans hlf)
      exact (h 10 (hbytes (by decide))).2 rfl

/-- Bytes that do not begin with a line feed are read as a text that does not. -/
theorem head?_flatMap_pieces_ne_lf (hview : KeepsCharacters view) {bytes : List UInt8}
    (h : bytes.head? ≠ some lf) : ((pieces bytes).flatMap view).head? ≠ some lf := by
  cases bytes with
  | nil => simp
  | cons b rest =>
    rw [pieces_cons, List.flatMap_cons]
    intro hlf
    obtain ⟨more, tail, -, ⟨-, hnext⟩ | ⟨-, flaw, hnext⟩⟩ := nextPiece_cases b rest
    · have hchar := encodeChar_prefix_of_nextPiece (congrArg Prod.fst hnext)
      rw [hnext] at hlf hchar
      generalize Char.ofNat (codeOf (b :: more)) = c at hlf hchar
      rw [hview.char_eq] at hlf
      obtain rfl : c = '\n' := Alphabet.ofChar_inj (Option.some.inj hlf)
      exact h (by rw [hchar]; rfl)
    · rw [hnext] at hlf
      obtain ⟨l, letters, hl⟩ :=
        List.exists_cons_of_ne_nil (hview.ne_nil (List.cons_ne_nil b more) flaw)
      have hbreak := hview.unbroken (b :: more) flaw l (by rw [hl]; exact List.mem_cons_self)
      rw [hl] at hlf
      exact hbreak.2 (Option.some.inj hlf)

theorem small_of_isBreak {ending : List UInt8} (h : IsBreak ending) :
    ∀ b ∈ ending, b.toNat < 0x80 := by
  have hcr : (cr : UInt8).toNat < 0x80 := by decide
  have hlf : (lf : UInt8).toNat < 0x80 := by decide
  rcases h with rfl | rfl | rfl
  · simp [hcr, hlf]
  · simp [hcr]
  · simp [hlf]

theorem startsAfresh_of_isBreak {ending : List UInt8} (h : IsBreak ending) (rest : List UInt8) :
    StartsAfresh (ending ++ rest) := by
  obtain ⟨b, more, rfl⟩ := List.exists_cons_of_ne_nil h.ne_nil
  intro x hx
  obtain rfl := Option.some.inj hx
  exact small_of_isBreak h b List.mem_cons_self

theorem flatMap_pieces_cons_of_small (hview : KeepsCharacters view) {b : UInt8}
    (hb : b.toNat < 0x80) (rest : List UInt8) :
    (pieces (b :: rest)).flatMap view =
      Alphabet.ofChar (Char.ofNat b.toNat) :: (pieces rest).flatMap view := by
  rw [pieces_cons_of_small hb, List.flatMap_cons, hview.char_eq]
  rfl

/-- A break is read as the same break. -/
theorem isBreak_flatMap_pieces (hview : KeepsCharacters view) {ending : List UInt8}
    (h : IsBreak ending) :
    IsBreak ((pieces ending).flatMap view) ∧
      ((pieces ending).flatMap view = [cr] → ending = [cr]) := by
  have hcr : ∀ rest, (pieces (cr :: rest)).flatMap view = cr :: (pieces rest).flatMap view :=
    flatMap_pieces_cons_of_small hview (by decide)
  have hlf : ∀ rest, (pieces (lf :: rest)).flatMap view = lf :: (pieces rest).flatMap view :=
    flatMap_pieces_cons_of_small hview (by decide)
  rcases h with rfl | rfl | rfl
  · rw [hcr, hlf, pieces_nil]
    exact ⟨.inl rfl, fun heq => absurd (congrArg List.length heq) (by simp)⟩
  · rw [hcr, pieces_nil]
    exact ⟨.inr (.inl rfl), fun _ => rfl⟩
  · rw [hlf, pieces_nil]
    exact ⟨.inr (.inr rfl), fun heq => absurd (List.cons.inj heq).1.symm Breaks.cr_ne_lf⟩

variable [DecidableEq α]

/-- What a cut is read as is cut in the same way. Each break of the cut starts afresh, so the line
before it is read alone. -/
theorem lines_flatMap_pieces_join (hview : KeepsCharacters view) {ls : List (Line UInt8)}
    (h : Cut ls) :
    lines ((pieces (join ls)).flatMap view) =
      ls.map fun l => ⟨(pieces l.content).flatMap view, (pieces l.ending).flatMap view⟩ := by
  induction h with
  | last hc => simpa using lines_of_unbroken (unbroken_flatMap_pieces hview hc)
  | @cons content ending rest hc he hr _ ih =>
    obtain ⟨hbreak, hcr⟩ := isBreak_flatMap_pieces hview he
    have hread : (pieces (join (⟨content, ending⟩ :: rest))).flatMap view =
        (pieces content).flatMap view ++
          ((pieces ending).flatMap view ++ (pieces (join rest)).flatMap view) := by
      rw [join_cons, flatMap_pieces_append hview content (startsAfresh_of_isBreak he _),
        pieces_append_of_small (small_of_isBreak he), List.flatMap_append]
    rw [hread, lines_append_break (unbroken_flatMap_pieces hview hc) hbreak, ih, List.map_cons]
    intro heq
    exact head?_flatMap_pieces_ne_lf hview (hr (hcr heq))

/-- The lines of a decoded file are the lines of its bytes, decoded one by one. -/
theorem splitLines_flatMap_pieces (hview : KeepsCharacters view) (bytes : List UInt8) :
    splitLines ((pieces bytes).flatMap view) =
      (splitLines bytes).map fun line => (pieces line).flatMap view := by
  have hlines := lines_flatMap_pieces_join hview (cut_lines bytes)
  rw [join_lines] at hlines
  rw [splitLines, hlines, splitLines, List.map_map, List.map_map]
  rfl

-- ════════════════════════════════════════════════════════════════════════
-- The two decoders
-- ════════════════════════════════════════════════════════════════════════

theorem keepsCharacters_letters : KeepsCharacters Piece.letters where
  char_eq _ := rfl
  flaw_eq _ _ _ := rfl
  ne_nil h _ := by simpa [Piece.letters] using h
  unbroken bytes flaw := by
    intro l hl
    obtain ⟨b, -, rfl⟩ := List.mem_map.mp hl
    constructor
    · intro h
      cases h
    · intro h
      cases h

theorem keepsCharacters_shown : KeepsCharacters fun piece => [piece.shown] where
  char_eq _ := rfl
  flaw_eq _ _ _ := rfl
  ne_nil _ _ := List.cons_ne_nil _ _
  unbroken bytes flaw := by
    intro c hc
    obtain rfl := List.mem_singleton.mp hc
    change replacement ≠ '\r' ∧ replacement ≠ '\n'
    decide

theorem splitLines_decodeKeeping (bytes : List UInt8) :
    splitLines (decodeKeeping bytes) = (splitLines bytes).map decodeKeeping :=
  splitLines_flatMap_pieces keepsCharacters_letters bytes

theorem splitLines_decodeReplacing (bytes : List UInt8) :
    splitLines (decodeReplacing bytes) = (splitLines bytes).map decodeReplacing := by
  have hdecode : decodeReplacing = fun b => (pieces b).flatMap fun piece => [piece.shown] :=
    funext fun b => List.map_eq_flatMap
  rw [hdecode]
  exact splitLines_flatMap_pieces keepsCharacters_shown bytes

theorem encodeLetters_map_char (text : List Char) :
    encodeLetters (text.map .char) = encode text := by
  rw [encodeLetters, List.flatMap_map]
  rfl

/-- The two decoders give the same text exactly for the bytes of a text. -/
theorem decodeKeeping_eq_map_char_iff {bytes : List UInt8} :
    decodeKeeping bytes = (decodeReplacing bytes).map .char ↔ ∃ text, bytes = encode text := by
  constructor
  · intro h
    refine ⟨decodeReplacing bytes, ?_⟩
    rw [← encodeLetters_map_char, ← h, encodeLetters_decodeKeeping]
  · rintro ⟨text, rfl⟩
    rw [decodeKeeping, decodeReplacing, pieces_encode, List.flatMap_map, List.map_map, List.map_map,
      List.map_eq_flatMap]
    rfl

/-- Review and fix see the same lines of a file. A review reads its bytes with replacement
characters and a fix with the bytes that are none kept, and both texts are cut into the decoded
lines of the bytes. So both have the same number of lines; a line of one and the line of the same
number of the other are read from the same bytes; and these are the same text exactly if the bytes
are those of a text. -/
theorem review_and_fix_see_same_lines (bytes : List UInt8) :
    (∀ (read : Source.Reader) (path : Path), read path = .ok bytes →
      (Source.readText read path).value = some (String.ofList (decodeReplacing bytes)) ∧
      (Source.readBytes read path).value = some bytes) ∧
    splitLines (decodeReplacing bytes) = (splitLines bytes).map decodeReplacing ∧
    splitLines (decodeKeeping bytes) = (splitLines bytes).map decodeKeeping ∧
    (splitLines (decodeReplacing bytes)).length = (splitLines (decodeKeeping bytes)).length ∧
    ∀ (index : Nat) (reviewed : List Char) (mended : List Letter),
      (splitLines (decodeReplacing bytes))[index]? = some reviewed →
      (splitLines (decodeKeeping bytes))[index]? = some mended →
      (splitLines bytes)[index]? = some (encodeLetters mended) ∧
      reviewed = decodeReplacing (encodeLetters mended) ∧
      (mended = reviewed.map .char ↔ ∃ text, encodeLetters mended = encode text) := by
  rw [splitLines_decodeReplacing, splitLines_decodeKeeping]
  refine ⟨?_, rfl, rfl, by rw [List.length_map, List.length_map], ?_⟩
  · intro read path hread
    have hbytes : (Source.readBytes read path).value = some bytes := by
      rw [Source.readBytes, hread]
      rfl
    refine ⟨?_, hbytes⟩
    rw [Source.readText, Logged.value_bind, hbytes]
    rfl
  · intro index reviewed mended hreviewed hmended
    rw [List.getElem?_map, Option.map_eq_some_iff] at hreviewed hmended
    obtain ⟨line, hline, rfl⟩ := hreviewed
    obtain ⟨line', hline', rfl⟩ := hmended
    obtain rfl : line = line' := Option.some.inj (hline.symm.trans hline')
    rw [encodeLetters_decodeKeeping]
    exact ⟨hline, rfl, decodeKeeping_eq_map_char_iff⟩

/-- A character that breaks off at a line break is read as one replacement character by a review and
as two bytes by a fix, and the next line is the same in both. -/
theorem review_and_fix_see_same_lines_after_truncation :
    let bytes : List UInt8 := [0x61, 0xe2, 0x82, 13, 10, 0xc3, 0xa9, 13, 0x80]
    (Source.readText (fun _ => .ok bytes) ⟨.relative, ["a.ts"]⟩).value = some "a�\r\né\r�" ∧
    (splitLines (decodeKeeping bytes)).length = 3 ∧
    (splitLines bytes)[0]? = some [0x61, 0xe2, 0x82] ∧
    (splitLines bytes)[1]? = some [0xc3, 0xa9] ∧
    ∃ text, [0xc3, 0xa9] = encode text := by
  intro bytes
  have hdecoded : decodeReplacing bytes = "a�\r\né\r�".toList := by decide +kernel
  have hthree : (splitLines (decodeReplacing bytes)).length = 3 := by decide +kernel
  obtain ⟨hread, -, -, hlength, hlines⟩ := review_and_fix_see_same_lines bytes
  obtain ⟨htext, -⟩ := hread (fun _ => .ok bytes) ⟨.relative, ["a.ts"]⟩ rfl
  obtain ⟨hfirst, -, -⟩ :=
    hlines 0 ['a', '�'] [.char 'a', .byte 0xe2, .byte 0x82] (by decide +kernel) (by decide +kernel)
  obtain ⟨hsecond, -, hsame⟩ := hlines 1 ['é'] [.char 'é'] (by decide +kernel) (by decide +kernel)
  refine ⟨?_, hlength.symm.trans hthree, hfirst, hsecond, hsame.mp rfl⟩
  rw [htext, hdecoded, String.ofList_toList]

end ChecklistReview.Text.Utf8
