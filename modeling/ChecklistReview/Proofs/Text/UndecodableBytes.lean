import ChecklistReview.Proofs.Text.DecodedLines

/-!
# Bytes that are no characters

`Decoded` says what the two texts of bytes are, by the bytes that characters are written as and
without the tables of the decoder. Wherever a character begins it is read. Elsewhere a run of bytes
is refused, which is as much as some character begins with and at least one byte. Such a run is one
replacement character in the text for reviews, and its bytes in the text for fixes.

The decoder looks at one byte after another and stops at the first one that its tables do not allow.
Such a run would be too short if the tables were too narrow, and too long if they allowed bytes that
lead nowhere. `isBeginning_cons_iff` excludes both: what they allow can be completed to a character,
and nothing else can.

## Main statements

* `isBeginning_cons_iff`: the tables tell what characters begin with.
* `isRefused_of_nextPiece`: what the decoder refuses is as long as it can be.
* `decoded_iff`: the two texts of bytes are the ones that `Decoded` describes.
* `undecodable_bytes_survive`: the text for fixes loses nothing.
-/

namespace ChecklistReview.Text.Utf8

-- ════════════════════════════════════════════════════════════════════════
-- What characters begin with
-- ════════════════════════════════════════════════════════════════════════

/-- Bytes that some character begins with. -/
def IsBeginning (bytes : List UInt8) : Prop := ∃ c, bytes <+: encodeChar c

theorem follows_append {taken more more' : List UInt8} :
    Follows taken (more ++ more') ↔ Follows taken more ∧ Follows (taken ++ more) more' := by
  induction more generalizing taken with
  | nil => simp [Follows]
  | cons b more ih => simp [Follows, ih, and_assoc]

/-- Whatever was taken, some byte may follow. -/
theorem exists_mayFollow (taken : List UInt8) : ∃ b, mayFollow taken b = true := by
  rcases taken with _ | ⟨first, _ | ⟨second, taken⟩⟩
  · exact ⟨0x80, rfl⟩
  · by_cases hfirst : first.toNat = 0xe0 ∨ first.toNat = 0xf0
    · refine ⟨0xa0, maySecond_iff.mpr ?_⟩
      simp only [UInt8.reduceToNat]
      omega
    · refine ⟨0x80, maySecond_iff.mpr ?_⟩
      simp only [UInt8.reduceToNat]
      omega
  · exact ⟨0x80, rfl⟩

theorem exists_follows (taken : List UInt8) (count : Nat) :
    ∃ more, more.length = count ∧ Follows taken more := by
  induction count generalizing taken with
  | zero => exact ⟨[], rfl, trivial⟩
  | succ count ih =>
    obtain ⟨b, hb⟩ := exists_mayFollow taken
    obtain ⟨more, hlength, hmore⟩ := ih (taken ++ [b])
    exact ⟨b :: more, by simp [hlength], hb, hmore⟩

/-- The tables of the decoder tell what characters begin with. -/
theorem isBeginning_cons_iff {b : UInt8} {more : List UInt8} :
    IsBeginning (b :: more) ↔
      ∃ count, followers? b = some count ∧ more.length ≤ count ∧ Follows [b] more := by
  constructor
  · rintro ⟨c, tail, htail⟩
    obtain ⟨hchar, -⟩ := isCharacter_encodeChar c
    rw [← htail] at hchar
    obtain ⟨hcount, hfollows⟩ := hchar.follows
    exact ⟨_, hcount, by simp, (follows_append.mp hfollows).1⟩
  · rintro ⟨count, hcount, hle, hfollows⟩
    obtain ⟨tail, hlength, htail⟩ := exists_follows ([b] ++ more) (count - more.length)
    have hwhole : followers? b = some (more ++ tail).length := by
      rw [hcount, List.length_append, hlength]
      congr 1
      omega
    have hchar : IsCharacter (b :: (more ++ tail)) :=
      isCharacter_of_follows hwhole (follows_append.mpr ⟨hfollows, htail⟩)
    refine ⟨Char.ofNat (codeOf (b :: (more ++ tail))), tail, ?_⟩
    rw [hchar.encodeChar_eq, List.cons_append]

-- ════════════════════════════════════════════════════════════════════════
-- Runs that are refused
-- ════════════════════════════════════════════════════════════════════════

/-- A run of bytes that is refused before others: no character begins there, and the run is as much
as some character begins with, but at least one byte. -/
structure IsRefused (run rest : List UInt8) : Prop where
  ne_nil : run ≠ []
  no_character : ∀ c, ¬ encodeChar c <+: run ++ rest
  begins : run.length = 1 ∨ IsBeginning run
  longest : ∀ longer, longer <+: run ++ rest → IsBeginning longer → longer.length ≤ run.length

theorem IsRefused.length_le {run rest run' rest' : List UInt8} (h : IsRefused run rest)
    (h' : IsRefused run' rest') (heq : run ++ rest = run' ++ rest') : run.length ≤ run'.length := by
  rcases h.begins with hone | hbegins
  · rw [hone]
    exact List.length_pos_iff.mpr h'.ne_nil
  · apply h'.longest run _ hbegins
    rw [← heq]
    exact List.prefix_append run rest

theorem IsRefused.unique {run rest run' rest' : List UInt8} (h : IsRefused run rest)
    (h' : IsRefused run' rest') (heq : run ++ rest = run' ++ rest') :
    run = run' ∧ rest = rest' := by
  apply List.append_inj heq
  exact Nat.le_antisymm (h.length_le h' heq) (h'.length_le h heq.symm)

/-- Bytes are refused at the first one that may not follow, or where they end. -/
theorem exists_of_take_eq_bad {taken bytes run tail : List UInt8} {count : Nat} {flaw : Flaw}
    (h : take taken count bytes = (.bad run flaw, tail)) :
    ∃ more, run = taken ++ more ∧ bytes = more ++ tail ∧ Follows taken more ∧
      more.length < count ∧ ∀ x ∈ tail.head?, mayFollow run x = false := by
  induction count generalizing taken bytes with
  | zero =>
    rw [take] at h
    cases h
  | succ count ih =>
    cases bytes with
    | nil =>
      rw [take] at h
      cases h
      exact ⟨[], by simp, rfl, trivial, Nat.succ_pos count, by simp⟩
    | cons b rest =>
      rw [take] at h
      by_cases hb : mayFollow taken b = true
      · rw [if_pos hb] at h
        obtain ⟨more, rfl, rfl, hmore, hlt, hstop⟩ := ih h
        exact ⟨b :: more, by simp, rfl, ⟨hb, hmore⟩, Nat.succ_lt_succ hlt, hstop⟩
      · rw [if_neg hb] at h
        cases h
        exact ⟨[], by simp, rfl, trivial, Nat.succ_pos count, by simpa using hb⟩

/-- At the bytes of a character the decoder does not refuse. -/
theorem not_encodeChar_prefix_of_nextPiece {b : UInt8} {bytes run tail : List UInt8} {flaw : Flaw}
    (h : nextPiece b bytes = (.bad run flaw, tail)) (c : Char) :
    ¬ encodeChar c <+: b :: bytes := by
  rintro ⟨rest, hrest⟩
  obtain ⟨first, more, hc, hnext⟩ := nextPiece_encodeChar c rest
  rw [hc, List.cons_append] at hrest
  obtain ⟨rfl, rfl⟩ := List.cons.inj hrest
  rw [hnext] at h
  cases h

/-- What the decoder refuses is as long as it can be. -/
theorem isRefused_of_nextPiece {b : UInt8} {bytes run tail : List UInt8} {flaw : Flaw}
    (h : nextPiece b bytes = (.bad run flaw, tail)) :
    b :: bytes = run ++ tail ∧ IsRefused run tail := by
  have hno := not_encodeChar_prefix_of_nextPiece h
  unfold nextPiece at h
  cases hcount : followers? b with
  | none =>
    rw [hcount] at h
    cases h
    refine ⟨rfl, List.cons_ne_nil _ _, hno, .inl rfl, ?_⟩
    intro longer hlonger hbegins
    cases longer with
    | nil => exact Nat.zero_le _
    | cons x more =>
      obtain ⟨rfl, -⟩ := List.cons_prefix_cons.mp hlonger
      obtain ⟨count, hsome, -⟩ := isBeginning_cons_iff.mp hbegins
      cases hcount.symm.trans hsome
  | some count =>
    rw [hcount] at h
    obtain ⟨more, rfl, rfl, hfollows, hlt, hstop⟩ := exists_of_take_eq_bad h
    have hbegins : IsBeginning (b :: more) :=
      isBeginning_cons_iff.mpr ⟨count, hcount, Nat.le_of_lt hlt, hfollows⟩
    refine ⟨rfl, List.cons_ne_nil _ _, hno, .inr hbegins, ?_⟩
    intro longer hlonger hlongerBegins
    apply Nat.le_of_not_lt
    intro hlonger'
    -- A longer beginning would take the byte at which the decoder stops.
    obtain ⟨next, rfl⟩ : [b] ++ more <+: longer :=
      List.prefix_of_prefix_length_le (List.prefix_append _ tail) hlonger (Nat.le_of_lt hlonger')
    cases next with
    | nil => simp at hlonger'
    | cons x next =>
      obtain ⟨rest, rfl⟩ := (List.prefix_append_right_inj _).mp hlonger
      obtain ⟨-, -, -, hall⟩ := isBeginning_cons_iff.mp hlongerBegins
      have htaken : mayFollow ([b] ++ more) x = true := (follows_append.mp hall).2.1
      rw [hstop x rfl] at htaken
      cases htaken

-- ════════════════════════════════════════════════════════════════════════
-- The two texts of bytes
-- ════════════════════════════════════════════════════════════════════════

/-- Bytes, the text with those kept that are no characters, and the text with replacement
characters for them. -/
inductive Decoded : List UInt8 → List Letter → List Char → Prop where
  | nil : Decoded [] [] []
  | char (c : Char) {rest : List UInt8} {kept : List Letter} {shown : List Char}
      (h : Decoded rest kept shown) : Decoded (encodeChar c ++ rest) (.char c :: kept) (c :: shown)
  | refused {run rest : List UInt8} {kept : List Letter} {shown : List Char}
      (hrun : IsRefused run rest) (h : Decoded rest kept shown) :
      Decoded (run ++ rest) (run.map .byte ++ kept) (replacement :: shown)

theorem decodeReplacing_cons (b : UInt8) (rest : List UInt8) :
    decodeReplacing (b :: rest) =
      (nextPiece b rest).1.shown :: decodeReplacing (nextPiece b rest).2 := by
  simp only [decodeReplacing, pieces_cons, List.map_cons]

theorem decoded_decodeKeeping_decodeReplacing (bytes : List UInt8) :
    Decoded bytes (decodeKeeping bytes) (decodeReplacing bytes) := by
  induction bytes using pieces.induct with
  | case1 =>
    rw [decodeKeeping, decodeReplacing, pieces_nil]
    exact .nil
  | case2 b rest ih =>
    rw [decodeKeeping_cons, decodeReplacing_cons]
    cases hnext : nextPiece b rest with
    | mk piece tail =>
      rw [hnext] at ih
      cases piece with
      | char c =>
        have hbytes : b :: rest = encodeChar c ++ tail := by
          simpa only [hnext] using encodeChar_prefix_of_nextPiece (congrArg Prod.fst hnext)
        rw [hbytes]
        exact .char c ih
      | bad run flaw =>
        obtain ⟨hbytes, hrun⟩ := isRefused_of_nextPiece hnext
        rw [hbytes]
        exact .refused hrun ih

theorem pieces_encodeChar_append (c : Char) (rest : List UInt8) :
    pieces (encodeChar c ++ rest) = .char c :: pieces rest := by
  simpa [encode] using pieces_encode_append [c] rest

/-- A run that is refused is one piece. -/
theorem IsRefused.pieces_append {run rest : List UInt8} (h : IsRefused run rest) :
    ∃ flaw, pieces (run ++ rest) = .bad run flaw :: pieces rest := by
  obtain ⟨b, more, rfl⟩ := List.exists_cons_of_ne_nil h.ne_nil
  rw [List.cons_append, pieces_cons]
  cases hnext : nextPiece b (more ++ rest) with
  | mk piece tail =>
    cases piece with
    | char c =>
      refine absurd ⟨tail, ?_⟩ (h.no_character c)
      rw [List.cons_append]
      simpa only [hnext] using (encodeChar_prefix_of_nextPiece (congrArg Prod.fst hnext)).symm
    | bad run flaw =>
      obtain ⟨hbytes, hrun⟩ := isRefused_of_nextPiece hnext
      obtain ⟨rfl, rfl⟩ := h.unique hrun hbytes
      exact ⟨flaw, rfl⟩

/-- The two texts of bytes are those that are described. -/
theorem decoded_iff {bytes : List UInt8} {kept : List Letter} {shown : List Char} :
    Decoded bytes kept shown ↔ kept = decodeKeeping bytes ∧ shown = decodeReplacing bytes := by
  constructor
  · intro h
    induction h with
    | nil => simp [decodeKeeping, decodeReplacing]
    | char c _ ih =>
      simp only [ih.1, ih.2, decodeKeeping, decodeReplacing, pieces_encodeChar_append]
      exact ⟨rfl, rfl⟩
    | refused hrun _ ih =>
      obtain ⟨flaw, hpieces⟩ := hrun.pieces_append
      simp only [ih.1, ih.2, decodeKeeping, decodeReplacing, hpieces]
      exact ⟨rfl, rfl⟩
  · rintro ⟨rfl, rfl⟩
    exact decoded_decodeKeeping_decodeReplacing bytes

-- ════════════════════════════════════════════════════════════════════════
-- Nothing is lost
-- ════════════════════════════════════════════════════════════════════════

theorem printable_decodeKeeping (bytes : List UInt8) :
    printable (decodeKeeping bytes) = strip (decodeReplacing bytes) := by
  rw [printable, encodeLetters_decodeKeeping]

theorem value_readText_of_read {read : Source.Reader} {path : Path} {bytes : List UInt8}
    (h : read path = .ok bytes) :
    (Source.readBytes read path).value = some bytes ∧
      (Source.readText read path).value = some (String.ofList (decodeReplacing bytes)) := by
  have hbytes : (Source.readBytes read path).value = some bytes := by
    rw [Source.readBytes, h]
    rfl
  refine ⟨hbytes, ?_⟩
  rw [Source.readText, Logged.value_bind, hbytes]
  rfl

/-- Bytes that are no characters survive a fix. The text that a fix reads from bytes is written as
these bytes, whatever they are; no byte that it keeps is a character of its own; and it is shown as
the text that a review reads from the bytes, without the blanks around it. Both texts are the ones
described: where a character begins it is read, and elsewhere as much is refused as some character
begins with. -/
theorem undecodable_bytes_survive (bytes : List UInt8) :
    encodeLetters (decodeKeeping bytes) = bytes ∧
    (∀ b, Letter.byte b ∈ decodeKeeping bytes → 0x80 ≤ b.toNat) ∧
    printable (decodeKeeping bytes) = strip (decodeReplacing bytes) ∧
    (∀ kept shown, Decoded bytes kept shown ↔
      kept = decodeKeeping bytes ∧ shown = decodeReplacing bytes) ∧
    ∀ (read : Source.Reader) (path : Path), read path = .ok bytes →
      (Source.readBytes read path).value = some bytes ∧
      (Source.readText read path).value = some (String.ofList (decodeReplacing bytes)) :=
  ⟨encodeLetters_decodeKeeping bytes, fun _ => le_of_mem_decodeKeeping,
    printable_decodeKeeping bytes, fun _ _ => decoded_iff, fun _ _ => value_readText_of_read⟩

/-- A blank, a surrogate in the form of a character, a form that is too long, a number beyond the
last character, a character that breaks off before another one, and one that breaks off at the
end. -/
theorem undecodable_bytes_survive_of_all_kinds :
    let bytes : List UInt8 := [0x20, 0xed, 0xb2, 0x80, 0xc0, 0xaf, 0xf4, 0x90, 0xe2, 0x82, 0xc3,
      0xa9, 0xff, 0xf0, 0x9f, 0x98]
    let kept : List Letter := [.char ' ', .byte 0xed, .byte 0xb2, .byte 0x80, .byte 0xc0,
      .byte 0xaf, .byte 0xf4, .byte 0x90, .byte 0xe2, .byte 0x82, .char 'é', .byte 0xff, .byte 0xf0,
      .byte 0x9f, .byte 0x98]
    Decoded bytes kept " ��������é��".toList ∧ encodeLetters kept = bytes ∧
      printable kept = "��������é��".toList ∧
      (Source.readText (fun _ => .ok bytes) ⟨.relative, ["a.ts"]⟩).value = some " ��������é��" := by
  intro bytes kept
  have hkept : kept = decodeKeeping bytes := by decide +kernel
  have hshown : " ��������é��".toList = decodeReplacing bytes := by decide +kernel
  obtain ⟨hwritten, -, hprintable, hdecoded, hread⟩ := undecodable_bytes_survive bytes
  obtain ⟨-, htext⟩ := hread (fun _ => .ok bytes) ⟨.relative, ["a.ts"]⟩ rfl
  refine ⟨(hdecoded _ _).mpr ⟨hkept, hshown⟩, hkept ▸ hwritten, ?_, ?_⟩
  · rw [hkept, hprintable, ← hshown]
    decide
  · rw [htext, ← hshown, String.ofList_toList]

end ChecklistReview.Text.Utf8
