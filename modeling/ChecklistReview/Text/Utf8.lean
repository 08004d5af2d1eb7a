import ChecklistReview.Text.Line
import ChecklistReview.Text.Quoted

/-!
# Bytes and characters

Bytes are read as UTF-8 piece by piece. A piece is a character or a run of bytes that cannot
begin or continue one. Three ways to treat such runs are used: a run is replaced by one
replacement character, its bytes are kept as letters of their own, or the text is refused.

## Main definitions

* `Piece`, `nextPiece` and `pieces` cut bytes into pieces.
* `decodeReplacing` replaces, `decodeKeeping` keeps and `decodeStrict` refuses.
* `Letter` is a character, a byte that is none or half of a character; `encodeLetters` writes
  letters.
-/

namespace ChecklistReview.Text.Utf8

instance : Breaks UInt8 := ⟨13, 10, by decide⟩

/-- Why bytes are no character. -/
inductive Flaw where
  /-- No character begins with the byte. -/
  | start
  /-- A byte does not continue the character. -/
  | continuation
  /-- The bytes end within a character. -/
  | truncated
  deriving DecidableEq

/-- The words for a flaw. -/
def Flaw.words : Flaw → String
  | .start => "invalid start byte"
  | .continuation => "invalid continuation byte"
  | .truncated => "unexpected end of data"

/-- A character, or bytes that are none. -/
inductive Piece where
  | char (c : Char)
  | bad (bytes : List UInt8) (flaw : Flaw)
  deriving DecidableEq

/-- Whether a byte continues a character. -/
def isContinuation (b : UInt8) : Bool := 0x80 ≤ b && b ≤ 0xbf

/-- The payload of a byte that continues a character. -/
def payload (b : UInt8) : Nat := b.toNat % 64

/-- How many bytes follow the first one of a character. -/
def followers? (b : UInt8) : Option Nat :=
  if b < 0x80 then some 0
  else if 0xc2 ≤ b && b ≤ 0xdf then some 1
  else if 0xe0 ≤ b && b ≤ 0xef then some 2
  else if 0xf0 ≤ b && b ≤ 0xf4 then some 3
  else none

/-- Whether a byte may come second. The first byte narrows the choice where longer forms of
shorter characters, surrogates and numbers beyond the last character would begin. -/
def maySecond (first second : UInt8) : Bool :=
  isContinuation second &&
    (if first = 0xe0 then 0xa0 ≤ second
    else if first = 0xed then second < 0xa0
    else if first = 0xf0 then 0x90 ≤ second
    else if first = 0xf4 then second < 0x90
    else true)

/-- The number of a character by its bytes. -/
def codeOf : List UInt8 → Nat
  | [a] => a.toNat
  | [a, b] => a.toNat % 32 * 64 + payload b
  | [a, b, c] => (a.toNat % 16 * 64 + payload b) * 64 + payload c
  | [a, b, c, d] => ((a.toNat % 8 * 64 + payload b) * 64 + payload c) * 64 + payload d
  | _ => 0

/-- Whether a byte may come next after those that were taken. -/
def mayFollow : List UInt8 → UInt8 → Bool
  | [first], b => maySecond first b
  | _, b => isContinuation b

/-- Takes the bytes that follow, `count` of them, after those that were taken. -/
def take (taken : List UInt8) : Nat → List UInt8 → Piece × List UInt8
  | 0, rest => (.char (Char.ofNat (codeOf taken)), rest)
  | _ + 1, [] => (.bad taken .truncated, [])
  | count + 1, b :: rest =>
    if mayFollow taken b then take (taken ++ [b]) count rest
    else (.bad taken .continuation, b :: rest)

/-- The first piece of bytes that begin with `b`, and the bytes after it. -/
def nextPiece (b : UInt8) (rest : List UInt8) : Piece × List UInt8 :=
  match followers? b with
  | none => (.bad [b] .start, rest)
  | some count => take [b] count rest

theorem length_take_le (taken : List UInt8) (count : Nat) (bytes : List UInt8) :
    (take taken count bytes).2.length ≤ bytes.length := by
  induction count generalizing taken bytes with
  | zero => simp [take]
  | succ count ih =>
    cases bytes with
    | nil => simp [take]
    | cons b rest =>
      simp only [take]
      split
      · exact Nat.le_trans (ih _ _) (by simp)
      · simp

theorem length_nextPiece_le (b : UInt8) (rest : List UInt8) :
    (nextPiece b rest).2.length ≤ rest.length := by
  unfold nextPiece
  split
  · simp
  · exact length_take_le _ _ _

/-- Bytes cut into pieces. -/
def pieces : List UInt8 → List Piece
  | [] => []
  | b :: rest => (nextPiece b rest).1 :: pieces (nextPiece b rest).2
termination_by bytes => bytes.length
decreasing_by
  have := length_nextPiece_le b rest
  simp only [List.length_cons]
  omega

/-! ### Replacing -/

/-- The character that stands for bytes that are none. -/
def replacement : Char := '�'

/-- The character that stands for a piece. -/
def Piece.shown : Piece → Char
  | .char c => c
  | .bad _ _ => replacement

/-- The text of bytes, with a replacement character for each run that is none. -/
def decodeReplacing (bytes : List UInt8) : List Char := (pieces bytes).map Piece.shown

/-! ### Keeping -/

/-- A character, a byte that is none, or half of a character. -/
inductive Letter where
  | char (c : Char)
  | byte (b : UInt8)
  /-- A half of a character that stands for no byte. -/
  | half (code : Nat)
  deriving DecidableEq

/-- The letter for a half: some halves stand for the bytes that are no characters. -/
def Letter.ofHalf (code : Nat) : Letter :=
  if 0xdc80 ≤ code && code ≤ 0xdcff then .byte (code - 0xdc00).toUInt8 else .half code

instance : Alphabet Letter where
  ofChar := .char
  ofHalf := Letter.ofHalf
  ofChar_inj h := Letter.char.inj h
  ofHalf_ne _ h := by
    rw [Letter.ofHalf] at h
    split at h <;> cases h

/-- The letters of a piece. -/
def Piece.letters : Piece → List Letter
  | .char c => [.char c]
  | .bad bytes _ => bytes.map .byte

/-- The text of bytes, with the bytes that are no characters kept. -/
def decodeKeeping (bytes : List UInt8) : List Letter := (pieces bytes).flatMap Piece.letters

/-- The bytes of a character. -/
def encodeChar (c : Char) : List UInt8 :=
  let n := c.toNat
  if n < 0x80 then [n.toUInt8]
  else if n < 0x800 then [(0xc0 + n / 64).toUInt8, (0x80 + n % 64).toUInt8]
  else if n < 0x10000 then
    [(0xe0 + n / 4096).toUInt8, (0x80 + n / 64 % 64).toUInt8, (0x80 + n % 64).toUInt8]
  else
    [(0xf0 + n / 262144).toUInt8, (0x80 + n / 4096 % 64).toUInt8, (0x80 + n / 64 % 64).toUInt8,
      (0x80 + n % 64).toUInt8]

/-- The bytes of a text. -/
def encode (text : List Char) : List UInt8 := text.flatMap encodeChar

/-- The bytes of a letter. A half has none. -/
def Letter.bytes : Letter → List UInt8
  | .char c => encodeChar c
  | .byte b => [b]
  | .half _ => []

/-- Whether a letter is a character. -/
def Letter.isChar : Letter → Bool
  | .char _ => true
  | _ => false

/-- Whether a letter is a half. -/
def Letter.isHalf : Letter → Bool
  | .half _ => true
  | _ => false

/-- The bytes of letters. -/
def encodeLetters (text : List Letter) : List UInt8 := text.flatMap Letter.bytes

/-- Halves among letters for which there are no bytes. -/
structure Unencodable where
  /-- The first half. -/
  code : Nat
  /-- The number of letters before it. -/
  start : Nat
  /-- How many letters that are no characters stand together there. -/
  count : Nat
  deriving DecidableEq

/-- What is said of halves that have no bytes. -/
def Unencodable.message (u : Unencodable) : String :=
  let place :=
    if u.count = 1 then
      s!"character '{String.ofList (escapeCode u.code)}' in position {u.start}"
    else s!"characters in position {u.start}-{u.start + u.count - 1}"
  s!"'utf-8' codec can't encode {place}: surrogates not allowed"

/-- The first half among letters, if there is one. -/
def unencodable? (text : List Letter) : Option Unencodable :=
  match text.dropWhile fun l => !l.isHalf with
  | .half code :: rest =>
    let count := (rest.takeWhile fun l => !l.isChar).length + 1
    some { code, start := text.length - (rest.length + 1), count }
  | _ => none

/-- Letters as they are shown: as their bytes are read with replacement characters, without
the blanks around them. -/
def printable (text : List Letter) : List Char := strip (decodeReplacing (encodeLetters text))

/-! ### Refusing -/

/-- Bytes that are refused. -/
structure Fault where
  /-- The offset of the first byte. -/
  offset : Nat
  bytes : List UInt8
  flaw : Flaw
  deriving DecidableEq

/-- A byte as two digits. -/
def byteText (b : UInt8) : String :=
  String.ofList [Nat.digitChar (b.toNat / 16), Nat.digitChar (b.toNat % 16)]

/-- What is said of a fault. -/
def Fault.message (f : Fault) : String :=
  match f.bytes with
  | [b] => s!"'utf-8' codec can't decode byte 0x{byteText b} in position {f.offset}: {f.flaw.words}"
  | bytes =>
    let last := f.offset + bytes.length - 1
    s!"'utf-8' codec can't decode bytes in position {f.offset}-{last}: {f.flaw.words}"

/-- The text of pieces that start at an offset, if all of them are characters. -/
def charsOf (offset : Nat) : List Piece → Except Fault (List Char)
  | [] => .ok []
  | .bad bytes flaw :: _ => .error { offset, bytes, flaw }
  | .char c :: rest => do
    let text ← charsOf (offset + (encodeChar c).length) rest
    pure (c :: text)

/-- The text of bytes that are characters throughout. -/
def decodeStrict (bytes : List UInt8) : Except Fault (List Char) := charsOf 0 (pieces bytes)

/-- A text in which each line break is a line feed. -/
def unifyBreaks : List Char → List Char
  | [] => []
  | '\r' :: '\n' :: rest => '\n' :: unifyBreaks rest
  | '\r' :: rest => '\n' :: unifyBreaks rest
  | c :: rest => c :: unifyBreaks rest

end ChecklistReview.Text.Utf8
