/-!
# Texts with halves of characters

A string of data may hold halves of surrogate pairs that stand alone, which are no characters. Such
a string is kept by its code points. Where characters are needed, a replacement character stands
for each half.

## Main definitions

* `Wording` is a text, or code points of which some are no characters.
* `Wording.ofCodes` tells the two apart.
* `Wording.toList` gives the characters.
-/

namespace ChecklistReview

/-- Whether a code point is a character. -/
def Text.isCharacterCode (n : Nat) : Bool := n.isValidChar

/-- The character for a code point; the replacement character for a half. -/
def Text.charOfCode (n : Nat) : Char :=
  if isCharacterCode n then Char.ofNat n else Char.ofNat 0xfffd

/-- A text that may hold halves of characters. -/
inductive Wording where
  | text (s : String)
  /-- Code points, some of which are no characters. -/
  | broken (codes : List Nat) (isBroken : codes.all Text.isCharacterCode = false)
  deriving DecidableEq

namespace Wording

instance : Coe String Wording := ⟨text⟩

/-- The wording of code points. -/
def ofCodes (codes : List Nat) : Wording :=
  match h : codes.all Text.isCharacterCode with
  | true => .text (String.ofList (codes.map Char.ofNat))
  | false => .broken codes h

/-- Whether there are no halves. -/
def isText : Wording → Bool
  | .text _ => true
  | .broken _ _ => false

/-- The characters, with a replacement character for each half. -/
def toList : Wording → List Char
  | .text s => s.toList
  | .broken codes _ => codes.map Text.charOfCode

/-- The halves with their places. -/
def halves : Wording → List (Nat × Nat)
  | .text _ => []
  | .broken codes _ =>
    (codes.zipIdx.filter fun (code, _) => !Text.isCharacterCode code).map fun (code, i) => (i, code)

/-- The characters as a text. -/
def shown : Wording → String
  | .text s => s
  | .broken codes _ => String.ofList (codes.map Text.charOfCode)

instance : ToString Wording := ⟨shown⟩

end Wording

end ChecklistReview
