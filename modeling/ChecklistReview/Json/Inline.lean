import ChecklistReview.Decimal.Shortest
import ChecklistReview.Json.Value
import ChecklistReview.Text.Quoted

/-!
# Data in messages

Messages name values in a short form of their own: texts are quoted, truth values and the
missing value are capitalised words.
-/

namespace ChecklistReview.Json

/-- The word for the sort of a value. -/
def sort : Json → String
  | .null => "NoneType"
  | .bool _ => "bool"
  | .int _ => "int"
  | .real _ => "float"
  | .str _ | .broken _ => "str"
  | .array _ => "list"
  | .object _ => "dict"

mutual

/-- A value as messages name it. -/
def inline : Json → String
  | .null => "None"
  | .bool true => "True"
  | .bool false => "False"
  | .int n => ToString.toString n
  | .real x => Decimal.render x
  | .str s => Text.quoted s
  | .broken codes => Text.quotedCodes codes
  | .array items => "[" ++ ", ".intercalate (inlineItems items) ++ "]"
  | .object members => "\x7b" ++ ", ".intercalate (inlineMembers members) ++ "\x7d"

/-- The items of an array. -/
def inlineItems : List Json → List String
  | [] => []
  | j :: js => j.inline :: inlineItems js

/-- The members of an object. -/
def inlineMembers : List (String × Json) → List String
  | [] => []
  | (key, j) :: ms => (Text.quoted key ++ ": " ++ j.inline) :: inlineMembers ms

end

end ChecklistReview.Json
