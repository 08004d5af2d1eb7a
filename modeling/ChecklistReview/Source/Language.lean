import ChecklistReview.Path

/-!
# Languages of source files

The language of a file is told by the ending of its name.
-/

namespace ChecklistReview.Source

/-- The tag of a file whose ending is not known. -/
def unknownLanguage : String := "unknown"

/-- The languages by ending, with upper and lower case told apart. -/
def languageByEnding : List (String × String) :=
  [(".ts", "typescript"), (".tsx", "typescript"), (".js", "javascript"), (".jsx", "javascript"),
    (".py", "python"), (".java", "java"), (".cs", "csharp")]

/-- The language of a file. -/
def classify (path : Path) : String := (languageByEnding.lookup path.suffix).getD unknownLanguage

/-- Whether a file is of a language that can be reviewed. -/
def isReviewable (path : Path) : Bool := (languageByEnding.lookup path.suffix).isSome

/-- The languages with a grammar. -/
def syntaxLanguages : List String := ["typescript", "javascript"]

/-- Endings of files that may hold markup. -/
def markupEndings : List String := [".tsx", ".js", ".jsx"]

/-- Whether a file may hold markup. -/
def mayHoldMarkup (path : Path) : Bool := path.suffix ∈ markupEndings

end ChecklistReview.Source
