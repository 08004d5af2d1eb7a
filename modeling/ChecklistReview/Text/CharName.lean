/-!
# Names of characters

A character may be known by a name. Which names are known is told by a table, which is asked for
names in capitals; the one here has the characters of ASCII that can be seen.
-/

namespace ChecklistReview.Text

/-- A table of characters by their names. -/
abbrev NameTable := String → Option Char

/-- The names of the characters of ASCII that are no letters. -/
def asciiNames : List (String × Char) :=
  [("SPACE", ' '), ("EXCLAMATION MARK", '!'), ("QUOTATION MARK", '\x22'), ("NUMBER SIGN", '#'),
    ("DOLLAR SIGN", '$'), ("PERCENT SIGN", '%'), ("AMPERSAND", '&'), ("APOSTROPHE", '\''),
    ("LEFT PARENTHESIS", '('), ("RIGHT PARENTHESIS", ')'), ("ASTERISK", '*'), ("PLUS SIGN", '+'),
    ("COMMA", ','), ("HYPHEN-MINUS", '-'), ("FULL STOP", '.'), ("SOLIDUS", '/'),
    ("DIGIT ZERO", '0'), ("DIGIT ONE", '1'), ("DIGIT TWO", '2'), ("DIGIT THREE", '3'),
    ("DIGIT FOUR", '4'), ("DIGIT FIVE", '5'), ("DIGIT SIX", '6'), ("DIGIT SEVEN", '7'),
    ("DIGIT EIGHT", '8'), ("DIGIT NINE", '9'), ("COLON", ':'), ("SEMICOLON", ';'),
    ("LESS-THAN SIGN", '<'), ("EQUALS SIGN", '='), ("GREATER-THAN SIGN", '>'),
    ("QUESTION MARK", '?'), ("COMMERCIAL AT", '@'), ("LEFT SQUARE BRACKET", '['),
    ("REVERSE SOLIDUS", '\\'), ("RIGHT SQUARE BRACKET", ']'), ("CIRCUMFLEX ACCENT", '^'),
    ("LOW LINE", '_'), ("GRAVE ACCENT", '\x60'), ("LEFT CURLY BRACKET", '{'),
    ("VERTICAL LINE", '|'), ("RIGHT CURLY BRACKET", '}'), ("TILDE", '~')]

/-- The names of the letters of ASCII. -/
def letterNames : List (String × Char) :=
  "ABCDEFGHIJKLMNOPQRSTUVWXYZ".toList.flatMap fun c =>
    [(s!"LATIN CAPITAL LETTER {c}", c), (s!"LATIN SMALL LETTER {c}", c.toLower)]

/-- The characters of ASCII by their names. -/
def NameTable.ascii : NameTable := fun name => (asciiNames ++ letterNames).lookup name

/-- The character of a name, which may be written in small letters as well. -/
def NameTable.find? (table : NameTable) (name : List Char) : Option Char :=
  table (String.ofList (name.map Char.toUpper))

end ChecklistReview.Text
