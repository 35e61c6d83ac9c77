/-!
# Blank characters

The characters that separate words and are stripped from the ends of a text: the ASCII tab,
line feed, vertical tab, form feed and carriage return, the four information separators
U+001C–U+001F, the space, and the Unicode space separators and line and paragraph separators
(Unicode 14.0).

`splitBlank` cuts a text into its words: the maximal runs of characters that are not blank.
-/

namespace SqlMigration.Text

/-- Whether a character is blank. -/
def isBlank (c : Char) : Bool :=
  let n := c.toNat
  (0x09 ≤ n && n ≤ 0x0D) || (0x1C ≤ n && n ≤ 0x20) || n == 0x85 || n == 0xA0 || n == 0x1680 ||
    (0x2000 ≤ n && n ≤ 0x200A) || n == 0x2028 || n == 0x2029 || n == 0x202F || n == 0x205F ||
    n == 0x3000

/-- The text without blank characters at either end. -/
def stripBlank (s : String) : String :=
  String.ofList ((s.toList.dropWhile isBlank).reverse.dropWhile isBlank).reverse

/-- The words of a list of characters, gathering the current word in reverse. -/
def wordsOf : List Char → List Char → List (List Char)
  | cur, [] => if cur.isEmpty then [] else [cur.reverse]
  | cur, c :: cs =>
    if isBlank c then (if cur.isEmpty then wordsOf [] cs else cur.reverse :: wordsOf [] cs)
    else wordsOf (c :: cur) cs

/-- The words of a text: its maximal runs of characters that are not blank. -/
def splitBlank (s : String) : List String := (wordsOf [] s.toList).map String.ofList

/-- Whether a character has the Unicode White_Space property: the blank characters except the
information separators U+001C–U+001F. -/
def isWhiteSpace (c : Char) : Bool := isBlank c && !(0x1C ≤ c.toNat && c.toNat ≤ 0x1F)

/-- The text without White_Space characters at either end. -/
def stripWhiteSpace (s : String) : String :=
  String.ofList ((s.toList.dropWhile isWhiteSpace).reverse.dropWhile isWhiteSpace).reverse

end SqlMigration.Text
