/-!
# Lines of a text

A text splits into lines at each line break: line feed, carriage return (a carriage return
followed by a line feed is one break), vertical tab, form feed, the information separators
U+001C–U+001E, next line U+0085, and the line and paragraph separators U+2028 and U+2029. The
breaks are not part of the lines, and a break that ends the text starts no further line, so an
empty text has no lines at all.
-/

namespace SqlMigration.Text

/-- Whether a character ends a line. -/
def isLineBreak (c : Char) : Bool :=
  let n := c.toNat
  (0x0A ≤ n && n ≤ 0x0D) || (0x1C ≤ n && n ≤ 0x1E) || n == 0x85 || n == 0x2028 || n == 0x2029

/-- The lines of a list of characters, gathering the current line in reverse. -/
def linesOf : List Char → List Char → List (List Char)
  | cur, [] => if cur.isEmpty then [] else [cur.reverse]
  | cur, '\r' :: '\n' :: cs => cur.reverse :: linesOf [] cs
  | cur, c :: cs => if isLineBreak c then cur.reverse :: linesOf [] cs else linesOf (c :: cur) cs

def splitLines (s : String) : List String := (linesOf [] s.toList).map String.ofList

end SqlMigration.Text
