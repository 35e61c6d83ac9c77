/-!
# The character-mode load format

How the target's bulk loader reads a data file in character mode: fields separated by the
delimiter, rows ended by a line feed, and nothing unescaped. A null is an empty field and an
empty text is a single NUL. A value holding the delimiter, a line feed, a carriage return or a
NUL has no form in this format; `encodeField` refuses it, naming the first of these it finds in
that order, so a row is never loaded shifted.

The loader is told its terminators as arguments: a tab is written `\t`, a line feed `0x0a` and
a carriage return `0x0d`.
-/

namespace SqlMigration.DataFile

/-- The characters a value may not hold, as they are named. -/
inductive Reserved where
  | delimiter
  | lineFeed
  | carriageReturn
  | nul
  deriving DecidableEq, Repr

def Reserved.message : Reserved → String
  | .delimiter => "value contains the field delimiter"
  | .lineFeed => "value contains LF"
  | .carriageReturn => "value contains CR"
  | .nul => "value contains NUL"

/-- Whether `part` occurs in `s`; the empty text occurs everywhere. -/
def occursIn (part s : String) : Bool :=
  (List.range (s.length + 1)).any fun i => part.toList.isPrefixOf (s.toList.drop i)

/-- The first reserved text a value holds, checked in the order delimiter, LF, CR, NUL. -/
def reservedIn (value delimiter : String) : Option Reserved :=
  if occursIn delimiter value then some .delimiter
  else if value.contains '\n' then some .lineFeed
  else if value.contains '\r' then some .carriageReturn
  else if value.contains '\x00' then some .nul
  else none

/-- The field text of a value: empty for a null, a NUL for the empty text, else the value. -/
def encodeField (value : Option String) (delimiter : String) : Except Reserved String :=
  match value with
  | none => .ok ""
  | some v =>
    if v.isEmpty then .ok "\x00"
    else match reservedIn v delimiter with
      | some r => .error r
      | none => .ok v

/-- A terminator as the loader's arguments spell it. -/
def loaderTerminator (s : String) : String :=
  String.join <| s.toList.map fun c =>
    if c = '\t' then "\\t" else if c = '\n' then "0x0a" else if c = '\r' then "0x0d"
    else String.singleton c

end SqlMigration.DataFile
