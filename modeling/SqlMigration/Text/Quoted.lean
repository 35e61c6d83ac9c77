import SqlMigration.Text.Printable

/-!
# Quoted literals

The quoted literal of a text, as error messages show a value: the text between single quotes,
or between double quotes when it holds a single quote and no double quote. Inside, a backslash
and the chosen quote are escaped with a backslash; tab, line feed and carriage return are
written `\t`, `\n`, `\r`; any other character that is not printable is written by its code point
in lowercase hexadecimal, as `\xhh` below 0x100, `\uhhhh` below 0x10000, and `\Uhhhhhhhh` above.
-/

namespace SqlMigration.Text

/-- The `n` lowest hexadecimal digits of `v`, most significant first, in lowercase. -/
def hexDigits (v : Nat) : Nat → List Char
  | 0 => []
  | n + 1 => hexDigits (v / 16) n ++ [Nat.digitChar (v % 16)]

/-- The escape that stands for a character that is not printable. -/
def codeEscape (c : Char) : List Char :=
  let n := c.toNat
  if n < 0x100 then '\\' :: 'x' :: hexDigits n 2
  else if n < 0x10000 then '\\' :: 'u' :: hexDigits n 4
  else '\\' :: 'U' :: hexDigits n 8

/-- One character as it stands inside a literal quoted by `q`. -/
def quoteChar (q c : Char) : List Char :=
  if c = q ∨ c = '\\' then ['\\', c]
  else if c = '\t' then ['\\', 't']
  else if c = '\n' then ['\\', 'n']
  else if c = '\r' then ['\\', 'r']
  else if c.toNat < 0x20 ∨ c.toNat = 0x7F then codeEscape c
  else if c.toNat < 0x80 ∨ isPrintable c then [c]
  else codeEscape c

/-- The quote a literal of `cs` uses: double only when the text has a single quote and no
double quote. -/
def quoteOf (cs : List Char) : Char :=
  if '\'' ∈ cs ∧ '"' ∉ cs then '"' else '\''

/-- The body of a literal quoted by `q`, character by character. -/
def quoteBody (q : Char) : List Char → List Char
  | [] => []
  | c :: cs => quoteChar q c ++ quoteBody q cs

/-- The quoted literal of a text. -/
def quoted (s : String) : String :=
  let q := quoteOf s.toList
  String.ofList (q :: quoteBody q s.toList ++ [q])

end SqlMigration.Text
