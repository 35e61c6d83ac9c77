/-!
# Delimited identifiers

The two ways DDL text names an object whatever its characters. A double-quoted identifier
writes each `"` of the name twice; a bracketed identifier writes each `]` twice. Reading runs
the other way: after the opening delimiter, a doubled closing character stands for one, and the
first single one closes the identifier.

Main statements: `readQuoted_quote` and `readBracketed_bracket`, reading a written identifier
followed by any rest that does not start with the closing character gives back the name and the
rest.
-/

namespace SqlMigration.Ddl

/-- The body of a delimited identifier: `close` written twice, everything else once. -/
def escapeBody (close : Char) : List Char → List Char
  | [] => []
  | c :: cs => if c = close then close :: close :: escapeBody close cs else c :: escapeBody close cs

/-- Reads an identifier body up to its closing character, answering the name and what follows. -/
def readBody (close : Char) : List Char → Option (List Char × List Char)
  | [] => none
  | c :: rest =>
    if c = close then
      match rest with
      | d :: rest' => if d = close then (readBody close rest').map fun (n, r) => (close :: n, r)
                      else some ([], rest)
      | [] => some ([], [])
    else (readBody close rest).map fun (n, r) => (c :: n, r)

/-- `"name"` with each `"` doubled. -/
def quoteIdent (name : String) : String :=
  String.ofList ('"' :: escapeBody '"' name.toList ++ ['"'])

/-- `"schema"."name"`. -/
def qualify (schema name : String) : String := quoteIdent schema ++ "." ++ quoteIdent name

/-- `[name]` with each `]` doubled. -/
def bracketIdent (name : String) : String :=
  String.ofList ('[' :: escapeBody ']' name.toList ++ [']'])

/-- Reads a double-quoted identifier at the start of a text. -/
def readQuoted : List Char → Option (List Char × List Char)
  | '"' :: rest => readBody '"' rest
  | _ => none

/-- Reads a bracketed identifier at the start of a text. -/
def readBracketed : List Char → Option (List Char × List Char)
  | '[' :: rest => readBody ']' rest
  | _ => none

/-- Reading a written body, its closing character and a rest that does not start with that
character gives back the body and the rest: the closing character can stand next to a run of
doubled ones anywhere in the name. -/
theorem readBody_escapeBody (close : Char) (name rest : List Char) (h : rest.head? ≠ some close) :
    readBody close (escapeBody close name ++ close :: rest) = some (name, rest) := by
  induction name with
  | nil =>
    cases rest with
    | nil => simp [escapeBody, readBody]
    | cons d rest =>
      have hd : d ≠ close := fun e => h (by simp [e])
      simp [escapeBody, readBody, hd]
  | cons c name ih =>
    by_cases hc : c = close
    · subst hc
      simp [escapeBody, readBody, ih]
    · simp only [escapeBody, hc, if_false, List.cons_append]
      rw [readBody.eq_def]
      simp [hc, ih]

theorem readQuoted_quote (name : String) (rest : List Char) (h : rest.head? ≠ some '"') :
    readQuoted ((quoteIdent name).toList ++ rest) = some (name.toList, rest) := by
  simpa [quoteIdent, readQuoted] using readBody_escapeBody '"' name.toList rest h

theorem readBracketed_bracket (name : String) (rest : List Char) (h : rest.head? ≠ some ']') :
    readBracketed ((bracketIdent name).toList ++ rest) = some (name.toList, rest) := by
  simpa [bracketIdent, readBracketed] using readBody_escapeBody ']' name.toList rest h

end SqlMigration.Ddl
