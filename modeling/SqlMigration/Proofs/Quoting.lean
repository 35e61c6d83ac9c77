import SqlMigration.Export
import SqlMigration.Load

/-!
# Quoted names and literals read back

The tool writes names and values into texts that another program reads: a double-quoted
identifier for the server, the object name `[schema].[table]` for `bcp`, and in the `\copy`
meta-command a single-quoted file name, which `psql` reads itself, and the delimiter as a string
constant, which the server reads. Each reading rule is a reader here, and each written form reads
back as what was written, whatever follows it that cannot continue it.

Main statements: `identifiers_read_back` (so qualified names are injective and the `bcp` object
names one table) and `copyCommand_reads_back` (the `\copy` command names exactly its table, file
and delimiter).
-/

namespace SqlMigration.Ddl

/-- The rest of a text after a fixed word at its start. -/
@[simp] def afterText : List Char → List Char → Option (List Char)
  | [], cs => some cs
  | c :: word, d :: cs => if c = d then afterText word cs else none
  | _ :: _, [] => none

@[simp] theorem afterText_append (word rest : List Char) :
    afterText word (word ++ rest) = some rest := by
  induction word with
  | nil => rfl
  | cons c word ih => simp [ih]

/-- Reads `first.second`, both parts by `read`, answering both and what follows. -/
def readDotted (read : List Char → Option (List Char × List Char)) (cs : List Char) :
    Option ((List Char × List Char) × List Char) := do
  let (first, rest) ← read cs
  let (second, rest) ← (afterText ['.'] rest).bind read
  return ((first, second), rest)

theorem readDotted_qualify (schema name : String) (rest : List Char)
    (h : rest.head? ≠ some '"') :
    readDotted readQuoted ((qualify schema name).toList ++ rest) =
      some ((schema.toList, name.toList), rest) := by
  have h₁ := readQuoted_quote schema ('.' :: ((quoteIdent name).toList ++ rest)) (by simp)
  simp [readDotted, qualify, h₁, readQuoted_quote name rest h]

/-- A qualified name determines its schema and its name. -/
theorem qualify_injective {s₁ n₁ s₂ n₂ : String} (h : qualify s₁ n₁ = qualify s₂ n₂) :
    s₁ = s₂ ∧ n₁ = n₂ := by
  have h₁ := readDotted_qualify s₁ n₁ [] (by simp)
  rw [h, readDotted_qualify s₂ n₂ [] (by simp)] at h₁
  simp only [Option.some.injEq, Prod.mk.injEq] at h₁
  exact ⟨String.ext h₁.1.1.symm, String.ext h₁.1.2.symm⟩

/-- The object name given to `bcp` reads as the target schema and the table, and nothing
after. -/
theorem loaderArgs_object (x : Load.Loader) (table : String) (p : Path) :
    (x.args table p).head?.map (fun a => readDotted readBracketed a.toList) =
      some (some ((x.target.schema.toList, table.toList), [])) := by
  have h₁ := readBracketed_bracket x.target.schema ('.' :: (bracketIdent table).toList) (by simp)
  have h₂ : readBracketed (bracketIdent table).toList = some (table.toList, []) := by
    simpa using readBracketed_bracket table [] (by simp)
  simp [Load.Loader.args, readDotted, h₁, h₂]

/-- Two `bcp` runs given the same object name load into the same schema and table. -/
theorem loaderArgs_object_injective {x₁ x₂ : Load.Loader} {t₁ t₂ : String} {p₁ p₂ : Path}
    (h : (x₁.args t₁ p₁).head? = (x₂.args t₂ p₂).head?) :
    x₁.target.schema = x₂.target.schema ∧ t₁ = t₂ := by
  have h₁ := loaderArgs_object x₁ t₁ p₁
  rw [h, loaderArgs_object x₂ t₂ p₂] at h₁
  simp only [Option.some.injEq, Prod.mk.injEq] at h₁
  exact ⟨String.ext h₁.1.1.symm, String.ext h₁.1.2.symm⟩

/-- Delimited identifiers are uniquely decodable. A double-quoted name, and a bracketed one,
read back by the delimited-identifier rule as the name, leaving any rest that does not start
with the closing character; so a qualified name determines its two parts, and the object name of
a `bcp` run reads as exactly its target schema and table, no other run's. -/
theorem identifiers_read_back :
    (∀ (name : String) (rest : List Char), rest.head? ≠ some '"' →
      readQuoted ((quoteIdent name).toList ++ rest) = some (name.toList, rest)) ∧
    (∀ (name : String) (rest : List Char), rest.head? ≠ some ']' →
      readBracketed ((bracketIdent name).toList ++ rest) = some (name.toList, rest)) ∧
    (∀ s₁ n₁ s₂ n₂ : String, qualify s₁ n₁ = qualify s₂ n₂ → s₁ = s₂ ∧ n₁ = n₂) ∧
    (∀ (x : Load.Loader) (table : String) (p : Path),
      (x.args table p).head?.map (fun a => readDotted readBracketed a.toList) =
        some (some ((x.target.schema.toList, table.toList), []))) ∧
    (∀ (x₁ x₂ : Load.Loader) (t₁ t₂ : String) (p₁ p₂ : Path),
      (x₁.args t₁ p₁).head? = (x₂.args t₂ p₂).head? →
        x₁.target.schema = x₂.target.schema ∧ t₁ = t₂) :=
  ⟨readQuoted_quote, readBracketed_bracket, fun _ _ _ _ => qualify_injective, loaderArgs_object,
    fun _ _ _ _ _ _ => loaderArgs_object_injective⟩

/-- A quoted name with a quote in it before a qualified rest, and a bracketed name with a
closing bracket in it. -/
theorem identifiers_read_back_sample :
    readQuoted ((quoteIdent "a\"b").toList ++ ".\"c\"".toList) =
        some ("a\"b".toList, ".\"c\"".toList) ∧
      readBracketed ((bracketIdent "etl]x").toList ++ ".[t]".toList) =
        some ("etl]x".toList, ".[t]".toList) :=
  ⟨identifiers_read_back.1 _ _ (by decide), identifiers_read_back.2.1 _ _ (by decide)⟩

end SqlMigration.Ddl

namespace SqlMigration.Export

open Ddl

/-- A file name in `\copy` as `psql` reads it: a single-quoted token in which two quotes stand
for one and a backslash is an ordinary character. -/
def readFileName : List Char → Option (List Char × List Char)
  | '\'' :: rest => readBody '\'' rest
  | _ => none

/-- The character an escape stands for in an escape string constant, for the escapes of a
backslash, a tab, a line feed and a carriage return. -/
def escapedChar : Char → Option Char
  | '\\' => some '\\'
  | 't' => some '\t'
  | 'n' => some '\n'
  | 'r' => some '\r'
  | _ => none

/-- The body of an escape string constant up to its closing quote, answering the value and what
follows: a backslash and the next character stand for the escaped character, two quotes for one,
and any other character for itself. -/
def readEscapedBody : List Char → Option (List Char × List Char)
  | [] => none
  | c :: rest =>
    if c = '\\' then
      match rest with
      | d :: rest' => (escapedChar d).bind fun e =>
        (readEscapedBody rest').map fun (v, r) => (e :: v, r)
      | [] => none
    else if c = '\'' then
      match rest with
      | '\'' :: rest' => (readEscapedBody rest').map fun (v, r) => ('\'' :: v, r)
      | _ => some ([], rest)
    else (readEscapedBody rest).map fun (v, r) => (c :: v, r)

/-- A string constant as the server reads it with standard conforming strings: `'...'`, in
which two quotes stand for one and a backslash is an ordinary character, or the escape form
`E'...'`. -/
def readConstant : List Char → Option (List Char × List Char)
  | 'E' :: '\'' :: rest => readEscapedBody rest
  | '\'' :: rest => readBody '\'' rest
  | _ => none

/-- Doubling each quote writes an identifier body closed by a quote. -/
theorem flatMap_doubleQuote (l : List Char) :
    l.flatMap (fun c => if c = '\'' then ['\'', '\''] else [c]) = escapeBody '\'' l := by
  induction l with
  | nil => rfl
  | cons c l ih => by_cases hc : c = '\'' <;> simp [escapeBody, hc, ih]

theorem readFileName_pathLiteral (p : Path) (rest : List Char) (h : rest.head? ≠ some '\'') :
    readFileName ((pathLiteral p).toList ++ rest) = some (p.render.toList, rest) := by
  simpa [pathLiteral, readFileName, flatMap_doubleQuote] using
    readBody_escapeBody '\'' p.render.toList rest h

/-- Outside the escape form a character other than a backslash is written as itself, a quote
doubled. -/
theorem optionChar_plain {c : Char} (h : c ≠ '\\') :
    optionChar false c = if c = '\'' then ['\'', '\''] else [c] := by
  unfold optionChar
  split <;> simp_all

/-- A character that is no backslash, quote, tab, line feed or carriage return is written as
itself in either form. -/
theorem optionChar_other {c : Char} (e : Bool) (h₁ : c ≠ '\\') (h₂ : c ≠ '\'') (h₃ : c ≠ '\t')
    (h₄ : c ≠ '\n') (h₅ : c ≠ '\r') : optionChar e c = [c] := by
  unfold optionChar
  split <;> simp_all

theorem readEscapedBody_escape (v rest : List Char) (h : rest.head? ≠ some '\'') :
    readEscapedBody (v.flatMap (optionChar true) ++ '\'' :: rest) = some (v, rest) := by
  induction v with
  | nil =>
    cases rest with
    | nil => simp [readEscapedBody]
    | cons d rest =>
      have hd : d ≠ '\'' := fun e => h (by simp [e])
      simp [readEscapedBody, hd]
  | cons c v ih =>
    -- the five characters with a written form of their own, then all others
    by_cases hs : c = '\\' ∨ c = '\'' ∨ c = '\t' ∨ c = '\n' ∨ c = '\r'
    · rcases hs with rfl | rfl | rfl | rfl | rfl <;>
        simp [optionChar, readEscapedBody, escapedChar, ih]
    · simp only [not_or] at hs
      obtain ⟨h₁, h₂, h₃, h₄, h₅⟩ := hs
      rw [List.flatMap_cons, optionChar_other true h₁ h₂ h₃ h₄ h₅, readEscapedBody.eq_def]
      simp [h₁, h₂, ih]

/-- Without a tab, line feed, carriage return or backslash, the plain form writes an identifier
body closed by a quote. -/
theorem flatMap_optionChar_plain (v : List Char) (hv : v.any needsEscape = false) :
    v.flatMap (optionChar false) = escapeBody '\'' v := by
  induction v with
  | nil => rfl
  | cons c v ih =>
    simp only [List.any_cons, Bool.or_eq_false_iff] at hv
    have hc : c ≠ '\\' := by
      rintro rfl
      simp [needsEscape] at hv
    rw [List.flatMap_cons, optionChar_plain hc, ih hv.2]
    by_cases h' : c = '\'' <;> simp [escapeBody, h']

theorem readConstant_optionLiteral (v : String) (rest : List Char) (h : rest.head? ≠ some '\'') :
    readConstant ((optionLiteral v).toList ++ rest) = some (v.toList, rest) := by
  unfold optionLiteral
  cases he : v.toList.any needsEscape with
  | true => simp [readConstant, readEscapedBody_escape _ _ h]
  | false =>
    simpa [readConstant, flatMap_optionChar_plain _ he] using
      readBody_escapeBody '\'' v.toList rest h

/-- Reads the `\copy` meta-command of an export, `\copy (SELECT * FROM "s"."t") TO 'file' WITH
(FORMAT text, DELIMITER d)`, answering the schema and table of the query, the file and the
delimiter. -/
def readCopyCommand (cs : List Char) :
    Option ((List Char × List Char) × List Char × List Char) := do
  let rest ← afterText "\\copy (SELECT * FROM ".toList cs
  let (table, rest) ← readDotted readQuoted rest
  let (file, rest) ← (afterText ") TO ".toList rest).bind readFileName
  let (delimiter, rest) ← (afterText " WITH (FORMAT text, DELIMITER ".toList rest).bind readConstant
  if rest = [')'] then some (table, file, delimiter) else none

theorem readCopyCommand_copyCommand (q : String) (p : Path) (d : String) :
    readCopyCommand (copyCommand q p d).toList =
      some (((QualifiedName.parse q).schema.toList, (QualifiedName.parse q).table.toList),
        p.render.toList, d.toList) := by
  have e : (copyCommand q p d).toList = "\\copy (SELECT * FROM ".toList ++
      ((qualify (QualifiedName.parse q).schema (QualifiedName.parse q).table).toList ++
        (") TO ".toList ++ ((pathLiteral p).toList ++
          (" WITH (FORMAT text, DELIMITER ".toList ++ ((optionLiteral d).toList ++ ")".toList))))) := by
    unfold copyCommand
    simp only [String.toList_append]
    simp only [List.append_assoc]
  rw [e]
  simp only [readCopyCommand, afterText_append, Option.bind_eq_bind, Option.bind_some]
  rw [readDotted_qualify _ _ _ (by simp)]
  simp only [Option.bind_some, afterText_append]
  rw [readFileName_pathLiteral _ _ (by simp)]
  simp only [Option.bind_some, afterText_append]
  rw [readConstant_optionLiteral _ _ (by simp)]
  rfl

/-- The `\copy` command names exactly its file and delimiter. The file name reads back, by
`psql`'s rule, as the path's text; the delimiter's constant reads back, by the server's rule, as
the delimiter; and the whole command reads as an export of the named table to that file with
that delimiter. -/
theorem copyCommand_reads_back :
    (∀ p : Path, readFileName (pathLiteral p).toList = some (p.render.toList, [])) ∧
    (∀ v : String, readConstant (optionLiteral v).toList = some (v.toList, [])) ∧
    (∀ (q : String) (p : Path) (d : String), readCopyCommand (copyCommand q p d).toList =
      some (((QualifiedName.parse q).schema.toList, (QualifiedName.parse q).table.toList),
        p.render.toList, d.toList)) :=
  ⟨fun p => by simpa using readFileName_pathLiteral p [] (by simp),
    fun v => by simpa using readConstant_optionLiteral v [] (by simp),
    readCopyCommand_copyCommand⟩

end SqlMigration.Export
