import Mathlib.Data.List.Forall2
import SqlMigration.Ddl.Render
import SqlMigration.Proofs.Quoting

/-!
# The `Create Table` statement reads back

The statement of a table is `Create Table Q.Q(C, …, C)` with `Q` a double-quoted identifier and
each column `C` written `Q TYPE NULLITY ` (with its trailing space), where `TYPE` is a type token
(at least one character, none of them a space, a comma or a double quote) and `NULLITY` is `NULL`
or `NOT NULL`. `readCreateTable` reads that grammar and nothing else.

A type token needs the types to be known: the literal of a known type is a table literal, the
wide text type or a native name in any letter case, and a length is an integer's digits. So the
statement of a table whose columns have their declared kinds and known types reads back as the
target schema, the table's name and, column by column, its name, mapped type and nullability,
however its names are spelled (`renderTable_reads_back`).
-/

namespace SqlMigration

/-! ## Known types are type tokens -/

/-- A character a type token may hold: anything but a space, a comma and a double quote. -/
def tokenChar (c : Char) : Bool := c != ' ' && c != ',' && c != '"'

/-- A type as a statement writes it: at least one character, each one a token character. -/
def typeToken (t : List Char) : Bool := !t.isEmpty && t.all tokenChar

theorem eq_of_tokenChar_false {c : Char} (h : tokenChar c = false) :
    c = ' ' ∨ c = ',' ∨ c = '"' := by
  simp only [tokenChar, Bool.and_eq_false_iff, bne_eq_false_iff_eq] at h
  tauto

/-- A character with a property that the space, the comma and the double quote lack is a token
character. -/
theorem tokenChar_of (p : Char → Bool) {c : Char} (h : p c = true)
    (hp : p ' ' = false ∧ p ',' = false ∧ p '"' = false) : tokenChar c = true := by
  cases hc : tokenChar c
  · rcases eq_of_tokenChar_false hc with rfl | rfl | rfl <;> simp_all
  · rfl

/-- The characters a token refuses are their own lower case, so a name whose lower case is a
token is one. -/
theorem tokenChar_of_lower {c : Char}
    (h : tokenChar (if c.toNat = 0x212A then 'k' else c.toLower) = true) : tokenChar c = true :=
  tokenChar_of (fun c => tokenChar (if c.toNat = 0x212A then 'k' else c.toLower)) h (by decide)

theorem tokenChar_of_isDigit {c : Char} (h : c.isDigit = true) : tokenChar c = true :=
  tokenChar_of Char.isDigit h (by decide)

/-- An integer's text is digits after at most a minus sign. -/
theorem all_tokenChar_int (k : Int) : (toString k).toList.all tokenChar = true := by
  have hd : ∀ n : Nat, n.repr.toList.all tokenChar = true := fun n => by
    rw [List.all_eq_true, Nat.toList_repr]
    exact fun c hc => tokenChar_of_isDigit (Nat.isDigit_of_mem_toDigits (by decide) (by decide) hc)
  rw [Int.toString_eq_repr, Int.repr_eq_if]
  split
  · exact hd _
  · simpa [tokenChar] using hd _

theorem typeToken_append {a b : List Char} (ha : typeToken a = true)
    (hb : b.all tokenChar = true) : typeToken (a ++ b) = true := by
  simp only [typeToken, Bool.and_eq_true, Bool.not_eq_true', List.isEmpty_eq_false_iff,
    List.all_append] at ha ⊢
  exact ⟨by simp [ha.1], ha.2, hb⟩

/-- The literal of a known type is a type token: a literal of the table, the wide text type, or
a native name in some letter case. -/
theorem typeToken_literal {u : String} {dt : Datum} (h : (mapTypeName u dt).isFallback = false) :
    typeToken (mapTypeName u dt).literal.toList = true := by
  have hu : u.isEmpty = false := by
    cases hu : u.isEmpty
    · rfl
    · simp [mapTypeName, hu] at h
  cases hl : mappedTypes.lookup (lowerForKey u) with
  | some literal =>
    obtain ⟨l₁, l₂, hsplit, -⟩ := List.lookup_eq_some_iff.1 hl
    have hmem : (lowerForKey u, literal) ∈ mappedTypes := by rw [hsplit]; simp
    have := List.all_eq_true.1 (by decide : mappedTypes.all (typeToken ·.2.toList)) _ hmem
    simpa [mapTypeName, hu, hl] using this
  | none =>
    by_cases hw : dt.same (.text userDefined) = true ∨ lowerForKey u ∈ wideTextTypes
    · rw [show (mapTypeName u dt).literal = wideText by simp [mapTypeName, hu, hl, hw]]
      decide
    · -- a passed-through name is known only when its lower case is a native name
      have hn : lowerForKey u ∈ nativeTypes := by simpa [mapTypeName, hu, hl, hw] using h
      have hk := List.all_eq_true.1 (by decide : nativeTypes.all (typeToken ·.toList)) _ hn
      rw [show (mapTypeName u dt).literal = u by simp [mapTypeName, hu, hl, hw]]
      simp only [typeToken, lowerForKey, String.toList_map, List.isEmpty_map, List.all_map,
        Bool.and_eq_true, List.all_eq_true, Function.comp_apply] at hk ⊢
      exact ⟨hk.1, fun c hc => tokenChar_of_lower (hk.2 c hc)⟩

/-- A known type with a length that is an integer or none renders as a type token. -/
theorem typeToken_render {t : TargetType} {length : Datum} (ht : typeToken t.literal.toList = true)
    (hl : length = .null ∨ ∃ k, length = .int k) : typeToken (t.render length).toList = true := by
  unfold TargetType.render
  rcases hl with rfl | ⟨k, rfl⟩
  · split <;> simp_all
  · split
    · simp_all
    · simp only [String.toList_append]
      refine typeToken_append (typeToken_append (typeToken_append ht (by decide)) ?_) (by decide)
      simpa [Datum.asText, Datum.repr] using all_tokenChar_int k
    · exact ht

/-- A column whose fields have the kinds its descriptor declares: a text name and a length that
is an integer or none. -/
def Column.Declared (c : Column) : Prop :=
  (∃ n, c.name = .text n) ∧ (c.length = .null ∨ ∃ k, c.length = .int k)

theorem mapType_ok {udt dt : Datum} {t : TargetType} (h : mapType udt dt = .ok t) :
    ∃ u, t = mapTypeName u dt := by
  unfold mapType at h
  split at h
  · exact ⟨_, (Except.ok.inj h).symm⟩
  · split at h
    · cases h
    · exact ⟨_, (Except.ok.inj h).symm⟩

/-- A declared column of a known type has a target type, and it is a type token. -/
theorem Column.targetType_token {c : Column} (hd : c.Declared) (hk : c.isKnown = .ok true) :
    ∃ ty, c.targetType = .ok ty ∧ typeToken ty.toList = true := by
  unfold Column.isKnown at hk
  unfold Column.targetType
  cases hm : mapType c.udtName c.dataType with
  | error e => simp [hm] at hk
  | ok t =>
    obtain ⟨u, rfl⟩ := mapType_ok hm
    have hf : (mapTypeName u c.dataType).isFallback = false := by simpa [hm] using hk
    exact ⟨_, rfl, typeToken_render (typeToken_literal hf) hd.2⟩

end SqlMigration

namespace SqlMigration.Ddl

/-! ## The grammar -/

/-- Reads a type token up to the space after it. -/
def readType (cs : List Char) : Option (List Char × List Char) :=
  let t := cs.takeWhile (· != ' ')
  if typeToken t then some (t, cs.drop t.length) else none

/-- Reads one column, `Q TYPE NULL ` or `Q TYPE NOT NULL `, answering its name, type and whether
it takes nulls, and what follows. -/
def readColumn (cs : List Char) : Option ((String × String × Bool) × List Char) := do
  let (name, rest) ← readQuoted cs
  let (type, rest) ← (afterText [' '] rest).bind readType
  let rest ← afterText [' '] rest
  let (nullable, rest) ← match afterText "NULL ".toList rest with
    | some r => some (true, r)
    | none => (afterText "NOT NULL ".toList rest).map (false, ·)
  return ((String.ofList name, String.ofList type, nullable), rest)

/-- Reads the columns of a statement, each after `, `, up to what follows the last. The length
test always passes, since a column takes at least its quotes; it only shows that reading ends. -/
def readColumns (cs : List Char) : Option (List (String × String × Bool) × List Char) :=
  match readColumn cs with
  | some (x, ',' :: ' ' :: more) =>
    if more.length < cs.length then (readColumns more).map fun (xs, r) => (x :: xs, r) else none
  | some (x, rest) => some ([x], rest)
  | none => none
termination_by cs.length

/-- Reads a `Create Table` statement, `Create Table Q.Q(` then no column or columns separated by
`, `, then `)` ending the text, answering the schema, the name and the columns. -/
def readCreateTable (cs : List Char) :
    Option (String × String × List (String × String × Bool)) := do
  let ((schema, name), rest) ← (afterText "Create Table ".toList cs).bind (readDotted readQuoted)
  let rest ← afterText ['('] rest
  let columns ← if rest = [')'] then some [] else
    match readColumns rest with
    | some (columns, [')']) => some columns
    | _ => none
  return (String.ofList schema, String.ofList name, columns)

/-! ## Reading a rendered statement -/

theorem readType_token {t : List Char} (ht : typeToken t = true) (rest : List Char) :
    readType (t ++ ' ' :: rest) = some (t, ' ' :: rest) := by
  have hs : ∀ c ∈ t, (c != ' ') = true := fun c hc => by
    simp only [typeToken, tokenChar, Bool.and_eq_true, List.all_eq_true] at ht
    exact (ht.2 c hc).1.1
  have : (t ++ ' ' :: rest).takeWhile (· != ' ') = t := by
    rw [List.takeWhile_append_of_pos hs]
    simp
  simp [readType, this, ht]

/-- A column's text reads back as its name, type and nullability, whatever follows it. -/
theorem readColumn_text (n ty : String) (b : Bool) (rest : List Char)
    (hty : typeToken ty.toList = true) :
    readColumn ((quoteIdent n ++ " " ++ ty ++ " " ++ (if b then "NULL" else "NOT NULL") ++
      " ").toList ++ rest) = some ((n, ty, b), rest) := by
  have e : (quoteIdent n ++ " " ++ ty ++ " " ++ (if b then "NULL" else "NOT NULL") ++
      " ").toList ++ rest = (quoteIdent n).toList ++ ' ' :: (ty.toList ++ ' ' ::
        ((if b then "NULL" else "NOT NULL") ++ " ").toList ++ rest) := by
    simp
  rw [e, readColumn, readQuoted_quote n _ (by simp)]
  cases b <;> simp [readType_token hty]

/-- The statement shows a column as its name, its target type and whether it takes nulls. -/
def Shows (c : Column) (x : String × String × Bool) : Prop :=
  c.name = .text x.1 ∧ c.targetType = .ok x.2.1 ∧ c.nullable = x.2.2

theorem column_reads_back {c : Column} (hd : c.Declared) (hk : c.isKnown = .ok true) :
    ∃ f x, renderColumn c = .ok f ∧ Shows c x ∧
      ∀ rest, readColumn (f.toList ++ rest) = some (x, rest) := by
  obtain ⟨n, hn⟩ := hd.1
  obtain ⟨ty, ht, htok⟩ := c.targetType_token hd hk
  refine ⟨_, (n, ty, c.nullable), ?_, ⟨hn, ht, rfl⟩,
    fun rest => readColumn_text n ty c.nullable rest htok⟩
  simp only [renderColumn, quoteName, hn, ht]
  rfl

/-- The columns of a statement, joined by `, ` and closed by `)`, read back column by column. -/
theorem columns_read_back {c : Column} {cs : List Column}
    (h : ∀ x ∈ c :: cs, x.Declared ∧ x.isKnown = .ok true) :
    ∃ f fs xs, (c :: cs).mapM renderColumn = .ok (f :: fs) ∧
      readColumns ((", ".intercalate (f :: fs)).toList ++ [')']) = some (xs, [')']) ∧
      List.Forall₂ Shows (c :: cs) xs := by
  -- the induction carries the first column apart, so that the join always has a head
  induction cs generalizing c with
  | nil =>
    obtain ⟨f, x, hf, hx, hr⟩ := column_reads_back (h c (by simp)).1 (h c (by simp)).2
    refine ⟨f, [], [x], by simp [hf], ?_, by simpa using hx⟩
    rw [String.intercalate_singleton, readColumns, hr]
    rfl
  | cons c' cs ih =>
    obtain ⟨f, x, hf, hx, hr⟩ := column_reads_back (h c (by simp)).1 (h c (by simp)).2
    obtain ⟨f', fs, xs, hm, hread, hall⟩ := ih fun y hy => h y (List.mem_cons_of_mem _ hy)
    refine ⟨f, f' :: fs, x :: xs, ?_, ?_, .cons hx hall⟩
    · rw [List.mapM_cons, hf, hm]
      rfl
    · have e : (f ++ ", " ++ ", ".intercalate (f' :: fs)).toList ++ [')'] =
          f.toList ++ ',' :: ' ' :: ((", ".intercalate (f' :: fs)).toList ++ [')']) := by
        simp
      rw [String.intercalate_cons_cons, e, readColumns, hr]
      simp only [List.length_append, List.length_cons, List.length_nil, hread]
      rw [if_pos (by omega)]
      rfl

theorem readColumns_close : readColumns [')'] = none := by
  rw [readColumns]
  simp [readColumn, readQuoted]

/-- A statement reads as its schema, its name and the columns its column list reads as: none
when the list is empty, else those that reading the list up to the closing parenthesis gives. -/
theorem readCreateTable_text (s name : String) (fs : List String)
    {columns : List (String × String × Bool)}
    (h : fs = [] ∧ columns = [] ∨
      readColumns ((", ".intercalate fs).toList ++ [')']) = some (columns, [')'])) :
    readCreateTable ("Create Table " ++ qualify s name ++ "(" ++ ", ".intercalate fs ++
      ")").toList = some (s, name, columns) := by
  have e : ("Create Table " ++ qualify s name ++ "(" ++ ", ".intercalate fs ++ ")").toList =
      "Create Table ".toList ++ ((qualify s name).toList ++
        '(' :: ((", ".intercalate fs).toList ++ [')'])) := by
    simp
  rw [e]
  simp only [readCreateTable, afterText_append, Option.bind_eq_bind, Option.bind_some]
  rw [readDotted_qualify _ _ _ (by simp)]
  rcases h with ⟨rfl, rfl⟩ | hread
  · simp
  · -- the list is no lone `)`, since a lone `)` reads as no column
    have hne : (", ".intercalate fs).toList ++ [')'] ≠ [')'] := by
      intro hc
      rw [hc, readColumns_close] at hread
      cases hread
    simp only [Option.bind_some, afterText, if_pos, if_neg hne, hread]
    simp

/-- The `Create Table` text determines the table. For a table whose columns have their declared
kinds and known types, and any target schema, the statement is rendered, it is in the statement
grammar, and it reads back as the schema, the table's name and, for the columns in order, each
one's name, target type and nullability; for any number of columns, none included. -/
theorem renderTable_reads_back (t : Table) (s : String)
    (h : ∀ c ∈ t.columns, c.Declared ∧ c.isKnown = .ok true) :
    ∃ text columns, renderTable t s = .ok text ∧
      readCreateTable text.toList = some (s, t.name, columns) ∧
      List.Forall₂ Shows t.columns columns := by
  obtain ⟨schema, name, cols⟩ := t
  cases cols with
  | nil =>
    refine ⟨_, [], ?_, readCreateTable_text s name [] (.inl ⟨rfl, rfl⟩), .nil⟩
    rfl
  | cons c cs =>
    obtain ⟨f, fs, xs, hm, hread, hall⟩ := columns_read_back h
    refine ⟨_, xs, ?_, readCreateTable_text s name (f :: fs) (.inr hread), hall⟩
    simp only [renderTable, hm]
    rfl

/-- A key column, and a column whose name holds a quote, a comma and the word `NULL`, of a native
type in mixed case with a length. -/
def sampleTable : Table where
  schema := "public"
  name := "t\"x"
  columns :=
    [{ name := .text "id", udtName := .text "int4", dataType := .text "integer"
       nullable := false },
     { name := .text "note, \"NULL\"", udtName := .text "VarChar"
       dataType := .text "character varying", length := .int 50 }]

theorem renderTable_reads_back_sample :
    (∀ c ∈ sampleTable.columns, c.Declared ∧ c.isKnown = .ok true) ∧
      ∃ text columns, renderTable sampleTable "dbo" = .ok text ∧
        readCreateTable text.toList = some ("dbo", sampleTable.name, columns) ∧
        List.Forall₂ Shows sampleTable.columns columns := by
  have h : ∀ c ∈ sampleTable.columns, c.Declared ∧ c.isKnown = .ok true := by
    have l₁ : lowerForKey "int4" = "int4" :=
      String.ext (by rw [lowerForKey, String.toList_map]; decide)
    have l₂ : lowerForKey "VarChar" = "varchar" :=
      String.ext (by rw [lowerForKey, String.toList_map]; decide)
    intro c hc
    simp only [sampleTable, List.mem_cons, List.not_mem_nil, or_false] at hc
    rcases hc with rfl | rfl
    · refine ⟨⟨⟨_, rfl⟩, .inl rfl⟩, ?_⟩
      simp only [Column.isKnown, mapType, mapTypeName, l₁]
      rw [show mappedTypes.lookup "int4" = some "int" by decide]
      rfl
    · refine ⟨⟨⟨_, rfl⟩, .inr ⟨50, rfl⟩⟩, ?_⟩
      simp only [Column.isKnown, mapType, mapTypeName, l₂]
      rw [show mappedTypes.lookup "varchar" = none by decide]
      rfl
  exact ⟨h, renderTable_reads_back sampleTable "dbo" h⟩

end SqlMigration.Ddl
