import SqlMigration.DataFile.Convert

/-!
# Reading back what the text export writes

The source's text export writes a null as `\N` and a text with its backslash, its control
characters and the delimiter escaped; it joins a row's fields by the delimiter and ends each row
with a line feed (`copyText`). The reader undoes each layer: the written text splits into its
rows at the line feeds (`completeLines_copyText`), a row splits into its written fields at the
delimiters (`splitChars_copyLine`), since every delimiter inside a field stands behind a
backslash, and each written field decodes to its value (`decodeField_copyField`).
-/

namespace SqlMigration.DataFile

/-! ## The export's writer -/

/-- The letter of the escape the export writes for a character, when it has one. -/
def escapeLetter : Char → Option Char
  | '\\' => some '\\'
  | '\x08' => some 'b'
  | '\x0c' => some 'f'
  | '\n' => some 'n'
  | '\r' => some 'r'
  | '\t' => some 't'
  | '\x0b' => some 'v'
  | _ => none

/-- How the export writes one character of a text, for delimiter `d`: backslash and the control
characters by their letter escapes, the delimiter behind a backslash, all else as it is. -/
def copyEscape (d c : Char) : List Char :=
  match escapeLetter c with
  | some e => ['\\', e]
  | none => if c = d then ['\\', c] else [c]

/-- How the export writes a field: `\N` for a null, a text character by character. -/
def copyField (d : Char) : Option String → List Char
  | none => ['\\', 'N']
  | some s => s.toList.flatMap (copyEscape d)

/-- How the export writes a row: its fields joined by the delimiter. -/
def copyLine (d : Char) (row : List (Option String)) : List Char :=
  [d].intercalate (row.map (copyField d))

/-- How the export writes a table: each row ended by a line feed. -/
def copyText (d : Char) (rows : List (List (Option String))) : List Char :=
  rows.flatMap fun row => copyLine d row ++ ['\n']

/-- A value whose text holds no delimiter `d`, line feed, carriage return or NUL; a null is
one. -/
def Carried (d : Char) (v : Option String) : Prop :=
  ∀ c ∈ (v.getD "").toList, c ≠ d ∧ c ≠ '\n' ∧ c ≠ '\r' ∧ c ≠ '\x00'

-- decided along the text: an instance deciding statements about every character would run
-- through all of them
instance (d : Char) (v : Option String) : Decidable (Carried d v) :=
  List.decidableBAll _ _

/-- Rows the two data files both carry: every row has a field, and every value is carried. -/
def Carries (d : Char) (rows : List (List (Option String))) : Prop :=
  ∀ row ∈ rows, row ≠ [] ∧ ∀ v ∈ row, Carried d v

instance (d : Char) (rows : List (List (Option String))) : Decidable (Carries d rows) :=
  List.decidableBAll _ _

theorem escapeLetter_eq_some {c e : Char} (h : escapeLetter c = some e) :
    (c = '\\' ∧ e = '\\') ∨ simpleEscape e = some c := by
  unfold escapeLetter at h
  split at h <;> first | (cases h; simp [simpleEscape]) | cases h

theorem ne_backslash_of_escapeLetter {c : Char} (h : escapeLetter c = none) : c ≠ '\\' := by
  rintro rfl
  cases h

theorem copyEscape_of_letter {d c e : Char} (he : escapeLetter c = some e) :
    copyEscape d c = ['\\', e] := by
  simp [copyEscape, he]

theorem copyEscape_of_plain {d c : Char} (he : escapeLetter c = none) (hc : c ≠ d) :
    copyEscape d c = [c] := by
  simp [copyEscape, he, hc]

theorem copyEscape_self {d : Char} (he : escapeLetter d = none) : copyEscape d d = ['\\', d] := by
  simp [copyEscape, he]

/-! ## Splitting a written row -/

section Split

variable {d : Char}

theorem splitChars_escape (acc : List Char) (c : Char) (rest : List Char) :
    splitChars d acc ('\\' :: c :: rest) = splitChars d (c :: '\\' :: acc) rest := by
  simp [splitChars]

theorem splitChars_plain {c : Char} (hc : c ≠ '\\') (hd : c ≠ d) (acc rest : List Char) :
    splitChars d acc (c :: rest) = splitChars d (c :: acc) rest := by
  cases rest <;> simp [splitChars, hc, hd]

theorem splitChars_delimiter (hd : d ≠ '\\') (acc rest : List Char) :
    splitChars d acc (d :: rest) = acc.reverse :: splitChars d [] rest := by
  cases rest <;> simp [splitChars, hd]

/-- A written character never ends a field: an escape is read as one pair, the delimiter is
written behind a backslash, and what stands alone is not the delimiter. -/
theorem splitChars_copyEscape (c : Char) (acc rest : List Char) :
    splitChars d acc (copyEscape d c ++ rest) =
      splitChars d ((copyEscape d c).reverse ++ acc) rest := by
  cases he : escapeLetter c with
  | some e => exact (copyEscape_of_letter he) ▸ splitChars_escape acc e rest
  | none =>
    by_cases hc : c = d
    · subst hc
      exact (copyEscape_self he) ▸ splitChars_escape acc c rest
    · rw [copyEscape_of_plain he hc, List.singleton_append, List.reverse_singleton,
        List.singleton_append]
      exact splitChars_plain (ne_backslash_of_escapeLetter he) hc acc rest

theorem splitChars_copyChars (cs : List Char) (acc rest : List Char) :
    splitChars d acc (cs.flatMap (copyEscape d) ++ rest) =
      splitChars d ((cs.flatMap (copyEscape d)).reverse ++ acc) rest := by
  induction cs generalizing acc with
  | nil => rfl
  | cons c cs ih =>
    rw [List.flatMap_cons, List.append_assoc, splitChars_copyEscape c, ih, List.reverse_append,
      List.append_assoc]

theorem splitChars_copyField (v : Option String) (acc rest : List Char) :
    splitChars d acc (copyField d v ++ rest) =
      splitChars d ((copyField d v).reverse ++ acc) rest := by
  cases v with
  | none => exact splitChars_escape acc 'N' rest
  | some s => exact splitChars_copyChars s.toList acc rest

/-- A written row splits into its written fields, whatever its values hold. -/
theorem splitChars_copyLine (hd : d ≠ '\\') {row : List (Option String)} (hrow : row ≠ []) :
    splitChars d [] (copyLine d row) = row.map (copyField d) := by
  induction row with
  | nil => exact absurd rfl hrow
  | cons v row ih =>
    have hfield := splitChars_copyField (d := d) v []
    cases row with
    | nil =>
      have h := hfield []
      simp only [List.append_nil] at h
      simp [copyLine, h, splitChars]
    | cons w rest =>
      have hrest := ih (List.cons_ne_nil w rest)
      simp only [copyLine, List.map_cons] at hrest ⊢
      rw [List.intercalate_cons_cons, List.append_assoc, hfield, List.singleton_append,
        splitChars_delimiter hd, List.append_nil, List.reverse_reverse, hrest]

end Split

/-! ## Decoding a written field -/

theorem unescape_plain {c : Char} (hc : c ≠ '\\') (rest : List Char) :
    unescape (c :: rest) = c :: unescape rest := by
  cases rest <;> simp [unescape, hc]

theorem unescape_letter {c e : Char} (he : simpleEscape e = some c) (rest : List Char) :
    unescape ('\\' :: e :: rest) = c :: unescape rest := by
  -- the equations of `unescape` are split by the length of what follows the escape
  rcases rest with _ | ⟨x, _ | ⟨y, rest⟩⟩ <;> simp [unescape, he]

theorem unescape_backslash (rest : List Char) :
    unescape ('\\' :: '\\' :: rest) = '\\' :: unescape rest := by
  rcases rest with _ | ⟨x, _ | ⟨y, rest⟩⟩ <;> simp [unescape, simpleEscape, isOctal]

/-- A text without backslashes has nothing to resolve. -/
theorem unescape_of_not_mem {cs : List Char} (h : '\\' ∉ cs) : unescape cs = cs := by
  induction cs with
  | nil => rfl
  | cons c cs ih =>
    rw [List.mem_cons, not_or] at h
    rw [unescape_plain (Ne.symm h.1), ih h.2]

/-- A delimiter the text export accepts besides the checks every delimiter passes: an ASCII
character that is no lowercase letter, digit, `.` or `N`. An escaped delimiter then reads back as
itself, since no letter escape, octal or hexadecimal escape starts with it, and no written text
reads as the null marker `\N`. -/
def exportAccepts (c : Char) : Bool :=
  c.toNat < 128 && !c.isLower && !c.isDigit && c != '.' && c != 'N'

section Accepted

variable {d : Char}

theorem simpleEscape_of_exportAccepts (hd : exportAccepts d = true) : simpleEscape d = none := by
  unfold simpleEscape
  split <;> first | rfl | exact absurd hd (by decide)

theorem isOctal_of_exportAccepts (hd : exportAccepts d = true) : isOctal d = false := by
  have hdig : d.isDigit = false := by
    simp only [exportAccepts, Bool.and_eq_true, Bool.not_eq_eq_eq_not, Bool.not_true] at hd
    exact hd.1.1.2
  -- an octal digit is a decimal digit
  cases h : isOctal d
  · rfl
  · simp only [isOctal, Bool.and_eq_true, decide_eq_true_eq] at h
    simp only [Char.isDigit, Bool.and_eq_false_iff, decide_eq_false_iff_not] at hdig
    rcases hdig with h1 | h2
    · exact absurd h.1 h1
    · exact absurd (Char.le_trans h.2 (by decide)) h2

theorem ne_x_of_exportAccepts (hd : exportAccepts d = true) : d ≠ 'x' := by
  rintro rfl
  exact absurd hd (by decide)

theorem ne_N_of_exportAccepts (hd : exportAccepts d = true) : d ≠ 'N' := by
  rintro rfl
  exact absurd hd (by decide)

/-- A backslash before an accepted delimiter stands for the delimiter. -/
theorem unescape_escaped (hd : exportAccepts d = true) (rest : List Char) :
    unescape ('\\' :: d :: rest) = d :: unescape rest := by
  have hs := simpleEscape_of_exportAccepts hd
  have ho := isOctal_of_exportAccepts hd
  have hx := ne_x_of_exportAccepts hd
  rcases rest with _ | ⟨x, _ | ⟨y, rest⟩⟩ <;> simp [unescape, hs, ho, hx]

end Accepted

/-- A written character reads back as itself, unless it is the delimiter and the delimiter is
one the export does not accept. -/
theorem unescape_copyEscape {d c : Char} (hc : c ≠ d ∨ exportAccepts d = true) (rest : List Char) :
    unescape (copyEscape d c ++ rest) = c :: unescape rest := by
  cases he : escapeLetter c with
  | some e =>
    rw [copyEscape_of_letter he, List.cons_append, List.cons_append, List.nil_append]
    rcases escapeLetter_eq_some he with ⟨rfl, rfl⟩ | hs
    · exact unescape_backslash rest
    · exact unescape_letter hs rest
  | none =>
    by_cases hcd : c = d
    · subst hcd
      rw [copyEscape_self he, List.cons_append, List.cons_append, List.nil_append]
      exact unescape_escaped (hc.resolve_left fun h => h rfl) rest
    · rw [copyEscape_of_plain he hcd, List.singleton_append]
      exact unescape_plain (ne_backslash_of_escapeLetter he) rest

theorem unescape_copyChars {d : Char} {cs : List Char} (hcs : ∀ c ∈ cs, c ≠ d ∨ exportAccepts d = true) :
    unescape (cs.flatMap (copyEscape d)) = cs := by
  induction cs with
  | nil => rfl
  | cons c cs ih =>
    rw [List.flatMap_cons, unescape_copyEscape (hcs c List.mem_cons_self),
      ih (fun x hx => hcs x (List.mem_cons_of_mem c hx))]

/-- A raw field other than the null marker decodes to its unescaped text, whether or not it
holds a backslash. -/
theorem decodeField_of_ne_null {raw : String} (h : raw ≠ nullMarker) :
    decodeField raw = some (String.ofList (unescape raw.toList)) := by
  unfold decodeField
  rw [if_neg h, String.contains_char_eq]
  split
  · rename_i hb
    rw [unescape_of_not_mem (by simpa using hb), String.ofList_toList]
  · rfl

/-- A written text never reads as the null marker: its first character is written either as
itself, which is no backslash, or as an escape whose letter is not `N`, or, when it is the
delimiter, behind a backslash, and an accepted delimiter is not `N`. -/
theorem copyField_ne_null {d : Char} {s : String}
    (hs : ∀ c ∈ s.toList, c ≠ d ∨ exportAccepts d = true) : copyField d (some s) ≠ ['\\', 'N'] := by
  simp only [copyField]
  cases hcs : s.toList with
  | nil => simp
  | cons c cs =>
    have hc := hs c (by simp [hcs])
    rw [List.flatMap_cons]
    cases he : escapeLetter c with
    | some e =>
      rw [copyEscape_of_letter he]
      intro h
      have hN : e = 'N' := (List.cons.inj (List.cons.inj h).2).1
      subst hN
      rcases escapeLetter_eq_some he with ⟨-, h'⟩ | h'
      · cases h'
      · cases h'
    | none =>
      by_cases hcd : c = d
      · subst hcd
        rw [copyEscape_self he]
        intro h
        exact ne_N_of_exportAccepts (hc.resolve_left fun h => h rfl)
          (List.cons.inj (List.cons.inj h).2).1
      · rw [copyEscape_of_plain he hcd, List.singleton_append]
        intro h
        exact ne_backslash_of_escapeLetter he (List.cons.inj h).1

/-- Decoding a written field gives back its value when every character of it reads back. -/
theorem decodeField_copyField_of {d : Char} {v : Option String}
    (hv : ∀ c ∈ (v.getD "").toList, c ≠ d ∨ exportAccepts d = true) :
    decodeField (String.ofList (copyField d v)) = v := by
  cases v with
  | none => rfl
  | some s =>
    have hs : ∀ c ∈ s.toList, c ≠ d ∨ exportAccepts d = true := hv
    have hne : String.ofList (copyField d (some s)) ≠ nullMarker := fun h =>
      copyField_ne_null hs (by simpa [nullMarker] using congrArg String.toList h)
    rw [decodeField_of_ne_null hne, String.toList_ofList, copyField, unescape_copyChars hs,
      String.ofList_toList]

/-- Decoding a written field gives back its value. -/
theorem decodeField_copyField {d : Char} {v : Option String} (hv : Carried d v) :
    decodeField (String.ofList (copyField d v)) = v :=
  decodeField_copyField_of fun c hc => .inl (hv c hc).1

/-- With a delimiter the export accepts, decoding a written field gives back every value. -/
theorem decodeField_copyField_accepted {d : Char} (hd : exportAccepts d = true) (v : Option String) :
    decodeField (String.ofList (copyField d v)) = v :=
  decodeField_copyField_of fun _ _ => .inr hd

/-! ## Splitting the written table into rows -/

section Lines

variable {d : Char}

/-- The export writes a line feed only at the end of a row: inside a text it is an escape. -/
theorem newline_not_mem_copyEscape (hd : d ≠ '\n') (c : Char) : '\n' ∉ copyEscape d c := by
  cases he : escapeLetter c with
  | some e =>
    rw [copyEscape_of_letter he]
    rcases escapeLetter_eq_some he with ⟨-, rfl⟩ | hs
    · decide
    · rintro (_ | ⟨_, _ | ⟨_, h⟩⟩)
      · cases hs
      · cases h
  | none =>
    by_cases hc : c = d
    · subst hc
      simp [copyEscape, he, Ne.symm hd]
    · rw [copyEscape_of_plain he hc, List.mem_singleton]
      rintro rfl
      cases he

theorem newline_not_mem_copyField (hd : d ≠ '\n') (v : Option String) :
    '\n' ∉ copyField d v := by
  cases v with
  | none => simp [copyField]
  | some s =>
    simp only [copyField, List.mem_flatMap, not_exists, not_and]
    exact fun c _ => newline_not_mem_copyEscape hd c

theorem not_mem_intercalate {x : Char} {sep : List Char} {ls : List (List Char)} (hsep : x ∉ sep)
    (h : ∀ l ∈ ls, x ∉ l) : x ∉ sep.intercalate ls := by
  induction ls with
  | nil => simp
  | cons l ls ih =>
    have hl := h l List.mem_cons_self
    have hls := fun l' hl' => h l' (List.mem_cons_of_mem l hl')
    cases ls with
    | nil => simpa using hl
    | cons l' rest =>
      rw [List.intercalate_cons_cons, List.mem_append, List.mem_append]
      exact fun hx => hx.elim (·.elim hl hsep) (ih hls)

/-- Splitting at a terminator the pieces that each end with it, and hold it nowhere else, gives
the pieces back and an empty remainder. -/
theorem splitOn_flatMap_terminated {β : Type} {c : Char} {f : β → List Char} {l : List β}
    (h : ∀ b ∈ l, c ∉ f b) : (l.flatMap fun b => f b ++ [c]).splitOn c = l.map f ++ [[]] := by
  induction l with
  | nil => rfl
  | cons b l ih =>
    rw [List.flatMap_cons, List.append_assoc, List.singleton_append,
      List.splitOn_append_cons_self_of_not_mem (h b List.mem_cons_self),
      ih (fun b' hb' => h b' (List.mem_cons_of_mem b hb')), List.map_cons, List.cons_append]

theorem newline_not_mem_copyLine (hd : d ≠ '\n') (row : List (Option String)) :
    '\n' ∉ copyLine d row :=
  not_mem_intercalate (by simpa using Ne.symm hd)
    (by simpa using fun v _ => newline_not_mem_copyField hd v)

theorem splitOn_copyText (hd : d ≠ '\n') (rows : List (List (Option String))) :
    (copyText d rows).splitOn '\n' = rows.map (copyLine d) ++ [[]] :=
  splitOn_flatMap_terminated fun row _ => newline_not_mem_copyLine hd row

/-- The written table reads as one complete line per row, with nothing after the last. -/
theorem completeLines_copyText (hd : d ≠ '\n') (rows : List (List (Option String))) :
    completeLines (copyText d rows) = (rows.map fun row => String.ofList (copyLine d row), []) := by
  simp [completeLines, splitOn_copyText hd]

end Lines

end SqlMigration.DataFile
