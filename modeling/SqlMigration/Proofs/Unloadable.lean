import SqlMigration.Proofs.Conversion

/-!
# Values the load format cannot carry are refused

A value that holds the delimiter, a line feed, a carriage return or a NUL has no form in the
load format (`Carried`). The conversion never alters such a value: it stops, naming the row and
the column of the first one in row-major order.

That needs every value to reach the load writer as it was exported, escapes resolved. It does
whenever the delimiter is one the text export accepts (`exportAccepts`): an escaped delimiter,
an escaped line feed or carriage return reads back as the character itself
(`decodeField_copyField_accepted`), and the split never cuts a field at an escaped delimiter
(`splitChars_copyLine`).

Main statement: `convertCopyText_refuses_unloadable`, for such a delimiter and every table
written by the text export, the conversion answers the number of rows exactly when every value
is carried, fails exactly when some value is not, and then fails with the row and column of the
first such value.
-/

namespace SqlMigration.DataFile

/-! ## Which values the load writer refuses -/

section Refused

variable {d : Char}

theorem occursIn_singleton_of_mem {c : Char} {s : String} (h : c ∈ s.toList) :
    occursIn (String.singleton c) s = true := by
  obtain ⟨i, hi, rfl⟩ := List.getElem_of_mem h
  simp only [occursIn, String.toList_singleton, List.any_eq_true, List.mem_range]
  refine ⟨i, ?_, ?_⟩
  · rw [← String.length_toList]
    omega
  · rw [List.drop_eq_getElem_cons hi]
    exact List.isPrefixOf_iff_prefix.2 ⟨_, rfl⟩

/-- A text that is not carried holds one of the reserved characters, which the writer finds. -/
theorem reservedIn_of_not_carried {s : String} (hs : ¬ Carried d (some s)) :
    ∃ r, reservedIn s (String.singleton d) = some r := by
  simp only [Carried, Option.getD_some, not_forall, not_and_or, not_not] at hs
  obtain ⟨c, hc, h⟩ := hs
  unfold reservedIn
  rcases h with rfl | rfl | rfl | rfl
  · exact ⟨_, by rw [occursIn_singleton_of_mem hc]; rfl⟩
  all_goals
    split
    · exact ⟨_, rfl⟩
    · simp only [String.contains_char_eq]
      split_ifs <;> simp_all

/-- The writer refuses exactly the values that are not carried. -/
theorem encodeField_error_of_not_carried {v : Option String} (hv : ¬ Carried d v) :
    ∃ r, encodeField v (String.singleton d) = .error r := by
  cases v with
  | none => exact absurd (fun _ h => nomatch h) hv
  | some s =>
    -- a text holding a reserved character is not empty
    have hne : s.isEmpty = false := by
      simp only [Carried, Option.getD_some, not_forall] at hv
      obtain ⟨c, hc, -⟩ := hv
      cases he : s.isEmpty
      · rfl
      · simp [String.isEmpty_iff.1 he] at hc
    obtain ⟨r, hr⟩ := reservedIn_of_not_carried hv
    exact ⟨r, by simp [encodeField, hne, hr]⟩

end Refused

/-! ## The first value that is not carried -/

/-- A traversal stops at the first step that fails. -/
theorem mapM_append_cons_error {α β ε : Type} {f : α → Except ε β} {x : α} {e : ε} :
    ∀ {before : List α} (after : List α), (∀ a ∈ before, ∃ b, f a = .ok b) → f x = .error e →
      (before ++ x :: after).mapM f = .error e
  | [], after, _, hx => by
    rw [List.nil_append, List.mapM_cons, hx]
    rfl
  | a :: before, after, hb, hx => by
    obtain ⟨b, hab⟩ := hb a List.mem_cons_self
    rw [List.cons_append, List.mapM_cons, hab,
      mapM_append_cons_error after (fun a' ha' => hb a' (List.mem_cons_of_mem a ha')) hx]
    rfl

/-- A list with an element failing a test splits at the first such element. -/
theorem exists_first_not {α : Type} {p : α → Prop} [DecidablePred p] :
    ∀ {l : List α}, (∃ x ∈ l, ¬ p x) →
      ∃ before x after, l = before ++ x :: after ∧ (∀ y ∈ before, p y) ∧ ¬ p x
  | [], ⟨_, hx, _⟩ => nomatch hx
  | y :: l, h => by
    by_cases hy : p y
    · have hl : ∃ x ∈ l, ¬ p x := by
        obtain ⟨x, hx, hpx⟩ := h
        rcases List.mem_cons.1 hx with rfl | hx
        · exact absurd hy hpx
        · exact ⟨x, hx, hpx⟩
      obtain ⟨before, x, after, rfl, hb, hx⟩ := exists_first_not hl
      refine ⟨y :: before, x, after, rfl, fun z hz => ?_, hx⟩
      rcases List.mem_cons.1 hz with rfl | hz
      · exact hy
      · exact hb z hz
    · exact ⟨[], y, l, rfl, (fun _ h => nomatch h), hy⟩

/-- A table with a value that is not carried has a first one in row-major order: every value
of the rows before its row, and of its row before it, is carried. -/
theorem exists_first_not_carried {d : Char} {rows : List (List (Option String))}
    (h : ∃ row ∈ rows, ∃ v ∈ row, ¬ Carried d v) :
    ∃ rowsBefore cellsBefore v cellsAfter rowsAfter,
      rows = rowsBefore ++ (cellsBefore ++ v :: cellsAfter) :: rowsAfter ∧
      (∀ row ∈ rowsBefore, ∀ w ∈ row, Carried d w) ∧ (∀ w ∈ cellsBefore, Carried d w) ∧
      ¬ Carried d v := by
  obtain ⟨rowsBefore, row, rowsAfter, rfl, hrb, hrow⟩ :=
    exists_first_not (p := fun row => ∀ w ∈ row, Carried d w) (by simpa using h)
  obtain ⟨cellsBefore, v, cellsAfter, rfl, hcb, hv⟩ :=
    exists_first_not (p := Carried d) (by simpa using hrow)
  exact ⟨rowsBefore, cellsBefore, v, cellsAfter, rowsAfter, rfl, hrb, hcb, hv⟩

/-! ## Converting any written table -/

section Lines

variable (d : Delimiter)

/-- The raw fields of a written row, whatever its values hold. -/
theorem splitLine_copyLine {row : List (Option String)} (hrow : row ≠ []) :
    splitLine (String.ofList (copyLine d.char row)) d.text =
      row.map fun v => String.ofList (copyField d.char v) := by
  simp only [splitLine, Delimiter.text, String.toList_singleton, String.toList_ofList,
    splitChars_copyLine d.char_ne_backslash hrow, List.map_map]
  rfl

/-- A written row whose values are all carried converts. -/
theorem convertLine_copyLine_ok {row : List (Option String)} (hv : ∀ v ∈ row, Carried d.char v) :
    ∃ out, convertLine (String.ofList (copyLine d.char row)) d.text = .ok out := by
  cases row with
  | nil =>
    -- an empty row is written as an empty line: one empty text, written as a NUL
    refine ⟨"\x00\n", ?_⟩
    simp [convertLine, copyLine, splitLine, Delimiter.text, splitChars, decodeField, nullMarker,
      encodeField]
    rfl
  | cons w ws => exact ⟨_, convertLine_copyLine d (List.cons_ne_nil w ws) hv⟩

/-- A written row with a value that is not carried fails at the first such value, with a delimiter
the export accepts. -/
theorem convertLine_copyLine_error (hd : exportAccepts d.char = true)
    {before : List (Option String)} {v : Option String} (after : List (Option String))
    (hb : ∀ w ∈ before, Carried d.char w) (hv : ¬ Carried d.char v) :
    ∃ r, encodeField v d.text = .error r ∧
      convertLine (String.ofList (copyLine d.char (before ++ v :: after))) d.text =
        .error (before.length + 1, r) := by
  obtain ⟨r, hr⟩ := encodeField_error_of_not_carried hv
  refine ⟨r, hr, ?_⟩
  -- each raw field decodes to its value
  have hdec : ∀ w, decodeField (String.ofList (copyField d.char w)) = w :=
    decodeField_copyField_accepted hd
  simp only [convertLine, splitLine_copyLine d (by simp : before ++ v :: after ≠ []),
    List.map_append, List.map_cons, List.zipIdx_append, List.zipIdx_cons, List.length_map,
    Nat.zero_add]
  rw [mapM_append_cons_error]
  · rfl
  · rintro ⟨raw, i⟩ ha
    obtain ⟨w, hw, rfl⟩ := List.mem_map.1 (List.fst_mem_of_mem_zipIdx ha)
    exact ⟨String.ofList (loadField w), by
      rw [hdec, Delimiter.text, encodeField_of_carried (hb w hw)]
      rfl⟩
  · simp [hdec, Delimiter.text, hr, Except.mapError]

/-- Written rows whose values are all carried convert, one converted line per row. -/
theorem convertRows_copyLines_ok (source : String) :
    ∀ (first : Nat) {rows : List (List (Option String))},
      (∀ row ∈ rows, ∀ v ∈ row, Carried d.char v) →
      ∃ out, convertRows source d.text first
        (rows.map fun row => String.ofList (copyLine d.char row)) = .ok out ∧
        out.length = rows.length
  | _, [], _ => ⟨[], rfl, rfl⟩
  | first, row :: rows, h => by
    obtain ⟨line, hline⟩ := convertLine_copyLine_ok d (h row List.mem_cons_self)
    obtain ⟨out, hout, hlen⟩ :=
      convertRows_copyLines_ok source (first + 1) fun r hr => h r (List.mem_cons_of_mem row hr)
    refine ⟨line :: out, ?_, by simp [hlen]⟩
    simp only [List.map_cons, convertRows, hline, hout]
    rfl

/-- Written rows stop at the first value that is not carried, naming its row (counted from
`first`) and its column. -/
theorem convertRows_copyLines_error (hd : exportAccepts d.char = true) (source : String)
    {cellsBefore : List (Option String)} {v : Option String} (cellsAfter : List (Option String))
    (rowsAfter : List (List (Option String)))
    (hcb : ∀ w ∈ cellsBefore, Carried d.char w) (hv : ¬ Carried d.char v) :
    ∀ (first : Nat) {rowsBefore : List (List (Option String))},
      (∀ row ∈ rowsBefore, ∀ w ∈ row, Carried d.char w) →
      ∃ r, encodeField v d.text = .error r ∧
        convertRows source d.text first
          ((rowsBefore ++ (cellsBefore ++ v :: cellsAfter) :: rowsAfter).map
            fun row => String.ofList (copyLine d.char row)) =
          .error (.unloadable source (first + rowsBefore.length) (cellsBefore.length + 1) r d.text)
  | first, [], _ => by
    obtain ⟨r, hr, hline⟩ := convertLine_copyLine_error d hd cellsAfter hcb hv
    refine ⟨r, hr, ?_⟩
    simp only [List.nil_append, List.map_cons, convertRows, hline, List.length_nil, Nat.add_zero]
    rfl
  | first, row :: rowsBefore, h => by
    obtain ⟨line, hline⟩ := convertLine_copyLine_ok d (h row List.mem_cons_self)
    obtain ⟨r, hr, hrest⟩ := convertRows_copyLines_error hd source cellsAfter rowsAfter hcb hv
      (first + 1) fun r hr => h r (List.mem_cons_of_mem row hr)
    refine ⟨r, hr, ?_⟩
    simp only [List.cons_append, List.map_cons, convertRows, hline, List.length_cons]
    rw [show first + (rowsBefore.length + 1) = first + 1 + rowsBefore.length by omega, hrest]
    rfl

end Lines

/-! ## The conversion on the host -/

section Run

open HostM FileTree

variable {h : Host} {source destination tmp : Path} {sdir dir : List String}
  {sname dname tname : String}

/-- A conversion whose rows stop it fails with their error, and the cleanup removes the
temporary file it created. -/
theorem run_convertCopyText_error (d : Delimiter) {rows : List (List (Option String))}
    {e : DataFileError}
    (hconv : convertRows source.name d.text 1
      (rows.map fun row => String.ofList (copyLine d.char row)) = .error e)
    (hsrc : h.tree.FileSlot source sdir sname)
    (hstaged : h.tree.find? (sdir ++ [sname]) =
      some (.file (Text.Utf8.encode (String.ofList (copyText d.char rows)))))
    (htmp : tempSibling destination = .ok tmp) (hslot : h.tree.FileSlot tmp dir tname)
    (hsep : sdir ++ [sname] ≠ dir ++ [tname]) :
    run h (convertCopyText source destination d.text) =
      (.error (.tool (.dataFile e)),
        { h with tree := (h.tree.set (dir ++ [tname]) (.file [])).erase (dir ++ [tname]) }) := by
  have slot1 := hslot.set_file hslot.notDir []
  have hfile : (h.tree.set (dir ++ [tname]) (.file [])).find? (dir ++ [tname]) = some (.file []) :=
    find?_set_self (by simp) _
  unfold convertCopyText
  rw [htmp, run_bind_of_ok (run_lift_ok _ _ _), run_finally', run_mapFault,
    run_convertCopyText_body_error d hconv hsrc hstaged hslot hsep]
  -- the cleanup finds the temporary file and removes it
  dsimp only
  rw [run_bind_of_ok (run_exists? (b := true)
    (by simp [FileTree.exists?, stat_child slot1.resolves slot1.short hfile]))]
  rw [if_pos rfl, show run _ (unlink tmp) = _ from run_change_ok (slot1.unlink hfile)]

/-- A conversion whose rows convert answers their number. -/
theorem run_convertCopyText_ok (d : Delimiter) {rows : List (List (Option String))}
    {out : List String}
    (hconv : convertRows source.name d.text 1
      (rows.map fun row => String.ofList (copyLine d.char row)) = .ok out)
    (hsrc : h.tree.FileSlot source sdir sname)
    (hstaged : h.tree.find? (sdir ++ [sname]) =
      some (.file (Text.Utf8.encode (String.ofList (copyText d.char rows)))))
    (htmp : tempSibling destination = .ok tmp) (hslot : h.tree.FileSlot tmp dir tname)
    (hdst : h.tree.FileSlot destination dir dname) (hne : tname ≠ dname)
    (hsep : sdir ++ [sname] ≠ dir ++ [tname]) :
    (run h (convertCopyText source destination d.text)).1 = .ok out.length := by
  have slot1 := hslot.set_file hslot.notDir []
  have slot2 := slot1.set_file slot1.notDir (Text.Utf8.encode (String.join out))
  have dslot2 := (hdst.set_file hslot.notDir []).set_file slot1.notDir
    (Text.Utf8.encode (String.join out))
  unfold convertCopyText
  rw [htmp, run_bind_of_ok (run_lift_ok _ _ _), run_finally', run_mapFault,
    run_convertCopyText_body_ok d hconv hsrc hstaged hslot hdst hne hsep]
  -- the cleanup finds nothing left at the temporary path
  dsimp only
  rw [run_bind_of_ok (run_exists? (FileSlot.exists?_move_sibling slot2 dslot2 hne
    (find?_set_self (by simp) _)))]
  rfl

/-- Converting a staged export written by the text export, with a delimiter the export
accepts, refuses the values the load format cannot carry and alters none: the conversion
answers the number of rows exactly when every value is carried, stops with a data file error
exactly when some value is not, and then the error is the first such value in row-major order,
named by its row and column counted from one, with the reason the load writer gives for it. The
staged file, the destination and its temporary sibling are regular-file places; the latter two
share a directory, and the staged file is not the temporary one. -/
theorem convertCopyText_refuses_unloadable (d : Delimiter) (hd : exportAccepts d.char = true)
    {rows : List (List (Option String))} (hsrc : h.tree.FileSlot source sdir sname)
    (hstaged : h.tree.find? (sdir ++ [sname]) =
      some (.file (Text.Utf8.encode (String.ofList (copyText d.char rows)))))
    (htmp : tempSibling destination = .ok tmp) (hslot : h.tree.FileSlot tmp dir tname)
    (hdst : h.tree.FileSlot destination dir dname) (hne : tname ≠ dname)
    (hsep : sdir ++ [sname] ≠ dir ++ [tname]) :
    ((run h (convertCopyText source destination d.text)).1 = .ok rows.length ↔
      ∀ row ∈ rows, ∀ v ∈ row, Carried d.char v) ∧
    ((∃ e, (run h (convertCopyText source destination d.text)).1 = .error (.tool (.dataFile e))) ↔
      ∃ row ∈ rows, ∃ v ∈ row, ¬ Carried d.char v) ∧
    ∀ rowsBefore cellsBefore v cellsAfter rowsAfter,
      rows = rowsBefore ++ (cellsBefore ++ v :: cellsAfter) :: rowsAfter →
      (∀ row ∈ rowsBefore, ∀ w ∈ row, Carried d.char w) → (∀ w ∈ cellsBefore, Carried d.char w) →
      ¬ Carried d.char v →
      ∃ r, encodeField v d.text = .error r ∧
        (run h (convertCopyText source destination d.text)).1 =
          .error (.tool (.dataFile (.unloadable source.name (rowsBefore.length + 1)
            (cellsBefore.length + 1) r d.text))) := by
  -- the outcome at the first value that is not carried
  have hfirst : ∀ rowsBefore cellsBefore v cellsAfter rowsAfter,
      rows = rowsBefore ++ (cellsBefore ++ v :: cellsAfter) :: rowsAfter →
      (∀ row ∈ rowsBefore, ∀ w ∈ row, Carried d.char w) → (∀ w ∈ cellsBefore, Carried d.char w) →
      ¬ Carried d.char v →
      ∃ r, encodeField v d.text = .error r ∧
        (run h (convertCopyText source destination d.text)).1 =
          .error (.tool (.dataFile (.unloadable source.name (rowsBefore.length + 1)
            (cellsBefore.length + 1) r d.text))) := by
    rintro rowsBefore cellsBefore v cellsAfter rowsAfter rfl hrb hcb hv
    obtain ⟨r, hr, hconv⟩ := convertRows_copyLines_error d hd source.name cellsAfter rowsAfter
      hcb hv 1 hrb
    refine ⟨r, hr, ?_⟩
    rw [run_convertCopyText_error d hconv hsrc hstaged htmp hslot hsep, Nat.add_comm]
  -- the outcome when every value is carried
  have hall : (∀ row ∈ rows, ∀ v ∈ row, Carried d.char v) →
      (run h (convertCopyText source destination d.text)).1 = .ok rows.length := by
    intro hc
    obtain ⟨out, hconv, hlen⟩ := convertRows_copyLines_ok d source.name 1 hc
    rw [run_convertCopyText_ok d hconv hsrc hstaged htmp hslot hdst hne hsep, hlen]
  -- a value that is not carried stops the conversion at the first one
  have hsome : (∃ row ∈ rows, ∃ v ∈ row, ¬ Carried d.char v) →
      ∃ e, (run h (convertCopyText source destination d.text)).1 = .error (.tool (.dataFile e)) := by
    intro hc
    obtain ⟨rb, cb, v, ca, ra, hrows, hrb, hcb, hv⟩ := exists_first_not_carried hc
    obtain ⟨r, -, hrun⟩ := hfirst rb cb v ca ra hrows hrb hcb hv
    exact ⟨_, hrun⟩
  refine ⟨⟨fun hok => ?_, hall⟩, ⟨fun ⟨e, he⟩ => ?_, hsome⟩, hfirst⟩
  · by_contra hc
    obtain ⟨e, he⟩ := hsome (by simpa using hc)
    rw [hok] at he
    cases he
  · by_contra hc
    rw [hall (by simpa using hc)] at he
    cases he

/-- A comma inside a value of the second row, staged as `d/s` and converted into `d/t.csv` with
a comma between fields: the conversion stops at row 2, column 2, the value holding the
delimiter. -/
theorem convertCopyText_refuses_unloadable_sample :
    exportAccepts ',' = true ∧
    ∃ r, encodeField (some "a,b") "," = .error r ∧
      (run { tree := ⟨[(["d"], .dir), (["d", "s"], .file (Text.Utf8.encode
          (String.ofList (copyText ',' [[some "1", none], [some "2", some "a,b"]]))))]⟩ }
        (convertCopyText ⟨"", ["d", "s"]⟩ ⟨"", ["d", "t.csv"]⟩ ",")).1 =
        .error (.tool (.dataFile (.unloadable "s" 2 2 r ","))) :=
  ⟨by decide, (@convertCopyText_refuses_unloadable
    { tree := ⟨[(["d"], .dir), (["d", "s"], .file (Text.Utf8.encode
      (String.ofList (copyText ',' [[some "1", none], [some "2", some "a,b"]]))))]⟩ }
    ⟨"", ["d", "s"]⟩ ⟨"", ["d", "t.csv"]⟩ ⟨"", ["d", "t.csv.tmp"]⟩ ["d"] ["d"] "s" "t.csv"
    "t.csv.tmp" ⟨',', rfl⟩ (by decide) [[some "1", none], [some "2", some "a,b"]]
    ⟨rfl, by decide, by decide⟩ rfl
    (by simp [tempSibling, Path.withSuffix, Path.suffix, Path.suffixOf, Path.name, Path.lastDot]
        decide)
    ⟨rfl, by decide, by decide⟩ ⟨rfl, by decide, by decide⟩ (by decide) (by decide)).2.2
    [[some "1", none]] [some "2"] (some "a,b") [] [] rfl (by decide) (by decide) (by decide)⟩

end Run

end SqlMigration.DataFile
