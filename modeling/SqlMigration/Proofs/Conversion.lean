import SqlMigration.Proofs.CopyText
import SqlMigration.Proofs.FileTree
import SqlMigration.Proofs.Host
import SqlMigration.Proofs.Utf8

/-!
# Converting an export keeps its rows

The loader reads a load file in character mode: rows end at the row terminator, fields are split
at the field terminator, an empty field is a null and a lone NUL the empty text (`readLoadFile`);
the terminators come from its arguments, spelled as `loaderTerminator` writes them
(`readTerminator`).

A row written by the text export converts to the load line of the same values
(`convertLine_copyLine`), and the loader reads every load line back (`readLoadFile_loadLines`).
On the host, the conversion creates its temporary sibling, reads the staged export, writes the
converted text and renames it over the destination, after which the cleanup finds nothing to
remove (`run_convertCopyText_body`).

Main statement: `convertCopyText_round_trip`, for every delimiter and every table whose rows have
a field and whose texts hold neither the delimiter nor a line feed, carriage return or NUL, the
conversion answers the number of rows and the loader reads back exactly those rows.
-/

namespace SqlMigration.DataFile

/-! ## The loader's reader -/

/-- The characters a terminator argument of the loader stands for: `\t`, `\n`, `\r`, `\0` and
`\\` name a tab, a line feed, a carriage return, a NUL and a backslash, `0x` and two hexadecimal
digits name the character of that code, and every other character stands for itself. -/
def readTerminator : List Char → List Char
  | '\\' :: 't' :: rest => '\t' :: readTerminator rest
  | '\\' :: 'n' :: rest => '\n' :: readTerminator rest
  | '\\' :: 'r' :: rest => '\r' :: readTerminator rest
  | '\\' :: '0' :: rest => '\x00' :: readTerminator rest
  | '\\' :: '\\' :: rest => '\\' :: readTerminator rest
  | '0' :: 'x' :: hi :: lo :: rest =>
    match hexValue hi, hexValue lo with
    | some a, some b => Char.ofNat (a * 16 + b) :: readTerminator rest
    | _, _ => '0' :: readTerminator ('x' :: hi :: lo :: rest)
  | c :: rest => c :: readTerminator rest
  | [] => []

/-- The value the loader reads from a field in character mode: an empty field is a null, a
single NUL the empty text, and any other field its text. -/
def loadValue : List Char → Option String
  | [] => none
  | ['\x00'] => some ""
  | cs => some (String.ofList cs)

/-- The rows the loader reads from a file's characters, with one-character field and row
terminators: a row ends at each row terminator, and its fields are split at the field
terminator. -/
def readLoadFile (field row : Char) (cs : List Char) : List (List (Option String)) :=
  (cs.splitOn row).dropLast.map fun line => (line.splitOn field).map loadValue

example : readTerminator "0x0a".toList = ['\n'] := by decide

theorem readTerminator_single (c : Char) : readTerminator [c] = [c] := by
  simp [readTerminator]

/-- The loader reads the delimiter back from the way its arguments spell it. -/
theorem readTerminator_loaderTerminator (d : Delimiter) :
    readTerminator (loaderTerminator d.text).toList = [d.char] := by
  have h := d.ok
  simp only [delimiterOk, decide_eq_true_eq] at h
  by_cases ht : d.char = '\t'
  · simp only [loaderTerminator, Delimiter.text, String.toList_singleton, ht]
    decide
  · simp [loaderTerminator, Delimiter.text, ht, h.2.1, h.2.2.1, readTerminator_single]
example : readLoadFile ',' '\n' "a,\x00,\n,b\n".toList = [[some "a", some "", none], [none, some "b"]] := by decide


/-! ## The load form of a row -/

/-- The load file's field for a value it can hold: nothing for a null, a NUL for the empty
text, the text itself otherwise. -/
def loadField : Option String → List Char
  | none => []
  | some s => if s.isEmpty then ['\x00'] else s.toList

/-- The load file's line for a row: its fields joined by the delimiter, ended by a line feed. -/
def loadLine (d : Char) (row : List (Option String)) : List Char :=
  [d].intercalate (row.map loadField) ++ ['\n']

section Fields

variable {d : Char}

theorem occursIn_singleton_of_not_mem {c : Char} {s : String} (h : c ∉ s.toList) :
    occursIn (String.singleton c) s = false := by
  simp only [occursIn, String.toList_singleton, List.any_eq_false]
  intro i _ hp
  -- a match at position `i` puts `c` among the characters from `i` on
  have hc : c ∈ s.toList.drop i := by
    cases hl : s.toList.drop i with
    | nil => simp [hl] at hp
    | cons x xs =>
      simp only [hl, List.isPrefixOf_cons_cons, List.isPrefixOf_nil_left, Bool.and_true,
        beq_iff_eq] at hp
      simp [hp]
  exact h (List.mem_of_mem_drop hc)

theorem reservedIn_of_carried {s : String} (hs : Carried d (some s)) :
    reservedIn s (String.singleton d) = none := by
  have hs' : ∀ c ∈ s.toList, c ≠ d ∧ c ≠ '\n' ∧ c ≠ '\r' ∧ c ≠ '\x00' := hs
  have hnot : ∀ x, (∀ c ∈ s.toList, c ≠ x) → x ∉ s.toList := fun x hx hm => hx x hm rfl
  simp only [reservedIn, String.contains_char_eq,
    occursIn_singleton_of_not_mem (hnot d fun c hc => (hs' c hc).1),
    hnot '\n' fun c hc => (hs' c hc).2.1, hnot '\r' fun c hc => (hs' c hc).2.2.1,
    hnot '\x00' fun c hc => (hs' c hc).2.2.2, decide_false, Bool.false_eq_true, ↓reduceIte]

theorem encodeField_of_carried {v : Option String} (hv : Carried d v) :
    encodeField v (String.singleton d) = .ok (String.ofList (loadField v)) := by
  cases v with
  | none => rfl
  | some s =>
    by_cases he : s.isEmpty
    · simp [encodeField, loadField, he]
    · simp [encodeField, loadField, he, reservedIn_of_carried hv]

/-- The loader reads a field back as the value it was written from. -/
theorem loadValue_loadField {v : Option String} (hv : Carried d v) : loadValue (loadField v) = v := by
  cases v with
  | none => rfl
  | some s =>
    have hs : ∀ c ∈ s.toList, c ≠ d ∧ c ≠ '\n' ∧ c ≠ '\r' ∧ c ≠ '\x00' := hv
    by_cases he : s.isEmpty
    · simp [loadField, loadValue, String.isEmpty_iff.1 he]
    · have hne : s.toList ≠ [] := by simpa [String.isEmpty_iff] using he
      -- a non-empty text without NUL is neither of the two special fields
      have hnul : s.toList ≠ ['\x00'] := fun h => (hs '\x00' (by simp [h])).2.2.2 rfl
      simp only [loadField, he, Bool.false_eq_true, ↓reduceIte]
      unfold loadValue
      split
      · exact absurd ‹s.toList = []› hne
      · exact absurd ‹s.toList = ['\x00']› hnul
      · simp

end Fields

/-! ## Converting the written rows -/

theorem mapM_eq_ok_map {α β ε : Type} {f : α → Except ε β} {g : α → β} :
    ∀ {l : List α}, (∀ x ∈ l, f x = .ok (g x)) → l.mapM f = .ok (l.map g)
  | [], _ => rfl
  | x :: l, h => by
    rw [List.mapM_cons, h x List.mem_cons_self,
      mapM_eq_ok_map fun y hy => h y (List.mem_cons_of_mem x hy)]
    rfl

theorem Delimiter.char_ne_backslash (d : Delimiter) : d.char ≠ '\\' := by
  have h := d.ok
  simp only [delimiterOk, decide_eq_true_eq] at h
  exact h.1

theorem Delimiter.char_ne_newline (d : Delimiter) : d.char ≠ '\n' := by
  have h := d.ok
  simp only [delimiterOk, decide_eq_true_eq] at h
  exact h.2.2.1

theorem Delimiter.char_ne_nul (d : Delimiter) : d.char ≠ '\x00' := by
  have h := d.ok
  simp only [delimiterOk, decide_eq_true_eq] at h
  exact h.2.2.2

/-- A written row converts to the load line of the same values. -/
theorem convertLine_copyLine (d : Delimiter) {row : List (Option String)} (hrow : row ≠ [])
    (hv : ∀ v ∈ row, Carried d.char v) :
    convertLine (String.ofList (copyLine d.char row)) d.text =
      .ok (String.ofList (loadLine d.char row)) := by
  have hsplit : splitLine (String.ofList (copyLine d.char row)) d.text =
      row.map fun v => String.ofList (copyField d.char v) := by
    simp only [splitLine, Delimiter.text, String.toList_singleton, String.toList_ofList,
      splitChars_copyLine d.char_ne_backslash hrow, List.map_map]
    rfl
  -- each raw field is the written form of a value of the row, and converts to its load form
  have hfields : ∀ x ∈ (row.map fun v => String.ofList (copyField d.char v)).zipIdx,
      (encodeField (decodeField x.1) d.text).mapError (fun r => (x.2 + 1, r)) =
        .ok (String.ofList (loadField (decodeField x.1))) := by
    intro x hx
    obtain ⟨v, hvr, hx1⟩ := List.mem_map.1 (List.fst_mem_of_mem_zipIdx hx)
    rw [← hx1, decodeField_copyField (hv v hvr), Delimiter.text,
      encodeField_of_carried (hv v hvr)]
    rfl
  have hloads : ((row.map fun v => String.ofList (copyField d.char v)).zipIdx.map fun x =>
      String.ofList (loadField (decodeField x.1))) = row.map fun v => String.ofList (loadField v) := by
    rw [show (fun x : String × Nat => String.ofList (loadField (decodeField x.1))) =
      (fun raw => String.ofList (loadField (decodeField raw))) ∘ Prod.fst from rfl,
      ← List.map_map, List.zipIdx_map_fst, List.map_map]
    exact List.map_congr_left fun v hvr => by simp [decodeField_copyField (hv v hvr)]
  simp only [convertLine, hsplit]
  rw [mapM_eq_ok_map hfields, hloads]
  refine congrArg Except.ok (String.ext ?_)
  simp [loadLine, Delimiter.text, String.toList_intercalate, List.map_map, Function.comp_def]

/-- The text of a load file: the load line of each row. -/
def loadText (d : Char) (rows : List (List (Option String))) : List Char :=
  rows.flatMap (loadLine d)

theorem toList_join_loadLines (d : Char) (rows : List (List (Option String))) :
    (String.join (rows.map fun row => String.ofList (loadLine d row))).toList = loadText d rows := by
  simp [String.toList_join, loadText, List.flatMap_map]

theorem convertRows_copyLines (d : Delimiter) (source : String) :
    ∀ (first : Nat) {rows : List (List (Option String))}, Carries d.char rows →
      convertRows source d.text first (rows.map fun row => String.ofList (copyLine d.char row)) =
        .ok (rows.map fun row => String.ofList (loadLine d.char row))
  | _, [], _ => rfl
  | first, row :: rows, h => by
    have hrow := h row List.mem_cons_self
    have hrows : Carries d.char rows := fun r hr => h r (List.mem_cons_of_mem row hr)
    simp only [List.map_cons, convertRows, convertLine_copyLine d hrow.1 hrow.2,
      convertRows_copyLines d source (first + 1) hrows]
    rfl

/-! ## Reading the load file -/

/-- A load field holds neither terminator. -/
theorem terminators_not_mem_loadField (d : Delimiter) {v : Option String}
    (hv : Carried d.char v) {x : Char} (hx : x ∈ loadField v) : x ≠ d.char ∧ x ≠ '\n' := by
  cases v with
  | none => cases hx
  | some s =>
    by_cases he : s.isEmpty
    · simp only [loadField, he, ↓reduceIte, List.mem_singleton] at hx
      subst hx
      exact ⟨Ne.symm d.char_ne_nul, by decide⟩
    · simp only [loadField, he, Bool.false_eq_true, ↓reduceIte] at hx
      exact ⟨(hv x hx).1, (hv x hx).2.1⟩

/-- The loader reads back the rows of the load lines. -/
theorem readLoadFile_loadLines (d : Delimiter) {rows : List (List (Option String))}
    (hrows : Carries d.char rows) : readLoadFile d.char '\n' (rows.flatMap (loadLine d.char)) = rows := by
  have hfield : ∀ row ∈ rows, ∀ l ∈ row.map loadField, ∀ x ∈ l, x ≠ d.char ∧ x ≠ '\n' := by
    intro row hrow l hl x hx
    obtain ⟨v, hvr, rfl⟩ := List.mem_map.1 hl
    exact terminators_not_mem_loadField d ((hrows row hrow).2 v hvr) hx
  have hlines : (rows.flatMap (loadLine d.char)).splitOn '\n' =
      rows.map (fun row => [d.char].intercalate (row.map loadField)) ++ [[]] :=
    splitOn_flatMap_terminated fun row hrow =>
      not_mem_intercalate (by simpa using Ne.symm d.char_ne_newline)
        fun l hl hx => (hfield row hrow l hl '\n' hx).2 rfl
  unfold readLoadFile
  rw [hlines, List.dropLast_concat, List.map_map]
  refine (List.map_congr_left fun row hrow => ?_).trans (List.map_id rows)
  have hsplit : ([d.char].intercalate (row.map loadField)).splitOn d.char = row.map loadField :=
    List.splitOn_intercalate d.char (fun l hl hx => (hfield row hrow l hl d.char hx).1 rfl)
      (by simpa using (hrows row hrow).1)
  simp only [Function.comp_apply, hsplit, List.map_map]
  exact (List.map_congr_left fun v hv => loadValue_loadField ((hrows row hrow).2 v hv)).trans
    (List.map_id row)

/-! ## Converting a staged export -/

section Converted

open FileTree

/-- The tree a conversion leaves: the temporary file `dir/tname` created, written with `bytes`
and renamed over `dir/dname`. -/
def convertedTree (t : FileTree) (dir : List String) (tname dname : String) (bytes : List UInt8) :
    FileTree :=
  ((t.set (dir ++ [tname]) (.file [])).set (dir ++ [tname]) (.file bytes)).move (dir ++ [tname])
    (dir ++ [dname])

variable {t : FileTree} {dir : List String} {tname dname : String} {bytes : List UInt8}

/-- The destination holds the bytes written to the temporary file. -/
theorem convertedTree_find?_dst (htd : tname ≠ dname) :
    (convertedTree t dir tname dname bytes).find? (dir ++ [dname]) = some (.file bytes) := by
  unfold convertedTree
  rw [find?_move_dst (by simp) (by simp) (FileSlot.not_prefix_sibling (Ne.symm htd)),
    find?_set_self (by simp)]

/-- Every other entry of the folder is left as it was. -/
theorem convertedTree_find?_sibling {n : String} (hnt : n ≠ tname) (hnd : n ≠ dname) :
    (convertedTree t dir tname dname bytes).find? (dir ++ [n]) = t.find? (dir ++ [n]) := by
  unfold convertedTree
  rw [find?_move_of_unrelated (FileSlot.not_prefix_sibling (Ne.symm hnt))
      (FileSlot.not_prefix_sibling (Ne.symm hnd)),
    find?_set_of_ne (by simpa using hnt), find?_set_of_ne (by simpa using hnt)]

/-- Writing and renaming files keeps every directory a walk can stand in. -/
theorem dirs_convertedTree {tmp destination : Path} (hslot : t.FileSlot tmp dir tname)
    (hdst : t.FileSlot destination dir dname) :
    ∀ k, DirChain t k → (convertedTree t dir tname dname bytes).find? k = some .dir := by
  have slot1 := hslot.set_file hslot.notDir []
  have dslot2 := (hdst.set_file hslot.notDir []).set_file slot1.notDir bytes
  intro k hk
  have hk2 := (hk.of_dirs (dirs_set_file hslot.notDir [])).of_dirs (dirs_set_file slot1.notDir bytes)
  exact FileSlot.dirs_move_sibling dslot2 (find?_set_self (by simp) _) k hk2

end Converted

section Run

open HostM FileTree

variable {h : Host} {source destination tmp : Path} {sdir dir : List String}
  {sname dname tname : String}

/-- The conversion of a staged table export whose rows convert: the temporary file is created,
the staged file read, the converted lines written to the temporary file and renamed over the
destination. -/
theorem run_convertCopyText_body_ok (d : Delimiter) {rows : List (List (Option String))}
    {out : List String}
    (hconv : convertRows source.name d.text 1
      (rows.map fun row => String.ofList (copyLine d.char row)) = .ok out)
    (hsrc : h.tree.FileSlot source sdir sname)
    (hstaged : h.tree.find? (sdir ++ [sname]) =
      some (.file (Text.Utf8.encode (String.ofList (copyText d.char rows)))))
    (hslot : h.tree.FileSlot tmp dir tname) (hdst : h.tree.FileSlot destination dir dname)
    (hne : tname ≠ dname) (hsep : sdir ++ [sname] ≠ dir ++ [tname]) :
    run h (convertCopyText.body source destination d.text tmp) =
      (.ok out.length, { h with tree := (convertedTree h.tree dir tname dname
        (Text.Utf8.encode (String.join out))) }) := by
  -- the staged export is still there once the temporary file is created beside it
  have hdirs1 := dirs_set_file hslot.notDir []
  have hread : (h.tree.set (dir ++ [tname]) (.file [])).readFile source =
      .ok (Text.Utf8.encode (String.ofList (copyText d.char rows))) :=
    readFile_child (resolve_of_dirs hdirs1 hsrc.resolves) hsrc.short
      (by rw [find?_set_of_ne hsep]; exact hstaged)
  unfold convertCopyText.body
  rw [run_bind_of_ok (run_writeFile (hslot.writeFile [])), run_bind_of_ok (run_readFile hread)]
  simp only [Text.Utf8.encode, String.toList_ofList, Text.Utf8.decodeChunks_encodeList,
    completeLines_copyText d.char_ne_newline, hconv, List.isEmpty_nil, ↓reduceIte]
  -- the temporary file is written in full, then renamed over the destination
  have slot1 := hslot.set_file hslot.notDir []
  have slot2 := slot1.set_file slot1.notDir (Text.Utf8.encode (String.join out))
  have dslot2 := (hdst.set_file hslot.notDir []).set_file slot1.notDir
    (Text.Utf8.encode (String.join out))
  rw [run_bind_of_ok (run_lift_ok _ _ _), run_bind_of_ok (run_pure _ _),
    run_bind_of_ok (run_writeFile (slot1.writeFile _)),
    run_bind_of_ok (run_rename (slot2.rename dslot2 hne (find?_set_self (by simp) _)))]
  rfl

/-- The conversion of a staged table export with a row that does not convert stops with that
row's error, having created the temporary file. -/
theorem run_convertCopyText_body_error (d : Delimiter) {rows : List (List (Option String))}
    {e : DataFileError}
    (hconv : convertRows source.name d.text 1
      (rows.map fun row => String.ofList (copyLine d.char row)) = .error e)
    (hsrc : h.tree.FileSlot source sdir sname)
    (hstaged : h.tree.find? (sdir ++ [sname]) =
      some (.file (Text.Utf8.encode (String.ofList (copyText d.char rows)))))
    (hslot : h.tree.FileSlot tmp dir tname) (hsep : sdir ++ [sname] ≠ dir ++ [tname]) :
    run h (convertCopyText.body source destination d.text tmp) =
      (.error (.tool (.dataFile e)), { h with tree := h.tree.set (dir ++ [tname]) (.file []) }) := by
  have hread : (h.tree.set (dir ++ [tname]) (.file [])).readFile source =
      .ok (Text.Utf8.encode (String.ofList (copyText d.char rows))) :=
    readFile_child (resolve_of_dirs (dirs_set_file hslot.notDir []) hsrc.resolves) hsrc.short
      (by rw [find?_set_of_ne hsep]; exact hstaged)
  unfold convertCopyText.body
  rw [run_bind_of_ok (run_writeFile (hslot.writeFile [])), run_bind_of_ok (run_readFile hread)]
  simp only [Text.Utf8.encode, String.toList_ofList, Text.Utf8.decodeChunks_encodeList,
    completeLines_copyText d.char_ne_newline, hconv]
  rw [run_bind, run_lift_error]
  rfl

theorem run_convertCopyText_body (d : Delimiter) {rows : List (List (Option String))}
    (hrows : Carries d.char rows) (hsrc : h.tree.FileSlot source sdir sname)
    (hstaged : h.tree.find? (sdir ++ [sname]) =
      some (.file (Text.Utf8.encode (String.ofList (copyText d.char rows)))))
    (hslot : h.tree.FileSlot tmp dir tname) (hdst : h.tree.FileSlot destination dir dname)
    (hne : tname ≠ dname) (hsep : sdir ++ [sname] ≠ dir ++ [tname]) :
    run h (convertCopyText.body source destination d.text tmp) =
      (.ok rows.length, { h with tree := (convertedTree h.tree dir tname dname
        (Text.Utf8.encodeList (loadText d.char rows))) }) := by
  rw [run_convertCopyText_body_ok d (convertRows_copyLines d source.name 1 hrows) hsrc hstaged hslot
    hdst hne hsep, List.length_map, Text.Utf8.encode, toList_join_loadLines]

/-- Converting a staged export runs to the number of rows: the temporary file is created,
written with the load text and renamed over the destination, and the cleanup finds it gone. -/
theorem run_convertCopyText (d : Delimiter) {rows : List (List (Option String))}
    (hrows : Carries d.char rows) (hsrc : h.tree.FileSlot source sdir sname)
    (hstaged : h.tree.find? (sdir ++ [sname]) =
      some (.file (Text.Utf8.encode (String.ofList (copyText d.char rows)))))
    (htmp : tempSibling destination = .ok tmp) (hslot : h.tree.FileSlot tmp dir tname)
    (hdst : h.tree.FileSlot destination dir dname) (hne : tname ≠ dname)
    (hsep : sdir ++ [sname] ≠ dir ++ [tname]) :
    run h (convertCopyText source destination d.text) =
      (.ok rows.length, { h with tree := (convertedTree h.tree dir tname dname
        (Text.Utf8.encodeList (loadText d.char rows))) }) := by
  have slot1 := hslot.set_file hslot.notDir []
  have slot2 := slot1.set_file slot1.notDir (Text.Utf8.encodeList (loadText d.char rows))
  have dslot2 := (hdst.set_file hslot.notDir []).set_file slot1.notDir
    (Text.Utf8.encodeList (loadText d.char rows))
  unfold convertCopyText
  rw [htmp, run_bind_of_ok (run_lift_ok _ _ _), run_finally', run_mapFault,
    run_convertCopyText_body d hrows hsrc hstaged hslot hdst hne hsep]
  -- the cleanup finds nothing left at the temporary path
  dsimp only
  rw [run_bind_of_ok (run_exists? (FileSlot.exists?_move_sibling slot2 dslot2 hne
    (find?_set_self (by simp) _)))]
  rfl

/-- Converting a staged export written by the source's text export answers the number of rows,
and leaves at the destination a UTF-8 file from which the loader, reading with the terminators
its arguments spell, gets back exactly those rows. The staged file, the destination and its
temporary sibling are regular-file places; the latter two share a directory, and the staged file
is not the temporary one. -/
theorem convertCopyText_round_trip (d : Delimiter) {rows : List (List (Option String))}
    (hrows : Carries d.char rows) (hsrc : h.tree.FileSlot source sdir sname)
    (hstaged : h.tree.find? (sdir ++ [sname]) =
      some (.file (Text.Utf8.encode (String.ofList (copyText d.char rows)))))
    (htmp : tempSibling destination = .ok tmp) (hslot : h.tree.FileSlot tmp dir tname)
    (hdst : h.tree.FileSlot destination dir dname) (hne : tname ≠ dname)
    (hsep : sdir ++ [sname] ≠ dir ++ [tname]) :
    ∃ h', run h (convertCopyText source destination d.text) = (.ok rows.length, h') ∧
      ∃ bytes, h'.tree.readFile destination = .ok bytes ∧
        readTerminator (loaderTerminator d.text).toList = [d.char] ∧
        readTerminator (loaderTerminator "\n").toList = ['\n'] ∧
        (Text.Utf8.decode bytes).map (fun s => readLoadFile d.char '\n' s.toList) = .ok rows := by
  have slot1 := hslot.set_file hslot.notDir []
  have dslot2 := (hdst.set_file hslot.notDir []).set_file slot1.notDir
    (Text.Utf8.encodeList (loadText d.char rows))
  -- the run fixes the final host; the destination then holds the converted text
  refine ⟨_, run_convertCopyText d hrows hsrc hstaged htmp hslot hdst hne hsep,
    Text.Utf8.encodeList (loadText d.char rows), ?read, readTerminator_loaderTerminator d,
    by decide, ?decode⟩
  case read => exact FileSlot.readFile_move_sibling dslot2 hne (find?_set_self (by simp) _)
  case decode =>
    have hdec := Text.Utf8.decode_encode (String.ofList (loadText d.char rows))
    rw [Text.Utf8.encode, String.toList_ofList] at hdec
    rw [hdec]
    exact congrArg Except.ok (by simp only [String.toList_ofList, loadText,
      readLoadFile_loadLines d hrows])

/-- A table with an escaped tab, a null, an empty text and a backslash, staged as `d/s` and
converted into `d/t.csv` with a comma between fields. -/
theorem convertCopyText_round_trip_sample :
    Carries ',' [[some "a\tb", none], [some "", some "x\\y"]] ∧
    ∃ h', run { tree := ⟨[(["d"], .dir), (["d", "s"], .file (Text.Utf8.encode
        (String.ofList (copyText ',' [[some "a\tb", none], [some "", some "x\\y"]]))))]⟩ }
        (convertCopyText ⟨"", ["d", "s"]⟩ ⟨"", ["d", "t.csv"]⟩ ",") = (.ok 2, h') ∧
      ∃ bytes, h'.tree.readFile ⟨"", ["d", "t.csv"]⟩ = .ok bytes ∧
        readTerminator (loaderTerminator ",").toList = [','] ∧
        readTerminator (loaderTerminator "\n").toList = ['\n'] ∧
        (Text.Utf8.decode bytes).map (fun s => readLoadFile ',' '\n' s.toList) =
          .ok [[some "a\tb", none], [some "", some "x\\y"]] :=
  ⟨by decide, @convertCopyText_round_trip
    { tree := ⟨[(["d"], .dir), (["d", "s"], .file (Text.Utf8.encode
      (String.ofList (copyText ',' [[some "a\tb", none], [some "", some "x\\y"]]))))]⟩ }
    ⟨"", ["d", "s"]⟩ ⟨"", ["d", "t.csv"]⟩ ⟨"", ["d", "t.csv.tmp"]⟩ ["d"] ["d"] "s" "t.csv"
    "t.csv.tmp" ⟨',', rfl⟩ [[some "a\tb", none], [some "", some "x\\y"]] (by decide)
    ⟨rfl, by decide, by decide⟩ rfl
    (by simp [tempSibling, Path.withSuffix, Path.suffix, Path.suffixOf, Path.name, Path.lastDot]
        decide)
    ⟨rfl, by decide, by decide⟩ ⟨rfl, by decide, by decide⟩ (by decide) (by decide)⟩

end Run

end SqlMigration.DataFile
