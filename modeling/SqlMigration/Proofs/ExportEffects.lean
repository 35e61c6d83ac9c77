import SqlMigration.Proofs.CountCheck

/-!
# What a table export leaves behind

A table export runs `psql` into a staged file beside the destination, converts it into the
destination through a temporary sibling, removes the staged file whatever happened, and only
then compares the row count `psql` printed with the rows converted. For a folder holding the
three siblings as places for regular files and a `psql` run that writes at most the staged
file, `exportTable_keeps_or_converts` says what the export leaves: no staged file, the rest of
the folder unchanged, and the destination as it was, except where a conversion succeeded.
-/

namespace SqlMigration.DataFile

open HostM FileTree

/-! ## The conversion as a function of the staged place -/

/-- What the conversion makes of a staged file's bytes: the load lines it writes, or the fault
it stops with. -/
def convertedLines (source : Path) (delimiter : String) (bytes : List UInt8) :
    Except Fault (List String) :=
  let stream := Text.Utf8.decodeChunks bytes
  let (lines, tail) := completeLines stream.text
  match convertRows source.name delimiter 1 lines with
  | .error e => .error (.tool (.dataFile e))
  | .ok converted =>
    match stream.error with
    | some e => .error (.tool (.dataFile (.notUtf8 source e)))
    | none =>
      if tail.isEmpty then .ok converted
      else match convertRows source.name delimiter (lines.length + 1) [String.ofList tail] with
        | .error e => .error (.tool (.dataFile e))
        | .ok last => .ok (converted ++ last)

/-- What the conversion makes of the entry at the staged place: the load lines of a staged
file, or the fault reading the place stops with. -/
def stagedLines (source destination : Path) (delimiter : String) :
    Option Entry → Except Fault (List String)
  | some (.file bytes) => convertedLines source delimiter bytes
  | some .dir =>
    .error (.tool (.dataFile (.cannotConvert source destination ⟨.isDir, source.render, none⟩)))
  | none =>
    .error (.tool (.dataFile (.cannotConvert source destination ⟨.noEntry, source.render, none⟩)))

/-- The conversion's body reads the staged file, converts it as `convertedLines` says, writes
the lines to the temporary file and renames it over the destination. -/
theorem body_eq (source destination tmp : Path) (delimiter : String) :
    convertCopyText.body source destination delimiter tmp = (do
      writeFile tmp []
      let bytes ← readFile source
      let all ← lift (convertedLines source delimiter bytes) id
      writeFile tmp (Text.Utf8.encode (String.join all))
      rename tmp destination
      pure all.length) := by
  unfold convertCopyText.body
  congr 1
  funext _
  congr 1
  funext bytes
  simp only [convertedLines]
  rcases completeLines (Text.Utf8.decodeChunks bytes).text with ⟨lines, tail⟩
  dsimp only
  -- the two sides stop at the same step with the same fault, or both write the same lines
  cases convertRows source.name delimiter 1 lines with
  | error e => rfl
  | ok converted =>
    cases (Text.Utf8.decodeChunks bytes).error with
    | some e => rfl
    | none =>
      by_cases ht : tail.isEmpty
      · simp only [ht, ↓reduceIte]
        rfl
      · simp only [ht, Bool.false_eq_true, ↓reduceIte]
        cases convertRows source.name delimiter (lines.length + 1) [String.ofList tail] <;> rfl

/-- The conversion stops only with errors of the data file, never with a system error. -/
theorem convertedLines_error {source : Path} {delimiter : String} {bytes : List UInt8}
    {e : Fault} (h : convertedLines source delimiter bytes = .error e) :
    ∃ de, e = .tool (.dataFile de) := by
  simp only [convertedLines] at h
  split at h
  · cases h
    exact ⟨_, rfl⟩
  · split at h
    · cases h
      exact ⟨_, rfl⟩
    · split at h
      · cases h
      · split at h
        · cases h
          exact ⟨_, rfl⟩
        · cases h

/-! ## Converting in a folder -/

section Folder

variable {h : Host} {source destination tmp : Path} {dir : List String}
  {sname tname dname : String}

/-- Converting the staged file of a folder into the folder's destination: the temporary file
is created; when the staged place converts, the lines are written and renamed over the
destination, otherwise the temporary file is removed again and the conversion stops with the
fault of the staged place. -/
theorem run_convertCopyText_folder (delimiter : String) (htmp : tempSibling destination = .ok tmp)
    (hsrc : h.tree.FileSlot source dir sname) (hslot : h.tree.FileSlot tmp dir tname)
    (hdst : h.tree.FileSlot destination dir dname) (hst : sname ≠ tname) (htd : tname ≠ dname) :
    run h (convertCopyText source destination delimiter) =
      match stagedLines source destination delimiter (h.tree.find? (dir ++ [sname])) with
      | .ok all => (.ok all.length, { h with tree := (convertedTree h.tree dir tname dname
          (Text.Utf8.encode (String.join all))) })
      | .error e => (.error e, { h with tree := ((h.tree.set (dir ++ [tname]) (.file [])).erase
          (dir ++ [tname])) }) := by
  have slot1 := hslot.set_file hslot.notDir []
  have src1 := hsrc.set_file hslot.notDir []
  have hsep : dir ++ [sname] ≠ dir ++ [tname] := by simpa using hst
  -- the staged place is read after the temporary file is created beside it
  have hread : (h.tree.set (dir ++ [tname]) (.file [])).find? (dir ++ [sname]) =
      h.tree.find? (dir ++ [sname]) := find?_set_of_ne hsep _
  have hclean : run { h with tree := h.tree.set (dir ++ [tname]) (.file []) }
      (do if ← exists? tmp then unlink tmp) =
        (.ok (), { h with tree := ((h.tree.set (dir ++ [tname]) (.file [])).erase
          (dir ++ [tname])) }) := by
    have htf : (h.tree.set (dir ++ [tname]) (.file [])).find? (dir ++ [tname]) =
        some (.file []) :=
      find?_set_self (by simp) _
    have hex : (h.tree.set (dir ++ [tname]) (.file [])).exists? tmp = .ok true := by
      simp [FileTree.exists?, stat_child slot1.resolves slot1.short htf]
    rw [run_bind_of_ok (run_exists? hex)]
    exact run_change_ok (slot1.unlink htf)
  unfold convertCopyText
  rw [htmp, run_bind_of_ok (run_lift_ok _ _ _), run_finally', run_mapFault, body_eq,
    run_bind_of_ok (run_writeFile (hslot.writeFile []))]
  rcases hs : h.tree.find? (dir ++ [sname]) with _ | ⟨bytes | _⟩
  · -- nothing was staged: reading it fails, and the temporary file is removed
    have hr : (h.tree.set (dir ++ [tname]) (.file [])).readFile source =
        .error ⟨.noEntry, source.render, none⟩ := by
      simp [FileTree.readFile, stat_child_none src1.resolves src1.short (hread.trans hs)]
    rw [run_bind, show run _ (readFile source) = _ from run_look _ _, hr]
    dsimp only
    rw [hclean]
    rfl
  · -- a staged file: its conversion decides
    rw [run_bind_of_ok (run_readFile (readFile_child src1.resolves src1.short (hread.trans hs)))]
    cases hc : convertedLines source delimiter bytes with
    | error e =>
      obtain ⟨de, rfl⟩ := convertedLines_error hc
      rw [run_bind, run_lift_error]
      dsimp only
      rw [hclean]
      simp only [stagedLines, hc]
      rfl
    | ok all =>
      have slot2 := slot1.set_file slot1.notDir (Text.Utf8.encode (String.join all))
      have dslot2 := (hdst.set_file hslot.notDir []).set_file slot1.notDir
        (Text.Utf8.encode (String.join all))
      rw [run_bind_of_ok (run_lift_ok _ _ _), run_bind_of_ok (run_writeFile (slot1.writeFile _)),
        run_bind_of_ok (run_rename (slot2.rename dslot2 htd (find?_set_self (by simp) _))),
        run_pure]
      dsimp only
      rw [run_bind_of_ok (run_exists? (FileSlot.exists?_move_sibling slot2 dslot2 htd
        (find?_set_self (by simp) _)))]
      simp only [stagedLines, hc]
      rfl
  · -- a directory where the staged file should be cannot be read
    have hr : (h.tree.set (dir ++ [tname]) (.file [])).readFile source =
        .error ⟨.isDir, source.render, none⟩ := by
      simp [FileTree.readFile, stat_child src1.resolves src1.short (hread.trans hs)]
    rw [run_bind, show run _ (readFile source) = _ from run_look _ _, hr]
    dsimp only
    rw [hclean]
    rfl

end Folder

end SqlMigration.DataFile

namespace SqlMigration.HostM

open FileTree

/-- Clearing a place for a regular file: a file there is removed with what lies below it, and
nothing else changes; an empty place is left as it is. -/
theorem run_unlinkIfPresent_slot {h : Host} {p : Path} {dir : List String} {name : String}
    (hp : h.tree.FileSlot p dir name) :
    ∃ t, run h (unlinkIfPresent p) = (.ok (), { h with tree := t }) ∧
      t.find? (dir ++ [name]) = none ∧
      (∀ k, ¬ (dir ++ [name]) <+: k → t.find? k = h.tree.find? k) ∧
      (∀ k, DirChain h.tree k → t.find? k = some .dir) := by
  rcases hf : h.tree.find? (dir ++ [name]) with _ | ⟨bs | _⟩
  · -- nothing to remove: the lookup fails with no entry, which the removal accepts
    refine ⟨h.tree, ?_, hf, fun _ _ => rfl, fun k hk => hk.find?⟩
    have hu : h.tree.unlink p = .error ⟨.noEntry, p.render, none⟩ := by
      simp [FileTree.unlink, stat_child_none hp.resolves hp.short hf]
    unfold unlinkIfPresent
    rw [run_tryCatch, show run h (unlink p) = _ from run_change _ _, hu]
    rfl
  · exact ⟨_, run_unlinkIfPresent (hp.unlink hf), find?_erase_self (by simp),
      fun k hk => find?_erase_of_not_under hk, dirs_erase (by simp [hf])⟩
  · exact absurd hf hp.notDir

end SqlMigration.HostM

namespace SqlMigration.Export

open HostM FileTree DataFile Command

/-! ## The count check -/

/-- The faults of the row count check once `n` rows were converted: the count `psql` printed
cannot be read, or it is another number. -/
def CountRefused (table : String) (destination : Path) (stdout : String) (n : Nat) (e : Fault) :
    Prop :=
  (∃ ie, copyCount? stdout = .error ie ∧ e = .integer (.badText ie)) ∨
  (∃ c, copyCount? stdout = .ok (some c) ∧ c ≠ n ∧
    e = .tool (.dataFile (.countMismatch c table n destination)))

/-- The count check after a conversion of `n` rows changes nothing; it passes, answering the
export, when `psql` printed no count or that count, and refuses otherwise. -/
theorem run_countCheck (h : Host) (table : String) (destination : Path) (stdout : String)
    (n : Nat) :
    ∃ r, run h (do
      match ← HostM.lift (copyCount? stdout) (.integer ∘ .badText) with
      | some r =>
        if r ≠ n then HostM.failTool (.dataFile (.countMismatch r table n destination))
        else pure ⟨table, destination, n⟩
      | none => pure (⟨table, destination, n⟩ : Exported)) = (r, h) ∧
    ((r = .ok ⟨table, destination, n⟩ ∧ ∀ c, copyCount? stdout = .ok (some c) → c = n) ∨
      ∃ e, r = .error e ∧ CountRefused table destination stdout n e) := by
  rw [run_bind]
  cases hc : copyCount? stdout with
  | error ie =>
    exact ⟨_, rfl, .inr ⟨_, rfl, .inl ⟨ie, hc, rfl⟩⟩⟩
  | ok count =>
    cases count with
    | none =>
      refine ⟨_, rfl, .inl ⟨rfl, fun c hc' => ?_⟩⟩
      cases hc'
    | some c =>
      by_cases hcn : c = n
      · refine ⟨_, by simp only [run_lift_ok, hcn, ne_eq, not_true_eq_false, ↓reduceIte]; rfl,
          .inl ⟨rfl, fun c' hc' => ?_⟩⟩
        cases hc'
        exact hcn
      · refine ⟨_, by simp only [run_lift_ok, hcn, ne_eq, not_false_eq_true, ↓reduceIte]; rfl,
          .inr ⟨_, rfl, .inr ⟨c, hc, hcn, rfl⟩⟩⟩

/-! ## The export -/

section Export

variable (x : Exporter) (q : String) {h h₁ : Host} {res : Except Fault Outcome}
  {destination staged tmp : Path} {dir : List String} {sname tname dname : String}

/-- How a table export ends, in a folder that holds the destination and its two siblings as
places for regular files, when `psql` answers `res` and leaves `h₁`, having written at most the
staged file. A failed export leaves the destination as it was unless the count check refused a
conversion already in place; a temporary file survives only a failed `psql`. -/
theorem exportTable_keeps_or_converts (hstage : stagingPath destination = .ok staged)
    (htmp : tempSibling destination = .ok tmp)
    (hsrc : h.tree.FileSlot staged dir sname) (hslot : h.tree.FileSlot tmp dir tname)
    (hdst : h.tree.FileSlot destination dir dname) (hst : sname ≠ tname) (hsd : sname ≠ dname)
    (htd : tname ≠ dname)
    (hpsql : run h (runChecked ⟨x.program, x.args q staged, x.timeout, some x.env⟩) = (res, h₁))
    (hrun : h₁.tree = h.tree ∨ ∃ bs, h₁.tree = h.tree.set (dir ++ [sname]) (.file bs)) :
    ∃ r t, run h (x.exportTable q destination) = (r, { h₁ with tree := t }) ∧
      t.find? (dir ++ [sname]) = none ∧
      (∀ n, n ≠ sname → n ≠ tname → n ≠ dname →
        t.find? (dir ++ [n]) = h.tree.find? (dir ++ [n])) ∧
      ((∃ e, res = .error e ∧ r = .error e ∧
          t.find? (dir ++ [dname]) = h.tree.find? (dir ++ [dname]) ∧
          t.find? (dir ++ [tname]) = h.tree.find? (dir ++ [tname])) ∨
        (∃ out e, res = .ok out ∧
          stagedLines staged destination x.delimiter.text (h₁.tree.find? (dir ++ [sname])) =
            .error e ∧
          r = .error e ∧ t.find? (dir ++ [dname]) = h.tree.find? (dir ++ [dname]) ∧
          t.find? (dir ++ [tname]) = none) ∨
        (∃ out all, res = .ok out ∧
          stagedLines staged destination x.delimiter.text (h₁.tree.find? (dir ++ [sname])) =
            .ok all ∧
          t.find? (dir ++ [dname]) = some (.file (Text.Utf8.encode (String.join all))) ∧
          t.find? (dir ++ [tname]) = none ∧
          ((r = .ok ⟨q, destination, all.length⟩ ∧
              ∀ c, copyCount? out.stdout = .ok (some c) → c = all.length) ∨
            ∃ e, r = .error e ∧ CountRefused q destination out.stdout all.length e))) := by
  -- what `psql` leaves: the folder as it was but for the staged file
  have hkeep₁ : ∀ n, n ≠ sname → h₁.tree.find? (dir ++ [n]) = h.tree.find? (dir ++ [n]) := by
    intro n hn
    rcases hrun with he | ⟨bs, he⟩ <;> rw [he]
    exact find?_set_of_ne (by simpa using hn) _
  have hslots : h₁.tree.FileSlot staged dir sname ∧ h₁.tree.FileSlot tmp dir tname ∧
      h₁.tree.FileSlot destination dir dname := by
    rcases hrun with he | ⟨bs, he⟩ <;> rw [he]
    · exact ⟨hsrc, hslot, hdst⟩
    · exact ⟨hsrc.set_file hsrc.notDir bs, hslot.set_file hsrc.notDir bs,
        hdst.set_file hsrc.notDir bs⟩
  obtain ⟨src₁, slot₁, dst₁⟩ := hslots
  -- a sibling other than the staged file is never under it
  have hout : ∀ n, n ≠ sname → ¬ (dir ++ [sname]) <+: (dir ++ [n]) :=
    fun n hn => FileSlot.not_prefix_sibling (Ne.symm hn)
  unfold Exporter.exportTable
  rw [hstage, run_bind_of_ok (run_lift_ok _ _ _)]
  dsimp only
  rw [run_bind, run_finally', run_bind, hpsql]
  cases res with
  | error e =>
    -- `psql` failed: the cleanup clears the staged place, nothing else runs
    obtain ⟨t, hclean, hnone, hframe, -⟩ := run_unlinkIfPresent_slot src₁
    dsimp only
    rw [hclean]
    refine ⟨.error e, t, rfl, hnone, fun n hs _ _ => ?_, .inl ⟨e, rfl, rfl, ?_, ?_⟩⟩
    · rw [hframe _ (hout n hs), hkeep₁ n hs]
    · rw [hframe _ (hout dname (Ne.symm hsd)), hkeep₁ dname (Ne.symm hsd)]
    · rw [hframe _ (hout tname (Ne.symm hst)), hkeep₁ tname (Ne.symm hst)]
  | ok out =>
    dsimp only
    rw [run_bind, run_convertCopyText_folder _ htmp src₁ slot₁ dst₁ hst htd]
    cases hl : stagedLines staged destination x.delimiter.text (h₁.tree.find? (dir ++ [sname]))
      with
    | error e =>
      -- the conversion failed: its temporary file is gone again, the staged place is cleared
      have htmp₂ : (h₁.tree.set (dir ++ [tname]) (.file [])).find? (dir ++ [tname]) ≠
          some .dir := by
        rw [find?_set_self (by simp)]
        simp
      have src₂ := src₁.of_dirs (fun k hk => dirs_erase htmp₂ k (hk.of_dirs (dirs_set_file
        slot₁.notDir []))) (by
          rw [find?_erase_of_not_under (FileSlot.not_prefix_sibling hst.symm),
            find?_set_of_ne (by simpa using hst)]
          exact src₁.notDir)
      obtain ⟨t, hclean, hnone, hframe, -⟩ := run_unlinkIfPresent_slot
        (h := { h₁ with tree := (h₁.tree.set (dir ++ [tname]) (.file [])).erase (dir ++ [tname]) })
        src₂
      dsimp only
      rw [hclean]
      -- a place of the folder other than the temporary one is as it was before `psql`
      have hback : ∀ n, n ≠ sname → n ≠ tname →
          t.find? (dir ++ [n]) = h.tree.find? (dir ++ [n]) := by
        intro n hs ht
        rw [hframe _ (hout n hs),
          find?_erase_of_not_under (FileSlot.not_prefix_sibling (Ne.symm ht)),
          find?_set_of_ne (by simpa using ht), hkeep₁ n hs]
      refine ⟨.error e, t, rfl, hnone, fun n hs ht _ => hback n hs ht,
        .inr (.inl ⟨out, e, rfl, rfl, rfl, hback dname (Ne.symm hsd) htd.symm, ?_⟩)⟩
      rw [hframe _ (hout tname (Ne.symm hst)), find?_erase_self (by simp)]
    | ok all =>
      -- the conversion is in place; the staged place is cleared, then the count is checked
      have src₂ : (convertedTree h₁.tree dir tname dname
          (Text.Utf8.encode (String.join all))).FileSlot staged dir sname :=
        src₁.of_dirs (dirs_convertedTree slot₁ dst₁) (by
          rw [convertedTree_find?_sibling hst hsd]
          exact src₁.notDir)
      obtain ⟨t, hclean, hnone, hframe, -⟩ := run_unlinkIfPresent_slot
        (h := { h₁ with tree := (convertedTree h₁.tree dir tname dname
          (Text.Utf8.encode (String.join all))) }) src₂
      dsimp only
      rw [run_pure]
      dsimp only
      rw [hclean]
      dsimp only
      obtain ⟨r, hr, hcount⟩ := run_countCheck { h₁ with tree := t } q destination out.stdout
        all.length
      refine ⟨r, t, hr, hnone, fun n hs ht hd => ?_,
        .inr (.inr ⟨out, all, rfl, rfl, ?_, ?_, hcount⟩)⟩
      · rw [hframe _ (hout n hs), convertedTree_find?_sibling ht hd, hkeep₁ n hs]
      · rw [hframe _ (hout dname (Ne.symm hsd)), convertedTree_find?_dst htd]
      · rw [hframe _ (hout tname (Ne.symm hst))]
        exact find?_move_src (by simp) (FileSlot.not_prefix_sibling (Ne.symm htd))

end Export

/-- Two staged rows whose `psql` status line reports three, exported from `public.t` into `d/t`:
the staged file is gone afterwards. -/
theorem exportTable_keeps_or_converts_sample :
    ∃ r t, run
        { tree := ⟨[(["d"], .dir), (["d", "t.pgcopy"], .file (Text.Utf8.encode
            (String.ofList (copyText '\t' [[some "1", some "a"], [some "2", none]]))))]⟩
          programs := .scripted ⟨[{ stdout := "COPY 3\n", copyBytes := none }]⟩ }
        (Exporter.exportTable { source := { host := "db", database := "shop", user := "u" } }
          "public.t" ⟨"", ["d", "t"]⟩) = (r, t) ∧ t.tree.find? ["d", "t.pgcopy"] = none := by
  -- the staged path's name reads back as one component
  have hsplit : "t.pgcopy".splitOn "/" = ["t.pgcopy"] := by
    unfold String.splitOn
    simp only [show ("/" == "") = false from rfl, Bool.false_eq_true, ↓reduceIte]
    iterate 9 (rw [String.splitOnAux]; simp +decide only [↓reduceIte])
  have hend : "t.pgcopy".endsWith "/" = false := by
    rw [← String.endsWith_toSlice, String.Slice.endsWith_string_eq_false_iff]
    simp
    decide
  have hstage : stagingPath ⟨"", ["d", "t"]⟩ = .ok ⟨"", ["d", "t.pgcopy"]⟩ := by
    simp [stagingPath, Path.withName, Path.ofString, Path.componentsOf, hsplit, Path.name, hend]
    decide
  obtain ⟨r, t, hr, hs, -⟩ := @exportTable_keeps_or_converts
    { source := { host := "db", database := "shop", user := "u" } } "public.t"
    { tree := ⟨[(["d"], .dir), (["d", "t.pgcopy"], .file (Text.Utf8.encode
        (String.ofList (copyText '\t' [[some "1", some "a"], [some "2", none]]))))]⟩
      programs := .scripted ⟨[{ stdout := "COPY 3\n", copyBytes := none }]⟩ }
    _ _ ⟨"", ["d", "t"]⟩ ⟨"", ["d", "t.pgcopy"]⟩ ⟨"", ["d", "t.tmp"]⟩ ["d"] "t.pgcopy" "t.tmp" "t"
    hstage
    (by simp [tempSibling, Path.withSuffix, Path.suffix, Path.suffixOf, Path.name, Path.lastDot]
        decide)
    ⟨rfl, by decide, by decide⟩ ⟨rfl, by decide, by decide⟩ ⟨rfl, by decide, by decide⟩
    (by decide) (by decide) (by decide) (run_runChecked_scripted rfl rfl rfl rfl rfl) (.inl rfl)
  exact ⟨r, _, hr, hs⟩

end SqlMigration.Export
