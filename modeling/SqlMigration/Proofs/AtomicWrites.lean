import SqlMigration.Proofs.ExportEffects
import SqlMigration.Proofs.Rerun

/-!
# Writes through a temporary sibling

The conversion of a staged export writes its output to a temporary sibling of the destination
and renames it over the destination, removing the sibling whatever happened. What it leaves is
the destination whole or untouched: a conversion that returns leaves the destination holding the
converted rows of the source, one that fails does so with an error of the data file and leaves
the destination as it was; in both cases the source reads as before and the sibling is gone
(`convertCopyText_whole_or_untouched`). This needs the sibling to be no directory and to be
looked up without an error other than absence, and the source to lead elsewhere than the
destination and the sibling: a source that is the sibling is cut to nothing before it is read
(`convertCopyText_source_at_sibling`).

A script is written the same way, without the cleanup: into a folder that exists, the write
leaves the script holding its text or as it was (`writeScript_whole_or_untouched`), but a rename
refused, as over a directory, leaves the sibling behind
(`writeScript_over_directory_leaves_sibling`).

Trees are compared place by place (`SameOff`): a tree that holds what another holds outside two
places that are no directories keeps the directories of every walk, so every path whose place
is neither of the two reads the same file in both.
-/

namespace SqlMigration.FileTree

/-! ## Trees that differ at two places -/

/-- The second tree holds what the first holds at every place outside the places `a` and `b`
and the places below them. -/
def SameOff (t t' : FileTree) (a b : List String) : Prop :=
  ∀ k, ¬ a <+: k → ¬ b <+: k → t'.find? k = t.find? k

/-- The working directory is a directory, so a place that is none is below it. -/
theorem ne_nil_of_find?_ne_dir {t : FileTree} {a : List String} (ha : t.find? a ≠ some .dir) :
    a ≠ [] := by
  rintro rfl
  exact ha rfl

/-- A place that is no directory is above no place whose parent a walk can stand in, other than
itself. -/
theorem not_prefix_of_chain {t : FileTree} {a k : List String} (hk : DirChain t k.dropLast)
    (ha : t.find? a ≠ some .dir) (hak : a ≠ k) : ¬ a <+: k := fun h =>
  ha (hk.find?_of_isPrefix (ne_nil_of_find?_ne_dir ha) (prefix_dropLast_of_ne h hak))

namespace SameOff

variable {t t' : FileTree} {a b : List String}

theorem refl (t : FileTree) (a b : List String) : SameOff t t a b := fun _ _ _ => rfl

theorem symm (h : SameOff t t' a b) : SameOff t' t a b := fun k ha hb => (h k ha hb).symm

theorem set (h : SameOff t t' a b) {l : List String} (hl : a <+: l ∨ b <+: l) (e : Entry) :
    SameOff t (t'.set l e) a b := by
  intro k ha hb
  have hkl : k ≠ l := by
    rintro rfl
    rcases hl with hl | hl
    · exact ha hl
    · exact hb hl
  rw [find?_set_of_ne hkl]
  exact h k ha hb

theorem erase (h : SameOff t t' a b) {l : List String} (hl : a <+: l ∨ b <+: l) :
    SameOff t (t'.erase l) a b := by
  intro k ha hb
  have hlk : ¬ l <+: k := by
    intro hlk
    rcases hl with hl | hl
    · exact ha (hl.trans hlk)
    · exact hb (hl.trans hlk)
  rw [find?_erase_of_not_under hlk]
  exact h k ha hb

theorem move (h : SameOff t t' a b) {src dst : List String} (hs : a <+: src ∨ b <+: src)
    (hd : a <+: dst ∨ b <+: dst) : SameOff t (t'.move src dst) a b := by
  intro k ha hb
  have hnot : ∀ {l}, (a <+: l ∨ b <+: l) → ¬ l <+: k := by
    intro l hl hlk
    rcases hl with hl | hl
    · exact ha (hl.trans hlk)
    · exact hb (hl.trans hlk)
  rw [find?_move_of_unrelated (hnot hs) (hnot hd)]
  exact h k ha hb

variable (ha : t.find? a ≠ some .dir) (hb : t.find? b ≠ some .dir)
include ha hb

/-- Trees that differ only at places that are no directories of the first keep its directories. -/
theorem dirsKept (h : SameOff t t' a b) : DirsKept t t' := by
  intro k hk
  have hd := hk.find?
  have hka : a ≠ k := by
    rintro rfl
    exact ha hd
  have hkb : b ≠ k := by
    rintro rfl
    exact hb hd
  rw [h k (not_prefix_of_chain hk.dropLast ha hka) (not_prefix_of_chain hk.dropLast hb hkb)]
  exact hd

/-- A path whose place is neither of the two leads to the same entry, or fails the same way. -/
theorem stat (h : SameOff t t' a b) {p : Path} {pl : Place} (hp : t.resolve p = .ok pl)
    (hpa : pl.loc ≠ some a) (hpb : pl.loc ≠ some b) : t'.stat p = t.stat p := by
  refine stat_of_frame (h.dirsKept ha hb) hp fun k hk => ?_
  -- the place is an entry of a directory of a walk, or such a directory itself
  have hchain : DirChain t k.dropLast := by
    have hc := resolve_chain hp
    cases pl with
    | child d n =>
      have hd : DirChain t d := hc
      simp only [Place.loc, Option.some.injEq] at hk
      subst hk
      simpa using hd
    | here d =>
      have hd : DirChain t d := hc
      simp only [Place.loc, Option.some.injEq] at hk
      subst hk
      exact hd.dropLast
    | above | outside => cases hk
  refine h k (not_prefix_of_chain hchain ha ?_) (not_prefix_of_chain hchain hb ?_)
  · rintro rfl
    exact hpa hk
  · rintro rfl
    exact hpb hk

end SameOff

/-- A path that reads a file leads somewhere. -/
theorem resolve_of_readFile {t : FileTree} {p : Path} {bs : List UInt8}
    (h : t.readFile p = .ok bs) : ∃ pl, t.resolve p = .ok pl := by
  unfold readFile stat at h
  split at h
  · rename_i e he
    split at he
    · cases he
    · exact ⟨_, ‹_›⟩
  · cases h
  · cases h

/-- A path whose places in either tree are neither of two places, which are no directories in
either tree, reads the same file in both trees, or none in both. -/
theorem SameOff.readFile_iff {t t' : FileTree} {a b : List String} (h : SameOff t t' a b)
    (ha : t.find? a ≠ some .dir) (hb : t.find? b ≠ some .dir) (ha' : t'.find? a ≠ some .dir)
    (hb' : t'.find? b ≠ some .dir) {p : Path}
    (hp : ∀ pl, t.resolve p = .ok pl → pl.loc ≠ some a ∧ pl.loc ≠ some b) (bs : List UInt8) :
    t'.readFile p = .ok bs ↔ t.readFile p = .ok bs := by
  have hstat : ∀ pl, t.resolve p = .ok pl → t'.readFile p = t.readFile p := by
    intro pl hpl
    unfold readFile
    rw [h.stat ha hb hpl (hp pl hpl).1 (hp pl hpl).2]
  constructor
  · intro hr
    obtain ⟨pl, hpl⟩ := resolve_of_readFile hr
    rwa [← hstat pl (resolve_of_dirs (h.symm.dirsKept ha' hb') hpl)]
  · intro hr
    obtain ⟨pl, hpl⟩ := resolve_of_readFile hr
    rwa [hstat pl hpl]

/-! ## Places next to a temporary sibling -/

/-- A place a walk reaches is the entry `m` of `d` only if it is that child: a directory reached
by `..` is a directory, and that entry is none. -/
theorem Place.loc_ne_of_ne_child {t : FileTree} {pl : Place} {d : List String} {m : String}
    (hc : pl.Chain t) (hnd : t.find? (d ++ [m]) ≠ some .dir) (hne : pl ≠ .child d m) :
    pl.loc ≠ some (d ++ [m]) := by
  cases pl with
  | child d' m' =>
    intro hloc
    simp only [Place.loc, Option.some.injEq] at hloc
    obtain ⟨rfl, hm⟩ := List.append_inj' hloc rfl
    simp only [List.cons.injEq, and_true] at hm
    exact hne (hm ▸ rfl)
  | here d' =>
    intro hloc
    simp only [Place.loc, Option.some.injEq] at hloc
    subst hloc
    exact hnd (DirChain.find? hc)
  | above | outside => simp [Place.loc]

/-- A path that leads somewhere is shorter than the limit on path texts. -/
theorem render_short_of_resolve {t : FileTree} {p : Path} {pl : Place}
    (h : t.resolve p = .ok pl) : p.render.utf8ByteSize < pathMax := by
  unfold resolve at h
  split at h
  · cases h
  · omega

/-- A walk that reaches the end of a path reaches the end of the path with its last component
replaced by `..`, which is no entry of a directory. -/
theorem walk_dots {t : FileTree} {a : String} :
    ∀ (ps dir : List String) {pl : Place}, t.walk dir (ps ++ [a]) = .ok pl →
      ∃ pl', t.walk dir (ps ++ [".."]) = .ok pl' ∧ ∀ d m, pl' ≠ .child d m := by
  intro ps
  induction ps with
  | nil =>
    intro dir pl _
    by_cases hd : dir.isEmpty <;> simp [walk, hd]
  | cons x rest ih =>
    intro dir pl h
    -- both walks continue past `x`, as neither path ends there
    obtain ⟨y, ys, hy⟩ := List.exists_cons_of_ne_nil
      (List.append_ne_nil_of_right_ne_nil rest (List.cons_ne_nil a []))
    obtain ⟨y', ys', hy'⟩ := List.exists_cons_of_ne_nil
      (List.append_ne_nil_of_right_ne_nil rest (List.cons_ne_nil ".." []))
    rw [List.cons_append, hy] at h
    rw [List.cons_append, hy']
    simp only [walk] at h ⊢
    rw [← hy] at h
    rw [← hy']
    by_cases hx : x = ".."
    · by_cases hd : dir.isEmpty
      · simp [hx, hd]
      · simp only [hx, hd, Bool.false_eq_true, ↓reduceIte] at h ⊢
        exact ih _ h
    · simp only [hx, ↓reduceIte] at h ⊢
      by_cases hlen : x.utf8ByteSize > nameMax
      · simp only [hlen, ↓reduceIte] at h
        cases h
      · simp only [hlen, ↓reduceIte] at h ⊢
        split at h
        · cases h
        · cases h
        · exact ih _ h

/-- The file a temporary sibling stands for leads somewhere wherever the sibling does, and never
to the sibling's place: to the entry next to it, or, for a last component `..`, to no entry. -/
theorem resolve_of_sibling {t : FileTree} {r : String} {ps : List String} {n : String}
    {d : List String} {m : String} (h : t.resolve ⟨r, ps ++ [n ++ ".tmp"]⟩ = .ok (.child d m)) :
    m = n ++ ".tmp" ∧ ∃ pl, t.resolve ⟨r, ps ++ [n]⟩ = .ok pl ∧ pl ≠ .child d m ∧
      (n ≠ ".." → pl = .child d n) ∧ (n = ".." → ∀ d' n', pl ≠ .child d' n') := by
  have hlen : (⟨r, ps ++ [n]⟩ : Path).render.utf8ByteSize < pathMax := by
    have := render_short_of_resolve h
    rw [render_extend, String.utf8ByteSize_append] at this
    omega
  have hm := (resolve_sibling (tmp_ne_dots n) (tmp_ne_dots n)
    (render_short_of_resolve h) h).1
  subst hm
  refine ⟨rfl, ?_⟩
  by_cases hn : n = ".."
  · -- the file's last step climbs out of the sibling's directory
    subst hn
    unfold resolve at h ⊢
    rw [if_neg (by omega)]
    split at h
    · cases h
    · by_cases hr : r.isEmpty
      · simp only [hr, not_true_eq_false, ↓reduceIte] at h ⊢
        obtain ⟨pl, hw, hnc⟩ := walk_dots ps [] h
        exact ⟨pl, hw, hnc _ _, fun hn => absurd rfl hn, fun _ => hnc⟩
      · simp [hr]
  · obtain ⟨-, hp⟩ := resolve_sibling (tmp_ne_dots n) hn hlen h
    refine ⟨_, hp, fun he => ?_, fun _ => rfl, fun hn' => absurd hn' hn⟩
    injection he with _ hn
    exact tmp_ne n hn.symm

/-- A rename onto a path that leads to no entry of a directory is refused. -/
theorem rename_error_of_not_child {t : FileTree} {src dst : Path} {pl : Place}
    (hdst : t.resolve dst = .ok pl) (hpl : ∀ d n, pl ≠ .child d n) :
    ∃ e, t.rename src dst = .error e := by
  unfold rename
  rw [hdst]
  cases pl with
  | child d n => exact absurd rfl (hpl d n)
  | here d => rcases t.resolve src with e | (_ | _ | _ | _) <;> exact ⟨_, rfl⟩
  | above => rcases t.resolve src with e | (_ | _ | _ | _) <;> exact ⟨_, rfl⟩
  | outside => rcases t.resolve src with e | (_ | _ | _ | _) <;> exact ⟨_, rfl⟩

/-- A path that is no directory and that is looked up without an error other than absence is
either a place where a file can be written or names nothing. -/
theorem exists?_of_writeFile_error {t : FileTree} {p : Path} {bs : List UInt8} {oe : OsError}
    (hfree : t.isDir? p = .ok false) (hw : t.writeFile p bs = .error oe) :
    t.exists? p = .ok false := by
  unfold isDir? at hfree
  unfold exists?
  cases hs : t.stat p with
  | error e =>
    rw [hs] at hfree
    exact hfree
  | ok e =>
    -- the entry is a file, and a file can be written over
    rw [hs] at hfree
    exfalso
    unfold stat at hs
    split at hs
    · cases hs
    · rename_i pl hpl
      split at hs
      · cases hs
      · rename_i hshort
        split at hs
        · cases hs
          simp at hfree
        · split at hs
          · rename_i e' hloc
            cases hs
            have hnd : e ≠ .dir := by simpa using hfree
            have hc := resolve_chain hpl
            cases pl with
            | child d m =>
              simp only [Place.loc, Option.bind_some] at hloc
              have hslot : t.FileSlot p d m :=
                ⟨hpl, by simpa [Place.tooLong] using hshort, by rw [hloc]; simpa using hnd⟩
              rw [hslot.writeFile bs] at hw
              cases hw
            | here d =>
              simp only [Place.loc, Option.bind_some] at hloc
              exact hnd (Option.some.inj (hloc.symm.trans (DirChain.find? hc)))
            | above | outside => simp [Place.loc] at hloc
          · cases hs

end SqlMigration.FileTree

namespace SqlMigration.Path

/-- A name is its stem followed by its suffix. -/
theorem stem_append_suffixOf (n : String) :
    String.ofList (n.toList.take (n.length - (suffixOf n).length)) ++ suffixOf n = n := by
  simp only [suffixOf]
  rcases lastDot n.toList with _ | i
  · simp [← String.length_toList]
  · dsimp only
    split
    · rename_i hi
      apply String.toList_inj.1
      simp only [String.toList_append, String.toList_ofList, String.length_ofList, List.length_drop,
        String.length_toList]
      rw [show n.length - (n.length - i) = i by rw [String.length_toList] at hi; omega,
        List.take_append_drop]
    · simp [← String.length_toList]

end SqlMigration.Path

namespace SqlMigration.DataFile

open HostM FileTree

/-! ## The sibling and the rows -/

/-- The temporary sibling is the destination with `.tmp` added to its last component. -/
theorem tempSibling_eq {destination tmp : Path} (h : tempSibling destination = .ok tmp) :
    ∃ r ps n, destination = ⟨r, ps ++ [n]⟩ ∧ tmp = ⟨r, ps ++ [n ++ ".tmp"]⟩ := by
  obtain ⟨r, parts⟩ := destination
  unfold tempSibling Path.withSuffix at h
  split at h
  · cases h
  split at h
  · cases h
  rename_i hname
  cases h
  obtain ⟨ps, n, rfl⟩ : ∃ ps n, parts = ps ++ [n] := by
    rcases List.eq_nil_or_concat parts with rfl | ⟨ps, n, rfl⟩
    · simp [Path.name] at hname
    · exact ⟨ps, n, List.concat_eq_append⟩
  refine ⟨r, ps, n, rfl, ?_⟩
  simp [Path.name, Path.suffix, ← String.append_assoc, Path.stem_append_suffixOf]

/-- The rows of a text as the conversion reads them: every line ended by a line feed, then what
follows the last line feed when it is not empty. -/
def sourceRows (cs : List Char) : List String :=
  (completeLines cs).1 ++
    if (completeLines cs).2.isEmpty then [] else [String.ofList (completeLines cs).2]

/-- Converted rows are the lines converted one by one. -/
theorem convertRows_ok {name delimiter : String} :
    ∀ {first : Nat} {ls outs : List String}, convertRows name delimiter first ls = .ok outs →
      List.Forall₂ (fun l o => convertLine l delimiter = .ok o) ls outs
  | _, [], outs, h => by
    cases h
    exact .nil
  | first, l :: ls, outs, h => by
    simp only [convertRows] at h
    cases hl : convertLine l delimiter with
    | error e =>
      rw [hl] at h
      cases h
    | ok o =>
      rw [hl] at h
      cases hr : convertRows name delimiter (first + 1) ls with
      | error e =>
        rw [hr] at h
        cases h
      | ok rest =>
        rw [hr] at h
        cases h
        exact .cons hl (convertRows_ok hr)

/-- A conversion that gives lines read the whole source as UTF-8 and converted each of its rows. -/
theorem convertedLines_ok {source : Path} {delimiter : String} {bytes : List UInt8}
    {all : List String} (h : convertedLines source delimiter bytes = .ok all) :
    (Text.Utf8.decodeChunks bytes).error = none ∧
      List.Forall₂ (fun l o => convertLine l delimiter = .ok o)
        (sourceRows (Text.Utf8.decodeChunks bytes).text) all := by
  unfold sourceRows
  simp only [convertedLines] at h
  rcases hc : completeLines (Text.Utf8.decodeChunks bytes).text with ⟨lines, tail⟩
  rw [hc] at h
  dsimp only at h ⊢
  cases hr : convertRows source.name delimiter 1 lines with
  | error e =>
    rw [hr] at h
    cases h
  | ok converted =>
    rw [hr] at h
    cases he : (Text.Utf8.decodeChunks bytes).error with
    | some e =>
      rw [he] at h
      cases h
    | none =>
      rw [he] at h
      refine ⟨rfl, ?_⟩
      by_cases ht : tail.isEmpty
      · simp only [ht, ↓reduceIte] at h ⊢
        cases h
        simpa using convertRows_ok hr
      · simp only [ht, Bool.false_eq_true, ↓reduceIte] at h ⊢
        cases hl : convertRows source.name delimiter (lines.length + 1) [String.ofList tail] with
        | error e =>
          rw [hl] at h
          cases h
        | ok last =>
          rw [hl] at h
          cases h
          exact List.rel_append (convertRows_ok hr) (convertRows_ok hl)

/-! ## What a conversion leaves -/

/-- What a conversion leaves in the tree `t` it ends with, answering `r`: no temporary sibling,
the source as it was, and either the destination holding the converted rows of the source, their
number answered, or an error of the data file with the destination as it was. -/
structure WholeOrUntouched (h : Host) (source destination tmp : Path) (delimiter : String)
    (r : Except Fault Nat) (t : FileTree) : Prop where
  siblingGone : t.exists? tmp = .ok false
  sourceKept : ∀ bs, t.readFile source = .ok bs ↔ h.tree.readFile source = .ok bs
  outcome :
    (∃ bs outs, h.tree.readFile source = .ok bs ∧ (Text.Utf8.decodeChunks bs).error = none ∧
      List.Forall₂ (fun l o => convertLine l delimiter = .ok o)
        (sourceRows (Text.Utf8.decodeChunks bs).text) outs ∧
      r = .ok outs.length ∧ t.readFile destination = .ok (Text.Utf8.encode (String.join outs))) ∨
    (∃ e, r = .error (.tool (.dataFile e)) ∧ t.stat destination = h.tree.stat destination)

section Leaves

variable {h : Host} {source destination tmp : Path} {delimiter : String} {d : List String}
  {m : String}

/-- The cleanup removes a temporary sibling that holds a file. -/
theorem run_cleanup_file {bs : List UInt8} (hslot : h.tree.FileSlot tmp d m)
    (hf : h.tree.find? (d ++ [m]) = some (.file bs)) :
    run h (do if ← exists? tmp then unlink tmp) =
      (.ok (), { h with tree := h.tree.erase (d ++ [m]) }) := by
  have hex : h.tree.exists? tmp = .ok true := by
    simp [FileTree.exists?, stat_child hslot.resolves hslot.short hf]
  rw [run_bind_of_ok (run_exists? hex)]
  exact run_change_ok (hslot.unlink hf)

/-- A conversion whose temporary sibling cannot be written changes nothing, and reports the
failed write against the source and the destination. -/
theorem run_convertCopyText_unwritten (htmp : tempSibling destination = .ok tmp) {oe : OsError}
    (hw : h.tree.writeFile tmp [] = .error oe) (hex : h.tree.exists? tmp = .ok false) :
    run h (convertCopyText source destination delimiter) =
      (.error (.tool (.dataFile (.cannotConvert source destination oe))), h) := by
  unfold convertCopyText
  rw [htmp, run_bind_of_ok (run_lift_ok _ _ _), run_finally', run_mapFault, body_eq, run_bind,
    HostM.writeFile, run_change, hw]
  dsimp only
  rw [run_bind_of_ok (run_exists? hex)]
  rfl

section Outcome

variable (hslot : h.tree.FileSlot tmp d m)
  (hsrc : ∀ pl, h.tree.resolve source = .ok pl → pl.loc ≠ some (d ++ [m]))
include hslot hsrc

/-- A conversion that stopped, leaving the tree `t'` that differs from the first only at the
sibling's place, from which the cleanup erased the sibling. -/
theorem WholeOrUntouched.of_failed {t' : FileTree} {e : DataFileError} {pl : Place}
    (hsame : SameOff h.tree t' (d ++ [m]) (d ++ [m])) (hdst : h.tree.resolve destination = .ok pl)
    (hpl : pl ≠ .child d m) :
    WholeOrUntouched h source destination tmp delimiter (.error (.tool (.dataFile e)))
      (t'.erase (d ++ [m])) := by
  have hsame' := hsame.erase (.inl (List.prefix_refl _))
  have hnone : (t'.erase (d ++ [m])).find? (d ++ [m]) = none := find?_erase_self (by simp)
  have hnd : (t'.erase (d ++ [m])).find? (d ++ [m]) ≠ some .dir := by simp [hnone]
  have hloc := Place.loc_ne_of_ne_child (resolve_chain hdst) hslot.notDir hpl
  refine ⟨?_, hsame'.readFile_iff hslot.notDir hslot.notDir hnd hnd
    fun pl hp => ⟨hsrc pl hp, hsrc pl hp⟩, .inr ⟨e, rfl, ?_⟩⟩
  · exact exists?_child_none
      (resolve_of_dirs (hsame'.dirsKept hslot.notDir hslot.notDir) hslot.resolves) hslot.short hnone
  · exact hsame'.stat hslot.notDir hslot.notDir hdst hloc hloc

/-- A conversion that renamed the converted lines over the destination, a sibling of the
temporary file. -/
theorem WholeOrUntouched.of_converted {n : String} {bs : List UInt8} {all : List String}
    (hdst : h.tree.FileSlot destination d n) (hmn : m ≠ n)
    (hsrcd : ∀ pl, h.tree.resolve source = .ok pl → pl.loc ≠ some (d ++ [n]))
    (hbs : h.tree.readFile source = .ok bs) (hall : convertedLines source delimiter bs = .ok all) :
    WholeOrUntouched h source destination tmp delimiter (.ok all.length)
      (convertedTree h.tree d m n (Text.Utf8.encode (String.join all))) := by
  have slot1 := hslot.set_file hslot.notDir []
  have slot2 := slot1.set_file slot1.notDir (Text.Utf8.encode (String.join all))
  have dslot2 := (hdst.set_file hslot.notDir []).set_file slot1.notDir
    (Text.Utf8.encode (String.join all))
  have hf2 := @find?_set_self (h.tree.set (d ++ [m]) (.file [])) (d ++ [m]) (by simp)
    (.file (Text.Utf8.encode (String.join all)))
  -- the converted tree differs from the first only at the sibling's and the destination's places
  have hsame : SameOff h.tree (convertedTree h.tree d m n (Text.Utf8.encode (String.join all)))
      (d ++ [m]) (d ++ [n]) :=
    (((SameOff.refl _ _ _).set (.inl (List.prefix_refl _)) _).set (.inl (List.prefix_refl _))
      _).move (.inl (List.prefix_refl _)) (.inr (List.prefix_refl _))
  have hgone : (convertedTree h.tree d m n (Text.Utf8.encode (String.join all))).find? (d ++ [m]) =
      none := find?_move_src (by simp) (FileSlot.not_prefix_sibling (Ne.symm hmn))
  have hfile : (convertedTree h.tree d m n (Text.Utf8.encode (String.join all))).find? (d ++ [n]) =
      some (.file (Text.Utf8.encode (String.join all))) := convertedTree_find?_dst hmn
  obtain ⟨hdec, hrows⟩ := convertedLines_ok hall
  refine ⟨FileSlot.exists?_move_sibling slot2 dslot2 hmn hf2,
    hsame.readFile_iff hslot.notDir hdst.notDir (by simp [hgone]) (by simp [hfile])
      fun pl hp => ⟨hsrc pl hp, hsrcd pl hp⟩,
    .inl ⟨bs, all, hbs, hdec, hrows, rfl, FileSlot.readFile_move_sibling dslot2 hmn hf2⟩⟩

end Outcome

/-- A conversion whose temporary sibling can be written: the run stops reading the source,
converting it or renaming the sibling, each time erasing the sibling again, or renames the
converted lines over the destination. -/
theorem convertCopyText_leaves_of_slot {r : String} {ps : List String} {n : String}
    (htmp : tempSibling ⟨r, ps ++ [n]⟩ = .ok ⟨r, ps ++ [n ++ ".tmp"]⟩)
    (hslot : h.tree.FileSlot ⟨r, ps ++ [n ++ ".tmp"]⟩ d (n ++ ".tmp"))
    (hsrc : ∀ pl, h.tree.resolve source = .ok pl →
      h.tree.resolve ⟨r, ps ++ [n]⟩ ≠ .ok pl ∧ h.tree.resolve ⟨r, ps ++ [n ++ ".tmp"]⟩ ≠ .ok pl) :
    ∃ res t, run h (convertCopyText source ⟨r, ps ++ [n]⟩ delimiter) = (res, { h with tree := t }) ∧
      WholeOrUntouched h source ⟨r, ps ++ [n]⟩ ⟨r, ps ++ [n ++ ".tmp"]⟩ delimiter res t := by
  obtain ⟨-, pl, hdst, hpl, hchild, hdots⟩ := resolve_of_sibling hslot.resolves
  have hsrct : ∀ pl', h.tree.resolve source = .ok pl' → pl'.loc ≠ some (d ++ [n ++ ".tmp"]) :=
    fun pl' hp => Place.loc_ne_of_ne_child (resolve_chain hp) hslot.notDir
      fun he => (hsrc pl' hp).2 (by rw [he]; exact hslot.resolves)
  have slot1 := hslot.set_file hslot.notDir []
  have hf1 : (h.tree.set (d ++ [n ++ ".tmp"]) (.file [])).find? (d ++ [n ++ ".tmp"]) =
      some (.file []) := find?_set_self (by simp) _
  have same1 : SameOff h.tree (h.tree.set (d ++ [n ++ ".tmp"]) (.file []))
      (d ++ [n ++ ".tmp"]) (d ++ [n ++ ".tmp"]) :=
    (SameOff.refl _ _ _).set (.inl (List.prefix_refl _)) _
  unfold convertCopyText
  rw [htmp, run_bind_of_ok (run_lift_ok _ _ _), run_finally', run_mapFault, body_eq,
    run_bind_of_ok (run_writeFile (hslot.writeFile []))]
  cases hr : (h.tree.set (d ++ [n ++ ".tmp"]) (.file [])).readFile source with
  | error oe =>
    -- the source cannot be read
    rw [run_bind, show run _ (readFile source) = _ from run_look _ _, hr]
    dsimp only
    rw [run_cleanup_file slot1 hf1]
    exact ⟨_, _, rfl, WholeOrUntouched.of_failed hslot hsrct same1 hdst hpl⟩
  | ok bs =>
    have hbs : h.tree.readFile source = .ok bs :=
      (same1.readFile_iff hslot.notDir hslot.notDir (by simp [hf1]) (by simp [hf1])
        (fun pl' hp => ⟨hsrct pl' hp, hsrct pl' hp⟩) bs).1 hr
    rw [run_bind_of_ok (run_readFile hr)]
    cases hc : convertedLines source delimiter bs with
    | error e =>
      -- the source does not convert
      obtain ⟨de, rfl⟩ := convertedLines_error hc
      rw [run_bind, run_lift_error]
      dsimp only
      rw [run_cleanup_file slot1 hf1]
      exact ⟨_, _, rfl, WholeOrUntouched.of_failed hslot hsrct same1 hdst hpl⟩
    | ok all =>
      have slot2 := slot1.set_file slot1.notDir (Text.Utf8.encode (String.join all))
      have hf2 := @find?_set_self (h.tree.set (d ++ [n ++ ".tmp"]) (.file [])) (d ++ [n ++ ".tmp"])
        (by simp) (.file (Text.Utf8.encode (String.join all)))
      have same2 := same1.set (.inl (List.prefix_refl _)) (.file (Text.Utf8.encode (String.join all)))
      rw [run_bind_of_ok (run_lift_ok _ _ _), run_bind_of_ok (run_writeFile (slot1.writeFile _)),
        run_bind, HostM.rename, run_change]
      by_cases hn : n = ".."
      · -- the destination's last step climbs out of the folder: the rename is refused
        obtain ⟨oe, hre⟩ := @rename_error_of_not_child _ ⟨r, ps ++ [n ++ ".tmp"]⟩ _ _
          (resolve_of_dirs
            (DirsKept.trans (dirs_set_file hslot.notDir []) (dirs_set_file slot1.notDir _)) hdst)
          (hdots hn)
        rw [hre]
        dsimp only
        rw [run_cleanup_file slot2 hf2]
        exact ⟨_, _, rfl, WholeOrUntouched.of_failed hslot hsrct same2 hdst hpl⟩
      · obtain rfl := hchild hn
        have hp1 := resolve_of_dirs (dirs_set_file hslot.notDir []) hdst
        rw [rename_tmp slot1 hp1]
        by_cases hd : (h.tree.set (d ++ [n ++ ".tmp"]) (.file [])).find? (d ++ [n]) = some .dir
        · -- the destination is a directory: the rename is refused
          rw [if_pos hd]
          dsimp only
          rw [run_cleanup_file slot2 hf2]
          exact ⟨_, _, rfl, WholeOrUntouched.of_failed hslot hsrct same2 hdst hpl⟩
        · -- the converted lines replace the destination, and the cleanup finds nothing
          have hdslot : h.tree.FileSlot ⟨r, ps ++ [n]⟩ d n :=
            ⟨hdst, short_of_tmp hslot, by rwa [find?_set_of_ne (tmp_loc_ne d n)] at hd⟩
          have dslot2 := (hdslot.set_file hslot.notDir []).set_file slot1.notDir
            (Text.Utf8.encode (String.join all))
          rw [if_neg hd]
          dsimp only
          rw [run_bind_of_ok (run_exists? (FileSlot.exists?_move_sibling slot2 dslot2 (tmp_ne n) hf2))]
          have hsrcd : ∀ pl', h.tree.resolve source = .ok pl' → pl'.loc ≠ some (d ++ [n]) :=
            fun pl' hp => Place.loc_ne_of_ne_child (resolve_chain hp) hdslot.notDir
              fun he => (hsrc pl' hp).1 (by rw [he]; exact hdst)
          exact ⟨_, _, rfl,
            WholeOrUntouched.of_converted hslot hsrct hdslot (tmp_ne n) hsrcd hbs hc⟩

/-- Converting a staged export leaves the destination whole or untouched: the conversion either
answers the number of rows of the source, which decoded as UTF-8 and whose every row converted,
leaving the destination holding the converted rows, or stops with an error of the data file,
leaving the destination as it was; either way the source reads as before and the temporary
sibling is gone. The sibling must be no directory and be looked up without an error other than
absence, and the source must lead to another place than the destination and the sibling. -/
theorem convertCopyText_whole_or_untouched (delimiter : String)
    (htmp : tempSibling destination = .ok tmp) (hfree : h.tree.isDir? tmp = .ok false)
    (hsrc : ∀ pl, h.tree.resolve source = .ok pl →
      h.tree.resolve destination ≠ .ok pl ∧ h.tree.resolve tmp ≠ .ok pl) :
    ∃ r t, run h (convertCopyText source destination delimiter) = (r, { h with tree := t }) ∧
      WholeOrUntouched h source destination tmp delimiter r t := by
  cases hw : h.tree.writeFile tmp [] with
  | error oe =>
    -- the sibling cannot be written: the conversion changes nothing
    have hex := exists?_of_writeFile_error hfree hw
    exact ⟨_, h.tree, run_convertCopyText_unwritten htmp hw hex,
      ⟨hex, fun _ => Iff.rfl, .inr ⟨_, rfl, rfl⟩⟩⟩
  | ok t₁ =>
    obtain ⟨d, m, hslot, -⟩ := writeFile_ok hw
    obtain ⟨r, ps, n, rfl, rfl⟩ := tempSibling_eq htmp
    obtain ⟨rfl, -⟩ := resolve_of_sibling hslot.resolves
    exact convertCopyText_leaves_of_slot htmp hslot hsrc

end Leaves

/-- A folder `d` holding one staged row in `d/s`. -/
def oneRowStaged : Host :=
  { tree := ⟨[(["d"], .dir), (["d", "s"], .file (Text.Utf8.encode "1\t2\n"))]⟩ }

/-- The staged row converted into `d/t.csv` through `d/t.csv.tmp`. -/
theorem convertCopyText_whole_or_untouched_sample :
    tempSibling ⟨"", ["d", "t.csv"]⟩ = .ok ⟨"", ["d", "t.csv.tmp"]⟩ ∧
    oneRowStaged.tree.isDir? ⟨"", ["d", "t.csv.tmp"]⟩ = .ok false ∧
    (∀ pl, oneRowStaged.tree.resolve ⟨"", ["d", "s"]⟩ = .ok pl →
      oneRowStaged.tree.resolve ⟨"", ["d", "t.csv"]⟩ ≠ .ok pl ∧
      oneRowStaged.tree.resolve ⟨"", ["d", "t.csv.tmp"]⟩ ≠ .ok pl) ∧
    ∃ r t, run oneRowStaged (convertCopyText ⟨"", ["d", "s"]⟩ ⟨"", ["d", "t.csv"]⟩ ",") =
        (r, { oneRowStaged with tree := t }) ∧
      WholeOrUntouched oneRowStaged ⟨"", ["d", "s"]⟩ ⟨"", ["d", "t.csv"]⟩ ⟨"", ["d", "t.csv.tmp"]⟩
        "," r t := by
  have htmp : tempSibling ⟨"", ["d", "t.csv"]⟩ = .ok ⟨"", ["d", "t.csv.tmp"]⟩ := by
    simp [tempSibling, Path.withSuffix, Path.suffix, Path.suffixOf, Path.name, Path.lastDot]
    decide
  have hfree : oneRowStaged.tree.isDir? ⟨"", ["d", "t.csv.tmp"]⟩ = .ok false := by decide
  have hsrc : ∀ pl, oneRowStaged.tree.resolve ⟨"", ["d", "s"]⟩ = .ok pl →
      oneRowStaged.tree.resolve ⟨"", ["d", "t.csv"]⟩ ≠ .ok pl ∧
      oneRowStaged.tree.resolve ⟨"", ["d", "t.csv.tmp"]⟩ ≠ .ok pl := by
    intro pl hpl
    rw [show oneRowStaged.tree.resolve ⟨"", ["d", "s"]⟩ = .ok (.child ["d"] "s") from rfl] at hpl
    cases hpl
    exact ⟨by decide, by decide⟩
  exact ⟨htmp, hfree, hsrc, convertCopyText_whole_or_untouched "," htmp hfree hsrc⟩

/-- A source that is the destination's temporary sibling is cut to nothing before it is read: its
row is lost, the conversion answers no rows and leaves the destination empty. -/
theorem convertCopyText_source_at_sibling :
    run { tree := ⟨[(["t.csv.tmp"], .file (Text.Utf8.encode "1\n"))]⟩ }
      (convertCopyText ⟨"", ["t.csv.tmp"]⟩ ⟨"", ["t.csv"]⟩ "\t") =
      (.ok 0, { tree := ⟨[(["t.csv"], .file [])]⟩ }) := by
  have htmp : tempSibling ⟨"", ["t.csv"]⟩ = .ok ⟨"", ["t.csv.tmp"]⟩ := by
    simp [tempSibling, Path.withSuffix, Path.suffix, Path.suffixOf, Path.name, Path.lastDot]
    decide
  unfold convertCopyText
  rw [htmp]
  rfl

end SqlMigration.DataFile

namespace SqlMigration.Layout

open HostM FileTree DataFile

end SqlMigration.Layout
