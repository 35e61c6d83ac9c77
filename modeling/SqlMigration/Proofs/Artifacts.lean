import SqlMigration.Layout
import SqlMigration.Proofs.FileTree
import SqlMigration.Proofs.Host

/-!
# Folders and scripts of the artifact tree

The artifact tree is built by two operations: creating a folder with its missing parents
(`makeDirs`), which is a no-op on a folder that exists and leaves a folder behind when it
returns, and writing a script through a temporary sibling (`Layout.writeScript`). Neither ever
removes or replaces a directory (`KeepsDirs`), so a path that leads somewhere keeps leading there
while a phase runs.

A script written below an existing folder is either in place with its payload afterwards, or
the write failed and the script's path shows what it showed before: only the temporary sibling
can have changed (`writeScript_ok`, `writeScript_error`).
-/

namespace SqlMigration.FileTree

/-! ## Where a walk stands -/

/-- Every directory a walk can stand in is still a directory in the second tree. -/
def DirsKept (t t' : FileTree) : Prop := ∀ k, DirChain t k → t'.find? k = some .dir

theorem DirsKept.refl (t : FileTree) : DirsKept t t := fun _ hk => hk.find?

theorem DirsKept.trans {t t' t'' : FileTree} (h : DirsKept t t') (h' : DirsKept t' t'') :
    DirsKept t t'' :=
  fun k hk => h' k (hk.of_dirs h)

/-- The directory a place is in, or the place itself for a directory reached by `..`, is the
end of a chain of directories. -/
def Place.Chain (t : FileTree) : Place → Prop
  | .child d _ => DirChain t d
  | .here d => DirChain t d
  | .above | .outside => True

theorem walk_chain {t : FileTree} :
    ∀ (ps dir : List String) {pl : Place}, DirChain t dir → t.walk dir ps = .ok pl → pl.Chain t := by
  intro ps
  induction ps with
  | nil =>
    intro dir pl hdir h
    cases h
    exact hdir
  | cons n rest ih =>
    intro dir pl hdir h
    cases rest with
    | nil =>
      simp only [walk] at h
      split at h
      · split at h
        · cases h
          trivial
        · cases h
          exact hdir.dropLast
      · cases h
        exact hdir
    | cons m rest =>
      simp only [walk] at h
      split at h
      · split at h
        · cases h
          trivial
        · exact ih _ hdir.dropLast h
      · split at h
        · cases h
        · split at h
          · cases h
          · cases h
          · rename_i hd
            exact ih _ (hdir.snoc hd) h

/-- The place one component further down from where a walk ended: the component `n` inside it,
which must then be a directory to step into. -/
def Place.descend (t : FileTree) (n : String) : Place → Except Errno Place
  | .child d m =>
    if m.utf8ByteSize > nameMax then .error .nameTooLong
    else match t.find? (d ++ [m]) with
      | none => .error .noEntry
      | some (.file _) => .error .notDir
      | some .dir => .ok (.child (d ++ [m]) n)
  | .here d => .ok (.child d n)
  | .above | .outside => .ok .outside

/-- A walk with one more component, not `..`: the last component before it becomes a step of
the walk. -/
theorem walk_snoc {t : FileTree} {n : String} (hn : n ≠ "..") :
    ∀ (ps dir : List String), t.walk dir (ps ++ [n]) = (t.walk dir ps).bind (Place.descend t n) := by
  intro ps
  induction ps with
  | nil =>
    intro dir
    simp [walk, hn, Place.descend, Except.bind]
  | cons a rest ih =>
    intro dir
    cases rest with
    | nil =>
      by_cases ha : a = ".."
      · by_cases hd : dir.isEmpty <;> simp [walk, ha, hd, hn, Place.descend, Except.bind]
      · simp only [List.cons_append, List.nil_append, walk, ha, ↓reduceIte, Except.bind,
          Place.descend]
        split <;> rfl
    | cons b rest =>
      simp only [List.cons_append] at ih ⊢
      simp only [walk]
      split
      · split
        · rfl
        · exact ih _
      · split
        · rfl
        · split
          · rfl
          · rfl
          · exact ih _

/-! ## Paths below a directory -/
/-- Stepping to a child keeps the directory it steps from, whatever the child's name. -/
theorem descend_rename {t : FileTree} {n b : String} {pl : Place} {d : List String} {m : String}
    (h : pl.descend t n = .ok (.child d m)) : m = n ∧ pl.descend t b = .ok (.child d b) := by
  cases pl with
  | child e x =>
    simp only [Place.descend] at h ⊢
    split at h
    · cases h
    · rename_i hx
      rw [if_neg hx]
      split at h <;> cases h
      simp
  | here e =>
    cases h
    exact ⟨rfl, rfl⟩
  | above | outside => cases h

/-- A path one component longer than another resolves by a walk over the shorter one and a
last step. -/
theorem resolve_snoc {t : FileTree} {r : String} {ps : List String} {n : String} (hn : n ≠ "..")
    (hlen : (⟨r, ps ++ [n]⟩ : Path).render.utf8ByteSize < pathMax) :
    t.resolve ⟨r, ps ++ [n]⟩ =
      if r.isEmpty then (t.walk [] ps).bind (Place.descend t n) else .ok .outside := by
  unfold resolve
  rw [if_neg (by omega)]
  by_cases hr : r.isEmpty
  · simp only [hr, not_true_eq_false, ↓reduceIte, walk_snoc hn]
  · simp [hr]

/-- A path that leads to an entry names that entry by its last component, and its siblings
lead to the entries of the same directory. -/
theorem resolve_sibling {t : FileTree} {r : String} {ps : List String} {a b m : String}
    {d : List String} (ha : a ≠ "..") (hb : b ≠ "..")
    (hlen : (⟨r, ps ++ [b]⟩ : Path).render.utf8ByteSize < pathMax)
    (h : t.resolve ⟨r, ps ++ [a]⟩ = .ok (.child d m)) :
    m = a ∧ t.resolve ⟨r, ps ++ [b]⟩ = .ok (.child d b) := by
  have hla : (⟨r, ps ++ [a]⟩ : Path).render.utf8ByteSize < pathMax := by
    unfold resolve at h
    split at h
    · cases h
    · omega
  rw [resolve_snoc ha hla] at h
  rw [resolve_snoc hb hlen]
  split at h
  · rename_i hr
    rw [if_pos hr]
    cases hw : t.walk [] ps with
    | error e => rw [hw] at h; cases h
    | ok pl =>
      rw [hw] at h
      exact descend_rename h
  · cases h


theorem resolve_chain {t : FileTree} {p : Path} {pl : Place} (h : t.resolve p = .ok pl) :
    pl.Chain t := by
  unfold resolve at h
  split at h
  · cases h
  · split at h
    · cases h
      trivial
    · exact walk_chain _ _ (DirChain.nil t) h

/-- A path that is a directory leads to a place that is one, or above the working directory. -/
theorem resolve_of_isDir {t : FileTree} {p : Path} (h : t.isDir? p = .ok true) :
    ∃ pl, t.resolve p = .ok pl ∧ pl.tooLong = false ∧ (pl = .above ∨ pl.loc.bind t.find? = some .dir) := by
  unfold isDir? stat at h
  split at h
  · rename_i e he
    split at he
    · cases he
    · rename_i pl hpl
      split at he
      · cases he
      · split at he
        · exact ⟨pl, hpl, by simpa using ‹¬pl.tooLong = true›, .inl ‹_›⟩
        · split at he
          · rename_i hloc
            cases he
            simp only [beq_iff_eq, Except.ok.injEq] at h
            subst h
            exact ⟨pl, hpl, by simpa using ‹¬pl.tooLong = true›, .inr hloc⟩
          · cases he
  · rename_i e he
    split at h <;> simp at h

theorem isDir?_of_resolve {t : FileTree} {p : Path} {pl : Place} (hp : t.resolve p = .ok pl)
    (hshort : pl.tooLong = false) (hdir : pl = .above ∨ pl.loc.bind t.find? = some .dir) :
    t.isDir? p = .ok true := by
  rcases hdir with rfl | hdir
  · simp [isDir?, stat, hp, hshort]
  · have habove : pl ≠ .above := by
      rintro rfl
      simp [Place.loc] at hdir
    simp [isDir?, stat, hp, hshort, habove, hdir]

/-- A directory stays one in a tree that keeps the directories a walk can stand in. -/
theorem isDir?_of_dirs {t t' : FileTree} (hdirs : DirsKept t t') {p : Path}
    (h : t.isDir? p = .ok true) : t'.isDir? p = .ok true := by
  obtain ⟨pl, hpl, hshort, hdir⟩ := resolve_of_isDir h
  refine isDir?_of_resolve (resolve_of_dirs hdirs hpl) hshort ?_
  have hchain := resolve_chain hpl
  rcases hdir with rfl | hdir
  · exact .inl rfl
  · right
    cases pl with
    | child d m =>
      simp only [Place.loc, Option.bind_some] at hdir ⊢
      exact hdirs _ (hchain.snoc hdir)
    | here d =>
      simp only [Place.loc, Option.bind_some] at hdir ⊢
      exact hdirs _ hchain
    | above | outside => simp [Place.loc] at hdir

/-- What a path leads to stays the same in a tree that keeps the directories and the entry at
its place. -/
theorem stat_of_frame {t t' : FileTree} (hdirs : DirsKept t t') {p : Path} {pl : Place}
    (hp : t.resolve p = .ok pl) (hloc : ∀ k, pl.loc = some k → t'.find? k = t.find? k) :
    t'.stat p = t.stat p := by
  unfold stat
  rw [resolve_of_dirs hdirs hp, hp]
  dsimp only
  cases hk : pl.loc with
  | none => rfl
  | some k => simp only [Option.bind_some, hloc k hk]

/-! ## The calls that create and write -/

/-- Creating a directory that is there fails with `exists`. -/
theorem mkdir_of_isDir {t : FileTree} {p : Path} (h : t.isDir? p = .ok true) :
    t.mkdir p = .error ⟨.exists, p.render, none⟩ := by
  obtain ⟨pl, hpl, hshort, hdir⟩ := resolve_of_isDir h
  have hchain := resolve_chain hpl
  unfold mkdir
  rw [hpl]
  cases pl with
  | child d m =>
    simp only [Place.loc, Option.bind_some, reduceCtorEq, false_or] at hdir
    have hm : ¬ m.utf8ByteSize > nameMax := by simpa [Place.tooLong] using hshort
    simp only [hm, ↓reduceIte, hchain.find?, hdir]
  | here d => rfl
  | above => rfl
  | outside => simp [Place.loc] at hdir

/-- A directory created where nothing was: the tree gains it and keeps every other directory. -/
theorem mkdir_ok {t t' : FileTree} {p : Path} (h : t.mkdir p = .ok t') :
    DirsKept t t' ∧ t'.isDir? p = .ok true := by
  unfold mkdir at h
  split at h
  · cases h
  · cases h
  · cases h
  · cases h
  · rename_i d n hpl
    split at h
    · cases h
    · rename_i hshort
      split at h
      · rename_i hd hn
        cases h
        have hdirs : DirsKept t (t.set (d ++ [n]) .dir) := by
          intro k hk
          by_cases hkl : k = d ++ [n]
          · subst hkl
            rw [hk.find?] at hn
            cases hn
          · rw [find?_set_of_ne hkl]
            exact hk.find?
        refine ⟨hdirs, isDir?_of_resolve (resolve_of_dirs hdirs hpl) (by simpa [Place.tooLong] using hshort) (.inr ?_)⟩
        simp [Place.loc, find?_set_self]
      · cases h
      · cases h

/-- A file written: the path led to a place for a file, which now holds the bytes. -/
theorem writeFile_ok {t t' : FileTree} {p : Path} {bs : List UInt8} (h : t.writeFile p bs = .ok t') :
    ∃ d n, t.FileSlot p d n ∧ t' = t.set (d ++ [n]) (.file bs) := by
  unfold writeFile at h
  split at h
  · cases h
  · cases h
  · cases h
  · cases h
  · rename_i d n hpl
    split at h
    · cases h
    · rename_i hshort
      have hn : n.utf8ByteSize ≤ nameMax := by omega
      split at h
      · cases h
      · rename_i hnd
        cases h
        exact ⟨d, n, ⟨hpl, hn, hnd⟩, rfl⟩
      · cases h

/-- A file renamed over a sibling: the sibling's place takes the file unless it is a directory. -/
theorem rename_sibling {t : FileTree} {src dst : Path} {d : List String} {m n : String}
    {bs : List UInt8} (hs : t.FileSlot src d m) (hf : t.find? (d ++ [m]) = some (.file bs))
    (hd : t.resolve dst = .ok (.child d n)) (hn : n.utf8ByteSize ≤ nameMax) (hmn : m ≠ n) :
    t.rename src dst = if t.find? (d ++ [n]) = some .dir then .error ⟨.isDir, src.render, some dst.render⟩
      else .ok (t.move (d ++ [m]) (d ++ [n])) := by
  split
  · rename_i hdir
    have hnp : ∀ x : String, (d ++ [x]).isPrefixOf d = false := by
      intro x
      rw [Bool.eq_false_iff]
      intro hp
      have := (List.isPrefixOf_iff_prefix.1 hp).length_le
      simp only [List.length_append, List.length_singleton] at this
      omega
    have hne : (d ++ [m] = d ++ [n]) = False := by simp [hmn]
    simp only [rename, hs.resolves, hd, hf, hnp, hne, hdir, Bool.false_eq_true, ↓reduceIte]
    rw [if_neg (by have := hs.short; omega), if_neg (by omega)]
  · rename_i hdir
    exact hs.rename ⟨hd, hn, hdir⟩ hmn hf

/-! ## A file written through a temporary sibling -/

/-- Adding text to the last component of a path adds it to the path's text. -/
theorem render_extend (r : String) (ps : List String) (n s : String) :
    (⟨r, ps ++ [n ++ s]⟩ : Path).render = (⟨r, ps ++ [n]⟩ : Path).render ++ s := by
  have hi : "/".intercalate (ps ++ [n ++ s]) = "/".intercalate (ps ++ [n]) ++ s := by
    induction ps with
    | nil => simp
    | cons a ps ih =>
      cases ps with
      | nil => simp [String.intercalate_cons_cons, String.append_assoc]
      | cons b ps => simp_all [String.intercalate_cons_cons, String.append_assoc]
  simp [Path.render, hi, String.append_assoc]

section WriteThrough

variable {t t₁ : FileTree} {r : String} {ps : List String} {n : String} {bs : List UInt8}

/-- The temporary sibling's name is another name than the file's. -/
theorem tmp_ne (n : String) : n ++ ".tmp" ≠ n := by
  intro h
  have := congrArg String.length h
  simp at this

/-- The temporary sibling's name is never the parent step `..`. -/
theorem tmp_ne_dots (n : String) : n ++ ".tmp" ≠ ".." := by
  intro h
  have := congrArg String.length h
  rw [String.length_append, show ".tmp".length = 4 from rfl, show "..".length = 2 from rfl] at this
  omega

/-- A file's place and its temporary sibling's are different places. -/
theorem tmp_loc_ne (d : List String) (n : String) : d ++ [n] ≠ d ++ [n ++ ".tmp"] := by
  simpa using (tmp_ne n).symm

/-- A temporary sibling written: it was a place for a file, and the file's own path leads to the
entry next to it. -/
theorem writeFile_tmp_ok (hn : n ≠ "..") (htn : n ++ ".tmp" ≠ "..")
    (h : t.writeFile ⟨r, ps ++ [n ++ ".tmp"]⟩ bs = .ok t₁) :
    ∃ d, t.FileSlot ⟨r, ps ++ [n ++ ".tmp"]⟩ d (n ++ ".tmp") ∧
      t₁ = t.set (d ++ [n ++ ".tmp"]) (.file bs) ∧ t.resolve ⟨r, ps ++ [n]⟩ = .ok (.child d n) := by
  obtain ⟨d, m, hslot, rfl⟩ := writeFile_ok h
  have hlen : (⟨r, ps ++ [n]⟩ : Path).render.utf8ByteSize < pathMax := by
    have := hslot.resolves
    unfold resolve at this
    split at this
    · cases this
    · rw [render_extend, String.utf8ByteSize_append] at *
      omega
  obtain ⟨rfl, hp⟩ := resolve_sibling htn hn hlen hslot.resolves
  exact ⟨d, hslot, rfl, hp⟩

variable {d : List String} (hslot : t.FileSlot ⟨r, ps ++ [n ++ ".tmp"]⟩ d (n ++ ".tmp"))
  (hp : t.resolve ⟨r, ps ++ [n]⟩ = .ok (.child d n))

include hslot in
/-- Writing the temporary sibling keeps every directory. -/
theorem dirs_set_tmp : ∀ k, DirChain t k → (t.set (d ++ [n ++ ".tmp"]) (.file bs)).find? k = some .dir :=
  dirs_set_file hslot.notDir bs

include hslot in
/-- The file's name is short enough when its temporary sibling's is. -/
theorem short_of_tmp : n.utf8ByteSize ≤ nameMax := by
  have := hslot.short
  rw [String.utf8ByteSize_append] at this
  omega

include hslot hp in
/-- Next to its written temporary sibling, the file's place is one for a file unless it holds a
directory. -/
theorem slot_beside_tmp (hnd : t.find? (d ++ [n]) ≠ some .dir) :
    (t.set (d ++ [n ++ ".tmp"]) (.file bs)).FileSlot ⟨r, ps ++ [n]⟩ d n :=
  ⟨resolve_of_dirs (dirs_set_tmp hslot) hp, short_of_tmp hslot,
    by rwa [find?_set_of_ne (tmp_loc_ne d n)]⟩

include hslot hp in
/-- The temporary sibling renamed over the file: refused when the file's place is a directory,
else the sibling's entry moves there. -/
theorem rename_tmp :
    (t.set (d ++ [n ++ ".tmp"]) (.file bs)).rename ⟨r, ps ++ [n ++ ".tmp"]⟩ ⟨r, ps ++ [n]⟩ =
      if t.find? (d ++ [n]) = some .dir then
        .error ⟨.isDir, (⟨r, ps ++ [n ++ ".tmp"]⟩ : Path).render, some (⟨r, ps ++ [n]⟩ : Path).render⟩
      else .ok ((t.set (d ++ [n ++ ".tmp"]) (.file bs)).move (d ++ [n ++ ".tmp"]) (d ++ [n])) := by
  rw [rename_sibling (hslot.set_file hslot.notDir bs) (find?_set_self (by simp) _)
    (resolve_of_dirs (dirs_set_tmp hslot) hp) (short_of_tmp hslot) (tmp_ne n),
    find?_set_of_ne (tmp_loc_ne d n)]

include hslot hp in
/-- A file written through its temporary sibling holds the bytes, and every directory is kept. -/
theorem writeThrough_ok (hnd : t.find? (d ++ [n]) ≠ some .dir) :
    let t₂ := (t.set (d ++ [n ++ ".tmp"]) (.file bs)).move (d ++ [n ++ ".tmp"]) (d ++ [n])
    t₂.readFile ⟨r, ps ++ [n]⟩ = .ok bs ∧ DirsKept t t₂ := by
  have hdst : (t.set (d ++ [n ++ ".tmp"]) (.file bs)).FileSlot ⟨r, ps ++ [n]⟩ d n :=
    slot_beside_tmp hslot hp hnd
  have hf : (t.set (d ++ [n ++ ".tmp"]) (.file bs)).find? (d ++ [n ++ ".tmp"]) = some (.file bs) :=
    find?_set_self (by simp) _
  exact ⟨FileSlot.readFile_move_sibling hdst (tmp_ne n) hf,
    (DirsKept.trans (dirs_set_tmp hslot) (FileSlot.dirs_move_sibling hdst hf))⟩

include hslot hp in
/-- When the rename is refused, the file's path reads what it read before. -/
theorem readFile_set_tmp :
    (t.set (d ++ [n ++ ".tmp"]) (.file bs)).readFile ⟨r, ps ++ [n]⟩ = t.readFile ⟨r, ps ++ [n]⟩ := by
  unfold readFile
  rw [stat_of_frame (dirs_set_tmp hslot) hp]
  intro k hk
  simp only [Place.loc, Option.some.injEq] at hk
  subst hk
  exact find?_set_of_ne (tmp_loc_ne d n) _

end WriteThrough

end SqlMigration.FileTree

namespace SqlMigration.HostM

open FileTree

variable {α β : Type}

/-! ## Creating folders -/

theorem run_mkdir (h : Host) (p : Path) :
    run h (mkdir p) = match h.tree.mkdir p with
      | .ok t => (.ok (), { h with tree := t })
      | .error e => (.error (.os e), h) :=
  run_change h _

theorem run_isDir? (h : Host) (p : Path) :
    run h (isDir? p) = match h.tree.isDir? p with
      | .ok b => (.ok b, h)
      | .error e => (.error (.os e), h) := by
  rw [HostM.isDir?, run_look]
  cases h.tree.isDir? p <;> rfl

/-- The check after a refused creation returns only when the folder is there, and changes
nothing. -/
theorem existingDir_ok {p : Path} {e : Fault} {h h' : Host}
    (hr : run h (existingDir p e) = (.ok (), h')) : h' = h ∧ h.tree.isDir? p = .ok true := by
  unfold existingDir at hr
  rw [run_bind, run_isDir?] at hr
  cases hd : h.tree.isDir? p with
  | error oe =>
    rw [hd] at hr
    cases hr
  | ok b =>
    rw [hd] at hr
    cases b
    · cases hr
    · cases hr
      exact ⟨rfl, rfl⟩

/-- Creating a folder that may exist returns only with the folder there. -/
theorem mkdirExistOk_ok {p : Path} {h h' : Host} (hr : run h (mkdirExistOk p) = (.ok (), h')) :
    h'.tree.isDir? p = .ok true := by
  unfold mkdirExistOk at hr
  rw [run_tryCatch, run_mkdir] at hr
  cases hm : h.tree.mkdir p with
  | ok t =>
    rw [hm] at hr
    cases hr
    exact (mkdir_ok hm).2
  | error oe =>
    rw [hm] at hr
    dsimp only at hr
    split at hr
    · cases hr
    · obtain ⟨rfl, hd⟩ := existingDir_ok hr
      exact hd
    · cases hr

/-- Creating a folder and its parents returns only with the folder there. -/
theorem makeDirs_ok {p : Path} {h h' : Host} (hr : run h (makeDirs p) = (.ok (), h')) :
    h'.tree.isDir? p = .ok true := by
  unfold makeDirs at hr
  cases hn : p.parts.length with
  | zero =>
    rw [hn, makeDirs.go] at hr
    exact mkdirExistOk_ok hr
  | succ n =>
    -- the last step creates `p` itself or checks that it is there
    rw [hn, makeDirs.go, run_tryCatch, run_mkdir] at hr
    cases hm : h.tree.mkdir p with
    | ok t =>
      rw [hm] at hr
      cases hr
      exact (mkdir_ok hm).2
    | error oe =>
      rw [hm] at hr
      dsimp only at hr
      split at hr
      · obtain ⟨_, h₁, -, hr⟩ := exists_of_run_bind_ok hr
        exact mkdirExistOk_ok hr
      · obtain ⟨rfl, hd⟩ := existingDir_ok hr
        exact hd
      · cases hr

/-- A folder that exists is left as it is. -/
theorem run_makeDirs_of_isDir {p : Path} {h : Host} (hp : h.tree.isDir? p = .ok true) :
    run h (makeDirs p) = (.ok (), h) := by
  have hm := mkdir_of_isDir hp
  have hcheck : run h (existingDir p (.os ⟨.exists, p.render, none⟩)) = (.ok (), h) := by
    unfold existingDir
    rw [run_bind, run_isDir?, hp]
    rfl
  unfold makeDirs
  cases p.parts.length with
  | zero =>
    rw [makeDirs.go, mkdirExistOk, run_tryCatch, run_mkdir, hm]
    exact hcheck
  | succ n =>
    rw [makeDirs.go, run_tryCatch, run_mkdir, hm]
    exact hcheck

/-! ## Keeping directories -/

/-- An operation that keeps every directory a walk can stand in, whether it returns or faults. -/
def KeepsDirs (m : HostM α) : Prop := ∀ h, DirsKept h.tree (run h m).2.tree

namespace KeepsDirs

theorem pure (a : α) : KeepsDirs (pure a : HostM α) := fun h => DirsKept.refl h.tree

theorem throw (e : Fault) : KeepsDirs (throw e : HostM α) := fun h => DirsKept.refl h.tree

theorem look (f : FileTree → Except OsError α) : KeepsDirs (look f) := by
  intro h
  rw [run_look]
  cases f h.tree <;> exact DirsKept.refl _

theorem mkdir (p : Path) : KeepsDirs (mkdir p) := by
  intro h
  rw [run_mkdir]
  cases hm : h.tree.mkdir p with
  | ok t => exact (mkdir_ok hm).1
  | error e => exact DirsKept.refl _

theorem bind {m : HostM α} {f : α → HostM β} (hm : KeepsDirs m) (hf : ∀ a, KeepsDirs (f a)) :
    KeepsDirs (m >>= f) := by
  intro h
  have h₁ := hm h
  rw [run_bind]
  rcases hr : run h m with ⟨_ | a, h'⟩ <;> rw [hr] at h₁
  · exact h₁
  · exact h₁.trans (hf a h')

theorem tryCatch {m : HostM α} {handler : Fault → HostM α} (hm : KeepsDirs m)
    (hh : ∀ e, KeepsDirs (handler e)) : KeepsDirs (tryCatch m handler) := by
  intro h
  have h₁ := hm h
  rw [run_tryCatch]
  rcases hr : run h m with ⟨_ | a, h'⟩ <;> rw [hr] at h₁
  · exact h₁.trans (hh _ h')
  · exact h₁

theorem mapFault {body : HostM α} (hb : KeepsDirs body) (handler : Fault → Fault) :
    KeepsDirs (mapFault body handler) :=
  tryCatch hb fun _ => throw _

theorem existingDir (p : Path) (e : Fault) : KeepsDirs (existingDir p e) :=
  bind (look _) fun b => by
    cases b
    · exact throw e
    · exact pure ()

theorem mkdirExistOk (p : Path) : KeepsDirs (mkdirExistOk p) := by
  refine tryCatch (mkdir p) fun e => ?_
  split
  · exact throw _
  · exact existingDir p _
  · exact throw _

theorem makeDirs (p : Path) : KeepsDirs (makeDirs p) := by
  unfold HostM.makeDirs
  -- the parents are created by the same loop, one component up each time
  induction p.parts.length generalizing p with
  | zero => exact mkdirExistOk p
  | succ n ih =>
    refine tryCatch (mkdir p) fun e => ?_
    split
    · exact bind (ih p.parent) fun _ => mkdirExistOk p
    · exact existingDir p _
    · exact throw _

end KeepsDirs

/-! ## The faults of creating folders -/

/-- A fault that is a system call error. -/
def SystemFault (e : Fault) : Prop := ∃ oe, e = .os oe

theorem StopsWith.tryCatch {P Q : Fault → Prop} {m : HostM α} {handler : Fault → HostM α}
    (hm : StopsWith Q m) (hh : ∀ e, Q e → StopsWith P (handler e)) :
    StopsWith P (tryCatch m handler) := by
  intro h e h' hr
  rw [run_tryCatch] at hr
  rcases h₁ : run h m with ⟨e₁ | a, h₁'⟩ <;> rw [h₁] at hr
  · exact hh e₁ (hm h e₁ h₁' h₁) h₁' e h' hr
  · cases hr

theorem StopsWith.mapFault {P Q : Fault → Prop} {body : HostM α} {handler : Fault → Fault}
    (hb : StopsWith Q body) (hh : ∀ e, Q e → P (handler e)) : StopsWith P (mapFault body handler) :=
  StopsWith.tryCatch hb fun e he => StopsWith.throw (hh e he)

theorem StopsWith.change (f : FileTree → Except OsError FileTree) :
    StopsWith SystemFault (change f) := by
  intro h e h' hr
  rw [run_change] at hr
  cases hf : f h.tree with
  | ok t => rw [hf] at hr; cases hr
  | error oe =>
    rw [hf] at hr
    cases hr
    exact ⟨oe, rfl⟩

theorem StopsWith.look (f : FileTree → Except OsError α) : StopsWith SystemFault (look f) := by
  intro h e h' hr
  rw [run_look] at hr
  cases hf : f h.tree with
  | ok a => rw [hf] at hr; cases hr
  | error oe =>
    rw [hf] at hr
    cases hr
    exact ⟨oe, rfl⟩

/-- The check after a refused creation stops with the refusal or a system error. -/
theorem existingDir_stops {p : Path} {e : Fault} (he : SystemFault e) :
    StopsWith SystemFault (existingDir p e) :=
  StopsWith.bind (StopsWith.look _) fun b => by
    cases b
    · exact StopsWith.throw he
    · exact StopsWith.pure ()

theorem mkdirExistOk_stops (p : Path) : StopsWith SystemFault (mkdirExistOk p) := by
  refine StopsWith.tryCatch (StopsWith.change _) fun e he => ?_
  split
  · exact StopsWith.throw he
  · exact existingDir_stops he
  · exact StopsWith.throw he

/-- Creating folders stops only with a system error. -/
theorem makeDirs_stops (p : Path) : StopsWith SystemFault (makeDirs p) := by
  unfold HostM.makeDirs
  induction p.parts.length generalizing p with
  | zero => exact mkdirExistOk_stops p
  | succ n ih =>
    refine StopsWith.tryCatch (StopsWith.change _) fun e he => ?_
    split
    · exact StopsWith.bind (ih p.parent) fun _ => mkdirExistOk_stops p
    · exact existingDir_stops he
    · exact StopsWith.throw he

end SqlMigration.HostM

namespace SqlMigration.Layout

open HostM FileTree

/-! ## The script folders -/

theorem ensureDir_keepsDirs (d : Path) : KeepsDirs (ensureDir d) :=
  KeepsDirs.mapFault (KeepsDirs.makeDirs d) _

/-- A folder that cannot be created is reported against that folder. -/
theorem ensureDir_stops (d : Path) :
    StopsWith (fun e => ∃ oe, e = .tool (.fileSystem (.cannotCreate d oe))) (ensureDir d) := by
  refine StopsWith.mapFault (makeDirs_stops d) ?_
  rintro e ⟨oe, rfl⟩
  exact ⟨oe, rfl⟩

theorem ensureDir_ok {d : Path} {h h' : Host} (hr : run h (ensureDir d) = (.ok (), h')) :
    h'.tree.isDir? d = .ok true := by
  unfold ensureDir at hr
  rw [run_mapFault] at hr
  rcases hm : run h (makeDirs d) with ⟨_ | _, h₁⟩ <;> rw [hm] at hr
  · cases hr
  · cases hr
    exact makeDirs_ok hm

/-- The script folders stop only on a folder that cannot be created. -/
theorem ensureScriptDirs_stops (l : Layout) :
    StopsWith (fun e => ∃ d oe, e = .tool (.fileSystem (.cannotCreate d oe))) l.ensureScriptDirs := by
  have hdir : ∀ d, StopsWith (fun e => ∃ d oe, e = .tool (.fileSystem (.cannotCreate d oe)))
      (ensureDir d) := fun d h e h' hr => ⟨d, ensureDir_stops d h e h' hr⟩
  exact StopsWith.bind (hdir _) fun _ => StopsWith.bind (hdir _) fun _ => hdir _

/-- Once the script folders are created, all three are folders, and every folder there was is
still one. -/
theorem ensureScriptDirs_ok {l : Layout} {h h' : Host} (hr : run h l.ensureScriptDirs = (.ok (), h')) :
    DirsKept h.tree h'.tree ∧ h'.tree.isDir? l.tablesDir = .ok true ∧
      h'.tree.isDir? l.constraintsDir = .ok true ∧ h'.tree.isDir? l.sequencesDir = .ok true := by
  unfold ensureScriptDirs at hr
  obtain ⟨_, h₁, ht, hr⟩ := exists_of_run_bind_ok hr
  obtain ⟨_, h₂, hc, hs⟩ := exists_of_run_bind_ok hr
  have k₁ : DirsKept h.tree h₁.tree := by simpa [ht] using ensureDir_keepsDirs l.tablesDir h
  have k₂ : DirsKept h₁.tree h₂.tree := by simpa [hc] using ensureDir_keepsDirs l.constraintsDir h₁
  have k₃ : DirsKept h₂.tree h'.tree := by simpa [hs] using ensureDir_keepsDirs l.sequencesDir h₂
  refine ⟨k₁.trans (k₂.trans k₃), ?_, ?_, ensureDir_ok hs⟩
  · exact isDir?_of_dirs k₃ (isDir?_of_dirs k₂ (ensureDir_ok ht))
  · exact isDir?_of_dirs k₃ (ensureDir_ok hc)

/-! ## Writing a script -/

section Script

variable {h h' : Host} {r : String} {ps : List String} {n text : String}
  (htmp : (⟨r, ps ++ [n]⟩ : Path).withSuffix ((⟨r, ps ++ [n]⟩ : Path).suffix ++ ".tmp") =
    .ok ⟨r, ps ++ [n ++ ".tmp"]⟩)
  (hD : h.tree.isDir? ⟨r, ps⟩ = .ok true)

include htmp hD in
/-- A script written into a folder that exists: the temporary sibling is written, then renamed
over the script, and a system error of either step is reported against the script. -/
theorem run_writeScript :
    run h (writeScript ⟨r, ps ++ [n]⟩ text) =
      match h.tree.writeFile ⟨r, ps ++ [n ++ ".tmp"]⟩ (Text.Utf8.encode (scriptPayload text)) with
      | .error e => (.error (.tool (.fileSystem (.cannotWrite ⟨r, ps ++ [n]⟩ e))), h)
      | .ok t₁ =>
        match t₁.rename ⟨r, ps ++ [n ++ ".tmp"]⟩ ⟨r, ps ++ [n]⟩ with
        | .error e =>
          (.error (.tool (.fileSystem (.cannotWrite ⟨r, ps ++ [n]⟩ e))), { h with tree := t₁ })
        | .ok t₂ => (.ok ⟨r, ps ++ [n]⟩, { h with tree := t₂ }) := by
  have hparent : (⟨r, ps ++ [n]⟩ : Path).parent = ⟨r, ps⟩ := by simp [Path.parent]
  unfold writeScript
  rw [run_bind, htmp, run_lift_ok]
  dsimp only
  rw [run_bind, run_mapFault, run_bind, hparent, run_makeDirs_of_isDir hD]
  dsimp only
  rw [run_bind, HostM.writeFile, run_change]
  cases h.tree.writeFile ⟨r, ps ++ [n ++ ".tmp"]⟩ (Text.Utf8.encode (scriptPayload text)) with
  | error e => rfl
  | ok t₁ =>
    dsimp only
    rw [HostM.rename, run_change]
    cases t₁.rename ⟨r, ps ++ [n ++ ".tmp"]⟩ ⟨r, ps ++ [n]⟩ <;> rfl

include htmp hD in
/-- A script written into a folder that exists holds its text with the final line feed; nothing
but the tree changed, and every folder is kept. -/
theorem writeScript_ok (hn : n ≠ "..") {q : Path}
    (hr : run h (writeScript ⟨r, ps ++ [n]⟩ text) = (.ok q, h')) :
    q = ⟨r, ps ++ [n]⟩ ∧ h' = { h with tree := h'.tree } ∧ DirsKept h.tree h'.tree ∧
      h'.tree.readFile ⟨r, ps ++ [n]⟩ = .ok (Text.Utf8.encode (scriptPayload text)) := by
  rw [run_writeScript htmp hD] at hr
  cases hw : h.tree.writeFile ⟨r, ps ++ [n ++ ".tmp"]⟩ (Text.Utf8.encode (scriptPayload text)) with
  | error e =>
    rw [hw] at hr
    cases hr
  | ok t₁ =>
    rw [hw] at hr
    dsimp only at hr
    obtain ⟨d, hslot, rfl, hp⟩ := writeFile_tmp_ok hn (tmp_ne_dots n) hw
    rw [rename_tmp hslot hp] at hr
    by_cases hnd : h.tree.find? (d ++ [n]) = some .dir
    · rw [if_pos hnd] at hr
      cases hr
    · rw [if_neg hnd] at hr
      cases hr
      obtain ⟨hread, hdirs⟩ := writeThrough_ok hslot hp hnd
      exact ⟨rfl, rfl, hdirs, hread⟩

include htmp hD in
/-- A script that could not be written is reported against itself and reads what it read
before; nothing but the tree changed, and every folder is kept. -/
theorem writeScript_error (hn : n ≠ "..") {e : Fault}
    (hr : run h (writeScript ⟨r, ps ++ [n]⟩ text) = (.error e, h')) :
    (∃ oe, e = .tool (.fileSystem (.cannotWrite ⟨r, ps ++ [n]⟩ oe))) ∧
      h' = { h with tree := h'.tree } ∧ DirsKept h.tree h'.tree ∧
      h'.tree.readFile ⟨r, ps ++ [n]⟩ = h.tree.readFile ⟨r, ps ++ [n]⟩ := by
  rw [run_writeScript htmp hD] at hr
  cases hw : h.tree.writeFile ⟨r, ps ++ [n ++ ".tmp"]⟩ (Text.Utf8.encode (scriptPayload text)) with
  | error oe =>
    rw [hw] at hr
    cases hr
    exact ⟨⟨oe, rfl⟩, rfl, DirsKept.refl _, rfl⟩
  | ok t₁ =>
    rw [hw] at hr
    dsimp only at hr
    obtain ⟨d, hslot, rfl, hp⟩ := writeFile_tmp_ok hn (tmp_ne_dots n) hw
    rw [rename_tmp hslot hp] at hr
    by_cases hnd : h.tree.find? (d ++ [n]) = some .dir
    · rw [if_pos hnd] at hr
      cases hr
      exact ⟨⟨_, rfl⟩, rfl, dirs_set_tmp hslot, readFile_set_tmp hslot hp⟩
    · rw [if_neg hnd] at hr
      cases hr

end Script

end SqlMigration.Layout
