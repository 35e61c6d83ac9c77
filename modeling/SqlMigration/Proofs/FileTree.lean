import SqlMigration.FileTree.Basic

/-!
# Writing a file in place

What the tool relies on when it writes a file through a temporary sibling: in a directory that
exists, a path that is no directory can be written, a written file can be renamed over a sibling
that is no directory, and neither step changes where any other path leads.

A path leads the same way in two trees as long as every directory the walk can pass through is
still a directory (`walk_of_dirs`); a walk only passes through directories all of whose
ancestors are directories (`DirChain`). Writing a file where no directory is (`find?_set_of_ne`)
and moving a file onto a place that is no directory (`find?_move_of_unrelated`) change no such
directory.
-/

namespace SqlMigration.FileTree

/-! ## Entries -/

theorem lookup_cons_of_ne {l : List (List String × Entry)} {k : List String}
    {x : List String × Entry} (h : x.1 ≠ k) : (x :: l).lookup k = l.lookup k := by
  obtain ⟨k', e⟩ := x
  have hb : (k == k') = false := by simpa using Ne.symm h
  simp only [List.lookup_cons, hb]

/-- A look-up sees through a filter that keeps the entries with the key. -/
theorem lookup_filter_of {l : List (List String × Entry)} {k : List String}
    {p : List String × Entry → Bool} (hp : ∀ x ∈ l, x.1 = k → p x = true) :
    (l.filter p).lookup k = l.lookup k := by
  induction l with
  | nil => rfl
  | cons x l ih =>
    have ih' := ih (fun y hy => hp y (List.mem_cons_of_mem _ hy))
    obtain ⟨k', e⟩ := x
    by_cases hx : k' = k
    · subst hx
      simp [hp _ List.mem_cons_self rfl]
    · by_cases hpx : p (k', e) = true
      · rw [List.filter_cons_of_pos hpx, lookup_cons_of_ne hx, lookup_cons_of_ne hx, ih']
      · rw [List.filter_cons_of_neg hpx, lookup_cons_of_ne hx, ih']

/-- A look-up sees through a change of the entry list that keeps the entries with the key and
gives no other entry that key. -/
theorem lookup_map_of {l : List (List String × Entry)} {k : List String}
    {f : List String × Entry → List String × Entry}
    (hkeep : ∀ x ∈ l, x.1 = k → f x = x) (hother : ∀ x ∈ l, x.1 ≠ k → (f x).1 ≠ k) :
    (l.map f).lookup k = l.lookup k := by
  induction l with
  | nil => rfl
  | cons x l ih =>
    have ih' := ih (fun y hy => hkeep y (List.mem_cons_of_mem _ hy))
      (fun y hy => hother y (List.mem_cons_of_mem _ hy))
    by_cases hx : x.1 = k
    · rw [List.map_cons, hkeep x List.mem_cons_self hx]
      obtain ⟨k', e⟩ := x
      simp only at hx
      subst hx
      simp
    · have hfx := hother x List.mem_cons_self hx
      rw [List.map_cons, lookup_cons_of_ne hfx, lookup_cons_of_ne hx, ih']

theorem find?_set_self {t : FileTree} {loc : List String} (h : loc ≠ []) (e : Entry) :
    (t.set loc e).find? loc = some e := by
  simp [find?, set, h]

theorem find?_set_of_ne {t : FileTree} {loc k : List String} (h : k ≠ loc) (e : Entry) :
    (t.set loc e).find? k = t.find? k := by
  unfold find? set
  split
  · rfl
  · rw [lookup_cons_of_ne (Ne.symm h), lookup_filter_of]
    intro x _ hx
    simp [hx, h]

/-- Moving entries from `src` to `dst` leaves alone every place under neither. -/
theorem find?_move_of_unrelated {t : FileTree} {src dst k : List String}
    (hs : ¬ src <+: k) (hd : ¬ dst <+: k) :
    (t.move src dst).find? k = t.find? k := by
  unfold find? move
  split
  · rfl
  · rw [lookup_map_of, lookup_filter_of]
    · rintro ⟨k', e⟩ _ rfl
      simpa [List.isPrefixOf_iff_prefix] using hd
    · rintro ⟨k', e⟩ _ rfl
      simp [List.isPrefixOf_iff_prefix, hs]
    · rintro ⟨k', e⟩ _ hk
      simp only at hk ⊢
      split
      · intro h
        exact hd (h ▸ List.prefix_append _ _)
      · exact hk

/-- Moving entries from `src` to `dst` gives `dst` what `src` held, as long as `dst` is no
ancestor of `src`. -/
theorem find?_move_dst {t : FileTree} {src dst : List String} (hs : src ≠ []) (hd : dst ≠ [])
    (hds : ¬ dst <+: src) : (t.move src dst).find? dst = t.find? src := by
  -- the move's renaming, with the prefix test in its propositional form
  suffices ∀ (f : List String × Entry → List String × Entry) (l : List (List String × Entry)),
      (∀ x, f x = if src <+: x.1 then (dst ++ x.1.drop src.length, x.2) else x) →
      (∀ x ∈ l, ¬ dst <+: x.1) → (l.map f).lookup dst = l.lookup src by
    unfold find? move
    simp only [List.isEmpty_iff, hd, hs, ↓reduceIte]
    rw [this _ _ (by rintro ⟨k, e⟩; simp [List.isPrefixOf_iff_prefix]) (by simp [List.isPrefixOf_iff_prefix]),
      lookup_filter_of]
    rintro ⟨k, e⟩ _ rfl
    simpa [List.isPrefixOf_iff_prefix] using hds
  intro f l hf hl
  induction l with
  | nil => rfl
  | cons x l ih =>
    have ih' := ih (fun y hy => hl y (List.mem_cons_of_mem _ hy))
    obtain ⟨k, e⟩ := x
    have hk : ¬ dst <+: k := hl _ List.mem_cons_self
    rw [List.map_cons, hf]
    by_cases hsk : src <+: k
    · rw [if_pos hsk]
      by_cases hks : k = src
      · subst hks
        simp
      · -- an entry strictly below `src` lands strictly below `dst`
        have hlen : src.length < k.length := by
          obtain ⟨r, rfl⟩ := hsk
          cases r with
          | nil => simp at hks
          | cons _ _ => simp
        have hne : dst ++ k.drop src.length ≠ dst := by
          intro h
          have := congrArg List.length h
          simp only [List.length_append, List.length_drop] at this
          omega
        rw [lookup_cons_of_ne hne, lookup_cons_of_ne hks, ih']
    · have hks : k ≠ src := by
        rintro rfl
        exact hsk (List.prefix_refl _)
      have hkd : k ≠ dst := by
        rintro rfl
        exact hk (List.prefix_refl _)
      rw [if_neg hsk, lookup_cons_of_ne hkd, lookup_cons_of_ne hks, ih']

/-- After moving, nothing is left at `src`, as long as `dst` is no ancestor of `src`. -/
theorem find?_move_src {t : FileTree} {src dst : List String} (hs : src ≠ [])
    (hds : ¬ dst <+: src) : (t.move src dst).find? src = none := by
  unfold find? move
  simp only [List.isEmpty_iff, hs, ↓reduceIte, List.lookup_eq_none_iff, List.mem_map,
    List.mem_filter]
  rintro _ ⟨⟨k, e⟩, ⟨_, _⟩, rfl⟩
  simp only [List.isPrefixOf_iff_prefix]
  split
  · next hsk =>
    simp only [bne_iff_ne, ne_eq]
    intro h
    exact hds (h ▸ List.prefix_append _ _)
  · next hsk =>
    simp only [bne_iff_ne, ne_eq]
    rintro rfl
    exact hsk (List.prefix_refl _)

/-! ## Where paths lead -/

/-- Every ancestor of a place, and the place itself, is a directory of the tree: the places a
walk can stand in. -/
def DirChain (t : FileTree) (k : List String) : Prop :=
  ∀ j, 0 < j → j ≤ k.length → t.find? (k.take j) = some .dir

theorem DirChain.nil (t : FileTree) : DirChain t [] := by
  intro j h1 h2
  simp at h2
  omega

theorem DirChain.dropLast {t : FileTree} {k : List String} (h : DirChain t k) :
    DirChain t k.dropLast := by
  intro j h1 h2
  simp only [List.length_dropLast] at h2
  rw [List.dropLast_eq_take, List.take_take, Nat.min_eq_left (by omega)]
  exact h j h1 (by omega)

theorem DirChain.snoc {t : FileTree} {k : List String} {n : String} (h : DirChain t k)
    (hn : t.find? (k ++ [n]) = some .dir) : DirChain t (k ++ [n]) := by
  intro j h1 h2
  simp only [List.length_append, List.length_singleton] at h2
  by_cases hj : j ≤ k.length
  · rw [List.take_append_of_le_length hj]
    exact h j h1 hj
  · rw [List.take_of_length_le (by simp; omega)]
    exact hn

/-- Every place a chain passes through is a directory. -/
theorem DirChain.find?_of_isPrefix {t : FileTree} {a k : List String} (hk : DirChain t k)
    (ha : a ≠ []) (hak : a <+: k) : t.find? a = some .dir := by
  obtain ⟨r, rfl⟩ := hak
  have := hk a.length (List.length_pos_iff.2 ha) (by simp)
  simpa using this

/-- The start of a chain is a chain. -/
theorem DirChain.take {t : FileTree} {k : List String} (h : DirChain t k) (j : Nat) :
    DirChain t (k.take j) := by
  intro i h1 h2
  simp only [List.length_take] at h2
  rw [List.take_take]
  exact h (min i j) (by omega) (by omega)

/-- A chain stays one in a tree that keeps the directories of every chain. -/
theorem DirChain.of_dirs {t t' : FileTree} (hdirs : ∀ k, DirChain t k → t'.find? k = some .dir)
    {k : List String} (h : DirChain t k) : DirChain t' k :=
  fun j _ _ => hdirs _ (h.take j)

/-- The directory at the end of a chain is a directory. -/
theorem DirChain.find? {t : FileTree} {k : List String} (h : DirChain t k) :
    t.find? k = some .dir := by
  cases k with
  | nil => rfl
  | cons n k => simpa using h (k.length + 1) (by omega) (by simp)

/-- A walk leads the same way in a tree that keeps the directories a walk can stand in. -/
theorem walk_of_dirs {t t' : FileTree} (hdirs : ∀ k, DirChain t k → t'.find? k = some .dir) :
    ∀ (ps dir : List String) (pl : Place), DirChain t dir → t.walk dir ps = .ok pl →
      t'.walk dir ps = .ok pl := by
  intro ps
  induction ps with
  | nil => intro dir pl _ h; simpa [walk] using h
  | cons n rest ih =>
    intro dir pl hdir h
    cases rest with
    | nil => simpa [walk] using h
    | cons m rest =>
      simp only [walk] at h ⊢
      by_cases hn : n = ".."
      · simp only [hn, ↓reduceIte] at h ⊢
        by_cases he : dir.isEmpty
        · simpa [he] using h
        · simp only [he, Bool.false_eq_true, ↓reduceIte] at h ⊢
          exact ih _ _ hdir.dropLast h
      · simp only [hn, ↓reduceIte] at h ⊢
        split at h
        · cases h
        · rename_i hlen
          simp only [hlen, ↓reduceIte]
          split at h
          · cases h
          · cases h
          · rename_i hd
            have hchain := hdir.snoc hd
            rw [hdirs _ hchain]
            exact ih _ _ hchain h

/-- A walk only stands in directories whose ancestors are directories. -/
theorem walk_child_chain {t : FileTree} :
    ∀ (ps dir dir' : List String) (n : String), DirChain t dir →
      t.walk dir ps = .ok (.child dir' n) → DirChain t dir' := by
  intro ps
  induction ps with
  | nil => intro dir dir' n _ h; simp [walk] at h
  | cons m rest ih =>
    intro dir dir' n hdir h
    cases rest with
    | nil =>
      simp only [walk] at h
      split at h
      · split at h <;> cases h
      · cases h
        exact hdir
    | cons m' rest =>
      simp only [walk] at h
      split at h
      · split at h
        · cases h
        · exact ih _ _ _ hdir.dropLast h
      · split at h
        · cases h
        · split at h
          · cases h
          · cases h
          · rename_i hd
            exact ih _ _ _ (hdir.snoc hd) h

theorem resolve_of_dirs {t t' : FileTree} (hdirs : ∀ k, DirChain t k → t'.find? k = some .dir)
    {p : Path} {pl : Place} (h : t.resolve p = .ok pl) : t'.resolve p = .ok pl := by
  unfold resolve at h ⊢
  split at h
  · cases h
  · rename_i h1
    simp only [h1, ↓reduceIte]
    split at h
    · rename_i h2
      simpa [h2] using h
    · rename_i h2
      simp only [h2, ↓reduceIte]
      exact walk_of_dirs hdirs _ _ _ (DirChain.nil t) h

/-- Writing a file where no directory is keeps every directory. -/
theorem dirs_set_file {t : FileTree} {loc : List String} (hloc : t.find? loc ≠ some .dir)
    (bs : List UInt8) : ∀ k, DirChain t k → (t.set loc (.file bs)).find? k = some .dir := by
  intro k hk
  by_cases hkl : k = loc
  · subst hkl
    exact absurd hk.find? hloc
  · rw [find?_set_of_ne hkl]
    exact hk.find?

/-- Moving a file onto a place that is no directory keeps every directory a walk can stand in. -/
theorem dirs_move_file {t : FileTree} {src dst : List String} (hs : src ≠ []) (hd : dst ≠ [])
    (hsrc : t.find? src ≠ some .dir) (hdst : t.find? dst ≠ some .dir) :
    ∀ k, DirChain t k → (t.move src dst).find? k = some .dir := by
  -- a place under `src` or `dst` would make that place a directory of the chain
  intro k hk
  rw [find?_move_of_unrelated (fun h => hsrc (hk.find?_of_isPrefix hs h))
    (fun h => hdst (hk.find?_of_isPrefix hd h))]
  exact hk.find?

/-- Erasing a place leaves alone every place not under it. -/
theorem find?_erase_of_not_under {t : FileTree} {l k : List String} (h : ¬ l <+: k) :
    (t.erase l).find? k = t.find? k := by
  unfold find? erase
  split
  · rfl
  · rw [lookup_filter_of]
    rintro ⟨k', e⟩ _ rfl
    simpa [List.isPrefixOf_iff_prefix] using h

theorem find?_erase_self {t : FileTree} {l : List String} (hl : l ≠ []) :
    (t.erase l).find? l = none := by
  unfold find? erase
  simp only [List.isEmpty_iff, hl, ↓reduceIte]
  -- every entry kept lies outside `l`, so none has the key `l`
  generalize t.entries = es
  induction es with
  | nil => rfl
  | cons x es ih =>
    obtain ⟨k, e⟩ := x
    by_cases hk : l.isPrefixOf k = true
    · rw [List.filter_cons_of_neg (by simp [hk])]
      exact ih
    · have hne : k ≠ l := by
        rintro rfl
        exact hk (List.isPrefixOf_iff_prefix.2 (List.prefix_refl _))
      rw [List.filter_cons_of_pos (by simpa using hk), lookup_cons_of_ne hne]
      exact ih

/-- Erasing what is no directory keeps every directory a walk can stand in. -/
theorem dirs_erase {t : FileTree} {l : List String} (hl : t.find? l ≠ some .dir) :
    ∀ k, DirChain t k → (t.erase l).find? k = some .dir := by
  -- the root is a directory, so `l` is not the root
  have hne : l ≠ [] := by
    rintro rfl
    exact hl rfl
  intro k hk
  rw [find?_erase_of_not_under (fun h => hl (hk.find?_of_isPrefix hne h))]
  exact hk.find?

/-! ## Places for regular files -/

/-- A path that leads to the entry `name` of the directory `dir`, with a name short enough to
create, where no directory is. -/
structure FileSlot (t : FileTree) (p : Path) (dir : List String) (name : String) : Prop where
  resolves : t.resolve p = .ok (.child dir name)
  short : name.utf8ByteSize ≤ nameMax
  notDir : t.find? (dir ++ [name]) ≠ some .dir

theorem resolve_child_chain {t : FileTree} {p : Path} {dir : List String} {name : String}
    (h : t.resolve p = .ok (.child dir name)) : DirChain t dir := by
  unfold resolve at h
  split at h
  · cases h
  · split at h
    · cases h
    · exact walk_child_chain _ _ _ _ (DirChain.nil t) h

theorem stat_child {t : FileTree} {p : Path} {dir : List String} {name : String} {e : Entry}
    (h : t.resolve p = .ok (.child dir name)) (hshort : name.utf8ByteSize ≤ nameMax)
    (he : t.find? (dir ++ [name]) = some e) : t.stat p = .ok e := by
  simp [stat, h, Place.tooLong, Place.loc, Nat.not_lt.2 hshort, he]

theorem stat_child_none {t : FileTree} {p : Path} {dir : List String} {name : String}
    (h : t.resolve p = .ok (.child dir name)) (hshort : name.utf8ByteSize ≤ nameMax)
    (hn : t.find? (dir ++ [name]) = none) : t.stat p = .error ⟨.noEntry, p.render, none⟩ := by
  simp [stat, h, Place.tooLong, Place.loc, Nat.not_lt.2 hshort, hn]

theorem readFile_child {t : FileTree} {p : Path} {dir : List String} {name : String}
    {bs : List UInt8} (h : t.resolve p = .ok (.child dir name))
    (hshort : name.utf8ByteSize ≤ nameMax) (hf : t.find? (dir ++ [name]) = some (.file bs)) :
    t.readFile p = .ok bs := by
  simp [readFile, stat_child h hshort hf]

theorem exists?_child_none {t : FileTree} {p : Path} {dir : List String} {name : String}
    (h : t.resolve p = .ok (.child dir name)) (hshort : name.utf8ByteSize ≤ nameMax)
    (hn : t.find? (dir ++ [name]) = none) : t.exists? p = .ok false := by
  simp [exists?, stat_child_none h hshort hn, Errno.meansAbsent]

namespace FileSlot

variable {t : FileTree} {p : Path} {dir : List String} {name : String}

theorem chain (h : t.FileSlot p dir name) : DirChain t dir := resolve_child_chain h.resolves

theorem writeFile (h : t.FileSlot p dir name) (bs : List UInt8) :
    t.writeFile p bs = .ok (t.set (dir ++ [name]) (.file bs)) := by
  have hdir := h.chain.find?
  simp only [FileTree.writeFile, h.resolves, hdir, Nat.not_lt.2 h.short, ↓reduceIte]
  cases hf : t.find? (dir ++ [name]) with
  | none => rfl
  | some e =>
    cases e with
    | file b => rfl
    | dir => exact absurd hf h.notDir

/-- A place for a file stays one in a tree that keeps the directories and puts no directory
there. -/
theorem of_dirs {t' : FileTree} (h : t.FileSlot p dir name)
    (hdirs : ∀ k, DirChain t k → t'.find? k = some .dir)
    (hnd : t'.find? (dir ++ [name]) ≠ some .dir) : t'.FileSlot p dir name :=
  ⟨resolve_of_dirs hdirs h.resolves, h.short, hnd⟩

/-- A file renamed over a sibling that is no directory: its entries move to the sibling. -/
theorem rename {dst : Path} {sib : String} {bs : List UInt8} (h : t.FileSlot p dir name)
    (hd : t.FileSlot dst dir sib) (hne : name ≠ sib)
    (hf : t.find? (dir ++ [name]) = some (.file bs)) :
    t.rename p dst = .ok (t.move (dir ++ [name]) (dir ++ [sib])) := by
  -- neither sibling is an ancestor of their common directory
  have hnp : ∀ n : String, (dir ++ [n]).isPrefixOf dir = false := by
    intro n
    rw [Bool.eq_false_iff]
    intro hp
    have := (List.isPrefixOf_iff_prefix.1 hp).length_le
    simp only [List.length_append, List.length_singleton] at this
    omega
  have hsd : (dir ++ [name] = dir ++ [sib]) = False := by simp [hne]
  simp only [FileTree.rename, h.resolves, hd.resolves, hf, hnp, hsd, Bool.false_eq_true,
    ↓reduceIte]
  rw [if_neg (by have := h.short; omega), if_neg (by have := hd.short; omega)]
  split
  · rename_i hdir
    exact absurd hdir hd.notDir
  · nomatch ‹Entry.file bs = Entry.dir›
  · nomatch ‹Entry.file bs = Entry.dir›
  · rfl

/-- A place for a file stays one after a file is written where no directory was. -/
theorem set_file (h : t.FileSlot p dir name) {loc : List String}
    (hloc : t.find? loc ≠ some .dir) (bs : List UInt8) :
    (t.set loc (.file bs)).FileSlot p dir name := by
  refine h.of_dirs (dirs_set_file hloc bs) ?_
  by_cases hl : dir ++ [name] = loc
  · subst hl
    rw [find?_set_self (by simp)]
    simp
  · rw [find?_set_of_ne hl]
    exact h.notDir

/-- Removing the file at a place erases its entry. -/
theorem unlink {bs : List UInt8} (h : t.FileSlot p dir name)
    (hf : t.find? (dir ++ [name]) = some (.file bs)) :
    t.unlink p = .ok (t.erase (dir ++ [name])) := by
  simp only [FileTree.unlink, stat_child h.resolves h.short hf, h.resolves, Place.loc]

section Sibling

variable {q : Path} {sib : String} {bs : List UInt8} (h : t.FileSlot p dir name)
  (hd : t.FileSlot q dir sib) (hne : name ≠ sib) (hf : t.find? (dir ++ [name]) = some (.file bs))

theorem not_prefix_sibling {a b : String} (hab : a ≠ b) : ¬ (dir ++ [a]) <+: (dir ++ [b]) := by
  intro hp
  have := hp.eq_of_length (by simp)
  simp only [List.append_cancel_left_eq, List.cons.injEq, and_true] at this
  exact hab this

include hd hf in
theorem dirs_move_sibling : ∀ k, DirChain t k →
    (t.move (dir ++ [name]) (dir ++ [sib])).find? k = some .dir :=
  dirs_move_file (by simp) (by simp) (by simp [hf]) hd.notDir

omit h in
include hd hne hf in
/-- After a file is renamed over its sibling, the sibling's path reads the file's bytes. -/
theorem readFile_move_sibling :
    (t.move (dir ++ [name]) (dir ++ [sib])).readFile q = .ok bs := by
  refine readFile_child (resolve_of_dirs (dirs_move_sibling hd hf) hd.resolves) hd.short ?_
  rw [find?_move_dst (by simp) (by simp) (not_prefix_sibling (Ne.symm hne)), hf]

include h hd hne hf in
/-- After a file is renamed over its sibling, nothing is left at the file's path. -/
theorem exists?_move_sibling :
    (t.move (dir ++ [name]) (dir ++ [sib])).exists? p = .ok false :=
  exists?_child_none (resolve_of_dirs (dirs_move_sibling hd hf) h.resolves) h.short
    (find?_move_src (by simp) (not_prefix_sibling (Ne.symm hne)))

omit hd hf in
include h in
/-- Removing a sibling that is no directory leaves the file where it was. -/
theorem readFile_erase_sibling (hs : t.find? (dir ++ [sib]) ≠ some .dir) (hsn : sib ≠ name)
    (hf : t.find? (dir ++ [name]) = some (.file bs)) :
    (t.erase (dir ++ [sib])).readFile p = .ok bs := by
  refine readFile_child (resolve_of_dirs (dirs_erase hs) h.resolves) h.short ?_
  rw [find?_erase_of_not_under (not_prefix_sibling hsn), hf]

end Sibling

end FileSlot

end SqlMigration.FileTree
