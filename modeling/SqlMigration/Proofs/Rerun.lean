import Mathlib.Data.List.Induction
import SqlMigration.Proofs.PhaseTwo

/-!
# Running phase two again

Phase two writes each of its scripts through a temporary sibling, and what it writes depends
only on the catalog it reads. A second run over the tree the first one left, against a database
with the same contents, therefore changes nothing that a path can show: every path leads to the
same entry, or fails with the same error, as after the first run (`exportConstraints_rerun`).

Trees are compared where a walk can look (`Agree`): every entry whose parent is a directory a
walk can stand in is the same in both trees; entries below a file are out of every path's reach.
A file written through its sibling changes the tree at two places only, in a way fixed by
whether those places are directories (`find?_throughAt`). A write done again changes nothing
(`WrittenAt.agree`), and a write of a file with another name keeps it so
(`WrittenAt.throughAt_of_apart`). A run of phase two is a list of such writes that the database
alone determines (`scriptWrites`), and a list of writes of distinct files done twice agrees with
the list done once (`writeAll_twice`).
-/

namespace SqlMigration.FileTree

/-! ## Trees that agree where a walk can look -/

/-- Two trees agree where a walk can look: every entry whose parent is a directory a walk can
stand in is the same in both. -/
def Agree (t t' : FileTree) : Prop := ∀ k, DirChain t k.dropLast → t'.find? k = t.find? k

/-- A chain of the second tree is one of the first when each directory of the second tree whose
parent is a chain of the first was a directory there. -/
theorem DirChain.of_dirs_back {t t' : FileTree}
    (hback : ∀ k, DirChain t k.dropLast → t'.find? k = some .dir → t.find? k = some .dir)
    {k : List String} (h : DirChain t' k) : DirChain t k := by
  induction k using List.reverseRecOn with
  | nil => exact DirChain.nil t
  | append_singleton k a ih =>
    have hk : DirChain t k := ih (by simpa using h.dropLast)
    exact hk.snoc (hback _ (by simpa using hk) h.find?)

/-- A place strictly below another sits below it in the parent of the lower place. -/
theorem prefix_dropLast_of_ne {a k : List String} (h : a <+: k) (hne : a ≠ k) :
    a <+: k.dropLast := by
  obtain ⟨r, rfl⟩ := h
  have hr : r ≠ [] := by
    rintro rfl
    exact hne (List.append_nil a).symm
  rw [List.dropLast_append_of_ne_nil hr]
  exact List.prefix_append _ _

namespace Agree

variable {t t' t'' : FileTree}

theorem refl (t : FileTree) : Agree t t := fun _ _ => rfl

theorem dirsKept (h : Agree t t') : DirsKept t t' := fun k hk => by
  rw [h k hk.dropLast]
  exact hk.find?

theorem chain (h : Agree t t') {k : List String} (hk : DirChain t k) : DirChain t' k :=
  hk.of_dirs h.dirsKept

theorem chain_back (h : Agree t t') {k : List String} (hk : DirChain t' k) : DirChain t k :=
  DirChain.of_dirs_back (fun k hk hd => by rwa [← h k hk]) hk

theorem symm (h : Agree t t') : Agree t' t := fun k hk => (h k (h.chain_back hk)).symm

theorem trans (h : Agree t t') (h' : Agree t' t'') : Agree t t'' :=
  fun k hk => (h' k (h.chain hk)).trans (h k hk)

/-- A walk from a directory of a chain goes, and fails, the same way in a tree that agrees. -/
theorem walk (h : Agree t t') :
    ∀ (ps dir : List String), DirChain t dir → t'.walk dir ps = t.walk dir ps := by
  intro ps
  induction ps with
  | nil => intro dir _; rfl
  | cons n rest ih =>
    intro dir hdir
    cases rest with
    | nil => rfl
    | cons m rest =>
      simp only [FileTree.walk]
      by_cases hn : n = ".."
      · by_cases he : dir.isEmpty
        · simp [hn, he]
        · simp only [hn, he, Bool.false_eq_true, ↓reduceIte]
          exact ih _ hdir.dropLast
      · simp only [hn, ↓reduceIte]
        by_cases hlen : n.utf8ByteSize > nameMax
        · simp only [hlen, ↓reduceIte]
        · simp only [hlen, ↓reduceIte]
          -- the component names an entry of a directory of the chain
          rw [h (dir ++ [n]) (by simpa using hdir)]
          cases hf : t.find? (dir ++ [n]) with
          | none => rfl
          | some e =>
            cases e with
            | file bs => rfl
            | dir => exact ih _ (hdir.snoc hf)

theorem resolve (h : Agree t t') (p : Path) : t'.resolve p = t.resolve p := by
  unfold FileTree.resolve
  split
  · rfl
  · split
    · rfl
    · exact h.walk _ _ (DirChain.nil t)

/-- Every path shows the same entry, or fails the same way, in trees that agree. -/
theorem stat (h : Agree t t') (p : Path) : t'.stat p = t.stat p := by
  have hloc : ∀ pl, t.resolve p = .ok pl → pl.loc.bind t'.find? = pl.loc.bind t.find? := by
    intro pl hpl
    have hchain := resolve_chain hpl
    cases pl with
    | child d n =>
      have hd : DirChain t d := hchain
      simpa [Place.loc] using h (d ++ [n]) (by simpa using hd)
    | here d =>
      have hd : DirChain t d := hchain
      simpa [Place.loc] using h d hd.dropLast
    | above | outside => rfl
  unfold FileTree.stat
  rw [h.resolve p]
  cases hp : t.resolve p with
  | error e => rfl
  | ok pl => simp only [hloc pl hp]

end Agree

/-! ## A file written through its temporary sibling, place by place -/

/-- A file written at `d ++ [n]` through its temporary sibling `d ++ [n ++ ".tmp"]`: nothing
changes when the sibling's place is a directory; the sibling is written and stays when the
file's place is a directory; otherwise the sibling is written and moved over the file. -/
def throughAt (t : FileTree) (d : List String) (n : String) (bs : List UInt8) : FileTree :=
  if t.find? (d ++ [n ++ ".tmp"]) = some .dir then t
  else if t.find? (d ++ [n]) = some .dir then t.set (d ++ [n ++ ".tmp"]) (.file bs)
  else (t.set (d ++ [n ++ ".tmp"]) (.file bs)).move (d ++ [n ++ ".tmp"]) (d ++ [n])

section ThroughAt

variable {t t' : FileTree} {d : List String} {n : String} {bs : List UInt8}

/-- What a place shows after the write, for a place whose parent a walk can stand in: the file's
place and the sibling's take what the write leaves there, and every other place keeps its entry. -/
theorem find?_throughAt {k : List String} (hk : DirChain t k.dropLast) :
    (throughAt t d n bs).find? k =
      if t.find? (d ++ [n ++ ".tmp"]) = some .dir then t.find? k
      else if k = d ++ [n] then
        (if t.find? (d ++ [n]) = some .dir then some .dir else some (.file bs))
      else if k = d ++ [n ++ ".tmp"] then
        (if t.find? (d ++ [n]) = some .dir then some (.file bs) else none)
      else t.find? k := by
  have hft := tmp_loc_ne d n
  have hnp : ¬ (d ++ [n]) <+: (d ++ [n ++ ".tmp"]) := FileSlot.not_prefix_sibling (tmp_ne n).symm
  -- a place above `k` that is no directory can only be `k` itself
  have hbelow : ∀ a, t.find? a ≠ some .dir → a <+: k → a = k := by
    intro a ha hak
    by_contra hak'
    have ha0 : a ≠ [] := by
      rintro rfl
      exact ha rfl
    exact ha (hk.find?_of_isPrefix ha0 (prefix_dropLast_of_ne hak hak'))
  by_cases htmp : t.find? (d ++ [n ++ ".tmp"]) = some .dir
  · simp [throughAt, htmp]
  by_cases hfile : t.find? (d ++ [n]) = some .dir
  · -- the sibling is written and stays
    simp only [throughAt, htmp, hfile, ↓reduceIte]
    by_cases hkt : k = d ++ [n ++ ".tmp"]
    · subst hkt
      rw [find?_set_self (by simp)]
      simp [Ne.symm hft]
    · rw [find?_set_of_ne hkt]
      by_cases hkf : k = d ++ [n]
      · subst hkf
        simp [hfile]
      · simp [hkf, hkt]
  · -- the sibling is written and moved over the file
    simp only [throughAt, htmp, hfile, ↓reduceIte]
    by_cases hkf : k = d ++ [n]
    · subst hkf
      rw [find?_move_dst (by simp) (by simp) hnp, find?_set_self (by simp)]
      simp
    by_cases hkt : k = d ++ [n ++ ".tmp"]
    · subst hkt
      rw [find?_move_src (by simp) hnp]
      simp [Ne.symm hft]
    · rw [find?_move_of_unrelated (fun h => hkt (hbelow _ htmp h).symm)
        (fun h => hkf (hbelow _ hfile h).symm), find?_set_of_ne hkt]
      simp [hkf, hkt]

/-- Every other place a walk can look at keeps its entry. -/
theorem find?_throughAt_of_ne {k : List String} (hk : DirChain t k.dropLast)
    (hkf : k ≠ d ++ [n]) (hkt : k ≠ d ++ [n ++ ".tmp"]) :
    (throughAt t d n bs).find? k = t.find? k := by
  rw [find?_throughAt hk]
  simp [hkf, hkt]

/-- The write makes no directory: a directory after it, where a walk can look, was one before. -/
theorem find?_throughAt_dir {k : List String} (hk : DirChain t k.dropLast)
    (h : (throughAt t d n bs).find? k = some .dir) : t.find? k = some .dir := by
  rw [find?_throughAt hk] at h
  split_ifs at h <;> simp_all

theorem throughAt_dirsKept : DirsKept t (throughAt t d n bs) := by
  intro k hk
  have hkd := hk.find?
  rw [find?_throughAt hk.dropLast]
  split_ifs <;> simp_all

theorem throughAt_dirsKept_back : DirsKept (throughAt t d n bs) t :=
  fun _ hk => (DirChain.of_dirs_back (fun _ hk' h => find?_throughAt_dir hk' h) hk).find?

/-- Writes of the same file on trees that agree give trees that agree. -/
theorem Agree.throughAt (h : Agree t t') (hd : DirChain t d) :
    Agree (throughAt t d n bs) (throughAt t' d n bs) := by
  intro k hk
  have hk₁ : DirChain t k.dropLast := hk.of_dirs throughAt_dirsKept_back
  rw [find?_throughAt hk₁, find?_throughAt (h.chain hk₁), h k hk₁,
    h (d ++ [n]) (by simpa using hd), h (d ++ [n ++ ".tmp"]) (by simpa using hd)]

/-! ## A write done again -/

/-- The file and its sibling are as a write through the sibling leaves them: the sibling's place
is a directory, so the write is refused; or the sibling is written beside a directory in the
file's place; or the file is written and the sibling gone. -/
def WrittenAt (t : FileTree) (d : List String) (n : String) (bs : List UInt8) : Prop :=
  t.find? (d ++ [n ++ ".tmp"]) = some .dir ∨
    (t.find? (d ++ [n]) = some .dir ∧ t.find? (d ++ [n ++ ".tmp"]) = some (.file bs)) ∨
    (t.find? (d ++ [n]) = some (.file bs) ∧ t.find? (d ++ [n ++ ".tmp"]) = none)

/-- A write leaves its file and its sibling written. -/
theorem writtenAt_throughAt (hd : DirChain t d) : WrittenAt (throughAt t d n bs) d n bs := by
  have hft : d ++ [n ++ ".tmp"] ≠ d ++ [n] := by simp
  unfold WrittenAt
  rw [find?_throughAt (by simpa using hd), find?_throughAt (by simpa using hd)]
  by_cases htmp : t.find? (d ++ [n ++ ".tmp"]) = some .dir
  · exact .inl (by simp [htmp])
  · by_cases hfile : t.find? (d ++ [n]) = some .dir
    · exact .inr (.inl (by simp [htmp, hfile, hft]))
    · exact .inr (.inr (by simp [htmp, hfile, hft]))

/-- Writing a file that is written changes nothing a walk can look at. -/
theorem WrittenAt.agree (hw : WrittenAt t d n bs) : Agree (throughAt t d n bs) t := by
  intro k hk
  rw [find?_throughAt (hk.of_dirs throughAt_dirsKept_back)]
  rcases hw with htmp | ⟨hfile, htmp⟩ | ⟨hfile, htmp⟩
  · simp [htmp]
  all_goals
    by_cases hkf : k = d ++ [n]
    · simp [hkf, htmp, hfile]
    · by_cases hkt : k = d ++ [n ++ ".tmp"]
      · simp [hkt, htmp, hfile]
      · simp [hkf, hkt, htmp]

/-- A written file stays written in a tree that agrees. -/
theorem WrittenAt.of_agree (hw : WrittenAt t d n bs) (h : Agree t t') (hd : DirChain t d) :
    WrittenAt t' d n bs := by
  unfold WrittenAt
  rwa [h (d ++ [n]) (by simpa using hd), h (d ++ [n ++ ".tmp"]) (by simpa using hd)]

/-- Writing a file with another name, in any folder, keeps a written file written, as long as
neither name is the other's sibling. -/
theorem WrittenAt.throughAt_of_apart {d' : List String} {n' : String} {bs' : List UInt8}
    (hw : WrittenAt t d n bs) (hd : DirChain t d) (h₁ : n ≠ n') (h₂ : n ≠ n' ++ ".tmp")
    (h₃ : n ++ ".tmp" ≠ n') : WrittenAt (throughAt t d' n' bs') d n bs := by
  have hne : ∀ {a b : String} {e e' : List String}, a ≠ b → e ++ [a] ≠ e' ++ [b] := by
    intro a b e e' hab heq
    exact hab (by simpa using congrArg List.getLast? heq)
  unfold WrittenAt
  rw [find?_throughAt_of_ne (by simpa using hd) (hne h₁) (hne h₂),
    find?_throughAt_of_ne (by simpa using hd) (hne h₃) (hne (by simpa using h₁))]
  exact hw

end ThroughAt

/-! ## Writes through a temporary sibling -/

/-- A file to write through its temporary sibling: its folder, its name and its bytes. -/
structure SiblingWrite where
  dir : Path
  name : String
  bytes : List UInt8

namespace SiblingWrite

/-- The file's path. -/
def path (w : SiblingWrite) : Path := ⟨w.dir.root, w.dir.parts ++ [w.name]⟩

/-- The temporary sibling's path: the file's name with `.tmp` added. -/
def tmp (w : SiblingWrite) : Path := ⟨w.dir.root, w.dir.parts ++ [w.name ++ ".tmp"]⟩

/-- The tree the write leaves: the sibling written, then renamed over the file, either call
possibly refused. -/
def apply (w : SiblingWrite) (t : FileTree) : FileTree :=
  match t.writeFile w.tmp w.bytes with
  | .error _ => t
  | .ok t₁ =>
    match t₁.rename w.tmp w.path with
    | .error _ => t₁
    | .ok t₂ => t₂

/-- Two writes whose places cannot meet: neither name is the other, nor the other's sibling. -/
def Apart (w w' : SiblingWrite) : Prop :=
  w.name ≠ w'.name ∧ w.name ≠ w'.name ++ ".tmp" ∧ w.name ++ ".tmp" ≠ w'.name

variable {w w' : SiblingWrite} {t t' : FileTree}

/-- Whether the sibling can be written at all depends only on the directories: either the
sibling is the entry `w.name ++ ".tmp"` of a directory `d`, in every tree with the same
directories, and the write is `throughAt` there; or the write changes nothing, in every such
tree. -/
theorem apply_cases (hn : w.name ≠ "..") (t : FileTree) :
    (∃ d, DirChain t d ∧ ∀ t', DirsKept t t' → DirsKept t' t →
      w.apply t' = throughAt t' d w.name w.bytes) ∨
    (∀ t', DirsKept t t' → DirsKept t' t → w.apply t' = t') := by
  obtain ⟨⟨r, ps⟩, n, bs⟩ := w
  simp only [apply, tmp, path] at hn ⊢
  by_cases hfit : ∃ d, t.resolve ⟨r, ps ++ [n ++ ".tmp"]⟩ = .ok (.child d (n ++ ".tmp")) ∧
      (n ++ ".tmp").utf8ByteSize ≤ nameMax
  · obtain ⟨d, hres, hshort⟩ := hfit
    refine .inl ⟨d, resolve_child_chain hres, fun t' h₁ _ => ?_⟩
    have hres' := resolve_of_dirs h₁ hres
    unfold throughAt
    by_cases htmp : t'.find? (d ++ [n ++ ".tmp"]) = some .dir
    · -- the sibling's place is a directory: the write is refused
      have hw : ∃ e, t'.writeFile ⟨r, ps ++ [n ++ ".tmp"]⟩ bs = .error e := by
        simp only [FileTree.writeFile, hres', (resolve_child_chain hres').find?, htmp]
        split <;> exact ⟨_, rfl⟩
      obtain ⟨e, hw⟩ := hw
      rw [hw, if_pos htmp]
    · have hslot : t'.FileSlot ⟨r, ps ++ [n ++ ".tmp"]⟩ d (n ++ ".tmp") := ⟨hres', hshort, htmp⟩
      have hw := hslot.writeFile bs
      obtain ⟨d', hslot', -, hp⟩ := writeFile_tmp_ok hn (tmp_ne_dots _) hw
      obtain ⟨rfl, -⟩ := Place.child.inj (Except.ok.inj (hslot'.resolves.symm.trans hres'))
      rw [hw, if_neg htmp]
      dsimp only
      rw [rename_tmp hslot hp]
      split_ifs <;> rfl
  · refine .inr fun t' _ h₂ => ?_
    cases hw : t'.writeFile ⟨r, ps ++ [n ++ ".tmp"]⟩ bs with
    | error e => rfl
    | ok t₁ =>
      -- a sibling that can be written is an entry of a directory in every such tree
      obtain ⟨d, hslot, -, -⟩ := writeFile_tmp_ok hn (tmp_ne_dots _) hw
      exact absurd ⟨d, resolve_of_dirs h₂ hslot.resolves, hslot.short⟩ hfit

theorem apply_dirs (hn : w.name ≠ "..") (t : FileTree) :
    DirsKept t (w.apply t) ∧ DirsKept (w.apply t) t := by
  rcases apply_cases hn t with ⟨d, -, hw⟩ | hw
  · rw [hw t (.refl t) (.refl t)]
    exact ⟨throughAt_dirsKept, throughAt_dirsKept_back⟩
  · rw [hw t (.refl t) (.refl t)]
    exact ⟨.refl t, .refl t⟩

/-- The same write on trees that agree gives trees that agree. -/
theorem agree_apply (hn : w.name ≠ "..") (h : Agree t t') : Agree (w.apply t) (w.apply t') := by
  rcases apply_cases hn t with ⟨d, hd, hw⟩ | hw
  · rw [hw t (.refl t) (.refl t), hw t' h.dirsKept h.symm.dirsKept]
    exact h.throughAt hd
  · rw [hw t (.refl t) (.refl t), hw t' h.dirsKept h.symm.dirsKept]
    exact h

/-- A write done again, on the tree it left, changes nothing a walk can look at. -/
theorem apply_again (hn : w.name ≠ "..") (t : FileTree) :
    Agree (w.apply (w.apply t)) (w.apply t) := by
  obtain ⟨k₁, k₂⟩ := apply_dirs hn t
  rcases apply_cases hn t with ⟨d, hd, hw⟩ | hw
  · rw [hw (w.apply t) k₁ k₂, hw t (.refl t) (.refl t)]
    exact (writtenAt_throughAt hd).agree
  · rw [hw (w.apply t) k₁ k₂]
    exact .refl _

/-- A write that would change nothing still would after a write whose places cannot meet its
own. -/
theorem agree_apply_of_apart (hn : w.name ≠ "..") (hn' : w'.name ≠ "..") (hap : Apart w w')
    (hfix : Agree (w.apply t) t) : Agree (w.apply (w'.apply t)) (w'.apply t) := by
  obtain ⟨k₁, k₂⟩ := apply_dirs hn' t
  rcases apply_cases hn t with ⟨d, hd, hw⟩ | hw
  · rw [hw (w'.apply t) k₁ k₂]
    rw [hw t (.refl t) (.refl t)] at hfix
    -- the file is written in `t`, and the other write keeps it so
    have hwr : WrittenAt t d w.name w.bytes :=
      (writtenAt_throughAt hd).of_agree hfix (hd.of_dirs throughAt_dirsKept)
    rcases apply_cases hn' t with ⟨d', -, hw'⟩ | hw'
    · rw [hw' t (.refl t) (.refl t)]
      exact (hwr.throughAt_of_apart hd hap.1 hap.2.1 hap.2.2).agree
    · rw [hw' t (.refl t) (.refl t)]
      exact hwr.agree
  · rw [hw (w'.apply t) k₁ k₂]
    exact .refl _

end SiblingWrite

/-! ## Lists of writes -/

/-- Writes done one after the other. -/
def writeAll (ws : List SiblingWrite) (t : FileTree) : FileTree :=
  ws.foldl (fun t w => w.apply t) t

section WriteAll

open SiblingWrite

variable {ws : List SiblingWrite} {t t' : FileTree}

@[simp] theorem writeAll_nil (t : FileTree) : writeAll [] t = t := rfl

@[simp] theorem writeAll_cons (w : SiblingWrite) (ws : List SiblingWrite) (t : FileTree) :
    writeAll (w :: ws) t = writeAll ws (w.apply t) := rfl

theorem writeAll_dirs (hn : ∀ w ∈ ws, w.name ≠ "..") (t : FileTree) :
    DirsKept t (writeAll ws t) ∧ DirsKept (writeAll ws t) t := by
  induction ws generalizing t with
  | nil => exact ⟨.refl t, .refl t⟩
  | cons w ws ih =>
    obtain ⟨k₁, k₂⟩ := apply_dirs (hn w List.mem_cons_self) t
    obtain ⟨k₃, k₄⟩ := ih (fun w' hw' => hn w' (List.mem_cons_of_mem _ hw')) (w.apply t)
    exact ⟨k₁.trans k₃, k₄.trans k₂⟩

theorem agree_writeAll (hn : ∀ w ∈ ws, w.name ≠ "..") (h : Agree t t') :
    Agree (writeAll ws t) (writeAll ws t') := by
  induction ws generalizing t t' with
  | nil => exact h
  | cons w ws ih =>
    exact ih (fun w' hw' => hn w' (List.mem_cons_of_mem _ hw'))
      (agree_apply (hn w List.mem_cons_self) h)

/-- A write that would change nothing still would after writes whose places cannot meet its own. -/
theorem agree_apply_writeAll {w : SiblingWrite} (hn : w.name ≠ "..")
    (hns : ∀ w' ∈ ws, w'.name ≠ "..") (hap : ∀ w' ∈ ws, Apart w w')
    (hfix : Agree (w.apply t) t) : Agree (w.apply (writeAll ws t)) (writeAll ws t) := by
  induction ws generalizing t with
  | nil => exact hfix
  | cons w' ws ih =>
    exact ih (fun w'' h => hns w'' (List.mem_cons_of_mem _ h))
      (fun w'' h => hap w'' (List.mem_cons_of_mem _ h))
      (agree_apply_of_apart hn (hns w' List.mem_cons_self) (hap w' List.mem_cons_self) hfix)

/-- After writes of files whose places cannot meet, doing any one of them again changes nothing
a walk can look at. -/
theorem agree_apply_of_mem (hn : ∀ w ∈ ws, w.name ≠ "..") (hap : ws.Pairwise Apart)
    (t : FileTree) : ∀ w ∈ ws, Agree (w.apply (writeAll ws t)) (writeAll ws t) := by
  induction ws generalizing t with
  | nil => simp
  | cons w ws ih =>
    have hns : ∀ w' ∈ ws, w'.name ≠ ".." := fun w' h => hn w' (List.mem_cons_of_mem _ h)
    rw [List.pairwise_cons] at hap
    intro w' hw'
    rw [writeAll_cons]
    rcases List.mem_cons.1 hw' with rfl | hw'
    · exact agree_apply_writeAll (hn w' List.mem_cons_self) hns hap.1
        (apply_again (hn w' List.mem_cons_self) t)
    · exact ih hns hap.2 (w.apply t) w' hw'

/-- Writes that each change nothing, done one after the other, change nothing. -/
theorem writeAll_agree_of_fixed (hn : ∀ w ∈ ws, w.name ≠ "..")
    (hfix : ∀ w ∈ ws, Agree (w.apply t) t) : Agree (writeAll ws t) t := by
  induction ws with
  | nil => exact .refl t
  | cons w ws ih =>
    have hns : ∀ w' ∈ ws, w'.name ≠ ".." := fun w' h => hn w' (List.mem_cons_of_mem _ h)
    exact (agree_writeAll hns (hfix w List.mem_cons_self)).trans
      (ih hns fun w' h => hfix w' (List.mem_cons_of_mem _ h))

/-- Writes of files whose places cannot meet, done twice, leave what they left done once. -/
theorem writeAll_twice (hn : ∀ w ∈ ws, w.name ≠ "..") (hap : ws.Pairwise Apart) (t : FileTree) :
    Agree (writeAll ws (writeAll ws t)) (writeAll ws t) :=
  writeAll_agree_of_fixed hn (agree_apply_of_mem hn hap t)

end WriteAll

end SqlMigration.FileTree

namespace SqlMigration.Migration

open HostM Catalog FileTree Orchestrator SiblingWrite

/-! ## The writes of a run -/

/-- A script's text written through the script's temporary sibling. -/
def ScriptSpec.writeOf (s : ScriptSpec) (text : String) : SiblingWrite :=
  ⟨s.path.parent, s.path.name, Text.Utf8.encode (scriptPayload text)⟩

/-- The scripts a run of phase two writes, read off the database it starts on: each step whose
connection is accepted and whose query answers writes its script; a refused connection ends the
run, and so do rows that do not render. -/
def scriptWrites : SourceDatabase → List ScriptSpec → List SiblingWrite
  | _, [] => []
  | db, s :: ss =>
    match db.connect with
    | (_, some _) => []
    | (db', none) =>
      match db'.answer s.query with
      | .error _ => scriptWrites db' ss
      | .ok rows =>
        match s.render rows with
        | .ok text => s.writeOf text :: scriptWrites db' ss
        | .error _ => []

/-- A script written into a folder that exists leaves the tree its write through the sibling
leaves. -/
theorem tree_writeScript {p : Path} (hp : ScriptPath p) {h : Host}
    (hD : h.tree.isDir? p.parent = .ok true) (text : String) :
    (run h (Layout.writeScript p text)).2.tree =
      (SiblingWrite.mk p.parent p.name (Text.Utf8.encode (scriptPayload text))).apply h.tree := by
  obtain ⟨r, ps, n, rfl, -, htmp⟩ := hp
  have hD' : h.tree.isDir? ⟨r, ps⟩ = .ok true := by simpa [Path.parent] using hD
  have hw : SiblingWrite.mk (⟨r, ps ++ [n]⟩ : Path).parent (⟨r, ps ++ [n]⟩ : Path).name
      (Text.Utf8.encode (scriptPayload text)) =
        ⟨⟨r, ps⟩, n, Text.Utf8.encode (scriptPayload text)⟩ := by
    simp [Path.parent, Path.name]
  rw [Layout.run_writeScript htmp hD', hw]
  unfold SiblingWrite.apply
  dsimp only [SiblingWrite.tmp, SiblingWrite.path]
  cases h.tree.writeFile ⟨r, ps ++ [n ++ ".tmp"]⟩ (Text.Utf8.encode (scriptPayload text)) with
  | error e => rfl
  | ok t₁ =>
    dsimp only
    cases t₁.rename ⟨r, ps ++ [n ++ ".tmp"]⟩ ⟨r, ps ++ [n]⟩ <;> rfl

/-- A step whose query answered with rows that render writes its script through the sibling,
whether the write succeeds or not. -/
theorem tree_writeStep {src : Connection.Source} {st : ScriptStep} {s : ScriptSpec}
    (hi : Implements src st s) {h : Host} (hwf : h.database.WellFormed)
    (hD : h.tree.isDir? s.path.parent = .ok true) {db : SourceDatabase} {rows : List Row}
    {text : String} (hc : h.database.connect = (db, none)) (hq : db.answer s.query = .ok rows)
    (hr : s.render rows = .ok text) :
    (run h (writeStep st)).2.tree = (s.writeOf text).apply h.tree := by
  unfold writeStep
  rw [run_bind, run_attempt, run_bind, hi.renders h hwf, run_runQuery, hc]
  dsimp only
  rw [hq]
  dsimp only
  rw [hr, hi.path]
  dsimp only [Except.mapError]
  -- the host the write starts on: the step's connection and query recorded
  set h₁ : Host :=
    { h with
      database := db
      events := h.events ++ [.connect (connectParams src), .query s.query.name s.query.params] }
  have hw := tree_writeScript hi.script (h := h₁) hD text
  rcases hrun : run h₁ (Layout.writeScript s.path text) with ⟨_ | q, h'⟩
  all_goals
    rw [hrun] at hw
    dsimp only at hw ⊢
  · rw [run_failedBy]
    split <;> exact hw
  · exact hw

/-- Returning a value made from a result leaves the host the computation left. -/
theorem snd_run_bind_pure {α β : Type} (h : Host) (m : HostM α) (f : α → β) :
    (HostM.run h (m >>= fun a => pure (f a))).2 = (HostM.run h m).2 := by
  rw [run_bind]
  rcases HostM.run h m with ⟨_ | a, h'⟩ <;> rfl

/-- The steps of phase two, reported and run in order, leave the tree their writes leave, done
in order on the tree they start from. -/
theorem tree_mapM {src : Connection.Source} (total : Nat) :
    ∀ {sts : List ScriptStep} {ss : List ScriptSpec}, List.Forall₂ (Implements src) sts ss →
      ∀ (i : Nat) (h : Host), Ready ss h →
      (run h ((sts.zipIdx i).mapM fun (st, k) => do
          report ("Exporting " ++ st.label) (k + 1) total
          writeStep st)).2.tree = writeAll (scriptWrites h.database ss) h.tree
  | _, _, .nil, _, _, _ => rfl
  | st :: sts, s :: ss, .cons hi hrest, i, h, hready => by
    have hstart : Ready (s :: ss) (reportStep h s.label (i + 1) total) := hready
    have hdone := writeStep_done hi hstart.1 (hstart.2 s List.mem_cons_self)
    have hreport : run h (report ("Exporting " ++ s.label) (i + 1) total) =
        (.ok (), reportStep h s.label (i + 1) total) := rfl
    rw [List.zipIdx_cons, List.mapM_cons, run_bind, run_bind, hi.label, hreport]
    dsimp only
    rcases hw : run (reportStep h s.label (i + 1) total) (writeStep st) with ⟨_ | r, h₁⟩
    · -- a refused connection ends the run before anything is written
      rw [hw] at hdone
      cases hdone with
      | refused hc =>
        simp only [scriptWrites, show h.database.connect = _ from hc, writeAll_nil]
        rfl
    · rw [hw] at hdone
      dsimp only at hdone ⊢
      rw [snd_run_bind_pure]
      refine (tree_mapM total hrest (i + 1) h₁ (hready.next hdone)).trans ?_
      -- the step's own write, when it made one, comes first
      cases hdone with
      | queryFailed hc hq =>
        simp only [scriptWrites, show h.database.connect = _ from hc, hq]
        rfl
      | written hc hq hr =>
        have ht := tree_writeStep hi hstart.1 (hstart.2 s List.mem_cons_self) hc hq hr
        rw [hw] at ht
        simp only [scriptWrites, show h.database.connect = _ from hc, hq, hr, writeAll_cons]
        rw [← show (reportStep h s.label (i + 1) total).tree = h.tree from rfl, ← ht]
      | notWritten hc hq hr =>
        have ht := tree_writeStep hi hstart.1 (hstart.2 s List.mem_cons_self) hc hq hr
        rw [hw] at ht
        simp only [scriptWrites, show h.database.connect = _ from hc, hq, hr, writeAll_cons]
        rw [← show (reportStep h s.label (i + 1) total).tree = h.tree from rfl, ← ht]

/-- The three steps of phase two leave the tree their writes leave, done in order. -/
theorem tree_writeConstraintScripts (o : Orchestrator) (x : Catalog.Reader) {h : Host}
    (hready : Ready o.scriptSpecs h) :
    (run h (o.writeConstraintScripts x)).2.tree =
      writeAll (scriptWrites h.database o.scriptSpecs) h.tree :=
  tree_mapM 3 (constraintSteps_implement o x) 0 h hready

/-! ## The scripts' names -/

theorem name_join (d : Path) {n : String} (hn : Path.ofString n = ⟨"", [n]⟩) : (d / n).name = n := by
  show (Path.join d n).name = n
  simp [Path.join, hn, Path.name]

/-- The names of phase two's scripts, in order. -/
theorem scriptSpecs_names (o : Orchestrator) :
    o.scriptSpecs.map (·.path.name) =
      ["1_check_constraints.sql", "2_primary_foreign_unique_key.sql", "sequences.sql"] := by
  simp only [scriptSpecs, List.map_cons, List.map_nil, Layout.checksScript, Layout.keysScript,
    Layout.sequencesScript, name_join _ ofString_checksName, name_join _ ofString_keysName,
    name_join _ ofString_sequencesName]

/-- A run writes some of its scripts, in their order. -/
theorem scriptWrites_names (db : SourceDatabase) (ss : List ScriptSpec) :
    List.Sublist ((scriptWrites db ss).map SiblingWrite.name) (ss.map (·.path.name)) := by
  induction ss generalizing db with
  | nil => exact List.Sublist.slnil
  | cons s ss ih =>
    unfold scriptWrites
    split
    · exact List.nil_sublist _
    · split
      · exact (ih _).cons _
      · split
        · exact (ih _).cons_cons _
        · exact List.nil_sublist _

/-- The files a run of phase two writes are apart from one another, and none is named `..`. -/
theorem scriptWrites_apart (o : Orchestrator) (db : SourceDatabase) :
    (∀ w ∈ scriptWrites db o.scriptSpecs, w.name ≠ "..") ∧
      (scriptWrites db o.scriptSpecs).Pairwise Apart := by
  have hsub := scriptWrites_names db o.scriptSpecs
  rw [scriptSpecs_names] at hsub
  refine ⟨fun w hw => ?_, ?_⟩
  · have hmem := hsub.subset (List.mem_map_of_mem hw)
    simp only [List.mem_cons, List.not_mem_nil, or_false] at hmem
    rcases hmem with h | h | h <;> rw [h] <;> decide
  · have hnames : ((scriptWrites db o.scriptSpecs).map SiblingWrite.name).Pairwise
        (fun a b => a ≠ b ∧ a ≠ b ++ ".tmp" ∧ a ++ ".tmp" ≠ b) := List.Pairwise.sublist hsub (by decide)
    have hap := List.pairwise_map.1 hnames
    exact hap

/-! ## Phase two, twice -/

/-- A folder that exists is left as it is. -/
theorem run_ensureDir_of_isDir {d : Path} {h : Host} (hd : h.tree.isDir? d = .ok true) :
    run h (Layout.ensureDir d) = (.ok (), h) := by
  unfold Layout.ensureDir
  rw [run_mapFault, run_makeDirs_of_isDir hd]

/-- Script folders that exist are left as they are. -/
theorem run_ensureScriptDirs_of_isDir {l : Layout} {h : Host}
    (ht : h.tree.isDir? l.tablesDir = .ok true) (hc : h.tree.isDir? l.constraintsDir = .ok true)
    (hs : h.tree.isDir? l.sequencesDir = .ok true) : run h l.ensureScriptDirs = (.ok (), h) := by
  unfold Layout.ensureScriptDirs
  rw [run_bind, run_ensureDir_of_isDir ht]
  dsimp only
  rw [run_bind, run_ensureDir_of_isDir hc]
  exact run_ensureDir_of_isDir hs

/-- Phase two run again, over the tree its first run left and against a database with the same
contents, changes nothing a path can show. On a database whose rows are well formed, and a tree
where the script folders can be created, every path leads to the same entry, or fails with the
same error, after the second run as after the first, whether the first run returned or stopped
at a refused connection. -/
theorem exportConstraints_rerun {o : Orchestrator} {x : Catalog.Reader} (hx : o.catalog = some x)
    {h : Host} (hwf : h.database.WellFormed)
    (hdirs : (run h o.layout.ensureScriptDirs).1 = .ok ()) (p : Path) :
    (run { (run h o.exportConstraints).2 with database := h.database }
      o.exportConstraints).2.tree.stat p = (run h o.exportConstraints).2.tree.stat p := by
  obtain ⟨t₀, ht₀⟩ := ensureScriptDirs_treeOnly o.layout h
  rcases hd : run h o.layout.ensureScriptDirs with ⟨_ | ⟨⟩, h₀⟩
  · rw [hd] at hdirs
    cases hdirs
  rw [hd] at ht₀
  dsimp only at ht₀
  subst ht₀
  obtain ⟨-, htab, hcon, hseq⟩ := Layout.ensureScriptDirs_ok hd
  obtain ⟨hn, hap⟩ := scriptWrites_apart o h.database
  -- the first run creates the folders, then makes the writes the database determines
  have htree₁ : (run h o.exportConstraints).2.tree =
      writeAll (scriptWrites h.database o.scriptSpecs) t₀ := by
    rw [run_exportConstraints hx, hd]
    exact tree_writeConstraintScripts o x
      (scriptSpecs_ready (h := { h with tree := t₀ }) hwf hcon hseq)
  -- a second run, from the tree the first left, finds the folders in place and makes the same
  -- writes again
  have htree₂ : ∀ g : Host, g.tree = writeAll (scriptWrites h.database o.scriptSpecs) t₀ →
      g.database = h.database → (run g o.exportConstraints).2.tree =
        writeAll (scriptWrites h.database o.scriptSpecs)
          (writeAll (scriptWrites h.database o.scriptSpecs) t₀) := by
    intro g hgt hgd
    have hkept : DirsKept t₀ g.tree := hgt ▸ (writeAll_dirs hn t₀).1
    rw [run_exportConstraints hx, run_ensureScriptDirs_of_isDir (isDir?_of_dirs hkept htab)
      (isDir?_of_dirs hkept hcon) (isDir?_of_dirs hkept hseq)]
    dsimp only
    rw [tree_writeConstraintScripts o x (scriptSpecs_ready (hgd ▸ hwf) (isDir?_of_dirs hkept hcon)
      (isDir?_of_dirs hkept hseq)), hgd, hgt]
  rw [htree₂ { (run h o.exportConstraints).2 with database := h.database } htree₁ rfl, htree₁]
  exact ((writeAll_twice hn hap t₀).stat p).symm

/-! ## Phase two twice over one check constraint -/

-- `String.splitOn` is well founded, so a folder name is split one character at a time
theorem ofString_tablesName : Path.ofString "1_Tables" = ⟨"", ["1_Tables"]⟩ := by
  have hsplit : "1_Tables".splitOn "/" = ["1_Tables"] := by
    unfold String.splitOn
    simp only [show ("/" == "") = false from rfl, Bool.false_eq_true, ↓reduceIte]
    iterate 9 (rw [String.splitOnAux]; simp +decide only [↓reduceIte])
  simp only [Path.ofString, Path.componentsOf, hsplit]
  decide

theorem ofString_constraintsName : Path.ofString "2_Constraints" = ⟨"", ["2_Constraints"]⟩ := by
  have hsplit : "2_Constraints".splitOn "/" = ["2_Constraints"] := by
    unfold String.splitOn
    simp only [show ("/" == "") = false from rfl, Bool.false_eq_true, ↓reduceIte]
    iterate 14 (rw [String.splitOnAux]; simp +decide only [↓reduceIte])
  simp only [Path.ofString, Path.componentsOf, hsplit]
  decide

theorem ofString_sequencesDirName : Path.ofString "3_Sequences" = ⟨"", ["3_Sequences"]⟩ := by
  have hsplit : "3_Sequences".splitOn "/" = ["3_Sequences"] := by
    unfold String.splitOn
    simp only [show ("/" == "") = false from rfl, Bool.false_eq_true, ↓reduceIte]
    iterate 12 (rw [String.splitOnAux]; simp +decide only [↓reduceIte])
  simp only [Path.ofString, Path.componentsOf, hsplit]
  decide

/-- The sample layout's script folders can be created on an empty tree. -/
theorem ensureScriptDirs_oneCheckHost :
    (run oneCheckHost sampleOrchestrator.layout.ensureScriptDirs).1 = .ok () := by
  have ht : sampleOrchestrator.layout.tablesDir = ⟨"", ["scripts", "1_Tables"]⟩ := by
    show Path.join ⟨"", ["scripts"]⟩ "1_Tables" = _
    simp [Path.join, ofString_tablesName]
  have hc : sampleOrchestrator.layout.constraintsDir = ⟨"", ["scripts", "2_Constraints"]⟩ := by
    show Path.join ⟨"", ["scripts"]⟩ "2_Constraints" = _
    simp [Path.join, ofString_constraintsName]
  have hs : sampleOrchestrator.layout.sequencesDir = ⟨"", ["scripts", "3_Sequences"]⟩ := by
    show Path.join ⟨"", ["scripts"]⟩ "3_Sequences" = _
    simp [Path.join, ofString_sequencesDirName]
  unfold Layout.ensureScriptDirs
  rw [ht, hc, hs]
  rfl

theorem oneCheckHost_wellFormed : oneCheckHost.database.WellFormed := by
  refine ⟨fun r hr => (List.not_mem_nil hr).elim, fun r hr => ?_,
    fun r hr => (List.not_mem_nil hr).elim⟩
  dsimp only [oneCheckHost] at hr
  rw [List.mem_singleton] at hr
  subst hr
  exact ⟨⟨_, rfl⟩, ⟨_, rfl⟩, ⟨_, rfl⟩, rfl⟩

/-- Phase two run twice from an empty tree over one check constraint: the check script reads
the same after the second run as after the first. -/
theorem exportConstraints_rerun_oneCheck :
    sampleOrchestrator.catalog = some ⟨localSource⟩ ∧ oneCheckHost.database.WellFormed ∧
    (run oneCheckHost sampleOrchestrator.layout.ensureScriptDirs).1 = .ok () ∧
    (run { (run oneCheckHost sampleOrchestrator.exportConstraints).2 with
        database := oneCheckHost.database } sampleOrchestrator.exportConstraints).2.tree.stat
        ⟨"", ["scripts", "2_Constraints", "1_check_constraints.sql"]⟩ =
      (run oneCheckHost sampleOrchestrator.exportConstraints).2.tree.stat
        ⟨"", ["scripts", "2_Constraints", "1_check_constraints.sql"]⟩ :=
  ⟨rfl, oneCheckHost_wellFormed, ensureScriptDirs_oneCheckHost,
    exportConstraints_rerun rfl oneCheckHost_wellFormed ensureScriptDirs_oneCheckHost _⟩

end SqlMigration.Migration
