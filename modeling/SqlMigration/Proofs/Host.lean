import SqlMigration.Host
import Mathlib.Data.List.Forall2

/-!
# Running host operations

Equations for running the combinators of `HostM` on a host. A bind runs its first part and
then the rest on the host the first part left; a fault stops the run and keeps every change
made before it. `tryCatch` hands a fault and the host it was raised on to the handler,
`mapFault` only renames the fault, and `finally'` answers the body's outcome on the host its
cleanup leaves, unless the cleanup faults itself (`run_finally'`).

The file operations run as the tree functions they wrap: a tree change that succeeds replaces
the tree and nothing else, and a read leaves the host as it is.
-/

namespace SqlMigration.HostM

variable {α β : Type}

/-! ## Combinators -/

theorem run_pure (h : Host) (a : α) : run h (pure a) = (.ok a, h) := rfl

theorem run_bind (h : Host) (m : HostM α) (f : α → HostM β) :
    run h (m >>= f) = match run h m with
      | (.ok a, h') => run h' (f a)
      | (.error e, h') => (.error e, h') := by
  simp only [run, ExceptT.run_bind, StateT.run_bind]
  rcases StateT.run (ExceptT.run m) h with ⟨_ | _, _⟩ <;> rfl

theorem run_bind_of_ok {h h' : Host} {m : HostM α} {a : α} (hm : run h m = (.ok a, h'))
    (f : α → HostM β) : run h (m >>= f) = run h' (f a) := by
  rw [run_bind, hm]

/-- A bind that returns ran its first part to a value and the rest from there. -/
theorem exists_of_run_bind_ok {h h' : Host} {m : HostM α} {f : α → HostM β} {b : β}
    (hr : run h (m >>= f) = (.ok b, h')) : ∃ a h₁, run h m = (.ok a, h₁) ∧ run h₁ (f a) = (.ok b, h') := by
  rw [run_bind] at hr
  rcases hm : run h m with ⟨_ | a, h₁⟩ <;> rw [hm] at hr
  · cases hr
  · exact ⟨a, h₁, rfl, hr⟩

/-- A chain whose first two steps stop with an error stops there, whatever follows. -/
theorem run_bind_bind_of_error {γ : Type} {h : Host} {e : Fault} {m : HostM α}
    {k : α → HostM β} {f : β → HostM γ} (hr : (run h (m >>= k)).1 = .error e) :
    run h (m >>= fun a => k a >>= f) = (.error e, (run h (m >>= k)).2) := by
  rcases hm : run h m with ⟨e₁ | a, h₁⟩
  · simp only [run_bind, hm] at hr ⊢
    cases hr
    rfl
  · rcases hk : run h₁ (k a) with ⟨e₂ | b, h₂⟩
    · simp only [run_bind, hm, hk] at hr ⊢
      cases hr
      rfl
    · simp only [run_bind, hm, hk] at hr
      cases hr

theorem run_map (h : Host) (f : α → β) (m : HostM α) :
    run h (f <$> m) = match run h m with
      | (.ok a, h') => (.ok (f a), h')
      | (.error e, h') => (.error e, h') := by
  rw [map_eq_pure_bind, run_bind]
  rcases run h m with ⟨_ | _, _⟩ <;> rfl

theorem run_tryCatch (h : Host) (m : HostM α) (handler : Fault → HostM α) :
    run h (tryCatch m handler) = match run h m with
      | (.ok a, h') => (.ok a, h')
      | (.error e, h') => run h' (handler e) := by
  simp only [run]
  -- the instance's `tryCatch` is `ExceptT.tryCatch`, a bind of the underlying state monad
  show StateT.run (ExceptT.tryCatch m handler) h = _
  unfold ExceptT.tryCatch ExceptT.mk ExceptT.run
  rw [StateT.run_bind]
  rcases StateT.run m h with ⟨_ | _, h'⟩ <;> rfl

theorem run_mapFault (h : Host) (body : HostM α) (handler : Fault → Fault) :
    run h (mapFault body handler) = match run h body with
      | (.ok a, h') => (.ok a, h')
      | (.error e, h') => (.error (handler e), h') := by
  unfold mapFault
  rw [run_tryCatch]
  rcases run h body with ⟨_ | _, h'⟩ <;> rfl

/-- The cleanup runs on whatever host the body left, and its own fault wins. -/
theorem run_finally' (h : Host) (body : HostM α) (cleanup : HostM Unit) :
    run h (finally' body cleanup) = match run h body with
      | (r, h') => match run h' cleanup with
        | (.ok _, h'') => (r, h'')
        | (.error e, h'') => (.error e, h'') := by
  unfold finally'
  rw [run_bind, run_tryCatch, run_map]
  rcases run h body with ⟨_ | _, h'⟩ <;> simp only [run_pure] <;> rw [run_bind] <;>
    rcases run h' cleanup with ⟨_ | _, h''⟩ <;> rfl

theorem run_get (h : Host) : run h (get : HostM Host) = (.ok h, h) := rfl

theorem run_set (h h' : Host) : run h (set h' : HostM PUnit) = (.ok (), h') := rfl

theorem run_modify (h : Host) (f : Host → Host) : run h (modify f : HostM PUnit) = (.ok (), f h) :=
  rfl

theorem run_record (h : Host) (e : DbEvent) :
    run h (record e) = (.ok (), { h with events := h.events ++ [e] }) := rfl

theorem run_lift_ok {ε : Type} (h : Host) (a : α) (f : ε → Fault) :
    run h (lift (.ok a) f) = (.ok a, h) := rfl

theorem run_lift_error {ε : Type} (h : Host) (e : ε) (f : ε → Fault) :
    run h (lift (.error e) f : HostM α) = (.error (f e), h) := rfl

/-- A traversal that returns pairs each element with a value one of its steps returned. -/
theorem forall₂_of_run_mapM {f : α → HostM β} :
    ∀ {l : List α} {ys : List β} {h h' : Host}, run h (l.mapM f) = (.ok ys, h') →
      List.Forall₂ (fun x y => ∃ h₁ h₂, run h₁ (f x) = (.ok y, h₂)) l ys
  | [], ys, h, h', hr => by
    rw [List.mapM_nil, run_pure] at hr
    cases hr
    exact .nil
  | x :: l, ys, h, h', hr => by
    rw [List.mapM_cons] at hr
    obtain ⟨y, h₁, hx, hr⟩ := exists_of_run_bind_ok hr
    obtain ⟨ys', h₂, hl, hr⟩ := exists_of_run_bind_ok hr
    cases hr
    exact .cons ⟨h, h₁, hx⟩ (forall₂_of_run_mapM hl)

/-! ## The file tree -/

theorem run_tree (h : Host) : run h tree = (.ok h.tree, h) := rfl

theorem run_change (h : Host) (f : FileTree → Except OsError FileTree) :
    run h (change f) = match f h.tree with
      | .ok t => (.ok (), { h with tree := t })
      | .error e => (.error (.os e), h) := by
  unfold change
  rw [run_bind, run_tree]
  dsimp only
  cases f h.tree <;> rfl

theorem run_change_ok {h : Host} {f : FileTree → Except OsError FileTree} {t : FileTree}
    (hf : f h.tree = .ok t) : run h (change f) = (.ok (), { h with tree := t }) := by
  rw [run_change, hf]

theorem run_look (h : Host) (f : FileTree → Except OsError α) :
    run h (look f) = match f h.tree with
      | .ok a => (.ok a, h)
      | .error e => (.error (.os e), h) := by
  unfold look
  rw [run_bind, run_tree]
  dsimp only
  cases f h.tree <;> rfl

theorem run_look_ok {h : Host} {f : FileTree → Except OsError α} {a : α}
    (hf : f h.tree = .ok a) : run h (look f) = (.ok a, h) := by
  rw [run_look, hf]

theorem run_writeFile {h : Host} {p : Path} {bs : List UInt8} {t : FileTree}
    (hw : h.tree.writeFile p bs = .ok t) : run h (writeFile p bs) = (.ok (), { h with tree := t }) :=
  run_change_ok hw

theorem run_rename {h : Host} {src dst : Path} {t : FileTree} (hr : h.tree.rename src dst = .ok t) :
    run h (rename src dst) = (.ok (), { h with tree := t }) :=
  run_change_ok hr

theorem run_readFile {h : Host} {p : Path} {bs : List UInt8} (hr : h.tree.readFile p = .ok bs) :
    run h (readFile p) = (.ok bs, h) :=
  run_look_ok hr

/-- A file that can be removed is removed, with no fault. -/
theorem run_unlinkIfPresent {h : Host} {p : Path} {t : FileTree} (hu : h.tree.unlink p = .ok t) :
    run h (unlinkIfPresent p) = (.ok (), { h with tree := t }) := by
  unfold unlinkIfPresent
  rw [run_tryCatch, show run h (unlink p) = _ from run_change_ok hu]

theorem run_exists? {h : Host} {p : Path} {b : Bool} (he : h.tree.exists? p = .ok b) :
    run h (exists? p) = (.ok b, h) :=
  run_look_ok he

/-! ## Postconditions

What every run of an operation returns, and every fault it can stop with, whatever the host.
Both are built up along the binds of an operation's definition, one step at a time. -/

/-- Every value a run of `m` returns satisfies `P`. -/
def Returns (P : α → Prop) (m : HostM α) : Prop := ∀ h a h', run h m = (.ok a, h') → P a

/-- Every fault a run of `m` stops with satisfies `P`. -/
def StopsWith (P : Fault → Prop) (m : HostM α) : Prop := ∀ h e h', run h m = (.error e, h') → P e

namespace Returns

theorem any (m : HostM α) : Returns (fun _ => True) m := fun _ _ _ _ => trivial

theorem pure {P : α → Prop} {a : α} (ha : P a) : Returns P (pure a) := by
  intro h b h' hr
  cases hr
  exact ha

theorem throw {P : α → Prop} (e : Fault) : Returns P (throw e) := by
  intro h b h' hr
  cases hr

theorem bind {Q : α → Prop} {P : β → Prop} {m : HostM α} {f : α → HostM β} (hm : Returns Q m)
    (hf : ∀ a, Q a → Returns P (f a)) : Returns P (m >>= f) := by
  intro h b h' hr
  obtain ⟨a, h₁, ha, hb⟩ := exists_of_run_bind_ok hr
  exact hf a (hm h a h₁ ha) h₁ b h' hb

end Returns

namespace StopsWith

theorem pure {P : Fault → Prop} (a : α) : StopsWith P (pure a) := by
  intro h e h' hr
  cases hr

theorem throw {P : Fault → Prop} {e : Fault} (he : P e) : StopsWith P (throw e : HostM α) := by
  intro h e' h' hr
  cases hr
  exact he

theorem bind {P : Fault → Prop} {m : HostM α} {f : α → HostM β} (hm : StopsWith P m)
    (hf : ∀ a, StopsWith P (f a)) : StopsWith P (m >>= f) := by
  intro h e h' hr
  rw [run_bind] at hr
  rcases hr₁ : run h m with ⟨e₁ | a, h₁⟩ <;> rw [hr₁] at hr
  · cases hr
    exact hm h e h' hr₁
  · exact hf a h₁ e h' hr

theorem lift {ε : Type} {P : Fault → Prop} (r : Except ε α) {f : ε → Fault} (hf : ∀ x, P (f x)) :
    StopsWith P (lift r f) := by
  cases r
  · exact throw (hf _)
  · exact pure _

end StopsWith

/-! ## Operations on the tree alone

Creating folders touches nothing but the file tree: the database, the calls, the events and the
progress log are as they were. `TreeOnly` says so of an operation, and it is built up along the
combinators, so every folder operation has it by its definition.
-/

/-- An operation that leaves everything but the file tree as it found it, whether it returns or
faults. -/
def TreeOnly (m : HostM α) : Prop := ∀ h, ∃ t, (run h m).2 = { h with tree := t }

namespace TreeOnly

theorem pure (a : α) : TreeOnly (pure a : HostM α) := fun h => ⟨h.tree, rfl⟩

theorem throw (e : Fault) : TreeOnly (throw e : HostM α) := fun h => ⟨h.tree, rfl⟩

theorem change (f : FileTree → Except OsError FileTree) : TreeOnly (change f) := by
  intro h
  rw [run_change]
  cases f h.tree
  · exact ⟨h.tree, rfl⟩
  · exact ⟨_, rfl⟩

theorem look (f : FileTree → Except OsError α) : TreeOnly (look f) := by
  intro h
  rw [run_look]
  cases f h.tree <;> exact ⟨h.tree, rfl⟩

theorem bind {m : HostM α} {f : α → HostM β} (hm : TreeOnly m) (hf : ∀ a, TreeOnly (f a)) :
    TreeOnly (m >>= f) := by
  intro h
  obtain ⟨t, ht⟩ := hm h
  rw [run_bind]
  rcases hr : run h m with ⟨_ | a, h₁⟩ <;> rw [hr] at ht <;> dsimp only at ht ⊢
  · exact ⟨t, ht⟩
  · obtain ⟨t', ht'⟩ := hf a h₁
    rw [ht', ht]
    exact ⟨t', rfl⟩

theorem tryCatch {m : HostM α} {handler : Fault → HostM α} (hm : TreeOnly m)
    (hh : ∀ e, TreeOnly (handler e)) : TreeOnly (tryCatch m handler) := by
  intro h
  obtain ⟨t, ht⟩ := hm h
  rw [run_tryCatch]
  rcases hr : run h m with ⟨_ | a, h₁⟩ <;> rw [hr] at ht <;> dsimp only at ht ⊢
  · obtain ⟨t', ht'⟩ := hh _ h₁
    rw [ht', ht]
    exact ⟨t', rfl⟩
  · exact ⟨t, ht⟩

theorem mapFault {body : HostM α} (hb : TreeOnly body) (handler : Fault → Fault) :
    TreeOnly (mapFault body handler) :=
  tryCatch hb fun _ => throw _

theorem existingDir (p : Path) (e : Fault) : TreeOnly (existingDir p e) :=
  bind (look _) fun b => by
    cases b
    · exact throw e
    · exact pure ()

theorem mkdirExistOk (p : Path) : TreeOnly (mkdirExistOk p) := by
  refine tryCatch (change _) fun e => ?_
  -- the handler only reads the tree or gives up
  split
  · exact throw _
  · exact existingDir p _
  · exact throw _

theorem makeDirs (p : Path) : TreeOnly (makeDirs p) := by
  unfold HostM.makeDirs
  -- the parents are created by the same loop, one component up each time
  induction p.parts.length generalizing p with
  | zero => exact mkdirExistOk p
  | succ n ih =>
    refine tryCatch (change _) fun e => ?_
    split
    · exact bind (ih p.parent) fun _ => mkdirExistOk p
    · exact existingDir p _
    · exact throw _

/-- What an operation on the tree alone leaves of a host but its tree. -/
theorem run_eq {m : HostM α} (hm : TreeOnly m) (h : Host) :
    (run h m).2.database = h.database ∧ (run h m).2.events = h.events := by
  obtain ⟨t, ht⟩ := hm h
  rw [ht]
  exact ⟨rfl, rfl⟩

end TreeOnly

end SqlMigration.HostM
