import Mathlib
import SqlMigration.Proofs.Listing
import SqlMigration.Proofs.PhaseOne
import SqlMigration.Proofs.StableSort

/-!
# Applying the scripts and loading the data

Phases three and four list their artifacts and work on each in turn, reporting it first. A
step that fails with a tool error is recorded as the item's failure and the next item runs; any
other fault ends the phase (`EachRun`). Each step makes exactly one external run, so the record
of runs grows by one run per item worked on, in order (`EachRun.calls`).

In a tree a file system can hold, phase three applies every regular `.sql` file at any depth
below the script folder, ordered by its folder below the script folder and then by its name
(`applySchema_inOrder`), and phase four loads every regular file directly in the data folder whose
name ends in the extension, ordered by name (`loadData_inOrder`), when the extension holds none of
the characters `*`, `?`, `[` and `/`.
-/

namespace SqlMigration

/-! ## The orders of the listings -/

/-- `partsLE` is the lexicographic order of component lists. -/
theorem partsLE_eq_decide : ∀ a b : List String, partsLE a b = decide (a ≤ b)
  | [], [] => by simp [partsLE]
  | [], _ :: _ => by simp [partsLE, le_iff_lt_or_eq, List.nil_lt_cons]
  | _ :: _, [] => by simp [partsLE, le_iff_lt_or_eq, List.not_lt_nil]
  | a :: as, b :: bs => by
    by_cases hab : a = b
    · subst hab
      simp [partsLE, partsLE_eq_decide as bs, le_iff_lt_or_eq]
    · simp [partsLE, hab, le_iff_lt_or_eq, List.cons_lt_cons_iff]

theorem partsLE_append_left (c a b : List String) : partsLE (c ++ a) (c ++ b) = partsLE a b := by
  induction c with
  | nil => rfl
  | cons x c ih => simp [partsLE, ih]

section Sorted

variable {α : Type} (key : α → List String ×ₗ String)

/-- Sorting a list without repeats by a key that tells its elements apart puts the keys in
strictly ascending order. -/
theorem pairwise_lt_mergeSort {κ : Type} [LinearOrder κ] (key : α → κ) {l : List α}
    (hl : l.Nodup) (hkey : ∀ a ∈ l, ∀ b ∈ l, key a = key b → a = b) :
    (l.mergeSort (keyLE key)).Pairwise (fun a b => key a < key b) := by
  have hs := sortsBy_mergeSort key l
  refine (hs.ascending.and (hs.perm.nodup_iff.2 hl)).imp_of_mem fun ha hb ⟨hle, hne⟩ => ?_
  exact lt_of_le_of_ne hle fun heq => hne (hkey _ (hs.perm.subset ha) _ (hs.perm.subset hb) heq)

end Sorted

namespace Layout

/-- Where the script order puts a script: its folder below the script folder, then its name. -/
def scriptKey (l : Layout) (p : Path) : List String ×ₗ String :=
  toLex ((p.parent.relativeTo l.scriptDir).getD [], p.name)

theorem scriptLE_eq_keyLE (l : Layout) : (l.scriptLE · ·) = keyLE l.scriptKey := by
  funext p q
  unfold scriptLE keyLE scriptKey
  dsimp only
  rw [partsLE_eq_decide]
  simp only [Prod.Lex.toLex_le_toLex]
  split
  · simp_all
  · simp_all [le_iff_lt_or_eq]

theorem scriptKey_below (l : Layout) (rel : List String) (n : String) :
    l.scriptKey ⟨l.scriptDir.root, l.scriptDir.parts ++ rel ++ [n]⟩ = toLex (rel, n) := by
  simp [scriptKey, Path.parent, Path.name, Path.relativeTo, List.isPrefixOf_iff_prefix]

/-- Where the data order puts a file: the components of its path text. -/
def dataKey (p : Path) : List String := p.render.splitOn "/"

theorem dataLE_eq_keyLE :
    (fun p q : Path => partsLE (p.render.splitOn "/") (q.render.splitOn "/")) = keyLE dataKey := by
  funext p q
  exact partsLE_eq_decide _ _

/-- The files directly in one folder differ in their keys only in the last component, their
name. -/
theorem dataKey_below (ps : List String) :
    ∃ c, ∀ n, '/' ∉ n.toList → dataKey ⟨"", ps ++ [n]⟩ = c ++ [n] := by
  have hsep : "/" = String.singleton '/' := rfl
  by_cases hps : ps = []
  · subst hps
    refine ⟨[], fun n hn => ?_⟩
    simpa [dataKey, Path.render, hsep] using splitOn_of_not_mem hn
  · refine ⟨("/".intercalate ps).splitOn "/", fun n hn => ?_⟩
    have hr : (⟨"", ps ++ [n]⟩ : Path).render = "/".intercalate ps ++ "/" ++ n := by
      simp [Path.render, String.intercalate_append_of_ne_nil hps]
    rw [dataKey, hr, hsep, splitOn_singleton, splitOn_singleton]
    simp [List.splitOn_append_cons_self, List.splitOn_eq_singleton hn]

theorem le_append_singleton_iff (c : List String) (n m : String) :
    c ++ [n] ≤ c ++ [m] ↔ n ≤ m := by
  have h := partsLE_eq_decide (c ++ [n]) (c ++ [m])
  rw [partsLE_append_left] at h
  by_cases hnm : n = m
  · simp_all
  · simp_all [partsLE, le_iff_lt_or_eq]

/-- The script named `a.2` in the folder `a.1` below the script folder. -/
def scriptAt (l : Layout) (a : List String × String) : Path :=
  ⟨l.scriptDir.root, l.scriptDir.parts ++ a.1 ++ [a.2]⟩

/-- The file named `n` directly in the data folder. -/
def dataAt (l : Layout) (n : String) : Path := ⟨l.dataDir.root, l.dataDir.parts ++ [n]⟩

variable {h : Host} {l : Layout} {d : List String}

open FileTree HostM in
/-- The scripts phase three finds: every regular `.sql` file below the script folder, in
strictly ascending order of its folder below the script folder and then its name. -/
theorem run_schemaScripts_sorted (ht : h.tree.Sound) (hd : h.tree.DirAt l.scriptDir d)
    (hs : h.tree.ShortBelow l.scriptDir d) :
    ∃ found : List (List String × String), found.Pairwise (fun a b => toLex a < toLex b) ∧
      (∀ rel n, (rel, n) ∈ found ↔ h.tree.FileEnding d ".sql" rel n) ∧
      run h l.schemaScripts =
        (.ok (found.map l.scriptAt), h) := by
  obtain ⟨files, hnd, hmem, hrun⟩ := run_schemaScripts ht hd hs
  rw [scriptLE_eq_keyLE] at hrun
  have hperm := (sortsBy_mergeSort l.scriptKey files).perm
  -- a listed script is the path its key names
  have hpath : ∀ q ∈ files, q = ⟨l.scriptDir.root,
      l.scriptDir.parts ++ (ofLex (l.scriptKey q)).1 ++ [(ofLex (l.scriptKey q)).2]⟩ := by
    intro q hq
    obtain ⟨rel, n, -, rfl⟩ := (hmem q).1 hq
    rw [scriptKey_below]
    rfl
  refine ⟨(files.mergeSort (keyLE l.scriptKey)).map fun q => ofLex (l.scriptKey q), ?_, ?_, ?_⟩
  · rw [List.pairwise_map]
    exact pairwise_lt_mergeSort l.scriptKey hnd fun a ha b hb hab => by
      rw [hpath a ha, hpath b hb, hab]
  · intro rel n
    simp only [List.mem_map, hperm.mem_iff]
    constructor
    · rintro ⟨q, hq, hk⟩
      obtain ⟨rel', n', hf, rfl⟩ := (hmem q).1 hq
      rw [scriptKey_below] at hk
      cases hk
      exact hf
    · intro hf
      exact ⟨_, (hmem _).2 ⟨rel, n, hf, rfl⟩, by rw [scriptKey_below]; rfl⟩
  · rw [hrun, List.map_map]
    congr
    exact ((List.map_congr_left fun q hq => (hpath q (hperm.subset hq)).symm).trans
      (List.map_id' _)).symm

open FileTree HostM in
/-- The files phase four finds: every regular file directly in the data folder whose name ends
in the extension, in strictly ascending order of name. -/
theorem run_dataFiles_sorted (ht : h.tree.Sound) (hd : h.tree.DirAt l.dataDir d)
    (hs : h.tree.ShortBelow l.dataDir d)
    (he : ∀ c ∈ l.extension.toList, c ≠ '*' ∧ c ≠ '?' ∧ c ≠ '[' ∧ c ≠ '/') :
    ∃ names : List String, names.Pairwise (· < ·) ∧
      (∀ n, n ∈ names ↔ h.tree.FileEnding d ("." ++ l.extension) [] n) ∧
      run h l.dataFiles = (.ok (names.map l.dataAt), h) := by
  obtain ⟨files, hnd, hmem, hrun⟩ := run_dataFiles ht hd hs he
  rw [dataLE_eq_keyLE] at hrun
  have hperm := (sortsBy_mergeSort dataKey files).perm
  obtain ⟨c, hc⟩ := dataKey_below l.dataDir.parts
  have hroot : l.dataDir.root = "" := hd.walk.1
  -- a listed file is named by an entry of the data folder, whose name holds no `/`
  have hname : ∀ q ∈ files, '/' ∉ q.name.toList ∧ q = ⟨l.dataDir.root, l.dataDir.parts ++ [q.name]⟩ := by
    intro q hq
    obtain ⟨n, ⟨x, hx, -⟩, rfl⟩ := (hmem q).1 hq
    exact ⟨by simpa [Path.name] using (ht.names _ hx n (by simp)).no_slash, by simp [Path.name]⟩
  have hkey : ∀ q ∈ files, dataKey q = c ++ [q.name] := by
    intro q hq
    rw [(hname q hq).2, hroot, hc _ (by simpa [Path.name] using (hname q hq).1)]
    simp [Path.name]
  refine ⟨(files.mergeSort (keyLE dataKey)).map Path.name, ?_, ?_, ?_⟩
  · rw [List.pairwise_map]
    refine (pairwise_lt_mergeSort dataKey hnd fun a ha b hb hab => ?_).imp_of_mem
      fun ha hb hlt => ?_
    · have hn : a.name = b.name := by
        simpa using (hkey a ha).symm.trans (hab.trans (hkey b hb))
      rw [(hname a ha).2, (hname b hb).2, hn]
    · rw [hkey _ (hperm.subset ha), hkey _ (hperm.subset hb)] at hlt
      exact lt_of_le_not_ge ((le_append_singleton_iff c _ _).1 hlt.le)
        fun hge => hlt.not_ge ((le_append_singleton_iff c _ _).2 hge)
  · intro n
    simp only [List.mem_map, hperm.mem_iff]
    constructor
    · rintro ⟨q, hq, rfl⟩
      obtain ⟨n', hf, rfl⟩ := (hmem q).1 hq
      simpa [Path.name] using hf
    · intro hf
      exact ⟨_, (hmem _).2 ⟨n, hf, rfl⟩, by simp [Path.name]⟩
  · rw [hrun, List.map_map]
    congr
    exact ((List.map_congr_left fun q hq => ((hname q (hperm.subset hq)).2).symm).trans
      (List.map_id' _)).symm

end Layout

namespace HostM

variable {α β : Type}

/-! ## The record of external runs -/

/-- A step that leaves the record of external runs as it is. -/
def KeepsCalls (m : HostM α) : Prop := ∀ h, (run h m).2.calls = h.calls

/-- A step that adds exactly one external run to the record, whatever it ends with. -/
def AddsCall (inv : Command.Invocation) (m : HostM α) : Prop :=
  ∀ h, (run h m).2.calls = h.calls ++ [inv]

namespace KeepsCalls

theorem pure (a : α) : KeepsCalls (pure a : HostM α) := fun _ => rfl

theorem throw (e : Fault) : KeepsCalls (throw e : HostM α) := fun _ => rfl

theorem of_treeOnly {m : HostM α} (hm : TreeOnly m) : KeepsCalls m := fun h => by
  obtain ⟨t, ht⟩ := hm h
  rw [ht]

theorem lift {ε : Type} (r : Except ε α) (f : ε → Fault) : KeepsCalls (lift r f) := by
  cases r <;> exact fun _ => rfl

theorem bind {m : HostM α} {f : α → HostM β} (hm : KeepsCalls m) (hf : ∀ a, KeepsCalls (f a)) :
    KeepsCalls (m >>= f) := by
  intro h
  rw [run_bind]
  rcases hr : run h m with ⟨_ | a, h₁⟩ <;> dsimp only
  · rw [← hm h, hr]
  · rw [hf a h₁, ← hm h, hr]

theorem runScripted (s : Command.Script) (inv : Command.Invocation) :
    KeepsCalls (runScripted s inv) := by
  unfold HostM.runScripted
  refine bind (fun _ => rfl) fun _ => ?_
  split
  · exact throw _
  · dsimp only
    split
    · exact bind (of_treeOnly (TreeOnly.change _)) fun _ => pure _
    · exact pure _

theorem runNative (inv : Command.Invocation) : KeepsCalls (runNative inv) := by
  unfold HostM.runNative
  refine bind (fun _ => rfl) fun _ => bind (fun _ => rfl) fun _ => ?_
  split
  · exact throw _
  · exact throw _
  · exact throw _
  · exact bind (lift _ _) fun _ => bind (lift _ _) fun _ => pure _

end KeepsCalls

theorem AddsCall.bind {inv : Command.Invocation} {m : HostM α} {f : α → HostM β}
    (hm : AddsCall inv m) (hf : ∀ a, KeepsCalls (f a)) : AddsCall inv (m >>= f) := by
  intro h
  rw [run_bind]
  rcases hr : run h m with ⟨_ | a, h₁⟩ <;> dsimp only
  · rw [← hm h, hr]
  · rw [hf a h₁, ← hm h, hr]

/-- Every run of a program is recorded once, before it starts, however it ends. -/
theorem runCommand_addsCall (inv : Command.Invocation) : AddsCall inv (runCommand inv) := by
  intro h
  unfold runCommand
  rw [run_bind, run_modify]
  dsimp only
  rw [run_bind, run_get]
  dsimp only
  split
  · exact KeepsCalls.runScripted _ _ _
  · exact KeepsCalls.runNative _ _

theorem runChecked_addsCall (inv : Command.Invocation) : AddsCall inv (runChecked inv) :=
  (runCommand_addsCall inv).bind fun _ => KeepsCalls.lift _ _

/-- A checked run returns exactly when the program ran and exited with code zero. -/
theorem runChecked_ok_iff {h h' : Host} {inv : Command.Invocation} {o : Command.Outcome} :
    run h (runChecked inv) = (.ok o, h') ↔
      run h (runCommand inv) = (.ok o, h') ∧ o.returncode = 0 := by
  unfold runChecked
  rw [run_bind]
  rcases hr : run h (runCommand inv) with ⟨e | o', h₁⟩ <;> dsimp only
  · simp
  · by_cases hok : o'.returncode = 0
    · simp [Command.Outcome.check, Command.Outcome.ok, hok, HostM.lift, run_pure]
      rintro rfl -
      exact hok
    · simp only [Command.Outcome.check, Command.Outcome.ok, hok, HostM.lift, decide_false]
      constructor
      · intro hrun
        cases hrun
      · rintro ⟨⟨rfl, -⟩, h0⟩
        exact absurd h0 hok

end HostM

namespace Migration

open HostM Orchestrator

variable {α β : Type}

/-! ## Working on the items of a phase -/

/-- The host once an item is reported as the `i`-th of `total`. -/
def reported (h : Host) (label : String) (i total : Nat) : Host :=
  { h with progress := h.progress ++ [(label, i, total)] }

/-- The items of a phase worked on in order from a host, the `i`-th reported first: work that
returns `v` gives the result `success x v`, work that fails with a tool error gives the item's
`base` result carrying the error, and in both cases the next item runs; any other fault stops
the phase. -/
inductive EachRun (label : α → String) (total : Nat) (work : α → HostM β) (base : α → ItemResult)
    (success : α → β → ItemResult) :
    Nat → List α → Host → Except Fault (List ItemResult) → Host → Prop
  | nil {i : Nat} {h : Host} : EachRun label total work base success i [] h (.ok []) h
  | succeeded {i : Nat} {x : α} {xs : List α} {h h₁ h' : Host} {v : β}
      {out : Except Fault (List ItemResult)}
      (hw : run (reported h (label x) i total) (work x) = (.ok v, h₁))
      (hrest : EachRun label total work base success (i + 1) xs h₁ out h') :
      EachRun label total work base success i (x :: xs) h ((success x v :: ·) <$> out) h'
  | failed {i : Nat} {x : α} {xs : List α} {h h₁ h' : Host} {e : Fault}
      {out : Except Fault (List ItemResult)}
      (hw : run (reported h (label x) i total) (work x) = (.error e, h₁)) (he : e.isTool = true)
      (hrest : EachRun label total work base success (i + 1) xs h₁ out h') :
      EachRun label total work base success i (x :: xs) h
        (({ base x with errors := [e.message] } :: ·) <$> out) h'
  | stopped {i : Nat} {x : α} {xs : List α} {h h₁ : Host} {e : Fault}
      (hw : run (reported h (label x) i total) (work x) = (.error e, h₁)) (he : e.isTool = false) :
      EachRun label total work base success i (x :: xs) h (.error e) h₁

/-- Reporting progress records no run, so work that adds one run adds it to the reported host's
record. -/
theorem AddsCall.after_report {inv : Command.Invocation} {m : HostM β} (hm : AddsCall inv m)
    {h h₁ : Host} {label : String} {i total : Nat} {r : Except Fault β}
    (hw : run (reported h label i total) m = (r, h₁)) : h₁.calls = h.calls ++ [inv] := by
  have hc := hm (reported h label i total)
  rw [hw] at hc
  exact hc

theorem run_cons_of_ok {h h₁ : Host} {m : HostM β} {rest : HostM (List β)} {b : β}
    (hm : run h m = (.ok b, h₁)) :
    run h (do let b ← m; let bs ← rest; pure (b :: bs)) =
      ((b :: ·) <$> (run h₁ rest).1, (run h₁ rest).2) := by
  rw [run_bind, hm]
  dsimp only
  rw [run_bind]
  rcases run h₁ rest with ⟨_ | _, _⟩ <;> rfl

section Loop

variable {label : α → String} {total : Nat} {work : α → HostM β} {base : α → ItemResult}
  {success : α → β → ItemResult} {step : α → HostM ItemResult}

/-- The loop of a phase runs as `EachRun` says when each step records its work's tool errors as
the item's failure and passes every other fault on. -/
theorem eachRun_mapM
    (hok : ∀ x h v h', run h (work x) = (.ok v, h') → run h (step x) = (.ok (success x v), h'))
    (herr : ∀ x h e h', run h (work x) = (.error e, h') → run h (step x) =
      if e.isTool then (.ok { base x with errors := [e.message] }, h') else (.error e, h')) :
    ∀ (xs : List α) (i : Nat) (h : Host),
      EachRun label total work base success (i + 1) xs h
        (run h ((xs.zipIdx i).mapM fun (x, k) => do report (label x) (k + 1) total; step x)).1
        (run h ((xs.zipIdx i).mapM fun (x, k) => do report (label x) (k + 1) total; step x)).2
  | [], _, _ => .nil
  | x :: xs, i, h => by
    have hone : run h (do report (label x) (i + 1) total; step x) =
        run (reported h (label x) (i + 1) total) (step x) := by
      rw [run_bind]
      rfl
    have ih := eachRun_mapM hok herr xs (i + 1)
    rw [List.zipIdx_cons, List.mapM_cons]
    rcases hw : run (reported h (label x) (i + 1) total) (work x) with ⟨e | v, h₁⟩
    · rw [herr x _ e h₁ hw] at hone
      cases he : e.isTool
      · -- any other fault ends the phase at this item
        rw [run_bind, hone]
        simp only [he, Bool.false_eq_true, if_false]
        exact .stopped hw he
      · simp only [he, if_true] at hone
        rw [run_cons_of_ok hone]
        exact .failed hw he (ih h₁)
    · rw [hok x _ v h₁ hw] at hone
      rw [run_cons_of_ok hone]
      exact .succeeded hw (ih h₁)

theorem eachRun_eachReported
    (hok : ∀ x h v h', run h (work x) = (.ok v, h') → run h (step x) = (.ok (success x v), h'))
    (herr : ∀ x h e h', run h (work x) = (.error e, h') → run h (step x) =
      if e.isTool then (.ok { base x with errors := [e.message] }, h') else (.error e, h'))
    (xs : List α) (h : Host) :
    EachRun label xs.length work base success 1 xs h (run h (eachReported label xs step)).1
      (run h (eachReported label xs step)).2 :=
  eachRun_mapM hok herr xs 0 h

/-- The runs recorded while a phase works on its items: one for each item it reached, in order,
and so one for each item when the phase returns. -/
theorem EachRun.calls {inv : α → Command.Invocation} (hcall : ∀ x, AddsCall (inv x) (work x))
    {i : Nat} {xs : List α} {h h' : Host} {out : Except Fault (List ItemResult)}
    (hr : EachRun label total work base success i xs h out h') :
    ∃ ran, ran <+: xs ∧ (xs ≠ [] → ran ≠ []) ∧ h'.calls = h.calls ++ ran.map inv ∧
      ∀ rs, out = .ok rs → ran = xs := by
  induction hr with
  | nil => exact ⟨[], List.nil_prefix, fun h => h, by simp, fun _ _ => rfl⟩
  | @succeeded i x xs h h₁ h' v out hw _ ih =>
    obtain ⟨ran, hpre, -, hcalls, hall⟩ := ih
    have h₁calls := AddsCall.after_report (hcall x) hw
    refine ⟨x :: ran, List.cons_prefix_cons.2 ⟨rfl, hpre⟩, fun _ => List.cons_ne_nil _ _,
      by simp [hcalls, h₁calls], ?_⟩
    intro rs hrs
    cases out with
    | error => cases hrs
    | ok rs' => rw [hall rs' rfl]
  | @failed i x xs h h₁ h' e out hw _ _ ih =>
    obtain ⟨ran, hpre, -, hcalls, hall⟩ := ih
    have h₁calls := AddsCall.after_report (hcall x) hw
    refine ⟨x :: ran, List.cons_prefix_cons.2 ⟨rfl, hpre⟩, fun _ => List.cons_ne_nil _ _,
      by simp [hcalls, h₁calls], ?_⟩
    intro rs hrs
    cases out with
    | error => cases hrs
    | ok rs' => rw [hall rs' rfl]
  | @stopped i x xs h h₁ e hw _ =>
    have h₁calls := AddsCall.after_report (hcall x) hw
    exact ⟨[x], by simp, fun _ => List.cons_ne_nil _ _, by simp [h₁calls], fun _ hrs => by cases hrs⟩

end Loop

/-! ## Phases three and four -/

/-- A target for the samples. -/
def sampleTarget : Connection.Target := { server := "db", database := "shop" }

/-- The result phase three records for a script: named by its path below the script folder. -/
def scriptResult (o : Orchestrator) (p : Path) : ItemResult :=
  { name := o.scriptName p, kind := "script", path := some p }

/-- The result phase four records for a data file. -/
def loadResult (p : Path) : ItemResult := { name := p.name, kind := "load", path := some p }

/-- What phase three does with one script. -/
def applyStep (o : Orchestrator) (x : Apply.Applier) (p : Path) : HostM ItemResult := do
  match ← attempt (x.applyScript p) with
  | .error e => failedBy (scriptResult o p) e true
  | .ok _ => pure { scriptResult o p with success := true }

/-- What phase four does with one data file. -/
def loadStep (y : Load.Loader) (p : Path) : HostM ItemResult := do
  match ← attempt (y.loadFile p) with
  | .error e => failedBy (loadResult p) e true
  | .ok r => pure { loadResult p with rows := r.rows, success := true }

/-- Where an unreachable catalog counts as any tool error, exactly the tool errors are recorded
as failures. -/
theorem run_failedBy_passing (h : Host) (b : ItemResult) (e : Fault) :
    run h (failedBy b e true) =
      if e.isTool then (.ok { b with errors := [e.message] }, h) else (.error e, h) := by
  rw [run_failedBy]
  simp

theorem loadFile_addsCall (y : Load.Loader) (p : Path) :
    AddsCall ⟨y.program, y.args (Load.tableForFile p) p, y.timeout, none⟩ (y.loadFile p) :=
  (runChecked_addsCall _).bind fun _ => KeepsCalls.bind (KeepsCalls.lift _ _) fun _ => .pure _

theorem eachRun_applyStep (o : Orchestrator) (x : Apply.Applier) (ps : List Path) (h : Host) :
    EachRun (fun p => "Applying " ++ p.name) ps.length x.applyScript (scriptResult o)
      (fun p _ => { scriptResult o p with success := true }) 1 ps h
      (run h (eachReported (fun p => "Applying " ++ p.name) ps (applyStep o x))).1
      (run h (eachReported (fun p => "Applying " ++ p.name) ps (applyStep o x))).2 :=
  eachRun_eachReported
    (fun p h v h' hw => by rw [applyStep, run_bind, run_attempt, hw]; rfl)
    (fun p h e h' hw => by rw [applyStep, run_bind, run_attempt, hw]; exact run_failedBy_passing ..)
    ps h

theorem eachRun_loadStep (y : Load.Loader) (ps : List Path) (h : Host) :
    EachRun (fun p => "Processing " ++ p.render) ps.length y.loadFile loadResult
      (fun p r => { loadResult p with rows := r.rows, success := true }) 1 ps h
      (run h (eachReported (fun p => "Processing " ++ p.render) ps (loadStep y))).1
      (run h (eachReported (fun p => "Processing " ++ p.render) ps (loadStep y))).2 :=
  eachRun_eachReported
    (fun p h v h' hw => by rw [loadStep, run_bind, run_attempt, hw]; rfl)
    (fun p h e h' hw => by rw [loadStep, run_bind, run_attempt, hw]; exact run_failedBy_passing ..)
    ps h

theorem run_applySchema {o : Orchestrator} {x : Apply.Applier} (hx : o.applier = some x)
    {h h₁ : Host} {ps : List Path} (hps : run h o.layout.schemaScripts = (.ok ps, h₁)) :
    run h o.applySchema = ((fun rs => { phase := .applySchema, results := rs }) <$>
      (run h₁ (eachReported (fun p => "Applying " ++ p.name) ps (applyStep o x))).1,
      (run h₁ (eachReported (fun p => "Applying " ++ p.name) ps (applyStep o x))).2) := by
  have hreq : run h (require o.applier "schema applier" .applySchema) = (.ok x, h) := by
    rw [hx]
    rfl
  unfold applySchema
  rw [run_bind, hreq]
  dsimp only
  rw [run_bind, hps]
  dsimp only
  rw [run_bind]
  split
  all_goals
    rename_i heq
    rw [show run h₁ (eachReported (fun p => "Applying " ++ p.name) ps (applyStep o x)) = _ from heq]
    rfl

theorem run_loadData {o : Orchestrator} {y : Load.Loader} (hy : o.loader = some y)
    {h h₁ : Host} {ps : List Path} (hps : run h o.layout.dataFiles = (.ok ps, h₁)) :
    run h o.loadData = ((fun rs => { phase := .loadData, results := rs }) <$>
      (run h₁ (eachReported (fun p => "Processing " ++ p.render) ps (loadStep y))).1,
      (run h₁ (eachReported (fun p => "Processing " ++ p.render) ps (loadStep y))).2) := by
  have hreq : run h (require o.loader "loader" .loadData) = (.ok y, h) := by
    rw [hy]
    rfl
  unfold loadData
  rw [run_bind, hreq]
  dsimp only
  rw [run_bind, hps]
  dsimp only
  rw [run_bind]
  split
  all_goals
    rename_i heq
    rw [show run h₁ (eachReported (fun p => "Processing " ++ p.render) ps (loadStep y)) = _ from heq]
    rfl

/-- Phase three from host `h`, whose script folder is the directory `d`: the regular `.sql` files
below the folder, in strictly ascending order of their folder below it and then their name, are
applied one after another as `EachRun` says, one run of the applier each, as far as the phase
goes, and every one of them when it returns. -/
def AppliesInOrder (o : Orchestrator) (x : Apply.Applier) (h : Host) (d : List String) : Prop :=
  ∃ found : List (List String × String), found.Pairwise (fun a b => toLex a < toLex b) ∧
    (∀ rel n, (rel, n) ∈ found ↔ h.tree.FileEnding d ".sql" rel n) ∧
    ∃ out h', EachRun (fun p => "Applying " ++ p.name) found.length x.applyScript
        (scriptResult o) (fun p _ => { scriptResult o p with success := true }) 1
        (found.map o.layout.scriptAt) h out h' ∧
      run h o.applySchema = ((fun rs => { phase := .applySchema, results := rs }) <$> out, h') ∧
      ∃ ran, ran <+: found.map o.layout.scriptAt ∧
        h'.calls = h.calls ++ ran.map (fun p => ⟨x.program, x.args p, x.timeout, x.env⟩) ∧
        ∀ rs, out = .ok rs → ran = found.map o.layout.scriptAt

/-- Phase four from host `h`, whose data folder is the directory `d`: the regular files directly
in the folder whose names end in the extension, in strictly ascending order of name, are loaded
one after another as `EachRun` says, one run of the loader each, into the table the name stands
for, as far as the phase goes, and every one of them when it returns. -/
def LoadsInOrder (o : Orchestrator) (y : Load.Loader) (h : Host) (d : List String) : Prop :=
  ∃ names : List String, names.Pairwise (· < ·) ∧
    (∀ n, n ∈ names ↔ h.tree.FileEnding d ("." ++ o.layout.extension) [] n) ∧
    ∃ out h', EachRun (fun p => "Processing " ++ p.render) names.length y.loadFile loadResult
        (fun p r => { loadResult p with rows := r.rows, success := true }) 1
        (names.map o.layout.dataAt) h out h' ∧
      run h o.loadData = ((fun rs => { phase := .loadData, results := rs }) <$> out, h') ∧
      ∃ ran, ran <+: names.map o.layout.dataAt ∧
        h'.calls = h.calls ++
          ran.map (fun p => ⟨y.program, y.args (Load.tableForFile p) p, y.timeout, none⟩) ∧
        ∀ rs, out = .ok rs → ran = names.map o.layout.dataAt

section Phases

variable {o : Orchestrator} {h : Host} {d : List String}

theorem applySchema_inOrder {x : Apply.Applier} (hx : o.applier = some x) (ht : h.tree.Sound)
    (hd : h.tree.DirAt o.layout.scriptDir d) (hs : h.tree.ShortBelow o.layout.scriptDir d) :
    AppliesInOrder o x h d := by
  obtain ⟨found, hasc, hmem, hrun⟩ := Layout.run_schemaScripts_sorted ht hd hs
  have hloop := eachRun_applyStep o x (found.map o.layout.scriptAt) h
  rw [List.length_map] at hloop
  obtain ⟨ran, hpre, -, hcalls, hall⟩ := hloop.calls fun p => runChecked_addsCall _
  exact ⟨found, hasc, hmem, _, _, hloop, run_applySchema hx hrun, ran, hpre, hcalls, hall⟩

theorem loadData_inOrder {y : Load.Loader} (hy : o.loader = some y) (ht : h.tree.Sound)
    (hd : h.tree.DirAt o.layout.dataDir d) (hs : h.tree.ShortBelow o.layout.dataDir d)
    (he : ∀ c ∈ o.layout.extension.toList, c ≠ '*' ∧ c ≠ '?' ∧ c ≠ '[' ∧ c ≠ '/') :
    LoadsInOrder o y h d := by
  obtain ⟨names, hasc, hmem, hrun⟩ := Layout.run_dataFiles_sorted ht hd hs he
  have hloop := eachRun_loadStep y (names.map o.layout.dataAt) h
  rw [List.length_map] at hloop
  obtain ⟨ran, hpre, -, hcalls, hall⟩ := hloop.calls fun p => loadFile_addsCall y p
  exact ⟨names, hasc, hmem, _, _, hloop, run_loadData hy hrun, ran, hpre, hcalls, hall⟩

/-- The folders phases one and two write below the script folder come in the order the scripts
they hold are to run: every table script, then the check constraints, then the keys, then the
sequences. -/
theorem phaseFolders_ascending (r : List String) (n : String) :
    toLex ("1_Tables" :: r, n) < toLex (["2_Constraints"], "1_check_constraints.sql") ∧
    toLex (["2_Constraints"], "1_check_constraints.sql") <
      toLex (["2_Constraints"], "2_primary_foreign_unique_key.sql") ∧
    toLex (["2_Constraints"], "2_primary_foreign_unique_key.sql") <
      toLex (["3_Sequences"], "sequences.sql") := by
  refine ⟨?_, ?_, ?_⟩
  · rw [Prod.Lex.toLex_lt_toLex, List.cons_lt_cons_iff]
    exact .inl (.inl (by decide))
  · rw [Prod.Lex.toLex_lt_toLex]
    exact .inr ⟨rfl, by decide⟩
  · rw [Prod.Lex.toLex_lt_toLex, List.cons_lt_cons_iff]
    exact .inl (.inl (by decide))

/-- Both phases over the working directory of an empty tree, with the extension `csv`. -/
def emptyLayoutOrchestrator : Orchestrator :=
  { layout := ⟨⟨"", []⟩, ⟨"", []⟩, "csv"⟩, applier := some { target := sampleTarget },
    loader := some { target := sampleTarget } }

/-- A tree whose data folder holds only a folder `x.a`, with a file `b` in it. -/
def slashTree : FileTree :=
  ⟨[(["data"], .dir), (["data", "x.a"], .dir), (["data", "x.a", "b"], .file [49, 10])]⟩

/-- Phase four over `data` with the extension `a/b`. -/
def slashOrchestrator : Orchestrator :=
  { layout := ⟨⟨"", ["scripts"]⟩, ⟨"", ["data"]⟩, "a/b"⟩, loader := some { target := sampleTarget } }

open FileTree in
/-- The pattern `*.a/b` is read as two components, so the data listing descends into `x.a`. -/
theorem run_dataFiles_slashed :
    run { tree := slashTree } slashOrchestrator.layout.dataFiles =
      (.ok [⟨"", ["data", "x.a", "b"]⟩], { tree := slashTree }) := by
  have hb : ("b" : String).splitOn "**" = [String.Pos.Raw.extract (String.ofList ([] ++ ['b'])) 0
      ⟨String.utf8Len ([] ++ ['b'])⟩] := by
    rw [String.splitOn, if_neg (by decide)]
    exact splitOnAux_stars_rest ['b'] [] [] (by decide)
  have hsplit : ("*.a/b" : String).splitOn "/" = ["*.a", "b"] := by
    rw [show "/" = String.singleton '/' from rfl, splitOn_singleton]
    decide
  have hend : ("*.a/b" : String).endsWith "/" = false := by
    rw [← String.endsWith_toSlice, String.Slice.endsWith_string_eq_false_iff]
    simp
    decide
  have hstars : ("*.a" : String).splitOn "**" = ["*.a"] := splitOn_stars (by decide : '*' ∉ ['a'])
  have hparts : patternParts ("*." ++ "a/b") = .ok ["*.a", "b"] := by
    rw [show "*." ++ "a/b" = "*.a/b" from rfl]
    simp [patternParts, Path.componentsOf, hsplit, hend, hstars, hb]
  -- the folder `x.a` matches `*.a`, and `b` is looked up inside it
  have hselect : slashTree.select 7 ["*.a", "b"] ⟨"", ["data"]⟩ = .ok [⟨"", ["data", "x.a", "b"]⟩] := by
    have hw : hasWildcard "*.a" = true := hasWildcard_star_dot "a"
    have hw' : hasWildcard "b" = false := by simp [hasWildcard, String.contains_char_eq]
    have hm : nameMatches "*.a" "x.a" = true :=
      (nameMatches_star_dot (e := "a") (by simp) "x.a").2 (by decide)
    have hres : slashTree.resolve ⟨"", ["data"]⟩ = .ok (.child [] "data") := rfl
    have hex : slashTree.exists? ⟨"", ["data", "x.a", "b"]⟩ = pure true := rfl
    simp [select, hw, hw', hm, hres, hex, Place.loc,
      show slashTree.children ["data"] = [("x.a", .dir)] from rfl]
  have hdir : slashTree.isDir? ⟨"", ["data"]⟩ = .ok true := rfl
  have hglob : slashTree.glob ⟨"", ["data"]⟩ ("*." ++ "a/b") =
      .ok (.ok [⟨"", ["data", "x.a", "b"]⟩]) := by
    unfold glob
    rw [hparts]
    simp only [hdir, bind, Except.bind, if_true]
    exact congrArg Except.ok hselect
  unfold Layout.dataFiles
  rw [run_bind, run_isDir?]
  erw [hdir]
  dsimp only
  rw [if_pos rfl, run_bind, run_tree]
  dsimp only
  erw [hglob]
  rw [run_bind]
  dsimp only [Layout.listed]
  rw [run_pure]
  dsimp only
  rw [run_bind, Layout.run_filterM_isFile (g := fun _ => true) fun q hq => by simp at hq; subst hq; rfl]
  dsimp only
  rw [run_pure, List.filter_cons_of_pos rfl, List.filter_nil, List.mergeSort_singleton]

end Phases

end Migration

end SqlMigration
