import SqlMigration.Cli.Run
import SqlMigration.Proofs.PhaseTwo

/-!
# How a run of the program ends

A run that read its command line runs the phases of its subcommand and returns a code: 0 when
every object of every report succeeded, 1 when one failed (`exitCode_eq_zero_iff`,
`exitCode_eq_one_iff`), and 2, with the fault's message, when the command was aborted by one of
the tool's errors or an invalid value. Any other fault, such as a system error the tool does not
wrap, is not caught: the run ends with it.

Building the collaborators stops only with faults that abort the command and changes nothing
(`build_stops`, `build_treeOnly`), and so does phase two on a database whose rows are well
formed; so the export of the constraint scripts always returns a code.

Main statement: `runInvocation_exit`.
-/

namespace SqlMigration

open HostM Migration

/-! ## Operations that only read the host -/

namespace HostM

variable {α : Type}

theorem TreeOnly.lift {ε : Type} (r : Except ε α) (f : ε → Fault) : TreeOnly (HostM.lift r f) := by
  cases r <;> exact fun h => ⟨h.tree, rfl⟩

theorem TreeOnly.get : TreeOnly (get : HostM Host) := fun h => ⟨h.tree, rfl⟩

theorem TreeOnly.map {β : Type} {m : HostM α} (hm : TreeOnly m) (f : α → β) :
    TreeOnly (f <$> m) := by
  rw [map_eq_pure_bind]
  exact hm.bind fun _ => .pure _

theorem StopsWith.map {β : Type} {P : Fault → Prop} {m : HostM α} (hm : StopsWith P m)
    (f : α → β) : StopsWith P (f <$> m) := by
  rw [map_eq_pure_bind]
  exact hm.bind fun _ => .pure _

/-- Taking the result of a step stops only with the faults its errors are turned into. -/
theorem StopsWith.lift_of {ε : Type} {P : Fault → Prop} {r : Except ε α} {f : ε → Fault}
    (hr : ∀ e, r = .error e → P (f e)) : StopsWith P (HostM.lift r f) := by
  cases r with
  | error e => exact .throw (hr e rfl)
  | ok a => exact .pure a

end HostM

/-! ## Codes and faults -/

namespace Migration

/-- A phase report is fine exactly when each of its results succeeded. -/
theorem PhaseReport.ok_iff (r : PhaseReport) :
    r.ok = true ↔ ∀ x ∈ r.results, x.success = true := by
  simp [PhaseReport.ok, PhaseReport.failed, List.filter_eq_nil_iff]

end Migration

namespace Cli

theorem all_ok_iff (reports : List PhaseReport) :
    reports.all (·.ok) = true ↔ ∀ rep ∈ reports, ∀ x ∈ rep.results, x.success = true := by
  simp only [List.all_eq_true, PhaseReport.ok_iff]

theorem exitCode_eq_zero_iff (reports : List PhaseReport) :
    exitCode reports = 0 ↔ ∀ rep ∈ reports, ∀ x ∈ rep.results, x.success = true := by
  rw [← all_ok_iff]
  unfold exitCode
  split <;> simp_all

theorem exitCode_eq_one_iff (reports : List PhaseReport) :
    exitCode reports = 1 ↔ ∃ rep ∈ reports, ∃ x ∈ rep.results, x.success = false := by
  have hsome : (∃ rep ∈ reports, ∃ x ∈ rep.results, x.success = false) ↔
      ¬ ∀ rep ∈ reports, ∀ x ∈ rep.results, x.success = true := by
    simp
  rw [hsome, ← all_ok_iff]
  unfold exitCode
  split <;> simp_all

/-- Every tool error aborts the command. -/
theorem abortsCommand_of_isTool {e : Fault} (he : e.isTool = true) : Fault.abortsCommand e = true := by
  cases e <;> first | rfl | cases he

/-- A run that read its command line: the code of its reports when its phases finished; code 2
and the fault's message when they stopped with a fault that aborts the command; any other fault
ends the run. -/
theorem run_runInvocation (i : Invocation) (h : Host) :
    HostM.run h (runInvocation i) = match HostM.run h (work i) with
      | (.ok reports, h') =>
        (.ok { exit := .returned (exitCode reports), stdout := reportText reports }, h')
      | (.error e, h') =>
        if Fault.abortsCommand e then
          (.ok { exit := .returned 2, stderr := "ERROR: " ++ e.message ++ "\n" }, h')
        else (.error e, h') := by
  unfold runInvocation
  rw [run_bind, run_tryCatch, run_map]
  rcases HostM.run h (work i) with ⟨e | reports, h'⟩
  · dsimp only
    cases Fault.abortsCommand e <;> rfl
  · rfl

/-! ## Wiring the collaborators -/

theorem password_treeOnly (given : Option String) (name : String) :
    TreeOnly (password given name) := by
  unfold password
  split
  · exact .pure _
  · exact TreeOnly.get.bind fun _ => .pure _

theorem password_stops (P : Fault → Prop) (given : Option String) (name : String) :
    StopsWith P (password given name) := by
  intro h e h' hr
  unfold password at hr
  split at hr
  · cases hr
  · cases hr

theorem sourceOf_treeOnly (s : Settings) : TreeOnly (sourceOf s) :=
  (password_treeOnly _ _).bind fun _ => TreeOnly.lift _ _

theorem targetOf_treeOnly (s : Settings) : TreeOnly (targetOf s) := by
  unfold targetOf
  dsimp only
  split
  · exact (TreeOnly.pure _).bind fun _ => TreeOnly.lift _ _
  · exact (password_treeOnly _ _).bind fun _ => TreeOnly.lift _ _

theorem sourceOf_stops (s : Settings) : StopsWith (Fault.abortsCommand · = true) (sourceOf s) :=
  (password_stops _ _ _).bind fun _ => .lift _ fun _ => rfl

theorem targetOf_stops (s : Settings) : StopsWith (Fault.abortsCommand · = true) (targetOf s) := by
  unfold targetOf
  dsimp only
  split
  · exact (StopsWith.pure _).bind fun _ => .lift _ fun _ => rfl
  · exact (password_stops _ _ _).bind fun _ => .lift _ fun _ => rfl

/-- Building the collaborators changes nothing. -/
theorem build_treeOnly (s : Settings) (phases : List Phase) : TreeOnly (build s phases) := by
  unfold build
  dsimp only
  -- the target part is copied into each branch of the source part, and done once for all
  split
  case' isTrue =>
    refine (sourceOf_treeOnly s).bind fun _ => ?_
    split
    case' isTrue => refine ((TreeOnly.lift _ _).map _).bind fun _ => (TreeOnly.pure _).bind fun _ => ?_
    case' isFalse => refine (TreeOnly.pure _).bind fun _ => (TreeOnly.pure _).bind fun _ => ?_
  case' isFalse => refine (TreeOnly.pure _).bind fun _ => ?_
  all_goals
    split
    · exact (targetOf_treeOnly s).bind fun _ => (TreeOnly.lift _ _).bind fun _ => .pure _
    · exact .pure _

/-- Building the collaborators stops only with a fault that aborts the command: settings that do
not validate, a delimiter that is not supported, a batch size below one. -/
theorem build_stops (s : Settings) (phases : List Phase) :
    StopsWith (Fault.abortsCommand · = true) (build s phases) := by
  have hexporter : ∀ src d t, StopsWith (Fault.abortsCommand · = true)
      (some <$> HostM.lift (Export.Exporter.make src "psql" d t) id) := by
    intro src d t
    refine StopsWith.map (.lift_of fun e he => ?_) _
    unfold Export.Exporter.make at he
    split at he <;> cases he
    rfl
  have hloader : ∀ tgt d b t, StopsWith (Fault.abortsCommand · = true)
      (HostM.lift (Load.Loader.make tgt "bcp" d b t) id) := by
    intro tgt d b t
    refine .lift_of fun e he => ?_
    unfold Load.Loader.make at he
    split at he
    · cases he
      rfl
    · split at he <;> cases he
      rfl
  unfold build
  dsimp only
  -- the target part is copied into each branch of the source part, and done once for all
  split
  case' isTrue =>
    refine (sourceOf_stops s).bind fun _ => ?_
    split
    case' isTrue => refine (hexporter _ _ _).bind fun _ => (StopsWith.pure _).bind fun _ => ?_
    case' isFalse => refine (StopsWith.pure _).bind fun _ => (StopsWith.pure _).bind fun _ => ?_
  case' isFalse => refine (StopsWith.pure _).bind fun _ => ?_
  all_goals
    split
    · exact (targetOf_stops s).bind fun _ => (hloader _ _ _ _).bind fun _ => .pure _
    · exact .pure _

/-- The collaborators built for phase two include the catalog reader. -/
theorem build_catalog (s : Settings) {phases : List Phase}
    (hp : phases.contains .exportConstraints = true) :
    Returns (fun o => o.catalog.isSome = true) (build s phases) := by
  unfold build
  dsimp only
  split
  case' isTrue =>
    refine (Returns.any _).bind fun _ _ => ?_
    split
    case' isTrue =>
      refine (Returns.any _).bind fun _ _ =>
        (Returns.pure (P := fun o => o.catalog.isSome = true) rfl).bind fun _ hws => ?_
    case' isFalse =>
      refine (Returns.any _).bind fun _ _ =>
        (Returns.pure (P := fun o => o.catalog.isSome = true) rfl).bind fun _ hws => ?_
  case' isFalse =>
    -- without the source part there is no phase two
    rename_i hsource
    exact absurd (.inr hp) hsource
  all_goals
    split
    · exact (Returns.any _).bind fun _ _ => (Returns.any _).bind fun _ _ => .pure hws
    · exact .pure hws

theorem checkLevel_stops (level : String) :
    StopsWith (Fault.abortsCommand · = true) (checkLevel level) := by
  unfold checkLevel
  split
  · exact .pure _
  · exact .throw rfl

theorem checkLogLevel_stops (s : Settings) :
    StopsWith (Fault.abortsCommand · = true) (checkLogLevel s) := by
  unfold checkLogLevel
  split
  · split
    · exact .pure _
    · exact checkLevel_stops _
  · exact .pure _

theorem checkLogLevel_treeOnly (s : Settings) : TreeOnly (checkLogLevel s) := by
  unfold checkLogLevel checkLevel
  split
  · split
    · exact .pure _
    · split
      · exact .pure _
      · exact .throw _
  · exact .pure _

/-! ## The export of the constraint scripts -/

/-- The export of the constraint scripts runs phase two alone, or nothing when the mode leaves
out the schema. -/
theorem run_constraintsCommand (o : Orchestrator) (mode : Mode) :
    o.run [.exportConstraints] mode = [Phase.exportConstraints].mapM (o.runPhase mode) ∨
      o.run [.exportConstraints] mode = ([] : List Phase).mapM (o.runPhase mode) := by
  cases mode
  · exact .inl rfl
  · exact .inl rfl
  · exact .inr rfl

/-- On a database whose rows are well formed, the export of the constraint scripts stops only
with faults that abort the command. -/
theorem work_constraints_stops {i : Invocation} (hc : i.command = .exportConstraints) {h : Host}
    (hwf : h.database.WellFormed) {e : Fault} {h' : Host}
    (hr : HostM.run h (work i) = (.error e, h')) : Fault.abortsCommand e = true := by
  unfold work at hr
  rw [hc, run_bind] at hr
  dsimp only [Command.phases] at hr
  -- checking the log level and building the collaborators change nothing
  obtain ⟨t₁, ht₁⟩ := checkLogLevel_treeOnly i.settings h
  rcases h₁r : HostM.run h (checkLogLevel i.settings) with ⟨e₁ | _, h₁⟩ <;>
    rw [h₁r] at hr ht₁ <;> dsimp only at hr ht₁
  · cases hr
    exact checkLogLevel_stops _ h _ _ h₁r
  rw [run_bind] at hr
  obtain ⟨t₂, ht₂⟩ := build_treeOnly i.settings [.exportConstraints] h₁
  rcases h₂r : HostM.run h₁ (build i.settings [.exportConstraints]) with ⟨e₂ | o, h₂⟩ <;>
    rw [h₂r] at hr ht₂ <;> dsimp only at hr ht₂
  · cases hr
    exact build_stops _ _ h₁ _ _ h₂r
  obtain ⟨x, hx⟩ := Option.isSome_iff_exists.1 (build_catalog i.settings rfl h₁ o h₂ h₂r)
  have hwf₂ : h₂.database.WellFormed := by
    rw [ht₂, ht₁]
    exact hwf
  rcases run_constraintsCommand o i.settings.mode with hrun | hrun <;> rw [hrun] at hr
  · rw [List.mapM_cons, run_bind] at hr
    rcases h₃r : HostM.run h₂ (o.runPhase i.settings.mode .exportConstraints) with ⟨e₃ | r, h₃⟩ <;>
      rw [h₃r] at hr
    · cases hr
      exact abortsCommand_of_isTool (exportConstraints_stops hx hwf₂ h₃r)
    · cases hr
  · cases hr

/-- How a run that read its command line ends. When its phases finish it returns a code, 0
exactly when every object of every report succeeded and 1 exactly when one failed. When they
stop with a fault that aborts the command it returns 2 with the fault's message; when they stop
with any other fault, the run ends with that fault. The export of the constraint scripts, on a
database whose rows are well formed, always returns a code. -/
theorem runInvocation_exit (i : Invocation) (h : Host) :
    (match HostM.run h (work i) with
      | (.ok reports, h') => ∃ c, HostM.run h (runInvocation i) =
          (.ok { exit := .returned c, stdout := reportText reports }, h') ∧
          (c = 0 ↔ ∀ rep ∈ reports, ∀ x ∈ rep.results, x.success = true) ∧
          (c = 1 ↔ ∃ rep ∈ reports, ∃ x ∈ rep.results, x.success = false)
      | (.error e, h') =>
          (Fault.abortsCommand e = true → HostM.run h (runInvocation i) =
            (.ok { exit := .returned 2, stderr := "ERROR: " ++ e.message ++ "\n" }, h')) ∧
          (Fault.abortsCommand e = false → HostM.run h (runInvocation i) = (.error e, h'))) ∧
    (i.command = .exportConstraints → h.database.WellFormed →
      ∃ f, (HostM.run h (runInvocation i)).1 = .ok f) := by
  rw [run_runInvocation]
  refine ⟨?_, fun hc hwf => ?_⟩
  · rcases HostM.run h (work i) with ⟨e | reports, h'⟩
    · dsimp only
      refine ⟨fun ha => by rw [if_pos ha], fun ha => ?_⟩
      rw [if_neg (by simp [ha])]
    · exact ⟨_, rfl, exitCode_eq_zero_iff reports, exitCode_eq_one_iff reports⟩
  · rcases hw : HostM.run h (work i) with ⟨e | reports, h'⟩
    · dsimp only
      rw [if_pos (work_constraints_stops hc hwf hw)]
      exact ⟨_, rfl⟩
    · exact ⟨_, rfl⟩

theorem runInvocation_exit_constraints :
    (⟨.exportConstraints, {}⟩ : Invocation).command = .exportConstraints ∧
    ({} : Host).database.WellFormed ∧
    ∃ f, (HostM.run {} (runInvocation ⟨.exportConstraints, {}⟩)).1 = .ok f := by
  have hwf : ({} : Host).database.WellFormed :=
    ⟨fun _ hr => (List.not_mem_nil hr).elim, fun _ hr => (List.not_mem_nil hr).elim,
      fun _ hr => (List.not_mem_nil hr).elim⟩
  exact ⟨rfl, hwf, (runInvocation_exit _ _).2 rfl hwf⟩

end Cli

end SqlMigration
