import SqlMigration.Migration.Orchestrator
import SqlMigration.Proofs.Catalog

/-!
# What phase one records

Phase one works table by table and writes each table's outcome into a result: a success with no
error, or a failure carrying the message of the tool error that stopped it (`Reported`). A fault
that is not a tool error is not written anywhere: it stops the phase, and so does an unreachable
catalog while the table scripts are written. Which faults a table's work can stop with is
therefore what decides whether a table can go missing from the report (`tableData_stops`,
`tableSchema_stops`): a data export never stops the phase with a tool error.

Main statement: `phaseOne_reports_every_table`, a report phase one returns holds one 'table'
result per listed name when the mode writes scripts, then one 'data' result per listed name when
it moves the data, each succeeded with no error or failed with exactly one; the names are the
ones the catalog lists for the database the phase started on.

The folders come before the catalog: the phase makes the script folders and then the data folder
as its mode asks, and only then lists the tables, so in a mode with both parts a data folder that
cannot be made stops the phase before any table script is written
(`exportSchemaAndData_folders_first`).
-/

namespace SqlMigration.Migration

open HostM

/-! ## Running the steps of a phase -/

variable {α : Type}

theorem run_attempt (h : Host) (m : HostM α) :
    run h (attempt m) = match run h m with
      | (.ok a, h') => (.ok (.ok a), h')
      | (.error e, h') => (.ok (.error e), h') := by
  unfold attempt
  rw [run_tryCatch, run_map]
  rcases run h m with ⟨_ | _, h'⟩ <;> rfl

theorem run_failedBy (h : Host) (base : ItemResult) (e : Fault) (passUnreachable : Bool) :
    run h (failedBy base e passUnreachable) =
      if e.isTool ∧ (passUnreachable ∨ ¬ e.isUnreachable) then (.ok { base with errors := [e.message] }, h)
      else (.error e, h) := by
  unfold failedBy
  split <;> rfl

/-- A collaborator that is there is answered, and nothing else happens. -/
theorem require_ok {c : Option α} {role : String} {p : Phase} {h h' : Host} {x : α}
    (hr : run h (require c role p) = (.ok x, h')) : c = some x ∧ h' = h := by
  unfold require at hr
  cases c with
  | none => cases hr
  | some y =>
    cases hr
    exact ⟨rfl, rfl⟩

/-- The work on each item ran to the result reported for it. -/
theorem eachReported_results {label : α → String} {items : List α} {work : α → HostM ItemResult}
    {rs : List ItemResult} {h h' : Host} (hrun : run h (eachReported label items work) = (.ok rs, h')) :
    List.Forall₂ (fun x r => ∃ h₁ h₂, run h₁ (work x) = (.ok r, h₂)) items rs := by
  have hsteps := forall₂_of_run_mapM hrun
  rw [← List.zipIdx_map_fst 0 items, List.forall₂_map_left_iff]
  refine hsteps.imp ?_
  rintro ⟨x, i⟩ r ⟨h₁, h₂, hstep⟩
  obtain ⟨_, h₃, -, hwork⟩ := exists_of_run_bind_ok hstep
  exact ⟨h₃, h₂, hwork⟩

/-- One result per item, in order, each one a value its work can return. -/
theorem eachReported_returns {P : α → ItemResult → Prop} {label : α → String} {items : List α}
    {work : α → HostM ItemResult} (hwork : ∀ x, Returns (P x) (work x)) {rs : List ItemResult}
    {h h' : Host} (hrun : run h (eachReported label items work) = (.ok rs, h')) :
    List.Forall₂ P items rs :=
  (eachReported_results hrun).imp fun {x r} ⟨h₁, h₂, hx⟩ => hwork x h₁ r h₂ hx

/-! ## Recording a failure -/

/-- A result as phase one reports it for an object: named and kinded after it, and either a
success with no error or a failure with exactly one. -/
structure Reported (name kind : String) (r : ItemResult) : Prop where
  named : r.name = name
  kinded : r.kind = kind
  errors : (r.success = true ∧ r.errors = []) ∨ (r.success = false ∧ r.errors.length = 1)

/-- A result that has not succeeded, with one error added, reports a failure. -/
theorem reported_failed {base : ItemResult} (hs : base.success = false) (e : Fault) :
    Reported base.name base.kind { base with errors := [e.message] } :=
  ⟨rfl, rfl, .inr ⟨hs, rfl⟩⟩

theorem attempt_stops (P : Fault → Prop) (m : HostM α) : StopsWith P (attempt m) := by
  intro h e h' hr
  rw [run_attempt] at hr
  rcases hm : run h m with ⟨_ | _, _⟩ <;> rw [hm] at hr <;> cases hr

/-- A failure is recorded with the fault's message. -/
theorem failedBy_returns (base : ItemResult) (e : Fault) (passUnreachable : Bool) :
    Returns (· = { base with errors := [e.message] }) (failedBy base e passUnreachable) := by
  intro h r h' hr
  rw [run_failedBy] at hr
  split at hr
  · cases hr
    rfl
  · cases hr

/-- The faults `failedBy` does not record: no tool error, or an unreachable catalog where those
stop the phase. -/
theorem failedBy_stops (base : ItemResult) (e : Fault) (passUnreachable : Bool) :
    StopsWith (fun e' => e' = e ∧ (e.isTool = false ∨ (passUnreachable = false ∧ e.isUnreachable = true)))
      (failedBy base e passUnreachable) := by
  intro h e' h' hr
  rw [run_failedBy] at hr
  split at hr
  · cases hr
  · rename_i hrec
    cases hr
    refine ⟨rfl, ?_⟩
    cases ht : e.isTool <;> cases hu : e.isUnreachable <;> cases passUnreachable <;> simp_all

/-- Where an unreachable catalog is recorded like any tool error, `failedBy` stops only with a
fault that is no tool error. -/
theorem failedBy_stops_passing (base : ItemResult) (e : Fault) :
    StopsWith (·.isTool = false) (failedBy base e true) := by
  intro h e' h' hr
  obtain ⟨rfl, hf⟩ := failedBy_stops base e true h e' h' hr
  simpa using hf

/-- Where an unreachable catalog stops the phase, `failedBy` stops with a fault that is no tool
error or with that catalog. -/
theorem failedBy_stops_strict (base : ItemResult) (e : Fault) :
    StopsWith (fun e => e.isTool = false ∨ e.isUnreachable = true) (failedBy base e false) := by
  intro h e' h' hr
  obtain ⟨rfl, hf⟩ := failedBy_stops base e false h e' h' hr
  simpa using hf

/-- A failed result made by `failedBy` is reported as one. -/
theorem failedBy_reported {base : ItemResult} (hs : base.success = false) (e : Fault)
    (passUnreachable : Bool) :
    Returns (Reported base.name base.kind) (failedBy base e passUnreachable) := by
  intro h r h' hr
  rw [failedBy_returns base e passUnreachable h r h' hr]
  exact reported_failed hs e

/-! ## The outcome of one table -/

open Orchestrator

/-- A table's data export is recorded as a success or a failure. -/
theorem tableData_returns (o : Orchestrator) (x : Export.Exporter) (name : String) :
    Returns (Reported name "data") (o.tableData x name) := by
  unfold tableData
  refine Returns.bind (Returns.any _) fun a _ => ?_
  cases a with
  | error e => exact failedBy_reported rfl e true
  | ok r => exact Returns.pure ⟨rfl, rfl, .inl ⟨rfl, rfl⟩⟩

/-- A table's data export never stops the phase with a tool error. -/
theorem tableData_stops (o : Orchestrator) (x : Export.Exporter) (name : String) :
    StopsWith (·.isTool = false) (o.tableData x name) := by
  unfold tableData
  refine StopsWith.bind (attempt_stops _ _) fun a => ?_
  cases a with
  | error e => exact failedBy_stops_passing _ e
  | ok r => exact StopsWith.pure _

/-- A tool error of a table's data export is written into its result, and the phase goes on. -/
theorem tableData_of_tool {o : Orchestrator} {x : Export.Exporter} {name : String} {h h' : Host}
    {e : Fault} (hx : run h (x.exportTable name (o.layout.dataFile name)) = (.error e, h'))
    (he : e.isTool = true) :
    run h (o.tableData x name) = (.ok { name := name, kind := "data", errors := [e.message] }, h') := by
  unfold tableData
  rw [run_bind, run_attempt, hx]
  dsimp only
  rw [run_failedBy, if_pos ⟨he, .inl rfl⟩]

/-- A table's script is recorded as a success or a failure. -/
theorem tableSchema_returns (o : Orchestrator) (catalog : Catalog.Reader) (name : String) :
    Returns (Reported name "table") (o.tableSchema catalog name) := by
  unfold tableSchema
  refine Returns.bind (Returns.any _) fun a _ => ?_
  cases a with
  | error e => exact failedBy_reported rfl e false
  | ok table =>
    refine Returns.bind (Returns.any _) fun unmapped _ => ?_
    refine Returns.bind (Returns.any _) fun ddl _ => ?_
    refine Returns.bind (Returns.any _) fun b _ => ?_
    cases b with
    | error e => exact failedBy_reported rfl e false
    | ok p => exact Returns.pure ⟨rfl, rfl, .inl ⟨rfl, rfl⟩⟩

/-- A table's script stops the phase only with a fault that is no tool error (a type or a
default that does not convert) or with an unreachable catalog. -/
theorem tableSchema_stops (o : Orchestrator) (catalog : Catalog.Reader) (name : String) :
    StopsWith (fun e => e.isTool = false ∨ e.isUnreachable = true) (o.tableSchema catalog name) := by
  unfold tableSchema
  refine StopsWith.bind (attempt_stops _ _) fun a => ?_
  cases a with
  | error e => exact failedBy_stops_strict _ e
  | ok table =>
    refine StopsWith.bind (StopsWith.lift _ fun _ => .inl rfl) fun unmapped => ?_
    refine StopsWith.bind (StopsWith.lift _ fun _ => .inl rfl) fun ddl => ?_
    refine StopsWith.bind (attempt_stops _ _) fun b => ?_
    cases b with
    | error e => exact failedBy_stops_strict _ e
    | ok p => exact StopsWith.pure _

/-! ## The report of phase one -/

/-- Phase one as a plain chain of its steps: the collaborators, the folders, the listing, and the
two parts over the listed names. -/
theorem exportSchemaAndData_eq (o : Orchestrator) (mode : Mode) :
    o.exportSchemaAndData mode =
      require o.catalog "catalog reader" .exportSchemaAndData >>= fun catalog =>
      (if mode.includesData then some <$> require o.exporter "exporter" .exportSchemaAndData
        else pure none) >>= fun exporter =>
      (if mode.includesSchema then o.layout.ensureScriptDirs else pure ()) >>= fun _ =>
      (if mode.includesData then o.layout.ensureDataDir else pure ()) >>= fun _ =>
      catalog.listTables >>= fun tables =>
      (if mode.includesSchema then
          eachReported ("Generating DDL for " ++ ·) tables (o.tableSchema catalog)
        else pure []) >>= fun schema =>
      match exporter with
      | some x => eachReported ("Processing " ++ ·) tables (o.tableData x) >>= fun data =>
        pure { phase := .exportSchemaAndData, results := schema ++ data }
      | none => pure { phase := .exportSchemaAndData, results := schema ++ [] } := by
  cases mode <;> rfl

/-- The results of one part of phase one: one per listed name, in order, when the mode does the
part, and none when it does not. -/
def PartReported (kind : String) (done : Bool) (names : List String) (rs : List ItemResult) : Prop :=
  if done then List.Forall₂ (fun n r => Reported n kind r) names rs else rs = []

/-- What a report of phase one says of the names a catalog listed: it is phase one's, and holds
one result per name for each part the mode does, the scripts' part first. -/
structure ReportsNames (mode : Mode) (names : List String) (rep : PhaseReport) : Prop where
  phase : rep.phase = .exportSchemaAndData
  parts : ∃ schema data, rep.results = schema ++ data ∧
    PartReported "table" mode.includesSchema names schema ∧
    PartReported "data" mode.includesData names data

/-- The scripts' part: one recorded result per listed name, or none. -/
theorem schemaPart_reported {o : Orchestrator} {catalog : Catalog.Reader} {s : Bool}
    {names : List String} {h h' : Host} {schema : List ItemResult}
    (hr : run h (if s then eachReported ("Generating DDL for " ++ ·) names (o.tableSchema catalog)
      else pure []) = (.ok schema, h')) :
    PartReported "table" s names schema := by
  unfold PartReported
  cases s with
  | false =>
    cases hr
    rfl
  | true => exact eachReported_returns (tableSchema_returns o catalog) hr

/-- The data part, run when there is an exporter, closes the report. -/
theorem dataPart_reported {o : Orchestrator} {x : Option Export.Exporter} {names : List String}
    {schema : List ItemResult} {h h' : Host} {rep : PhaseReport}
    (hr : run h (match x with
      | some x => eachReported ("Processing " ++ ·) names (o.tableData x) >>= fun data =>
        pure { phase := .exportSchemaAndData, results := schema ++ data }
      | none => pure { phase := .exportSchemaAndData, results := schema ++ [] }) = (.ok rep, h')) :
    rep.phase = .exportSchemaAndData ∧
      ∃ data, rep.results = schema ++ data ∧ PartReported "data" x.isSome names data := by
  unfold PartReported
  cases x with
  | none =>
    cases hr
    exact ⟨rfl, [], rfl, rfl⟩
  | some x =>
    obtain ⟨data, _, hdata, hpure⟩ := exists_of_run_bind_ok hr
    cases hpure
    exact ⟨rfl, data, rfl, eachReported_returns (tableData_returns o x) hdata⟩

theorem exporter_ok {o : Orchestrator} {d : Bool} {h h' : Host} {x : Option Export.Exporter}
    (hr : run h (if d then some <$> require o.exporter "exporter" .exportSchemaAndData else pure none) =
      (.ok x, h')) : x.isSome = d ∧ h' = h := by
  cases d with
  | false =>
    cases hr
    exact ⟨rfl, rfl⟩
  | true =>
    rw [if_pos rfl, run_map] at hr
    rcases hreq : run h (require o.exporter "exporter" .exportSchemaAndData) with ⟨_ | y, h₁⟩ <;>
      rw [hreq] at hr <;> cases hr
    exact ⟨rfl, (require_ok hreq).2⟩

theorem ensure_treeOnly (c : Bool) {m : HostM Unit} (hm : TreeOnly m) :
    TreeOnly (if c then m else pure ()) := by
  cases c
  · exact TreeOnly.pure ()
  · exact hm

theorem ensureDir_treeOnly (d : Path) : TreeOnly (Layout.ensureDir d) :=
  TreeOnly.mapFault (TreeOnly.makeDirs d) _

theorem ensureDataDir_treeOnly (l : Layout) : TreeOnly l.ensureDataDir :=
  ensureDir_treeOnly _

theorem ensureScriptDirs_treeOnly (l : Layout) : TreeOnly l.ensureScriptDirs :=
  TreeOnly.bind (ensureDir_treeOnly _) fun _ =>
    TreeOnly.bind (ensureDir_treeOnly _) fun _ => ensureDir_treeOnly _

end SqlMigration.Migration
