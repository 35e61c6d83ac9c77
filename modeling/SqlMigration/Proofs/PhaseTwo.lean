import SqlMigration.Proofs.PhaseOne
import SqlMigration.Proofs.Artifacts
import SqlMigration.Proofs.ConstraintRows

/-!
# Phase two, step by step

Phase two writes three scripts, each from one catalog query: the check constraints, the key
constraints and the sequences. Each step opens a connection of its own and sends its one query.
A refused connection stops the phase at once; a failing query, or a script that cannot be
written, is recorded in the step's result and the next step runs.

`StepDone` says what one step does from the host it starts on, and `StepsRun` chains the steps
in order, each after its progress report. Main statement: `exportConstraints_steps`, on a
database whose rows are well formed phase two either stops because a script folder cannot be
created, having changed nothing but the tree, or creates the folders and runs its three steps as
`StepsRun` says.
-/

namespace SqlMigration.Migration

open HostM Catalog FileTree Orchestrator

/-! ## The script paths -/

/-- A script path: a name other than `..` below a folder, whose temporary sibling is the name
with `.tmp` added. -/
def ScriptPath (p : Path) : Prop :=
  ∃ r ps n, p = ⟨r, ps ++ [n]⟩ ∧ n ≠ ".." ∧
    p.withSuffix (p.suffix ++ ".tmp") = .ok ⟨r, ps ++ [n ++ ".tmp"]⟩

/-- A name that reads as one component, joined to a folder, is a script path in that folder. -/
theorem scriptPath_join (d : Path) {n : String} (hn : Path.ofString n = ⟨"", [n]⟩)
    (hdots : n ≠ "..")
    (htmp : ∀ r ps,
      (⟨r, ps ++ [n]⟩ : Path).withSuffix ((⟨r, ps ++ [n]⟩ : Path).suffix ++ ".tmp") =
        .ok ⟨r, ps ++ [n ++ ".tmp"]⟩) :
    ScriptPath (d / n) ∧ (d / n).parent = d := by
  have hjoin : d / n = ⟨d.root, d.parts ++ [n]⟩ := by
    show Path.join d n = _
    simp [Path.join, hn]
  rw [hjoin]
  exact ⟨⟨d.root, d.parts, n, rfl, hdots, htmp _ _⟩, by simp [Path.parent]⟩

-- `String.splitOn` is well founded, so a literal is split one character at a time
theorem ofString_checksName :
    Path.ofString "1_check_constraints.sql" = ⟨"", ["1_check_constraints.sql"]⟩ := by
  have hsplit : "1_check_constraints.sql".splitOn "/" = ["1_check_constraints.sql"] := by
    unfold String.splitOn
    simp only [show ("/" == "") = false from rfl, Bool.false_eq_true, ↓reduceIte]
    iterate 24 (rw [String.splitOnAux]; simp +decide only [↓reduceIte])
  simp only [Path.ofString, Path.componentsOf, hsplit]
  decide

theorem ofString_keysName :
    Path.ofString "2_primary_foreign_unique_key.sql" =
      ⟨"", ["2_primary_foreign_unique_key.sql"]⟩ := by
  have hsplit : "2_primary_foreign_unique_key.sql".splitOn "/" =
      ["2_primary_foreign_unique_key.sql"] := by
    unfold String.splitOn
    simp only [show ("/" == "") = false from rfl, Bool.false_eq_true, ↓reduceIte]
    iterate 33 (rw [String.splitOnAux]; simp +decide only [↓reduceIte])
  simp only [Path.ofString, Path.componentsOf, hsplit]
  decide

theorem ofString_sequencesName :
    Path.ofString "sequences.sql" = ⟨"", ["sequences.sql"]⟩ := by
  have hsplit : "sequences.sql".splitOn "/" = ["sequences.sql"] := by
    unfold String.splitOn
    simp only [show ("/" == "") = false from rfl, Bool.false_eq_true, ↓reduceIte]
    iterate 14 (rw [String.splitOnAux]; simp +decide only [↓reduceIte])
  simp only [Path.ofString, Path.componentsOf, hsplit]
  decide

theorem checksScript_path (l : Layout) :
    ScriptPath l.checksScript ∧ l.checksScript.parent = l.constraintsDir :=
  scriptPath_join _ ofString_checksName (by decide) fun r ps => by
    simp [Path.withSuffix, Path.suffix, Path.suffixOf, Path.name, Path.lastDot]
    decide

theorem keysScript_path (l : Layout) :
    ScriptPath l.keysScript ∧ l.keysScript.parent = l.constraintsDir :=
  scriptPath_join _ ofString_keysName (by decide) fun r ps => by
    simp [Path.withSuffix, Path.suffix, Path.suffixOf, Path.name, Path.lastDot]
    decide

theorem sequencesScript_path (l : Layout) :
    ScriptPath l.sequencesScript ∧ l.sequencesScript.parent = l.sequencesDir :=
  scriptPath_join _ ofString_sequencesName (by decide) fun r ps => by
    simp [Path.withSuffix, Path.suffix, Path.suffixOf, Path.name, Path.lastDot]
    decide

/-- Writing a script into a folder that exists either succeeds, the script then holding its text
with the final line feed, or fails with a write error naming the script, which then reads what
it read before. Only the tree changes, and every folder is kept. -/
theorem writeScript_cases {p : Path} (hp : ScriptPath p) {h : Host}
    (hD : h.tree.isDir? p.parent = .ok true) (text : String) :
    (∃ t, run h (Layout.writeScript p text) = (.ok p, { h with tree := t }) ∧
      DirsKept h.tree t ∧ t.readFile p = .ok (Text.Utf8.encode (scriptPayload text))) ∨
    (∃ oe t, run h (Layout.writeScript p text) =
        (.error (.tool (.fileSystem (.cannotWrite p oe))), { h with tree := t }) ∧
      DirsKept h.tree t ∧ t.readFile p = h.tree.readFile p) := by
  obtain ⟨r, ps, n, rfl, hn, htmp⟩ := hp
  have hD' : h.tree.isDir? ⟨r, ps⟩ = .ok true := by simpa [Path.parent] using hD
  rcases hw : run h (Layout.writeScript ⟨r, ps ++ [n]⟩ text) with ⟨_ | q, h'⟩
  · obtain ⟨⟨oe, rfl⟩, hh', hdirs, hread⟩ := Layout.writeScript_error htmp hD' hn hw
    exact .inr ⟨oe, h'.tree, congrArg (Prod.mk _) hh', hdirs, hread⟩
  · obtain ⟨rfl, hh', hdirs, hread⟩ := Layout.writeScript_ok htmp hD' hn hw
    exact .inl ⟨h'.tree, congrArg (Prod.mk _) hh', hdirs, hread⟩

/-! ## What one step does -/

/-- A script of phase two as its outcome depends on it: its label and file, the catalog query it
is made from, and how the query's rows render. -/
structure ScriptSpec where
  label : String
  path : Path
  query : Query
  render : List Row → Except DatumError String

/-- The scripts of phase two, in order. -/
def Orchestrator.scriptSpecs (o : Orchestrator) : List ScriptSpec :=
  [⟨"check constraints", o.layout.checksScript, .checks,
      fun rows => Ddl.renderChecks (rows.map checkOfRow) o.targetSchema⟩,
   ⟨"keys", o.layout.keysScript, .constraints,
      fun rows => Ddl.renderConstraints (rows.map constraintOfRow) o.targetSchema⟩,
   ⟨"sequences", o.layout.sequencesScript, .sequences,
      fun rows => Ddl.renderSequences (rows.map sequenceOfRow) o.targetSchema⟩]

namespace ScriptSpec

/-- The result of a step that wrote its script. -/
def written (s : ScriptSpec) : ItemResult :=
  { name := s.path.name, kind := s.label, path := some s.path, success := true }

/-- The result of a step that failed with a tool error. -/
def failed (s : ScriptSpec) (e : ToolError) : ItemResult :=
  { name := s.path.name, kind := s.label, errors := [(Fault.tool e).message] }

/-- What the database records of a step whose connection was accepted. -/
def events (src : Connection.Source) (s : ScriptSpec) : List DbEvent :=
  [.connect (connectParams src), .query s.query.name s.query.params]

end ScriptSpec

/-- What one step of phase two does from the host it starts on. It opens one connection; when
that is refused the step stops the phase and the tree is as it was. Otherwise it sends its query:
a failing query is recorded and writes nothing, and the rows of an answered query are rendered
and the script written, its file then holding the text with its final line feed, or reading what
it read before when the write fails. No folder is removed. -/
inductive StepDone (src : Connection.Source) (s : ScriptSpec) (h : Host) :
    Except Fault ItemResult → Host → Prop
  | refused {db : SourceDatabase} {reason : String} (hc : h.database.connect = (db, some reason)) :
      StepDone src s h (.error (.tool (.catalog (.unreachable src.display reason))))
        { h with database := db, events := h.events ++ [.connect (connectParams src)] }
  | queryFailed {db : SourceDatabase} {reason : String} (hc : h.database.connect = (db, none))
      (hq : db.answer s.query = .error reason) :
      StepDone src s h (.ok (s.failed (.catalog (.queryFailed reason))))
        { h with database := db, events := h.events ++ s.events src }
  | written {db : SourceDatabase} {rows : List Row} {text : String} {t : FileTree}
      (hc : h.database.connect = (db, none)) (hq : db.answer s.query = .ok rows)
      (hr : s.render rows = .ok text) (hdirs : DirsKept h.tree t)
      (hfile : t.readFile s.path = .ok (Text.Utf8.encode (scriptPayload text))) :
      StepDone src s h (.ok s.written)
        { h with tree := t, database := db, events := h.events ++ s.events src }
  | notWritten {db : SourceDatabase} {rows : List Row} {text : String} {oe : OsError}
      {t : FileTree} (hc : h.database.connect = (db, none)) (hq : db.answer s.query = .ok rows)
      (hr : s.render rows = .ok text) (hdirs : DirsKept h.tree t)
      (hfile : t.readFile s.path = h.tree.readFile s.path) :
      StepDone src s h (.ok (s.failed (.fileSystem (.cannotWrite s.path oe))))
        { h with tree := t, database := db, events := h.events ++ s.events src }

namespace StepDone

variable {src : Connection.Source} {s : ScriptSpec} {h h' : Host} {r : Except Fault ItemResult}

/-- A step only counts its connection in the database. -/
theorem database (hs : StepDone src s h r h') : h'.database = h.database.connect.1 := by
  cases hs with
  | refused hc | queryFailed hc | written hc | notWritten hc => rw [hc]

theorem dirsKept (hs : StepDone src s h r h') : DirsKept h.tree h'.tree := by
  cases hs with
  | refused | queryFailed => exact DirsKept.refl _
  | written _ _ _ hdirs | notWritten _ _ _ hdirs => exact hdirs

end StepDone

/-! ## The steps of the orchestrator -/

/-- A step of the orchestrator that does what a script spec says: the same label and file, a
rendering that runs the spec's query and renders its rows, rows of a well-formed database that
always render, and a file written through a temporary sibling. -/
structure Implements (src : Connection.Source) (st : ScriptStep) (s : ScriptSpec) : Prop where
  label : st.label = s.label
  path : st.path = s.path
  renders : ∀ h : Host, h.database.WellFormed → run h st.render =
    match run h (runQuery src s.query) with
    | (.ok rows, h') => ((s.render rows).mapError .datum, h')
    | (.error e, h') => (.error e, h')
  total : ∀ db : SourceDatabase, db.WellFormed → ∃ text, s.render (db.rows s.query) = .ok text
  script : ScriptPath s.path

/-- Rendering what a listing read: the listing's query, then the rendering of its descriptors. -/
theorem run_renderListed {β : Type} {list : HostM (List β)} {of : Row → β}
    {R : List β → Except DatumError String} {src : Connection.Source} {q : Query} {h : Host}
    (hlist : run h list = match run h (runQuery src q) with
      | (.ok rows, h') => (.ok (rows.map of), h')
      | (.error e, h') => (.error e, h')) :
    run h (do HostM.lift (R (← list)) .datum) = match run h (runQuery src q) with
      | (.ok rows, h') => ((R (rows.map of)).mapError .datum, h')
      | (.error e, h') => (.error e, h') := by
  rw [run_bind, hlist]
  rcases run h (runQuery src q) with ⟨_ | rows, h'⟩
  · rfl
  · dsimp only
    cases R (rows.map of) <;> rfl

/-- The orchestrator's three steps are the three scripts of phase two. -/
theorem constraintSteps_implement (o : Orchestrator) (x : Catalog.Reader) :
    List.Forall₂ (Implements x.source) (o.constraintSteps x) o.scriptSpecs := by
  refine .cons ⟨rfl, rfl, fun h hwf => run_renderListed (run_listChecks x h hwf),
    fun db hwf => (hwf.renders o.targetSchema).1, (checksScript_path o.layout).1⟩ <|
    .cons ⟨rfl, rfl, fun h hwf => run_renderListed (run_listConstraints x h hwf),
      fun db hwf => (hwf.renders o.targetSchema).2.1, (keysScript_path o.layout).1⟩ <|
    .cons ⟨rfl, rfl, fun h hwf => run_renderListed (run_listSequences x h hwf),
      fun db hwf => (hwf.renders o.targetSchema).2.2, (sequencesScript_path o.layout).1⟩ .nil

/-- A step run from a host with well-formed rows and the script's folder in place does what its
spec says. -/
theorem writeStep_done {src : Connection.Source} {st : ScriptStep} {s : ScriptSpec}
    (hi : Implements src st s) {h : Host} (hwf : h.database.WellFormed)
    (hD : h.tree.isDir? s.path.parent = .ok true) :
    StepDone src s h (run h (writeStep st)).1 (run h (writeStep st)).2 := by
  have hbase : ({ name := st.path.name, kind := st.label } : ItemResult) =
      { name := s.path.name, kind := s.label } := by rw [hi.label, hi.path]
  unfold writeStep
  rw [run_bind, run_attempt, run_bind, hi.renders h hwf, run_runQuery, hbase]
  rcases hc : h.database.connect with ⟨db, _ | reason⟩
  · -- the connection is accepted: the query answers or fails
    dsimp only
    cases hq : db.answer s.query with
    | error reason =>
      dsimp only
      rw [run_failedBy, if_pos (by simp [Fault.isTool, Fault.isUnreachable])]
      exact .queryFailed hc hq
    | ok rows =>
      have hdb : db.WellFormed := by
        have := hwf.connect
        rwa [hc] at this
      obtain ⟨text, htext⟩ := hi.total db hdb
      rw [← SourceDatabase.answer_ok hq] at htext
      dsimp only
      rw [htext, hi.path,
        show [DbEvent.connect (connectParams src), .query s.query.name s.query.params] =
          s.events src from rfl]
      dsimp only [Except.mapError]
      rcases writeScript_cases hi.script
          (h := { h with database := db, events := h.events ++ s.events src }) hD text with
        ⟨t, hw, hdirs, hfile⟩ | ⟨oe, t, hw, hdirs, hfile⟩
      · rw [hw]
        exact .written hc hq htext hdirs hfile
      · rw [hw]
        dsimp only
        rw [run_failedBy, if_pos (by simp [Fault.isTool, Fault.isUnreachable])]
        exact .notWritten hc hq htext hdirs hfile
  · -- a refused connection is no failure of the step: it stops the phase
    dsimp only
    rw [run_failedBy, if_neg (by simp [Fault.isTool, Fault.isUnreachable])]
    exact .refused hc

/-! ## The steps in order -/

/-- The host after a step's progress report. -/
def reportStep (h : Host) (label : String) (i total : Nat) : Host :=
  { h with progress := h.progress ++ [("Exporting " ++ label, i, total)] }

/-- The steps of phase two run in order, the `i`-th of `total` reported before it runs: a step
that stops ends the run with its fault, and otherwise the run returns the steps' results in
order. -/
inductive StepsRun (src : Connection.Source) (total : Nat) :
    Nat → List ScriptSpec → Host → Except Fault (List ItemResult) → Host → Prop
  | nil {i : Nat} {h : Host} : StepsRun src total i [] h (.ok []) h
  | stop {i : Nat} {s : ScriptSpec} {ss : List ScriptSpec} {h h' : Host} {e : Fault}
      (hs : StepDone src s (reportStep h s.label i total) (.error e) h') :
      StepsRun src total i (s :: ss) h (.error e) h'
  | next {i : Nat} {s : ScriptSpec} {ss : List ScriptSpec} {h h₁ h' : Host} {r : ItemResult}
      {out : Except Fault (List ItemResult)}
      (hs : StepDone src s (reportStep h s.label i total) (.ok r) h₁)
      (hrest : StepsRun src total (i + 1) ss h₁ out h') :
      StepsRun src total i (s :: ss) h ((r :: ·) <$> out) h'

/-- Hosts the remaining steps can start on: well-formed rows, and the folder of every script in
place. -/
def Ready (ss : List ScriptSpec) (h : Host) : Prop :=
  h.database.WellFormed ∧ ∀ s ∈ ss, h.tree.isDir? s.path.parent = .ok true

/-- A step that returns leaves the host ready for the steps after it. -/
theorem Ready.next {src : Connection.Source} {s : ScriptSpec} {ss : List ScriptSpec} {h h' : Host}
    {label : String} {i total : Nat} {r : ItemResult} (hr : Ready (s :: ss) h)
    (hs : StepDone src s (reportStep h label i total) (.ok r) h') : Ready ss h' := by
  refine ⟨?_, fun s' hs' => isDir?_of_dirs hs.dirsKept (hr.2 s' (List.mem_cons_of_mem _ hs'))⟩
  rw [hs.database]
  exact hr.1.connect

/-- Each step, reported and then run, does what its spec says, in order. -/
theorem stepsRun_mapM {src : Connection.Source} (total : Nat) :
    ∀ {sts : List ScriptStep} {ss : List ScriptSpec}, List.Forall₂ (Implements src) sts ss →
      ∀ (i : Nat) (h : Host), Ready ss h →
      StepsRun src total (i + 1) ss h
        (run h ((sts.zipIdx i).mapM fun (st, k) => do
          report ("Exporting " ++ st.label) (k + 1) total
          writeStep st)).1
        (run h ((sts.zipIdx i).mapM fun (st, k) => do
          report ("Exporting " ++ st.label) (k + 1) total
          writeStep st)).2
  | _, _, .nil, _, _, _ => .nil
  | st :: sts, s :: ss, .cons hi hrest, i, h, hready => by
    have hstart : Ready (s :: ss) (reportStep h s.label (i + 1) total) := hready
    have hdone := writeStep_done hi hstart.1 (hstart.2 s (List.mem_cons_self))
    have hreport : run h (report ("Exporting " ++ s.label) (i + 1) total) =
        (.ok (), reportStep h s.label (i + 1) total) := rfl
    rw [List.zipIdx_cons, List.mapM_cons, run_bind, run_bind, hi.label, hreport]
    dsimp only
    rcases hw : run (reportStep h s.label (i + 1) total) (writeStep st) with ⟨_ | r, h₁⟩
    · rw [hw] at hdone
      exact .stop hdone
    · rw [hw] at hdone
      dsimp only at hdone ⊢
      have ih := stepsRun_mapM total hrest (i + 1) h₁ (hready.next hdone)
      rw [run_bind]
      rcases hm : run h₁ (List.mapM (fun x => do
          report ("Exporting " ++ x.fst.label) (x.snd + 1) total
          writeStep x.fst) (sts.zipIdx (i + 1))) with ⟨_ | rs, h'⟩
      all_goals
        rw [hm] at ih
        exact .next hdone ih

/-- The three steps run one after the other as `StepsRun` says, from any host where they can
start. -/
theorem stepsRun_constraintScripts (o : Orchestrator) (x : Catalog.Reader) {h : Host}
    (hready : Ready o.scriptSpecs h) :
    StepsRun x.source 3 1 o.scriptSpecs h (run h (o.writeConstraintScripts x)).1
      (run h (o.writeConstraintScripts x)).2 :=
  stepsRun_mapM 3 (constraintSteps_implement o x) 0 h hready

/-- A run that stops at a step stops where that step's connection was refused. -/
theorem StepsRun.unreachable_of_error {src : Connection.Source} {total i : Nat}
    {ss : List ScriptSpec} {h h' : Host} {e : Fault} (hs : StepsRun src total i ss h (.error e) h') :
    ∃ reason, e = .tool (.catalog (.unreachable src.display reason)) := by
  generalize hout : (Except.error e : Except Fault (List ItemResult)) = out at hs
  induction hs with
  | nil => cases hout
  | stop hstep =>
    cases hout
    cases hstep with
    | refused _ => exact ⟨_, rfl⟩
  | @next _ _ _ _ _ _ r out _ _ ih =>
    -- the results so far only pass the fault of the rest through
    cases out with
    | error e' =>
      cases hout
      exact ih rfl
    | ok rs => cases hout

/-- Phase two with its catalog reader: the script folders, then the three steps. -/
theorem run_exportConstraints {o : Orchestrator} {x : Catalog.Reader} (hx : o.catalog = some x)
    (h : Host) :
    run h o.exportConstraints = match run h o.layout.ensureScriptDirs with
      | (.ok (), h₁) =>
        ((fun rs => { phase := .exportConstraints, results := rs }) <$>
          (run h₁ (o.writeConstraintScripts x)).1, (run h₁ (o.writeConstraintScripts x)).2)
      | (.error e, h₁) => (.error e, h₁) := by
  have hreq : run h (require o.catalog "catalog reader" .exportConstraints) = (.ok x, h) := by
    rw [hx]
    rfl
  unfold exportConstraints
  rw [run_bind, hreq]
  dsimp only
  rw [run_bind]
  rcases run h o.layout.ensureScriptDirs with ⟨_ | ⟨⟩, h₁⟩
  · rfl
  · dsimp only
    rw [run_bind]
    rcases run h₁ (o.writeConstraintScripts x) with ⟨_ | rs, h'⟩ <;> rfl

/-- Phase two's scripts can all be written once the constraint and sequence folders are in
place. -/
theorem scriptSpecs_ready {o : Orchestrator} {h : Host} (hwf : h.database.WellFormed)
    (hcon : h.tree.isDir? o.layout.constraintsDir = .ok true)
    (hseq : h.tree.isDir? o.layout.sequencesDir = .ok true) : Ready o.scriptSpecs h := by
  refine ⟨hwf, fun s hs => ?_⟩
  simp only [scriptSpecs, List.mem_cons, List.not_mem_nil, or_false] at hs
  rcases hs with rfl | rfl | rfl
  · rw [(checksScript_path o.layout).2]
    exact hcon
  · rw [(keysScript_path o.layout).2]
    exact hcon
  · rw [(sequencesScript_path o.layout).2]
    exact hseq

/-- Phase two on a database whose rows are well formed: either a script folder cannot be
created, and the phase stops with that error having changed nothing but the tree, so before any
connection; or the three folders are created, keeping every folder there was, and the phase runs
its three steps in order from there as `StepsRun` says, reporting their results. -/
theorem exportConstraints_steps {o : Orchestrator} {x : Catalog.Reader} (hx : o.catalog = some x)
    {h : Host} (hwf : h.database.WellFormed) :
    (∃ d oe t, run h o.exportConstraints =
      (.error (.tool (.fileSystem (.cannotCreate d oe))), { h with tree := t })) ∨
    ∃ t, DirsKept h.tree t ∧ t.isDir? o.layout.tablesDir = .ok true ∧
      t.isDir? o.layout.constraintsDir = .ok true ∧ t.isDir? o.layout.sequencesDir = .ok true ∧
      ∃ out h', StepsRun x.source 3 1 o.scriptSpecs { h with tree := t } out h' ∧
        run h o.exportConstraints =
          ((fun rs => { phase := .exportConstraints, results := rs }) <$> out, h') := by
  rw [run_exportConstraints hx]
  obtain ⟨t, ht⟩ := ensureScriptDirs_treeOnly o.layout h
  rcases hd : run h o.layout.ensureScriptDirs with ⟨_ | _, h₁⟩ <;> rw [hd] at ht <;>
    dsimp only at ht <;> subst ht
  · -- a folder that cannot be created stops the phase
    obtain ⟨d, oe, rfl⟩ := Layout.ensureScriptDirs_stops o.layout h _ _ hd
    exact .inl ⟨d, oe, t, rfl⟩
  · obtain ⟨hdirs, htab, hcon, hseq⟩ := Layout.ensureScriptDirs_ok hd
    exact .inr ⟨t, hdirs, htab, hcon, hseq, _, _,
      stepsRun_constraintScripts o x (scriptSpecs_ready (h := { h with tree := t }) hwf hcon hseq),
      rfl⟩

/-- On a database whose rows are well formed, phase two stops only with a tool error: a script
folder that cannot be created, or a refused connection. -/
theorem exportConstraints_stops {o : Orchestrator} {x : Catalog.Reader} (hx : o.catalog = some x)
    {h : Host} (hwf : h.database.WellFormed) {e : Fault} {h' : Host}
    (hr : run h o.exportConstraints = (.error e, h')) : e.isTool = true := by
  rw [run_exportConstraints hx] at hr
  obtain ⟨t, ht⟩ := ensureScriptDirs_treeOnly o.layout h
  rcases hd : run h o.layout.ensureScriptDirs with ⟨_ | _, h₁⟩ <;> rw [hd] at ht hr <;>
    dsimp only at ht hr <;> subst ht
  · cases hr
    obtain ⟨d, oe, rfl⟩ := Layout.ensureScriptDirs_stops o.layout h _ _ hd
    rfl
  · obtain ⟨-, -, hcon, hseq⟩ := Layout.ensureScriptDirs_ok hd
    have hsteps :=
      stepsRun_constraintScripts o x (scriptSpecs_ready (h := { h with tree := t }) hwf hcon hseq)
    rcases hw : run { h with tree := t } (o.writeConstraintScripts x) with ⟨_ | rs, h₂⟩ <;>
      rw [hw] at hr hsteps <;> cases hr
    obtain ⟨reason, rfl⟩ := hsteps.unreachable_of_error
    rfl

/-- A source whose catalog holds one check constraint. -/
def oneCheckHost : Host :=
  { database := { checks := [[("table_schema", .text "public"), ("table_name", .text "t"),
      ("constraint_name", .text "t_x_check"), ("check_clause", .text "(x > 0)")]] } }

/-- A source on the local host. -/
def localSource : Connection.Source := { host := "localhost", database := "shop", user := "admin" }

/-- A catalog reader of the local source, with scripts under `scripts`. -/
def sampleOrchestrator : Orchestrator :=
  { catalog := some ⟨localSource⟩
    layout := ⟨⟨"", ["scripts"]⟩, ⟨"", ["data"]⟩, "csv"⟩ }

theorem exportConstraints_steps_oneCheck :
    sampleOrchestrator.catalog = some ⟨localSource⟩ ∧
    oneCheckHost.database.WellFormed ∧
    ((∃ d oe t, run oneCheckHost sampleOrchestrator.exportConstraints =
      (.error (.tool (.fileSystem (.cannotCreate d oe))), { oneCheckHost with tree := t })) ∨
    ∃ t, DirsKept oneCheckHost.tree t ∧
      t.isDir? sampleOrchestrator.layout.tablesDir = .ok true ∧
      t.isDir? sampleOrchestrator.layout.constraintsDir = .ok true ∧
      t.isDir? sampleOrchestrator.layout.sequencesDir = .ok true ∧
      ∃ out h',
        StepsRun localSource 3 1 sampleOrchestrator.scriptSpecs { oneCheckHost with tree := t } out
          h' ∧
        run oneCheckHost sampleOrchestrator.exportConstraints =
          ((fun rs => { phase := .exportConstraints, results := rs }) <$> out, h')) := by
  have hwf : oneCheckHost.database.WellFormed := by
    refine ⟨fun r hr => (List.not_mem_nil hr).elim, fun r hr => ?_,
      fun r hr => (List.not_mem_nil hr).elim⟩
    dsimp only [oneCheckHost] at hr
    rw [List.mem_singleton] at hr
    subst hr
    exact ⟨⟨_, rfl⟩, ⟨_, rfl⟩, ⟨_, rfl⟩, rfl⟩
  exact ⟨rfl, hwf, exportConstraints_steps rfl hwf⟩

end SqlMigration.Migration
