import SqlMigration.Ddl.Render
import SqlMigration.Proofs.Catalog
import SqlMigration.Proofs.Sorting

/-!
# Well-formed constraint, check and sequence rows

The catalog's rows are loosely typed, and the reader turns them into descriptors field by field:
a missing field, a value that does not convert or a type name that is no text stops it. Rows as
the catalog really gives them are well formed: names are texts, a key constraint's code is one
of the five codes, a sequence's numbers convert to integers and its type is a text or empty.

For such rows the reader returns the descriptors `checkOfRow`, `constraintOfRow` and
`sequenceOfRow` of its rows, in order, and never stops (`run_listChecks`, `run_listConstraints`,
`run_listSequences`), and rendering the descriptors never fails: names that are texts can be
quoted, and sort keys made of texts and truth values can be compared (`renderChecks_ok`,
`renderConstraints_ok`, `renderSequences_ok`). Together: the rows of a well-formed database are
read and rendered in full (`SourceDatabase.WellFormed.renders`).
-/

namespace SqlMigration.Catalog

open HostM

/-! ## Rows and their descriptors -/

/-- The value of a row's field, `null` when the row has none. -/
def Row.get (r : Row) (k : String) : Datum := (r.lookup k).getD .null

/-- A field that holds a text. -/
def Row.HasText (r : Row) (k : String) : Prop := ∃ s, r.lookup k = some (.text s)

/-- A field that holds a value with an integer. -/
def Row.HasInt (r : Row) (k : String) : Prop := ∃ d n, r.lookup k = some d ∧ d.toInt = .ok n

/-- The integer of a value, 0 for one without. -/
def intOf (d : Datum) : Int :=
  match d.toInt with
  | .ok n => n
  | .error _ => 0

/-- The check constraint a row of the checks query describes. -/
def checkOfRow (r : Row) : CheckConstraint :=
  ⟨r.get "table_schema", r.get "table_name", r.get "constraint_name", r.get "check_clause"⟩

/-- The kind a constraint code names, primary key for a value that names none. -/
def kindOf : Datum → ConstraintKind
  | .text c => (ConstraintKind.ofCode? c).getD .primaryKey
  | _ => .primaryKey

/-- The key constraint a row of the constraints query describes. -/
def constraintOfRow (r : Row) : Constraint :=
  ⟨r.get "namespace", r.get "table_name", r.get "conname", kindOf (r.get "contype"),
    r.get "definition"⟩

/-- The sequence a row of the sequences query describes. -/
def sequenceOfRow (r : Row) : Sequence where
  schema := r.get "schemaname"
  name := r.get "sequencename"
  start := intOf (r.get "start_value")
  increment := intOf (r.get "increment_by")
  minValue := intOf (r.get "min_value")
  maxValue := intOf (r.get "max_value")
  cycle := (r.get "cycle").truthy
  lastValue := match r.get "last_value" with
    | .null => none
    | v => some (intOf v)
  dataType := match sequenceUdt (r.get "data_type") with
    | .ok s => s
    | .error _ => "int8"

/-- A well-formed row of the checks query. -/
structure CheckRow (r : Row) : Prop where
  schema : r.HasText "table_schema"
  table : r.HasText "table_name"
  name : r.HasText "constraint_name"
  clause : (r.lookup "check_clause").isSome

/-- A well-formed row of the constraints query: its code names a kind. -/
structure KeyRow (r : Row) : Prop where
  schema : r.HasText "namespace"
  table : r.HasText "table_name"
  name : r.HasText "conname"
  kind : ∃ k : ConstraintKind, r.lookup "contype" = some (.text k.code)
  definition : (r.lookup "definition").isSome

/-- A well-formed row of the sequences query: its type is given by a text or by nothing, and its
numbers convert to integers. -/
structure SequenceRow (r : Row) : Prop where
  schema : r.HasText "schemaname"
  name : r.HasText "sequencename"
  dataType : ∃ d s, r.lookup "data_type" = some d ∧ sequenceUdt d = .ok s
  start : r.HasInt "start_value"
  increment : r.HasInt "increment_by"
  minValue : r.HasInt "min_value"
  maxValue : r.HasInt "max_value"
  cycle : (r.lookup "cycle").isSome
  lastValue : r.lookup "last_value" = some .null ∨ r.HasInt "last_value"

/-- A source database whose key constraint, check constraint and sequence rows are well formed. -/
structure SourceDatabase.WellFormed (db : SourceDatabase) : Prop where
  constraints : ∀ r ∈ db.constraints, KeyRow r
  checks : ∀ r ∈ db.checks, CheckRow r
  sequences : ∀ r ∈ db.sequences, SequenceRow r

/-- Connecting only counts the connection. -/
theorem SourceDatabase.connect_fst (db : SourceDatabase) :
    db.connect.1 = { db with connections := db.connections + 1 } := by
  unfold SourceDatabase.connect
  dsimp only
  split
  · split <;> rfl
  · rfl

/-- Connecting keeps the rows well formed. -/
theorem SourceDatabase.WellFormed.connect {db : SourceDatabase} (h : db.WellFormed) :
    db.connect.1.WellFormed := by
  rw [SourceDatabase.connect_fst]
  exact ⟨h.constraints, h.checks, h.sequences⟩

/-- A query that answers gives the rows the database holds for it. -/
theorem SourceDatabase.answer_ok {db : SourceDatabase} {q : Query} {rows : List Row}
    (h : db.answer q = .ok rows) : rows = db.rows q := by
  unfold SourceDatabase.answer at h
  dsimp only at h
  -- whatever failure the query is given, only its absence answers rows
  split at h
  · cases h
  · cases h
    rfl

theorem ofCode?_code (k : ConstraintKind) : ConstraintKind.ofCode? k.code = some k := by
  cases k <;> rfl

/-! ## Reading well-formed rows -/

theorem run_field_of {h : Host} {r : Row} {k : String} {d : Datum} (hk : r.lookup k = some d) :
    run h (field r k) = (.ok d, h) := by
  rw [run_field, hk]

theorem get_of {r : Row} {k : String} {d : Datum} (hk : r.lookup k = some d) : r.get k = d := by
  simp [Row.get, hk]

theorem run_intField_of {h : Host} {r : Row} {k : String} (hk : r.HasInt k) :
    run h (intField r k) = (.ok (intOf (r.get k)), h) := by
  obtain ⟨d, n, hd, hn⟩ := hk
  unfold intField
  rw [run_bind, run_field_of hd]
  dsimp only
  rw [hn, run_lift_ok, get_of hd, intOf, hn]

/-- A traversal whose every step returns a value of its element, and changes nothing, returns
their list. -/
theorem run_mapM_of {β γ : Type} {f : β → HostM γ} {g : β → γ} {h : Host} :
    ∀ {l : List β}, (∀ x ∈ l, run h (f x) = (.ok (g x), h)) →
      run h (l.mapM f) = (.ok (l.map g), h)
  | [], _ => rfl
  | x :: l, hf => by
    rw [List.mapM_cons, run_bind, hf x (by simp)]
    dsimp only
    rw [run_bind, run_mapM_of (fun y hy => hf y (by simp [hy]))]
    rfl

/-- Reading the rows of a query that answered: each becomes its descriptor. -/
theorem run_readQuery {β : Type} {h : Host} {src : Connection.Source} {q : Query}
    {read : Row → HostM β} {ofRow : Row → β} :
    (∀ rows, h.database.connect.1.answer q = .ok rows → ∀ r ∈ rows, ∀ h',
      run h' (read r) = (.ok (ofRow r), h')) →
    run h (do let rows ← runQuery src q; rows.mapM read) = match run h (runQuery src q) with
      | (.ok rows, h') => (.ok (rows.map ofRow), h')
      | (.error e, h') => (.error e, h') := by
  intro hread
  rw [run_bind, run_runQuery]
  rcases hc : h.database.connect with ⟨db, _ | reason⟩
  · dsimp only
    cases ha : db.answer q with
    | error reason => rfl
    | ok rows =>
      dsimp only
      refine run_mapM_of fun r hr => hread rows (by rw [hc]; exact ha) r hr _
  · rfl

/-- The check constraints of well-formed rows are read in full, one per row. -/
theorem run_listChecks (x : Reader) (h : Host) (hwf : h.database.WellFormed) :
    run h x.listChecks = match run h (runQuery x.source .checks) with
      | (.ok rows, h') => (.ok (rows.map checkOfRow), h')
      | (.error e, h') => (.error e, h') := by
  refine run_readQuery fun rows hrows r hr h' => ?_
  rw [SourceDatabase.answer_ok hrows] at hr
  have hrow := hwf.connect.checks r hr
  obtain ⟨s, hs⟩ := hrow.schema
  obtain ⟨t, ht⟩ := hrow.table
  obtain ⟨n, hn⟩ := hrow.name
  obtain ⟨c, hc⟩ := Option.isSome_iff_exists.1 hrow.clause
  simp only [run_bind, run_field_of hs, run_field_of ht, run_field_of hn, run_field_of hc]
  simp [checkOfRow, get_of hs, get_of ht, get_of hn, get_of hc, run_pure]

/-- The key constraints of well-formed rows are read in full, one per row. -/
theorem run_listConstraints (x : Reader) (h : Host) (hwf : h.database.WellFormed) :
    run h x.listConstraints = match run h (runQuery x.source .constraints) with
      | (.ok rows, h') => (.ok (rows.map constraintOfRow), h')
      | (.error e, h') => (.error e, h') := by
  refine run_readQuery fun rows hrows r hr h' => ?_
  rw [SourceDatabase.answer_ok hrows] at hr
  have hrow := hwf.connect.constraints r hr
  obtain ⟨s, hs⟩ := hrow.schema
  obtain ⟨t, ht⟩ := hrow.table
  obtain ⟨n, hn⟩ := hrow.name
  obtain ⟨k, hk⟩ := hrow.kind
  obtain ⟨d, hd⟩ := Option.isSome_iff_exists.1 hrow.definition
  simp only [run_bind, run_field_of hs, run_field_of ht, run_field_of hn, run_field_of hk,
    ofCode?_code, run_field_of hd]
  simp [constraintOfRow, kindOf, get_of hs, get_of ht, get_of hn, get_of hk, get_of hd,
    ofCode?_code, run_pure]

/-- A well-formed sequence row is read as its sequence. -/
theorem run_readSequence (h : Host) {r : Row} (hr : SequenceRow r) :
    run h (readSequence r) = (.ok (sequenceOfRow r), h) := by
  obtain ⟨s, hs⟩ := hr.schema
  obtain ⟨n, hn⟩ := hr.name
  obtain ⟨d, u, hd, hu⟩ := hr.dataType
  obtain ⟨c, hc⟩ := Option.isSome_iff_exists.1 hr.cycle
  unfold readSequence
  simp only [run_bind, run_field_of hs, run_field_of hn, run_field_of hd, hu, run_lift_ok,
    run_intField_of hr.start, run_intField_of hr.increment, run_intField_of hr.minValue,
    run_intField_of hr.maxValue, run_field_of hc]
  -- the last value is either absent or an integer
  rcases hr.lastValue with hl | ⟨v, m, hl, hm⟩
  · simp [run_field_of hl, sequenceOfRow, get_of hs, get_of hn, get_of hd, hu, get_of hc,
      get_of hl, run_pure]
  · have hv : v ≠ .null := by
      rintro rfl
      cases hm
    simp only [run_field_of hl]
    rw [run_bind, run_map, hm, run_lift_ok]
    simp [sequenceOfRow, get_of hs, get_of hn, get_of hd, hu, get_of hc, get_of hl, intOf, hm,
      run_pure]

/-- The sequences of well-formed rows are read in full, one per row. -/
theorem run_listSequences (x : Reader) (h : Host) (hwf : h.database.WellFormed) :
    run h x.listSequences = match run h (runQuery x.source .sequences) with
      | (.ok rows, h') => (.ok (rows.map sequenceOfRow), h')
      | (.error e, h') => (.error e, h') := by
  refine run_readQuery fun rows hrows r hr h' => ?_
  rw [SourceDatabase.answer_ok hrows] at hr
  exact run_readSequence h' (hwf.connect.sequences r hr)

end SqlMigration.Catalog

namespace SqlMigration

/-! ## Comparing names that are texts -/

/-- A value that is a text. -/
def Datum.IsText (d : Datum) : Prop := ∃ s, d = .text s

/-- Two values that a comparison orders without failing: two texts, or two truth values. -/
inductive Datum.Comparable : Datum → Datum → Prop
  | text (a b : String) : Comparable (.text a) (.text b)
  | bool (a b : Bool) : Comparable (.bool a) (.bool b)

namespace Datum

theorem comparable_of_isText {x y : Datum} (hx : x.IsText) (hy : y.IsText) : Comparable x y := by
  obtain ⟨a, rfl⟩ := hx
  obtain ⟨b, rfl⟩ := hy
  exact .text a b

theorem lessThan_ok {x y : Datum} (h : Comparable x y) : ∃ v, lessThan x y = .ok v := by
  cases h with
  | text a b => exact ⟨_, by rw [lessThan]⟩
  | bool a b => exact ⟨_, rfl⟩

/-- Lists compared place by place finish when the elements at each place can be compared. -/
theorem lessItems_ok {xs ys : List Datum} (h : List.Forall₂ Comparable xs ys) :
    ∃ v, lessItems xs ys = .ok v := by
  induction h with
  | nil => exact ⟨false, by rw [lessItems]⟩
  | cons hxy _ ih =>
    rw [lessItems]
    split
    · exact ih
    · exact lessThan_ok hxy

end Datum

/-- A traversal by a step that succeeds on every element succeeds. -/
theorem mapM_except_ok {α β ε : Type} {f : α → Except ε β} {P : α → Prop}
    (hf : ∀ x, P x → ∃ y, f x = .ok y) :
    ∀ {l : List α}, Within P l → ∃ ys, l.mapM f = .ok ys
  | [], _ => ⟨[], rfl⟩
  | x :: l, hl => by
    rw [within_cons] at hl
    obtain ⟨y, hy⟩ := hf x hl.1
    obtain ⟨ys, hys⟩ := mapM_except_ok hf hl.2
    rw [List.mapM_cons, hy, except_ok_bind, hys]
    exact ⟨y :: ys, rfl⟩

/-- A check constraint whose schema, table and name are texts. -/
structure CheckConstraint.Named (c : CheckConstraint) : Prop where
  schema : c.schema.IsText
  table : c.table.IsText
  name : c.name.IsText

/-- A key constraint whose schema, table and name are texts. -/
structure Constraint.Named (c : Constraint) : Prop where
  schema : c.schema.IsText
  table : c.table.IsText
  name : c.name.IsText

namespace Ddl

/-! ## Rendering never fails on named descriptors -/

theorem quoteName_ok {d : Datum} (h : d.IsText) : ∃ s, quoteName d = .ok s := by
  obtain ⟨s, rfl⟩ := h
  exact ⟨_, rfl⟩

theorem qualifyName_ok (schema : String) {d : Datum} (h : d.IsText) :
    ∃ s, qualifyName schema d = .ok s := by
  obtain ⟨s, rfl⟩ := h
  exact ⟨_, rfl⟩

theorem renderCheck_ok {c : CheckConstraint} (hc : c.Named) (ts : String) :
    ∃ s, renderCheck c ts = .ok s := by
  obtain ⟨t, ht⟩ := qualifyName_ok ts hc.table
  obtain ⟨n, hn⟩ := quoteName_ok hc.name
  simp only [renderCheck, ht, hn, except_ok_bind]
  exact ⟨_, rfl⟩

theorem checkLess_ok {a b : CheckConstraint} (ha : a.Named) (hb : b.Named) :
    ∃ v, checkLess a b = .ok v := by
  have hkeys : List.Forall₂ Datum.Comparable a.sortKey b.sortKey := by
    simp only [CheckConstraint.sortKey, List.forall₂_cons, List.Forall₂.nil, and_true]
    exact ⟨Datum.comparable_of_isText ha.schema hb.schema,
      Datum.comparable_of_isText ha.table hb.table, Datum.comparable_of_isText ha.name hb.name⟩
  exact Datum.lessItems_ok hkeys

/-- Check constraints whose names are texts are sorted and rendered without failing. -/
theorem renderChecks_ok {rs : List CheckConstraint} (hrs : Within CheckConstraint.Named rs)
    (ts : String) : ∃ s, renderChecks rs ts = .ok s := by
  obtain ⟨ys, hys, hyw⟩ :=
    sortWith_ok (S := CheckConstraint.Named) (fun _ _ ha hb => checkLess_ok ha hb) hrs
  obtain ⟨lines, hl⟩ := mapM_except_ok (fun c hc => renderCheck_ok hc ts) hyw
  unfold renderChecks orderChecks
  rw [hys, except_ok_bind, hl, except_ok_bind]
  exact ⟨_, rfl⟩

theorem keyLess_ok {a b : Constraint} (ha : a.Named) (hb : b.Named) :
    ∃ v, keyLess a b = .ok v := by
  have hkeys : List.Forall₂ Datum.Comparable a.sortKey b.sortKey := by
    simp only [Constraint.sortKey, List.forall₂_cons, List.Forall₂.nil, and_true]
    exact ⟨.bool _ _, .text _ _, Datum.comparable_of_isText ha.schema hb.schema,
      Datum.comparable_of_isText ha.table hb.table, Datum.comparable_of_isText ha.name hb.name⟩
  exact Datum.lessItems_ok hkeys

theorem renderConstraint_ok {c : Constraint} (hc : c.Named) (ts : String) :
    ∃ s, renderConstraint c ts = .ok s := by
  obtain ⟨t, ht⟩ := qualifyName_ok ts hc.table
  obtain ⟨n, hn⟩ := quoteName_ok hc.name
  simp only [renderConstraint, ht, hn, except_ok_bind]
  exact ⟨_, rfl⟩

/-- Key constraints whose names are texts are sorted and rendered without failing. -/
theorem renderConstraints_ok {rs : List Constraint} (hrs : Within Constraint.Named rs)
    (ts : String) : ∃ s, renderConstraints rs ts = .ok s := by
  obtain ⟨ys, hys, hyw⟩ :=
    sortDescendingWith_ok (S := Constraint.Named) (fun _ _ ha hb => keyLess_ok ha hb) hrs
  have hkept : Within Constraint.Named (ys.filter (·.kind != .exclusion)) :=
    fun c hc => hyw c (List.mem_of_mem_filter hc)
  obtain ⟨lines, hl⟩ := mapM_except_ok (fun c hc => renderConstraint_ok hc ts) hkept
  unfold renderConstraints orderConstraints
  rw [hys, except_ok_bind, hl, except_ok_bind]
  exact ⟨_, rfl⟩

/-- Sequences whose names are texts are rendered without failing. -/
theorem renderSequences_ok {ss : List Sequence} (hss : Within (·.name.IsText) ss) (ts : String) :
    ∃ s, renderSequences ss ts = .ok s := by
  have hone : ∀ q : Sequence, q.name.IsText → ∃ s, renderSequence q ts = .ok s := by
    intro q hq
    obtain ⟨n, hn⟩ := qualifyName_ok ts hq
    simp only [renderSequence, hn, except_ok_bind]
    exact ⟨_, rfl⟩
  obtain ⟨lines, hl⟩ := mapM_except_ok hone hss
  unfold renderSequences
  rw [hl, except_map_ok]
  exact ⟨_, rfl⟩

end Ddl

end SqlMigration

namespace SqlMigration.Catalog

/-! ## Well-formed rows give named descriptors -/

theorem get_isText {r : Row} {k : String} (h : r.HasText k) : (r.get k).IsText := by
  obtain ⟨s, hs⟩ := h
  exact ⟨s, get_of hs⟩

theorem CheckRow.named {r : Row} (hr : CheckRow r) : (checkOfRow r).Named :=
  ⟨get_isText hr.schema, get_isText hr.table, get_isText hr.name⟩

theorem KeyRow.named {r : Row} (hr : KeyRow r) : (constraintOfRow r).Named :=
  ⟨get_isText hr.schema, get_isText hr.table, get_isText hr.name⟩

theorem SequenceRow.named {r : Row} (hr : SequenceRow r) : (sequenceOfRow r).name.IsText :=
  get_isText hr.name

/-- The descriptors of a well-formed database's rows render without failing. -/
theorem SourceDatabase.WellFormed.renders {db : SourceDatabase} (hwf : db.WellFormed)
    (ts : String) :
    (∃ s, Ddl.renderChecks (db.checks.map checkOfRow) ts = .ok s) ∧
    (∃ s, Ddl.renderConstraints (db.constraints.map constraintOfRow) ts = .ok s) ∧
    ∃ s, Ddl.renderSequences (db.sequences.map sequenceOfRow) ts = .ok s := by
  refine ⟨Ddl.renderChecks_ok ?_ ts, Ddl.renderConstraints_ok ?_ ts, Ddl.renderSequences_ok ?_ ts⟩
  · simpa [Within] using fun r hr => (hwf.checks r hr).named
  · simpa [Within] using fun r hr => (hwf.constraints r hr).named
  · simpa [Within] using fun r hr => (hwf.sequences r hr).named

end SqlMigration.Catalog
