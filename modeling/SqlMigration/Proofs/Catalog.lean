import SqlMigration.Catalog.Reader
import SqlMigration.Export
import SqlMigration.Layout
import SqlMigration.Proofs.Host
import Mathlib.Data.List.TakeDrop

/-!
# What a listed table name stands for

The reader lists a base table as its schema and its name joined by a dot, and every later step
splits that text again at its first dot: the reader asking for the table's columns, the exporter
naming the table in its query, and the layout naming the table's files after the local part.
A schema without a dot therefore comes back as the schema and the rest as the table, whatever the
table name holds (`parse_join`); a schema with a dot does not (`listed_dotted_schema_splits`).

Main statement: `listed_names_denote`, every name the reader lists stands for the table of its
catalog row, when the row's schema holds no dot.
-/

namespace SqlMigration.Catalog

open HostM

/-! ## Running the reader -/

/-- A query records the connection, and, once the connection is accepted, the query itself,
before the database can refuse either. -/
theorem run_runQuery (h : Host) (src : Connection.Source) (q : Query) :
    run h (runQuery src q) = match h.database.connect with
      | (db, some reason) => (.error (.tool (.catalog (.unreachable src.display reason))),
          { h with database := db, events := h.events ++ [.connect (connectParams src)] })
      | (db, none) =>
        let h' := { h with
          database := db
          events := h.events ++ [.connect (connectParams src), .query q.name q.params] }
        match db.answer q with
        | .ok rows => (.ok rows, h')
        | .error reason => (.error (.tool (.catalog (.queryFailed reason))), h') := by
  unfold runQuery
  rw [run_bind, run_record]
  dsimp only
  rw [run_bind, run_get]
  dsimp only
  rw [run_bind, run_set]
  dsimp only
  rcases hc : h.database.connect with ⟨db, _ | reason⟩
  · dsimp only
    rw [run_bind, run_record]
    dsimp only
    rw [List.append_assoc, List.singleton_append]
    cases db.answer q <;> rfl
  · rfl

theorem run_field (h : Host) (r : Row) (name : String) :
    run h (field r name) = match r.lookup name with
      | some v => (.ok v, h)
      | none => (.error (.missingField name), h) := by
  unfold field
  cases r.lookup name <;> rfl

/-- The names the reader lists, when it lists them: the connection was accepted, and each name
is the schema and table of its row of the tables query, as text, joined by a dot. -/
theorem listTables_names {x : Reader} {h h' : Host} {names : List String}
    (hrun : run h x.listTables = (.ok names, h')) :
    ∃ rows, h.database.connect.2 = none ∧ h.database.connect.1.answer .tables = .ok rows ∧
      List.Forall₂ (fun r n => ∃ s t, r.lookup "table_schema" = some s ∧
        r.lookup "table_name" = some t ∧ n = s.asText ++ "." ++ t.asText) rows names := by
  unfold Reader.listTables at hrun
  rw [run_bind, run_runQuery] at hrun
  rcases hc : h.database.connect with ⟨db, _ | reason⟩ <;> rw [hc] at hrun <;> dsimp only at hrun
  · cases ha : db.answer .tables with
    | error reason =>
      rw [ha] at hrun
      cases hrun
    | ok rows =>
      rw [ha] at hrun
      refine ⟨rows, rfl, rfl, (forall₂_of_run_mapM hrun).imp ?_⟩
      -- each name comes from one run of the row step: two field reads and the join
      rintro r n ⟨h₁, h₂, hstep⟩
      rw [run_bind, run_field] at hstep
      cases hs : r.lookup "table_schema" with
      | none =>
        rw [hs] at hstep
        cases hstep
      | some s =>
        rw [hs] at hstep
        dsimp only at hstep
        rw [run_bind, run_field] at hstep
        cases ht : r.lookup "table_name" with
        | none =>
          rw [ht] at hstep
          cases hstep
        | some t =>
          rw [ht] at hstep
          cases hstep
          exact ⟨s, t, rfl, rfl, rfl⟩
  · cases hrun

/-! ## Splitting a joined name -/

section Join

variable {s t : String}

/-- The first dot of a joined name is the joining one when the schema has none. -/
theorem span_join (hs : '.' ∉ s.toList) :
    (s ++ "." ++ t).toList.span (· ≠ '.') = (s.toList, '.' :: t.toList) := by
  have hall : ∀ c ∈ s.toList, decide (c ≠ '.') = true := by
    intro c hc
    rw [decide_eq_true_eq]
    rintro rfl
    exact hs hc
  rw [List.span_eq_takeWhile_dropWhile, String.toList_append, String.toList_append,
    List.append_assoc, List.takeWhile_append_of_pos hall, List.dropWhile_append_of_pos hall]
  simp

theorem parse_join (hs : '.' ∉ s.toList) : QualifiedName.parse (s ++ "." ++ t) = ⟨s, t⟩ := by
  unfold QualifiedName.parse
  rw [span_join hs]
  simp

theorem localTableName_join (hs : '.' ∉ s.toList) : localTableName (s ++ "." ++ t) = t := by
  unfold localTableName
  rw [span_join hs]
  simp

end Join

/-! ## The steps that split a listed name -/

theorem Table.make_eq_ok {schema name : String} {columns : List Column} {tbl : Table}
    (h : Table.make schema name columns = .ok tbl) : tbl.schema = schema ∧ tbl.name = name := by
  unfold Table.make at h
  split at h
  · cases h
  · dsimp only at h
    split at h
    · cases h
    · cases h
      exact ⟨rfl, rfl⟩

/-- A table the reader returns for a name has the schema and local part the name splits into. -/
theorem getTable_result {x : Reader} {n : String} {h h' : Host} {tbl : Table}
    (hrun : run h (x.getTable n) = (.ok tbl, h')) :
    tbl.schema = (QualifiedName.parse n).schema ∧ tbl.name = (QualifiedName.parse n).table := by
  unfold Reader.getTable at hrun
  obtain ⟨rows, h₁, -, hrun⟩ := exists_of_run_bind_ok hrun
  obtain ⟨columns, h₂, -, hrun⟩ := exists_of_run_bind_ok hrun
  cases hm : Table.make (QualifiedName.parse n).schema (QualifiedName.parse n).table columns with
  | error e =>
    rw [hm, run_lift_error] at hrun
    cases hrun
  | ok t =>
    rw [hm, run_lift_ok] at hrun
    cases hrun
    exact Table.make_eq_ok hm

/-- What a listed name stands for: the table `t` of schema `s`, for the reader asking for its
columns, for the exporter's query and for the names of its script and data file. -/
structure Denotes (x : Reader) (e : Export.Exporter) (l : Layout) (n s t : String) : Prop where
  split : QualifiedName.parse n = ⟨s, t⟩
  localName : localTableName n = t
  columns : x.getTable n = (do
    let rows ← runQuery x.source (.columns s t)
    let columns ← rows.mapM readColumn
    lift (Table.make s t columns) .descriptor)
  table : ∀ h h' tbl, run h (x.getTable n) = (.ok tbl, h') → tbl.schema = s ∧ tbl.name = t
  exports : ∀ p, (e.args n p).getLast? = some ("\\copy (SELECT * FROM " ++ Ddl.qualify s t ++
    ") TO " ++ Export.pathLiteral p ++ " WITH (FORMAT text, DELIMITER " ++
    Export.optionLiteral e.delimiter.text ++ ")")
  script : l.tableScript n = l.tablesDir / (Text.Percent.escape t ++ ".sql")
  data : l.dataFile n = l.dataDir / (Text.Percent.escape t ++ "." ++ l.extension)

theorem denotes_join {s t : String} (hs : '.' ∉ s.toList) (x : Reader) (e : Export.Exporter)
    (l : Layout) : Denotes x e l (s ++ "." ++ t) s t where
  split := parse_join hs
  localName := localTableName_join hs
  columns := by
    unfold Reader.getTable
    rw [parse_join hs]
  table h h' tbl hrun := by
    have hresult := getTable_result hrun
    rwa [parse_join hs] at hresult
  exports p := by
    unfold Export.Exporter.args Export.copyCommand
    rw [parse_join hs]
    rfl
  script := by
    rw [Layout.tableScript, tableStem, localTableName_join hs]
  data := by
    rw [Layout.dataFile, tableStem, localTableName_join hs]

/-- A schema with a dot is split inside the schema: the row of table `c` in schema `a.b` is listed
as `a.b.c`, which reads back as table `b.c` of schema `a`. -/
theorem listed_dotted_schema_splits :
    (run { database := { tables := [[("table_schema", .text "a.b"), ("table_name", .text "c")]] } }
      (Reader.listTables ⟨{ host := "db", database := "shop", user := "u" }⟩)).1 = .ok ["a.b.c"] ∧
    QualifiedName.parse "a.b.c" = ⟨"a", "b.c"⟩ :=
  ⟨rfl, by decide⟩

/-- Every name the reader lists, when it lists them, stands for the table of its row of the
tables query, as long as that row's schema is a text without a dot; the table's name may hold
anything. -/
theorem listed_names_denote (x : Reader) (e : Export.Exporter) (l : Layout) {h h' : Host}
    {names : List String} (hrun : run h x.listTables = (.ok names, h')) :
    ∃ rows, h.database.connect.1.answer .tables = .ok rows ∧
      List.Forall₂ (fun r n => ∀ s t, r.lookup "table_schema" = some (.text s) →
        r.lookup "table_name" = some (.text t) → '.' ∉ s.toList → Denotes x e l n s t) rows names := by
  obtain ⟨rows, -, hans, hnames⟩ := listTables_names hrun
  refine ⟨rows, hans, hnames.imp ?_⟩
  rintro r n ⟨s', t', hs', ht', rfl⟩ s t hs ht hdot
  rw [hs] at hs'
  rw [ht] at ht'
  cases hs'
  cases ht'
  exact denotes_join hdot x e l

/-- A catalog listing table `orders.2024` of schema `sales`: the name `sales.orders.2024` stands
for that table. -/
theorem listed_names_denote_sample :
    (run { database := { tables := [[("table_schema", .text "sales"),
        ("table_name", .text "orders.2024")]] } }
      (Reader.listTables ⟨{ host := "db", database := "shop", user := "u" }⟩)).1 =
        .ok ["sales.orders.2024"] ∧
    ∃ rows, ({ tables := [[("table_schema", .text "sales"), ("table_name", .text "orders.2024")]] } :
        SourceDatabase).connect.1.answer .tables = .ok rows ∧
      List.Forall₂ (fun r n => ∀ s t, r.lookup "table_schema" = some (.text s) →
        r.lookup "table_name" = some (.text t) → '.' ∉ s.toList →
        Denotes ⟨{ host := "db", database := "shop", user := "u" }⟩
          { source := { host := "db", database := "shop", user := "u" } }
          (Layout.make "out" "data" "dat") n s t) rows ["sales.orders.2024"] :=
  ⟨rfl, @listed_names_denote ⟨{ host := "db", database := "shop", user := "u" }⟩
    { source := { host := "db", database := "shop", user := "u" } } (Layout.make "out" "data" "dat")
    { database := { tables := [[("table_schema", .text "sales"),
      ("table_name", .text "orders.2024")]] } } _ _ rfl⟩

end SqlMigration.Catalog
