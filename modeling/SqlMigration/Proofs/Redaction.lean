import SqlMigration.Export
import SqlMigration.Apply
import SqlMigration.Load

/-!
# Passwords on command lines

The source password reaches `psql` only in `PGPASSWORD` and the target password reaches `sqlcmd`
only in `SQLCMDPASSWORD`: their argument lists do not read the password at all. `bcp` takes the
password as the argument after `-P`, and a command line is shown with the argument after each
password flag masked. Masking reads the arguments once with one flag, "the next argument is a
secret", so whether an argument is masked depends on what came before it (`mask_append`). The
user name stands right before `-P`, and `-U` before it resets the flag, so the password is
masked exactly when the user name is not itself a password flag (`mask_loaderArgs_password`).

Main statement: `passwords_off_command_lines`.
-/

namespace SqlMigration.Command

/-! ## Reading arguments with one flag -/

/-- Whether the argument after `args` is masked, when the flag stood at `b` before them. -/
def maskAfter : Bool → List String → Bool
  | b, [] => b
  | true, _ :: rest => maskAfter false rest
  | false, a :: rest => maskAfter (secretFlags.contains a) rest

/-- Masking a list in two parts masks the second part from where the first left the flag. -/
theorem mask_append (b : Bool) (l₁ l₂ : List String) :
    mask b (l₁ ++ l₂) = mask b l₁ ++ mask (maskAfter b l₁) l₂ := by
  induction l₁ generalizing b with
  | nil => rfl
  | cons a l₁ ih =>
    cases b with
    | true => simp [mask, maskAfter, ih]
    | false => simp [mask, maskAfter, ih]

/-- Masking keeps every argument's place. -/
@[simp] theorem length_mask (b : Bool) (l : List String) : (mask b l).length = l.length := by
  induction l generalizing b with
  | nil => rfl
  | cons a l ih => cases b <;> simp [mask, ih]

/-- An argument that is no password flag leaves the flag down, masked or not. -/
theorem maskAfter_append_plain (b : Bool) (l : List String) {a : String}
    (ha : a ∉ secretFlags) : maskAfter b (l ++ [a]) = false := by
  induction l generalizing b with
  | nil =>
    cases b with
    | true => rfl
    | false => simpa [maskAfter] using ha
  | cons x l ih =>
    cases b <;> exact ih _

/-! ## `psql` and `sqlcmd` -/

/-- The export run's arguments do not read the source password. -/
theorem exporterArgs_password (x : Export.Exporter) (pw q : String) (d : Path) :
    ({ x with source := { x.source with password := pw } } : Export.Exporter).args q d =
      x.args q d := rfl

/-- The export run's environment differs between passwords only in `PGPASSWORD`, which holds the
password exactly when there is one. -/
theorem exporterEnv_password (x : Export.Exporter) (pw : String) :
    ({ x with source := { x.source with password := pw } } : Export.Exporter).env.filter
        (·.1 ≠ "PGPASSWORD") = x.env.filter (·.1 ≠ "PGPASSWORD") ∧
      x.env.lookup "PGPASSWORD" =
        if x.source.password = "" then none else some x.source.password := by
  constructor
  · by_cases h₁ : pw = "" <;> by_cases h₂ : x.source.password = "" <;>
      simp [Export.Exporter.env, h₁, h₂]
  · by_cases h : x.source.password = "" <;> simp [Export.Exporter.env, h, List.lookup_cons]

/-- The schema run's arguments do not read the target password. -/
theorem applierArgs_password (a : Apply.Applier) (pw : String) (script : Path) :
    ({ a with target := { a.target with password := pw } } : Apply.Applier).args script =
      a.args script := rfl

/-- The schema run's environment is `SQLCMDPASSWORD` alone, set exactly for a non-empty password
of a connection that is not trusted, and nothing otherwise. -/
theorem applierEnv (a : Apply.Applier) :
    a.env = if a.target.trusted = false ∧ a.target.password ≠ "" then
      some [("SQLCMDPASSWORD", a.target.password)] else none := by
  by_cases ht : a.target.trusted = false <;> by_cases hp : a.target.password = "" <;>
    simp [Apply.Applier.env, Connection.Target.passwordEnv, ht, hp]

/-! ## The `bcp` command line -/

/-- With SQL authentication the `bcp` arguments are the object, the file, the server and the
database, then `-U user -P password`, then the format options. -/
theorem loaderArgs_eq (x : Load.Loader) (table : String) (p : Path)
    (ht : x.target.trusted = false) :
    x.program :: x.args table p =
      ([x.program, Ddl.bracketIdent x.target.schema ++ "." ++ Ddl.bracketIdent table, "in",
        p.render, "-S", x.target.address, "-d", x.target.database] ++ ["-U"]) ++
      x.target.user :: "-P" :: x.target.password ::
        ["-c", "-t", DataFile.loaderTerminator x.delimiter.text, "-r",
          DataFile.loaderTerminator "\n", "-b", toString x.batchSize, "-k"] := by
  simp [Load.Loader.args, Connection.Target.authArgs, ht]

/-- In a `bcp` command line with SQL authentication the password is the argument after `-P`,
and it is masked exactly when the user name is not itself a password flag: a user named `-P`
or `--password` gets `-P` masked in the password's place. -/
theorem mask_loaderArgs_password (x : Load.Loader) (table : String) (p : Path)
    (ht : x.target.trusted = false) :
    (x.program :: x.args table p)[10]? = some "-P" ∧
      (x.program :: x.args table p)[11]? = some x.target.password ∧
      (mask false (x.program :: x.args table p))[11]? =
        some (if x.target.user ∈ secretFlags then x.target.password else "***") := by
  rw [loaderArgs_eq x table p ht, mask_append,
    maskAfter_append_plain false _ (by decide : "-U" ∉ secretFlags)]
  refine ⟨rfl, rfl, ?_⟩
  rw [List.getElem?_append_right (by simp)]
  -- the flag after `-U` is down; the user name raises it exactly when it is a password flag
  by_cases hu : x.target.user ∈ secretFlags
  · simp [mask, hu]
  · simp [mask, hu, show "-P" ∈ secretFlags by decide]

/-- Where passwords go on the command lines the tool runs. The `psql` arguments do not depend on
the source password, which reaches `psql` only in `PGPASSWORD`, set exactly when it is not
empty; the `sqlcmd` arguments do not depend on the target password, which reaches `sqlcmd` only
in `SQLCMDPASSWORD`, set exactly when it is not empty and the connection is not trusted. A
`bcp` command line with SQL authentication carries the password after `-P`, and the masked line
shows `***` there exactly when the user name is not itself a password flag. -/
theorem passwords_off_command_lines (x : Export.Exporter) (a : Apply.Applier) (b : Load.Loader)
    (q table : String) (d script file : Path) (hb : b.target.trusted = false) :
    (∀ pw, ({ x with source := { x.source with password := pw } } : Export.Exporter).args q d =
        x.args q d) ∧
      (∀ pw, ({ x with source := { x.source with password := pw } } : Export.Exporter).env.filter
        (·.1 ≠ "PGPASSWORD") = x.env.filter (·.1 ≠ "PGPASSWORD")) ∧
      x.env.lookup "PGPASSWORD" = (if x.source.password = "" then none else some x.source.password) ∧
      (∀ pw, ({ a with target := { a.target with password := pw } } : Apply.Applier).args script =
        a.args script) ∧
      a.env = (if a.target.trusted = false ∧ a.target.password ≠ "" then
        some [("SQLCMDPASSWORD", a.target.password)] else none) ∧
      (b.program :: b.args table file)[10]? = some "-P" ∧
      (b.program :: b.args table file)[11]? = some b.target.password ∧
      (mask false (b.program :: b.args table file))[11]? =
        some (if b.target.user ∈ secretFlags then b.target.password else "***") :=
  ⟨fun pw => exporterArgs_password x pw q d, fun pw => (exporterEnv_password x pw).1,
    (exporterEnv_password x "").2, fun pw => applierArgs_password a pw script, applierEnv a,
    mask_loaderArgs_password b table file hb⟩

/-- An exporter of a source with a password. -/
def secretExporter : Export.Exporter :=
  { source := { host := "pg", database := "shop", user := "etl", password := "secret" } }

/-- An applier of a target with SQL authentication. -/
def sqlApplier : Apply.Applier :=
  { target := { server := "mssql", database := "shop", user := "sa", password := "pw" } }

/-- A loader of a target whose user is named `-P`. -/
def flagUserLoader : Load.Loader :=
  { target := { server := "mssql", database := "shop", user := "-P", password := "pw" } }

/-- A `bcp` user named `-P`: the masked command line shows the password. -/
theorem passwords_off_command_lines_flagUser :
    flagUserLoader.target.trusted = false ∧
      (∀ pw, ({ secretExporter with source := { secretExporter.source with password := pw } } :
          Export.Exporter).args "public.t" ⟨"", ["t.csv.pgcopy"]⟩ =
        secretExporter.args "public.t" ⟨"", ["t.csv.pgcopy"]⟩) ∧
      (∀ pw, ({ secretExporter with source := { secretExporter.source with password := pw } } :
          Export.Exporter).env.filter (·.1 ≠ "PGPASSWORD") =
        secretExporter.env.filter (·.1 ≠ "PGPASSWORD")) ∧
      secretExporter.env.lookup "PGPASSWORD" = (if secretExporter.source.password = "" then none
        else some secretExporter.source.password) ∧
      (∀ pw, ({ sqlApplier with target := { sqlApplier.target with password := pw } } :
          Apply.Applier).args ⟨"", ["t.sql"]⟩ = sqlApplier.args ⟨"", ["t.sql"]⟩) ∧
      sqlApplier.env = (if sqlApplier.target.trusted = false ∧ sqlApplier.target.password ≠ "" then
        some [("SQLCMDPASSWORD", sqlApplier.target.password)] else none) ∧
      (flagUserLoader.program :: flagUserLoader.args "t" ⟨"", ["t.csv"]⟩)[10]? = some "-P" ∧
      (flagUserLoader.program :: flagUserLoader.args "t" ⟨"", ["t.csv"]⟩)[11]? =
        some flagUserLoader.target.password ∧
      (mask false (flagUserLoader.program :: flagUserLoader.args "t" ⟨"", ["t.csv"]⟩))[11]? =
        some (if flagUserLoader.target.user ∈ secretFlags then flagUserLoader.target.password
          else "***") :=
  ⟨rfl, passwords_off_command_lines secretExporter sqlApplier flagUserLoader "public.t" "t"
    ⟨"", ["t.csv.pgcopy"]⟩ ⟨"", ["t.sql"]⟩ ⟨"", ["t.csv"]⟩ rfl⟩

example : redact (flagUserLoader.program :: flagUserLoader.args "t" ⟨"", ["t.csv"]⟩) =
    "bcp [dbo].[t] in t.csv -S mssql,1433 -d shop -U -P *** pw -c -t \\t -r 0x0a -b 5000 -k" := by
  decide

end SqlMigration.Command
