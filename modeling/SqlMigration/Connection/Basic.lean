import SqlMigration.Connection.Field

/-!
# Connections

How the tool reaches the source and the target database. A connection is built only by
validating its settings: host, database and user of the source and server, database and schema
of the target must be non-empty texts, ports lie in 1–65535, the connect timeout is at least
one second and the statement timeout not negative. Every field is checked, and the report
lists the faulty fields in field order.

The target authenticates either as a user (`-U user -P password`) or by the current identity
(`-T`, a *trusted* connection); the password reaches the schema tool only through its
environment, and not at all for a trusted connection.
-/

namespace SqlMigration.Connection

/-- How to reach the source database. -/
structure Source where
  host : String
  port : Int := 5432
  database : String
  user : String
  password : String := ""
  connectTimeout : Int := 10
  statementTimeoutMs : Int := 60000
  deriving DecidableEq, Repr

/-- `user@host:port/database`, the source as logs show it. -/
def Source.display (s : Source) : String :=
  s.user ++ "@" ++ s.host ++ ":" ++ toString s.port ++ "/" ++ s.database

/-- Validates the settings of a source connection. -/
def Source.validate (given : Settings) : Except ValidationError Source :=
  let host := field given "host" none readText nonEmpty
  let port := field given "port" (some 5432) readInt (within 1 (some 65535))
  let database := field given "database" none readText nonEmpty
  let user := field given "user" none readText nonEmpty
  let password := field given "password" (some "") readText
  let connectTimeout := field given "connect_timeout" (some 10) readInt (within 1 none)
  let statementTimeout := field given "statement_timeout_ms" (some 60000) readInt (within 0 none)
  match host, port, database, user, password, connectTimeout, statementTimeout with
  | .ok h, .ok p, .ok d, .ok u, .ok pw, .ok ct, .ok st => .ok ⟨h, p, d, u, pw, ct, st⟩
  | _, _, _, _, _, _, _ =>
    .error ⟨"SourceConnection", faultOf host ++ faultOf port ++ faultOf database ++
      faultOf user ++ faultOf password ++ faultOf connectTimeout ++ faultOf statementTimeout⟩

/-- How to reach the target database. -/
structure Target where
  server : String
  port : Int := 1433
  database : String
  user : String := ""
  password : String := ""
  trusted : Bool := false
  schema : String := "dbo"
  deriving DecidableEq, Repr

/-- Validates the settings of a target connection. -/
def Target.validate (given : Settings) : Except ValidationError Target :=
  let server := field given "server" none readText nonEmpty
  let port := field given "port" (some 1433) readInt (within 1 (some 65535))
  let database := field given "database" none readText nonEmpty
  let user := field given "user" (some "") readText
  let password := field given "password" (some "") readText
  let trusted := field given "trusted_connection" (some false) readBool
  let schema := field given "schema_name" (some "dbo") readText nonEmpty
  match server, port, database, user, password, trusted, schema with
  | .ok s, .ok p, .ok d, .ok u, .ok pw, .ok t, .ok sc => .ok ⟨s, p, d, u, pw, t, sc⟩
  | _, _, _, _, _, _, _ =>
    .error ⟨"TargetConnection", faultOf server ++ faultOf port ++ faultOf database ++
      faultOf user ++ faultOf password ++ faultOf trusted ++ faultOf schema⟩

/-- `server,port`, as the target's tools take it. -/
def Target.address (t : Target) : String := t.server ++ "," ++ toString t.port

/-- The authentication arguments: `-T` for a trusted connection, else the user and, when
asked, the password. -/
def Target.authArgs (t : Target) (withPassword : Bool := true) : List String :=
  if t.trusted then ["-T"]
  else if withPassword then ["-U", t.user, "-P", t.password] else ["-U", t.user]

/-- The environment that carries the password to the schema tool: nothing for a trusted
connection or an empty password. -/
def Target.passwordEnv (t : Target) : List (String × String) :=
  if t.trusted ∨ t.password.isEmpty then [] else [("SQLCMDPASSWORD", t.password)]

/-- `user@server,port/database`, with `trusted` for the user of a trusted connection. -/
def Target.display (t : Target) : String :=
  (if t.trusted then "trusted" else t.user) ++ "@" ++ t.address ++ "/" ++ t.database

/-- The settings a connection has when configured by default, over which given settings are
laid; settings given as nothing are ignored. -/
def overlay (base : Settings) (given : Settings) : Settings :=
  let kept := given.filter fun (_, v) => match v with | .null => false | _ => true
  kept ++ base.filter fun (k, _) => (kept.lookup k).isNone

end SqlMigration.Connection
