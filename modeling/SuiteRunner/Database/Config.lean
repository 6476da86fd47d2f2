import SuiteRunner.Error
import SuiteRunner.Json.Value
import SuiteRunner.Number.Reading
import SuiteRunner.Text.Escaped
import SuiteRunner.Text.LetterCase

/-!
  SuiteRunner.Database.Config
  ────────────────────────────────
  **HOW A NAMED DATABASE IS REACHED.**

  The settings of a database stand in environment variables whose names are made of `DB_`, the
  name of the database in capitals with underscores for everything else, and a suffix.  An empty
  variable counts as one that is not set.
-/

namespace SuiteRunner

/-- The two kinds of connections. -/
inductive DatabaseKind where
  | mysql
  | odbc
  deriving DecidableEq, Repr, Inhabited

/-- How a database is reached. -/
structure DatabaseConfig where
  name : String
  kind : DatabaseKind
  host : String
  port : Option Nat
  user : String
  password : String
  database : String
  connectionString : Option String
  deriving DecidableEq, Repr, Inhabited

namespace DatabaseConfig

/-- Environment variables. -/
abbrev Variables := String → Option String

/-- The name of a database as it stands in the names of variables. -/
def key (name : String) : String :=
  String.ofList (name.toList.map fun c => if c.isAlphanum then c.toUpper else '_')

/-- The name of the variable for one setting of a database. -/
def variableName (name suffix : String) : String := "DB_" ++ key name ++ "_" ++ suffix

/-- The settings that a database may have. -/
def suffixes : List String := ["TYPE", "HOST", "PORT", "USER", "PASSWORD", "NAME", "CONNSTRING"]

/-- The names of the variables for all settings of a database. -/
def variableNames (name : String) : List String := suffixes.map (variableName name)

/-- The value of one setting; empty means unset. -/
def setting? (name : String) (env : Variables) (suffix : String) : Option String :=
  (env (variableName name suffix)).filter fun v => !v.isEmpty

/-- The kind of a database. -/
def kindOf (name : String) (env : Variables) : Except Failure DatabaseKind :=
  match (setting? name env "TYPE").map LetterCase.toLower with
  | none =>
    .error (.databaseConfig ("no configuration for database '" ++ name ++ "' ("
      ++ variableName name "TYPE" ++ " is not set)"))
  | some t =>
    if t = "mysql" then .ok .mysql
    else if t = "db2" ∨ t = "odbc" then .ok .odbc
    else .error (.databaseConfig ("unsupported type '" ++ t ++ "' for database '" ++ name ++ "'"))

/-- The port of a database, if one is set. -/
def portOf (name : String) (env : Variables) : Except Failure (Option Nat) :=
  match setting? name env "PORT" with
  | none => .ok none
  | some p =>
    match natOfText? 0xffff p with
    | some n => .ok (some n)
    | none =>
      .error (.databaseConfig ("invalid port '" ++ p ++ "' for database '" ++ name ++ "'"))

/-- **The configuration of a named database.** -/
def ofVariables (name : String) (env : Variables) : Except Failure DatabaseConfig := do
  let kind ← kindOf name env
  let port ← portOf name env
  return { name := name, kind := kind, host := (setting? name env "HOST").getD "localhost",
           port := port, user := (setting? name env "USER").getD "",
           password := (setting? name env "PASSWORD").getD "",
           database := (setting? name env "NAME").getD "",
           connectionString := setting? name env "CONNSTRING" }

/-- The port of a database server that listens where such servers do. -/
def defaultPort : Nat := 50000

/-- **The text that opens a connection:** the one that is set, or one made of the settings. -/
def connectionText (c : DatabaseConfig) : String :=
  match c.connectionString with
  | some s => s
  | none =>
    "DRIVER=\x7bIBM DB2 ODBC DRIVER\x7d;DATABASE=" ++ c.database ++ ";HOSTNAME=" ++ c.host ++ ";PORT="
      ++ toString (c.port.getD defaultPort) ++ ";PROTOCOL=TCPIP;UID=" ++ c.user ++ ";PWD="
      ++ c.password ++ ";"

/-- The name of a kind of connection. -/
def kindName : DatabaseKind → String
  | .mysql => "Mysql"
  | .odbc => "Odbc"

/-- What may be shown of a configuration: everything but the password and the connection string. -/
def describe (c : DatabaseConfig) : String :=
  "DbConfig \x7b name: " ++ Text.literal c.name ++ ", kind: " ++ kindName c.kind ++ ", host: "
    ++ Text.literal c.host ++ ", port: "
    ++ (match c.port with
      | none => "None"
      | some p => "Some(" ++ toString p ++ ")")
    ++ ", user: " ++ Text.literal c.user ++ ", database: " ++ Text.literal c.database ++ ", .. \x7d"

/-- The failure of a connection that cannot be made. -/
def unreachable (c : DatabaseConfig) : Failure :=
  match c.kind with
  | .mysql => .databaseQuery "error communicating with database: no connection"
  | .odbc =>
    .databaseConfig "ODBC databases require building testforge-engine with the 'odbc' feature"

/-- The document of a configuration. -/
def toJson (c : DatabaseConfig) : Json := .obj [
  ("name", .str c.name), ("kind", .str (kindName c.kind)), ("host", .str c.host),
  ("port", Json.ofOption Json.ofNat c.port), ("user", .str c.user), ("password", .str c.password),
  ("database", .str c.database), ("connectionString", Json.ofOption .str c.connectionString)]

end DatabaseConfig

end SuiteRunner
