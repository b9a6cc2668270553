import Sluice.Proxy.Config
import Sluice.Settings.Conversion
import Sluice.Settings.EnvFile
import Sluice.Text.Case
import Sluice.Fault

/-!
# Settings

A setting is taken from the caller's arguments, else from the environment, else from a file, and
else has its default.  All settings are read before a misfit is reported, so that every misfit is.
-/

namespace Sluice

open Decimal

/-- The settings of the gate.  Times are in milliseconds, the grace in seconds. -/
structure Settings where
  databaseHost : String
  databasePort : Int
  user : String
  password : String
  database : String
  connectionLimit : Int
  connectTimeout : Int
  queryTimeout : Int
  maxRows : Int
  proxyEnabled : Bool
  instanceName : String
  proxyPort : Int
  credentialsFile : Option String
  proxyBinary : Option String
  proxyAutoDownload : Bool
  proxyStartupTimeout : Int
  transport : String
  httpHost : String
  httpPort : Int
  grace : Binary64
  logLevel : String

namespace Settings

/-- A setting whose value does not fit. -/
structure Problem where
  name : String
  misfit : Misfit
  deriving DecidableEq, Repr

/-- A result, or all problems on the way to it. -/
def Checked (α : Type) := Except (List Problem) α

namespace Checked

/-- Applies a result to a result; the problems of both are kept in order. -/
def apply {α β : Type} (f : Checked (α → β)) (x : Checked α) : Checked β :=
  match f, x with
  | .ok g, .ok a => .ok (g a)
  | .ok _, .error π => .error π
  | .error π, .ok _ => .error π
  | .error π, .error σ => .error (π ++ σ)

instance : Applicative Checked where
  pure a := .ok a
  seq f x := apply f (x ())

end Checked

/-- Where settings are taken from. -/
structure Sources where
  arguments : Row := []
  environment : List (String × String) := []
  /-- The text of the file of environment variables, if there is one. -/
  file : Option String := none

namespace Sources

/-- Whether a name is the given one up to letter case. -/
def sameName (k ν : String) : Bool := Text.lowerString k == ν

/-- The bindings of the file. -/
def bindings (σ : Sources) : EnvFile.Table :=
  (σ.file.map fun s ↦ EnvFile.table σ.environment s.toList).getD []

/-- The last binding of a name, up to letter case. -/
def lastOf {α : Type} (τ : List (String × α)) (ν : String) : Option α :=
  (τ.reverse.find? fun (k, _) ↦ sameName k ν).map Prod.snd

def argument? (σ : Sources) (ν : String) : Option Value :=
  (σ.arguments.get? ν).or (lastOf σ.arguments ν)

/-- The value of the first of some names in the first source that has one, and that name. -/
def find? (σ : Sources) (νs : List String) : Option (String × Value) :=
  let first (look : String → Option Value) := νs.findSome? fun ν ↦ (look ν).map (ν, ·)
  (first σ.argument?).or <|
    (first fun ν ↦ (lastOf σ.environment ν).map .text).or <|
      first fun ν ↦ ((lastOf σ.bindings ν).bind id).map .text

/-- Reads a setting that goes by the first of some names. -/
def read {α : Type} (σ : Sources) (νs : List String) (default : α)
    (convert : Value → Except Misfit α) : Checked α :=
  match σ.find? νs with
  | none => .ok default
  | some (ν, v) =>
    match convert v with
    | .ok a => .ok a
    | .error μ => .error [⟨ν, μ⟩]

end Sources

/-- The names of the credentials file, the more particular one first. -/
def credentialsNames : List String :=
  ["cloud_sql_credentials_file", "google_application_credentials"]

/-- Reads all settings, in the order in which problems are reported. -/
def checked (σ : Sources) : Checked Settings :=
  let text ν δ := σ.read [ν] δ toText
  let positive ν δ := σ.read [ν] δ toPositive
  let truth ν δ := σ.read [ν] δ toTruth
  Settings.mk
    <$> text "mysql_host" "localhost"
    <*> positive "mysql_port" 3306
    <*> text "mysql_user" "root"
    <*> text "mysql_password" ""
    <*> text "mysql_database" ""
    <*> positive "mysql_connection_limit" 10
    <*> positive "mysql_connect_timeout" 60000
    <*> positive "query_timeout" 30000
    <*> positive "max_rows" 1000
    <*> truth "cloud_sql_proxy_enabled" false
    <*> text "cloud_sql_instance" ""
    <*> positive "cloud_sql_proxy_port" 3307
    <*> σ.read credentialsNames none toOptionalText
    <*> σ.read ["cloud_sql_proxy_binary"] none toOptionalText
    <*> truth "cloud_sql_proxy_auto_download" true
    <*> positive "cloud_sql_proxy_startup_timeout" 30000
    <*> text "mcp_transport" "stdio"
    <*> text "mcp_http_host" "0.0.0.0"
    <*> σ.read ["port"] 8000 toWhole
    <*> σ.read ["shutdown_grace_timeout"] (Binary64.ofInt 10) toPositiveNumber
    <*> text "log_level" "INFO"

/-- The settings that some sources give, or every problem with them. -/
def load (σ : Sources) : Except (List Problem) Settings := checked σ

/-- The settings under the names they are set by. -/
def toRow (σ : Settings) : Row :=
  let optional (s : Option String) : Value := (s.map .text).getD .null
  [("mysql_host", .text σ.databaseHost), ("mysql_port", .int σ.databasePort),
    ("mysql_user", .text σ.user), ("mysql_password", .text σ.password),
    ("mysql_database", .text σ.database), ("mysql_connection_limit", .int σ.connectionLimit),
    ("mysql_connect_timeout", .int σ.connectTimeout), ("query_timeout", .int σ.queryTimeout),
    ("max_rows", .int σ.maxRows), ("cloud_sql_proxy_enabled", .bool σ.proxyEnabled),
    ("cloud_sql_instance", .text σ.instanceName), ("cloud_sql_proxy_port", .int σ.proxyPort),
    ("cloud_sql_credentials_file", optional σ.credentialsFile),
    ("cloud_sql_proxy_binary", optional σ.proxyBinary),
    ("cloud_sql_proxy_auto_download", .bool σ.proxyAutoDownload),
    ("cloud_sql_proxy_startup_timeout", .int σ.proxyStartupTimeout),
    ("mcp_transport", .text σ.transport), ("mcp_http_host", .text σ.httpHost),
    ("port", .int σ.httpPort), ("shutdown_grace_timeout", .float σ.grace),
    ("log_level", .text σ.logLevel)]

/-- All names that settings go by. -/
def names : List String :=
  ["mysql_host", "mysql_port", "mysql_user", "mysql_password", "mysql_database",
    "mysql_connection_limit", "mysql_connect_timeout", "query_timeout", "max_rows",
    "cloud_sql_proxy_enabled", "cloud_sql_instance", "cloud_sql_proxy_port"] ++ credentialsNames ++
  ["cloud_sql_proxy_binary", "cloud_sql_proxy_auto_download", "cloud_sql_proxy_startup_timeout",
    "mcp_transport", "mcp_http_host", "port", "shutdown_grace_timeout", "log_level"]

/-- Arguments and bindings of the file that are no setting.  A binding goes by its name in small
letters, and an argument of the same name wins. -/
def extras (σ : Sources) : Row :=
  let own k := names.contains (Text.lowerString k)
  let bound := σ.bindings.foldl
    (fun (ρ : Row) (k, v) ↦
      match v with
      | some v => if own k then ρ else ρ.put (Text.lowerString k) (.text v)
      | none => ρ.filter fun (l, _) ↦ l != Text.lowerString k) []
  (σ.arguments.filter fun (k, _) ↦ !own k).foldl (fun ρ (k, v) ↦ ρ.put k v)
    (bound.filter fun (_, v) ↦ v.isTruthy)

/-- Milliseconds in seconds; there is a largest number of seconds. -/
def seconds (ms : Int) : Except Fault Binary64 :=
  let x := Binary64.ofDecimal ms.natAbs (-3)
  if x.isInfinite then .error (.saying .overflow "integer division result too large for a float")
  else .ok (if ms < 0 then x.negate else x)

/-- How the local proxy is started. -/
def proxy (σ : Settings) : Except Fault Proxy.Config := do
  return {
    instanceName := some σ.instanceName
    port := σ.proxyPort
    credentialsFile := Proxy.Config.given σ.credentialsFile
    binaryPath := Proxy.Config.given σ.proxyBinary
    autoDownload := σ.proxyAutoDownload
    startupTimeout := ← seconds σ.proxyStartupTimeout }

end Settings

end Sluice
