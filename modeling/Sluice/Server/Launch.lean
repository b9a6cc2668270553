import Sluice.Event
import Sluice.Server.Web
import Sluice.Settings.Basic

/-!
# Launch

The settings and the first argument of the command decide how the server is reached.  The server is
not launched with settings that do not fit, or with a log level that nobody knows.
-/

namespace Sluice.Server

/-- How a server is reached. -/
inductive Transport where
  /-- Over its standard streams. -/
  | streams
  /-- Over HTTP, at an address. -/
  | http (host : String) (port : Int)
  deriving DecidableEq, Repr

/-- The title of the pages. -/
def pageTitle : String := "MySQL Read-only MCP"

/-- The names that log levels go by, each with its proper name. -/
def levelNames : List (String × String) :=
  [("CRITICAL", "CRITICAL"), ("FATAL", "CRITICAL"), ("ERROR", "ERROR"), ("WARN", "WARNING"),
    ("WARNING", "WARNING"), ("INFO", "INFO"), ("DEBUG", "DEBUG"), ("NOTSET", "NOTSET")]

/-- Why a server is not launched. -/
inductive LaunchError where
  | settings (πs : List Settings.Problem)
  | level (name : String)

/-- How a server is launched. -/
structure Plan where
  settings : Settings
  level : String
  transport : Transport

/-- The transport that the command's arguments or the settings ask for. -/
def transportOf (σ : Settings) (arguments : List String) : Transport :=
  if arguments.head? = some "http" || Text.lowerString σ.transport = "http"
  then .http σ.httpHost σ.httpPort else .streams

/-- Plans the launch of a server. -/
def plan (sources : Settings.Sources) (arguments : List String) : Except LaunchError Plan :=
  match Settings.load sources with
  | .error πs => .error (.settings πs)
  | .ok σ =>
    let level := Text.upperString σ.logLevel
    match levelNames.lookup level with
    | some ι => .ok ⟨σ, ι, transportOf σ arguments⟩
    | none => .error (.level level)

def LaunchError.message : LaunchError → String
  | .settings πs => "\n".intercalate (πs.map fun π ↦ π.name ++ ": " ++ π.misfit.message)
  | .level ν => "Unknown level: " ++ (Value.text ν).literalString

/-- The first argument alone can ask for HTTP. -/
@[simp] theorem transportOf_http (σ : Settings) (ss : List String) :
    transportOf σ ("http" :: ss) = .http σ.httpHost σ.httpPort := by
  simp [transportOf]

end Sluice.Server
