import Sluice.Decimal.Digits
import Sluice.Value.Basic

/-!
# Configuration of the local proxy
-/

namespace Sluice.Proxy

open Decimal

/-- How the proxy process is started. -/
structure Config where
  /-- The instance to connect to, if one is named. -/
  instanceName : Option String
  port : Int := 3307
  credentialsFile : Option String := none
  binaryPath : Option String := none
  autoDownload : Bool := true
  /-- How long the proxy may take to accept connections, in seconds. -/
  startupTimeout : Binary64 := Binary64.ofInt 30
  deriving DecidableEq, Repr

/-- The address on which the proxy listens. -/
def host : String := "127.0.0.1"

namespace Config

/-- A text that is there and not empty. -/
def given (s : Option String) : Option String := s.filter (!·.isEmpty)

/-- The instance and the port it is offered on. -/
def instanceArgument (κ : Config) : String :=
  κ.instanceName.getD "None" ++ "?port=" ++ String.ofList (intText κ.port)

/-- The arguments of the proxy process. -/
def arguments (κ : Config) : List String :=
  κ.instanceArgument ::
    ((given κ.credentialsFile).map fun f ↦ ["--credentials-file", f]).getD [] ++
    ["--structured-logs"]

/-- What is wrong with the fields of a configuration. -/
inductive FieldError where
  | missing (name : String)
  | unknown (name : String)
  deriving DecidableEq, Repr

def FieldError.message : FieldError → String
  | .missing ν => "ProxyConfig.__init__() missing 1 required positional argument: '" ++ ν ++ "'"
  | .unknown ν => "ProxyConfig.__init__() got an unexpected keyword argument '" ++ ν ++ "'"

def fieldNames : List String :=
  ["instance_connection_name", "port", "credentials_file", "binary_path", "auto_download",
    "startup_timeout"]

def textOf : Value → Option String
  | .text s => some s
  | _ => none

def secondsOf : Value → Binary64
  | .int z => Binary64.ofInt z
  | .float x => x
  | _ => ⟨0⟩

/-- A configuration from named fields; those that are not given have their defaults. -/
def ofFields (ρ : Row) : Except FieldError Config := do
  if let some (ν, _) := ρ.find? fun (k, _) ↦ !fieldNames.contains k then throw (.unknown ν)
  let some name := ρ.get? "instance_connection_name" | throw (.missing "instance_connection_name")
  return {
    instanceName := textOf name
    port := match ρ.get? "port" with
      | some (.int z) => z
      | _ => 3307
    credentialsFile := (ρ.get? "credentials_file").bind textOf
    binaryPath := (ρ.get? "binary_path").bind textOf
    autoDownload := ((ρ.get? "auto_download").map Value.isTruthy).getD true
    startupTimeout := ((ρ.get? "startup_timeout").map secondsOf).getD (Binary64.ofInt 30) }

end Config

end Sluice.Proxy
