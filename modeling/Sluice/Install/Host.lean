import Sluice.Fault
import Sluice.File.Path
import Sluice.Text.Case

/-!
# The machine that the proxy runs on

Which build of the proxy fits the machine, where the build is published, and where it is kept.
-/

namespace Sluice.Install

open File

/-- The operating system and the processor of a machine. -/
structure Host where
  system : String
  processor : String
  deriving DecidableEq, Repr

namespace Host

/-- The one name of a processor that goes by several. -/
def processorName (s : String) : String :=
  match Text.lowerString s with
  | "x86_64" | "amd64" | "x64" => "x64"
  | "arm64" | "aarch64" => "arm64"
  | ν => ν

/-- The machine that goes by some names. -/
def ofNames (system processor : String) : Host where
  system := if system.startsWith "win" then "win32" else system
  processor := processorName processor

def isWindows (η : Host) : Bool := η.system == "win32"

/-- The end of the name of the build that fits, if there is one. -/
def suffix? (η : Host) : Option String :=
  match η.system, η.processor with
  | "darwin", "arm64" => some "darwin.arm64"
  | "darwin", "x64" => some "darwin.amd64"
  | "linux", "arm64" => some "linux.arm64"
  | "linux", "x64" => some "linux.amd64"
  | "win32", "x64" => some "windows.amd64.exe"
  | _, _ => none

def unsupported (η : Host) : Fault :=
  .saying (.own .unsupportedPlatform)
    ("Unsupported platform: " ++ η.system ++ "/" ++ η.processor ++
      ". Cloud SQL Proxy supports darwin (arm64, x64), linux (arm64, x64), and win32 (x64).")

def suffix (η : Host) : Except Fault String :=
  match η.suffix? with
  | some σ => .ok σ
  | none => .error η.unsupported

end Host

/-- The version of the proxy that is taken unless another one is asked for. -/
def defaultVersion : String := "v2.14.3"

/-- Where builds of the proxy are published. -/
def publisher : String := "https://storage.googleapis.com/cloud-sql-connectors/cloud-sql-proxy"

/-- The address of the build that fits a machine. -/
def address (base version : String) (η : Host) : Except Fault String :=
  η.suffix.map fun σ ↦ base ++ "/" ++ version ++ "/cloud-sql-proxy." ++ σ

/-- What a user's environment says about directories. -/
structure Home where
  environment : List (String × String) := []

namespace Home

/-- A text without the slashes at its end. -/
def dropSlashes (s : String) : String :=
  String.ofList (s.toList.reverse.dropWhile (· == '/')).reverse

/-- The home directories of users that every machine has. -/
def knownUsers : List (String × String) := [("root", "/root")]

/-- The home directory of a user, or of the current one.  One that itself begins with `~` is no
place. -/
def directory? (η : Home) (user : String) : Option String :=
  let h := if user = "" then η.environment.lookup "HOME" else knownUsers.lookup user
  (h.map fun s ↦ if dropSlashes s = "" then "/" else dropSlashes s).filter (!·.startsWith "~")

def unknown : Fault := .saying .runtime "Could not determine home directory."

def expand (η : Home) (p : Path) : Except Fault Path :=
  match p.expandHome η.directory? with
  | some q => .ok q
  | none => .error unknown

/-- Where the proxy is kept unless a place is given. -/
def installDirectory (η : Home) (host : Host) : Except Fault Path :=
  let home := η.expand (Path.ofText "~")
  if host.isWindows then
    match (η.environment.lookup "APPDATA").filter (· != "") with
    | some a => .ok ((Path.ofText a).below "cloudsql-proxy")
    | none => home.map fun p ↦
        Path.below (Path.ofText ((p.below "AppData").below "Roaming").text) "cloudsql-proxy"
  else home.map (·.below ".cloudsql-proxy")

/-- The path of the proxy. -/
def binaryPath (η : Home) (host : Host) (given : Option String) : Except Fault Path :=
  match given.filter (· != "") with
  | some s => η.expand (Path.ofText s)
  | none => (η.installDirectory host).map
      (·.below (if host.isWindows then "cloud-sql-proxy.exe" else "cloud-sql-proxy"))

end Home

end Sluice.Install
