import Sluice.File.Store
import Sluice.Install.Host
import Sluice.Install.Transfer
import Sluice.Web.Url

/-!
# Download of the proxy

A download goes to a path of its own beside the destination and is moved there when it is complete.
Whatever else happens, the path of its own is cleared and the destination is as it was.
-/

namespace Sluice.Install

open File Web

/-- The machine, its files and the network, as far as a download meets them. -/
structure Site where
  host : Host
  home : Home := {}
  store : Store := {}
  /-- What the network answers, in the order of the requests. -/
  answers : List Answer := []
  /-- Why no mode of a file can be changed, if it cannot. -/
  modeFault : Option String := none
  limits : Limits := {}
  /-- The names of hosts that the client knows to write in ASCII. -/
  names : HostNames := fun _ ↦ none
  publisher : String := publisher
  events : List Event := []

/-- Work at a site.  What a failure leaves behind counts. -/
abbrev Work := ExceptT Fault (StateM Site)

namespace Work

def emit (ε : Event) : Work Unit := modify fun σ ↦ { σ with events := σ.events ++ [ε] }

def log (ι : Level) (s : String) : Work Unit := emit (.log ι .binary s)

/-- A failure to provide the proxy. -/
def failed {α : Type} (s : String) : Work α := throw (.saying (.own .binaryDownload) s)

end Work

open Work

/-- Changes the files of a site, if that succeeds. -/
def change (f : Store → Except Failure Store) : StateM Site (Option Failure) := do
  match f (← get).store with
  | .ok τ => modify ({ · with store := τ }); return none
  | .error φ => return some φ

/-- The answer to a request; a network that has none left knows nothing of the address. -/
def ask (url : String) : Work Answer := do
  emit (.request url)
  match (← get).answers with
  | [] => return .response { status := 404 }
  | α :: αs =>
    modify ({ · with answers := αs })
    return α

/-- Removes what is left of a download. -/
def clear (p : Path) : StateM Site Unit := do
  match ← change (·.remove p) with
  | some φ =>
    if φ.cause ≠ .absent then
      modify fun σ ↦ { σ with events := σ.events ++ [.log .warning .binary
        ("Failed to remove partial download " ++ p.text ++ ": " ++ φ.message)] }
  | none => return

/-- Why a download ends early. -/
inductive Stop where
  | fault (φ : Fault)
  | interrupted (ι : Interruption)

/-- Writes the body of an answer to a file. -/
def writeBody (ρ : Response) (p : Path) : ExceptT Stop (StateM Site) Unit := do
  let total ← match ρ.length with
    | .ok n => pure n
    | .error ε => throw (.fault (.saying .value ε.message))
  let bad (s : String) : Stop := .fault (.saying (.own .binaryDownload) s)
  let cannotWrite (s : String) := bad ("Failed to write Cloud SQL Proxy binary: " ++ s)
  match (← get).store.create p with
  | .error φ => throw (cannotWrite φ.message)
  | .ok (τ, κ, μ) =>
    let ω := ρ.write (← get).limits total
    modify fun σ ↦ { σ with
      store := τ.put κ (.file μ ω.content)
      events := σ.events ++ ω.events }
    match ρ.interruption with
    | none => return
    | some (.transport s) => throw (bad ("Download interrupted: " ++ s))
    | some (.fault φ) =>
      if φ.isSystem then throw (cannotWrite φ.message) else throw (.fault φ)
    | some ι => throw (.interrupted ι)

/-- The address that is requested for a text. -/
def requested (names : HostNames) (s : String) : Except Fault Url :=
  match Url.parse names s.toList with
  | .ok υ => .ok υ
  | .error ε => .error (.saying .address ε.message)

/-- A client does not understand where an answer sends it. -/
def misleading (ε : UrlError) : Interruption :=
  .protocol ("Invalid URL in location header: " ++ ε.message ++ ".")

/-- Requests an address and follows where it leads, with so many requests left. -/
def receive (p : Path) : Nat → String → ExceptT Stop (StateM Site) Unit
  | 0, _ =>
    throw (.fault (.saying (.own .binaryDownload)
      "Too many redirects while downloading Cloud SQL Proxy"))
  | n + 1, url => do
    let bad (s : String) : Stop := .fault (.saying (.own .binaryDownload) s)
    let names := (← get).names
    let υ ← match requested names url with
      | .ok υ => pure υ
      | .error φ => throw (.fault φ)
    match ← (ask υ.render).run with
    | .error φ => throw (.fault φ)
    | .ok (.interrupted ι) => throw (.interrupted ι)
    | .ok (.response ρ) =>
      if ρ.isRedirect then
        match ρ.location? with
        | none => throw (bad "Redirect without location header")
        | some l =>
          match Url.parse names l.toList with
          | .error ε => throw (.interrupted (misleading ε))
          | .ok ref =>
            match υ.advance names ref with
            | .ok ω => receive p n ω.render
            | .error ε => throw (.fault (.saying .address ε.message))
      else if ρ.status ≠ 200 then
        throw (bad ("Failed to download Cloud SQL Proxy: HTTP " ++ toString ρ.status ++ ". URL: " ++
          url))
      else writeBody ρ p

/-- What a download that ends early reports. -/
def Stop.report (timeout : Value) : Stop → Fault
  | .fault φ => φ
  | .interrupted ι =>
    match ι with
    | .timeout =>
      match Value.toInteger timeout with
      | .ok n => .saying (.own .binaryDownload) ("Download timed out after " ++ toString n ++
          " seconds. Check your network connection or try again later.")
      | .error ε => numberFault ε
    | .transport s | .protocol s => .saying (.own .binaryDownload)
        ("Failed to download Cloud SQL Proxy: " ++ s ++ ". Check your network connection.")
    | .fault φ => φ

/-- The time limit of a download in seconds. -/
def defaultTimeout : Value := .float (Decimal.Binary64.ofInt 30)

/-- Downloads a file.  A client for it is made unless the caller has one. -/
def downloadFile (url : String) (p : Path) (ownClient : Bool)
    (timeout : Value := defaultTimeout) : Work Unit := do
  let some temp := p.extend? ".downloading"
    | throw (.saying .value ("PosixPath(" ++ Text.quoteString p.text ++ ") has an empty name"))
  if !ownClient then emit (.client (some timeout))
  let outcome ← (receive temp ((← get).limits.maxRedirects + 1).toNat url).run
  let outcome ← match outcome with
    | .error σ => pure (some (σ.report timeout))
    | .ok () =>
      match ← change (·.move temp p) with
      | none => pure none
      | some φ => pure (some (.saying (.own .binaryDownload)
          ("Failed to save Cloud SQL Proxy binary: " ++ φ.message)))
  if let some φ := outcome then
    clear temp
    throw φ

/-- Downloads the build of the proxy that fits the machine. -/
def downloadBinary (p : Path) (version : String) (ownClient : Bool) : Work Unit := do
  let σ ← get
  let url ← MonadExcept.ofExcept (address σ.publisher version σ.host)
  if let some φ ← change (·.makeDirectories p.parent) then
    failed ("Failed to create install directory " ++ p.parent.text ++ ": " ++ φ.message)
  log .info ("Downloading binary from " ++ url ++ "...")
  downloadFile url p ownClient
  if !σ.host.isWindows then
    let failure ← match σ.modeFault with
      | some s => pure (some s)
      | none => pure ((← change (·.setMode p 0o755)).map (·.message))
    if let some s := failure then
      failed ("Failed to make Cloud SQL Proxy binary executable: " ++ s)
  log .info ("Binary downloaded to " ++ p.text)

/-- Whether the proxy is at a path and can be run; some machines do not tell. -/
def Site.hasBinary (σ : Site) (p : Path) : Bool :=
  σ.store.isFile p && (σ.host.isWindows || σ.store.isExecutable p)

/-- The path of the proxy, which is downloaded if it is not there. -/
def ensureBinary (given : Option String) (mayDownload : Bool) (version : String)
    (ownClient : Bool) : Work Path := do
  let σ ← get
  let p ← MonadExcept.ofExcept (σ.home.binaryPath σ.host given)
  if σ.hasBinary p then
    log .info ("Using existing binary at " ++ p.text)
    return p
  if !mayDownload then
    let url ← MonadExcept.ofExcept (address σ.publisher version σ.host)
    throw (.saying (.own .proxyStartup) ("Cloud SQL Proxy binary not found at " ++ p.text ++ ". " ++
      "Either set CLOUD_SQL_PROXY_AUTO_DOWNLOAD=true to enable automatic download, " ++
      "set CLOUD_SQL_PROXY_BINARY to point to an existing binary, " ++
      "or manually download from " ++ url))
  log .info ("Binary not found at " ++ p.text ++ ", downloading...")
  downloadBinary p version ownClient
  return p

end Sluice.Install
