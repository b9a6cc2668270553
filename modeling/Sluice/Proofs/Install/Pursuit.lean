import Mathlib.Data.List.Basic
import Sluice.Install.Download

/-!
# What a download does, step by step

The requests of a download do not concern its files.  So a download falls into a pursuit of the
answer that is to be written, which depends on the network alone (`Pursues`), and what becomes of
that answer.  For each part there is one equation, by which all that is said about downloads can be
told without looking into them (`run_receive`, `run_writeBody`, `run_downloadFile`).
-/

namespace Sluice.Install

open File Web Work

/-! ## Where a download is led -/

/-- The answer that a network gives next, and those behind it.  One that has none left knows nothing
of the address. -/
def next : List Answer → Answer × List Answer
  | [] => (.response { status := 404 }, [])
  | α :: αs => (α, αs)

/-- Where a redirect leads, if an answer is one and says so. -/
def Response.target? (ρ : Response) : Option String := if ρ.isRedirect then ρ.location? else none

theorem Response.target?_of_isRedirect {ρ : Response} (h : ρ.isRedirect = true) :
    ρ.target? = ρ.location? := if_pos h

theorem Response.target?_of_not_isRedirect {ρ : Response} (h : ρ.isRedirect = false) :
    ρ.target? = none := if_neg (Bool.eq_false_iff.mp h)

theorem Response.isRedirect_of_target? {ρ : Response} {l : String} (h : ρ.target? = some l) :
    ρ.isRedirect = true := by
  unfold target? at h
  split at h
  next hr => exact hr
  next => cases h

/-- A redirect that leads on names a place. -/
theorem Response.location?_of_target? {ρ : Response} {l : String} (h : ρ.target? = some l) :
    ρ.location? = some l := (target?_of_isRedirect (isRedirect_of_target? h)).symm.trans h

theorem Response.isRedirect_of_status {ρ : Response} (h : ρ.status = 200) :
    ρ.isRedirect = false := by
  rw [isRedirect, h]
  decide

/-- All requests are made and no end is in sight. -/
def tooMany : Fault :=
  .saying (.own .binaryDownload) "Too many redirects while downloading Cloud SQL Proxy"

/-- A redirect does not say where to. -/
def astray : Fault := .saying (.own .binaryDownload) "Redirect without location header"

/-- The file is not to be had. -/
def refusal (status : Int) (url : String) : Fault :=
  .saying (.own .binaryDownload)
    ("Failed to download Cloud SQL Proxy: HTTP " ++ toString status ++ ". URL: " ++ url)

theorem requested_eq_ok_iff {names : HostNames} {url : String} {υ : Url} :
    requested names url = .ok υ ↔ Url.parse names url.toList = .ok υ := by
  unfold requested
  cases Url.parse names url.toList <;> simp

/-- With so many requests left, a download that begins at an address while the network has some
answers makes the requests `urls`, leaves the answers `βs`, and finds an answer to write or a reason
to stop. -/
inductive Pursues (names : HostNames) : Nat → String → List Answer → List String → List Answer →
    Except Stop Response → Prop
  | exhausted {url : String} {αs : List Answer} :
    Pursues names 0 url αs [] αs (.error (.fault tooMany))
  | unread {n : Nat} {url : String} {αs : List Answer} {φ : Fault}
    (h : requested names url = .error φ) :
    Pursues names (n + 1) url αs [] αs (.error (.fault φ))
  | interrupted {n : Nat} {url : String} {αs : List Answer} {υ : Url} {ι : Interruption}
    (h : requested names url = .ok υ) (ha : (next αs).1 = .interrupted ι) :
    Pursues names (n + 1) url αs [υ.render] (next αs).2 (.error (.interrupted ι))
  | astray {n : Nat} {url : String} {αs : List Answer} {υ : Url} {ρ : Response}
    (h : requested names url = .ok υ) (ha : (next αs).1 = .response ρ) (hr : ρ.isRedirect = true)
    (ht : ρ.target? = none) :
    Pursues names (n + 1) url αs [υ.render] (next αs).2 (.error (.fault astray))
  | garbled {n : Nat} {url : String} {αs : List Answer} {υ : Url} {ρ : Response} {l : String}
    {ε : UrlError} (h : requested names url = .ok υ) (ha : (next αs).1 = .response ρ)
    (ht : ρ.target? = some l) (hl : Url.parse names l.toList = .error ε) :
    Pursues names (n + 1) url αs [υ.render] (next αs).2 (.error (.interrupted (misleading ε)))
  | misled {n : Nat} {url : String} {αs : List Answer} {υ ref : Url} {ρ : Response} {l : String}
    {ε : UrlError} (h : requested names url = .ok υ) (ha : (next αs).1 = .response ρ)
    (ht : ρ.target? = some l) (hl : Url.parse names l.toList = .ok ref)
    (hf : υ.advance names ref = .error ε) :
    Pursues names (n + 1) url αs [υ.render] (next αs).2 (.error (.fault (.saying .address ε.message)))
  | refused {n : Nat} {url : String} {αs : List Answer} {υ : Url} {ρ : Response}
    (h : requested names url = .ok υ) (ha : (next αs).1 = .response ρ) (hr : ρ.isRedirect = false)
    (hs : ρ.status ≠ 200) :
    Pursues names (n + 1) url αs [υ.render] (next αs).2 (.error (.fault (refusal ρ.status url)))
  | found {n : Nat} {url : String} {αs : List Answer} {υ : Url} {ρ : Response}
    (h : requested names url = .ok υ) (ha : (next αs).1 = .response ρ) (hs : ρ.status = 200) :
    Pursues names (n + 1) url αs [υ.render] (next αs).2 (.ok ρ)
  | onward {n : Nat} {url : String} {αs βs : List Answer} {υ ω : Url} {ρ : Response} {l : String}
    {urls : List String} {r : Except Stop Response} (h : requested names url = .ok υ)
    (ha : (next αs).1 = .response ρ) (ht : ρ.target? = some l) (hf : υ.follow names l.toList = .ok ω)
    (hn : Pursues names n ω.render (next αs).2 urls βs r) :
    Pursues names (n + 1) url αs (υ.render :: urls) βs r

/-- A pursuit always comes to an end. -/
theorem exists_pursues (names : HostNames) (n : Nat) (url : String) (αs : List Answer) :
    ∃ urls βs r, Pursues names n url αs urls βs r := by
  induction n generalizing url αs with
  | zero => exact ⟨_, _, _, .exhausted⟩
  | succ n ih =>
    cases h : requested names url with
    | error φ => exact ⟨_, _, _, .unread h⟩
    | ok υ =>
      cases ha : (next αs).1 with
      | interrupted ι => exact ⟨_, _, _, .interrupted h ha⟩
      | response ρ =>
        cases ht : ρ.target? with
        | some l =>
          cases hl : Url.parse names l.toList with
          | error ε => exact ⟨_, _, _, .garbled h ha ht hl⟩
          | ok ref =>
            cases hf : υ.advance names ref with
            | error ε => exact ⟨_, _, _, .misled h ha ht hl hf⟩
            | ok ω =>
              obtain ⟨urls, βs, r, hn⟩ := ih ω.render (next αs).2
              exact ⟨_, _, _, .onward h ha ht (Url.follow_eq_ok_iff.mpr ⟨ref, hl, hf⟩) hn⟩
        | none =>
          cases hr : ρ.isRedirect with
          | true => exact ⟨_, _, _, .astray h ha hr ht⟩
          | false =>
            by_cases hs : ρ.status = 200
            · exact ⟨_, _, _, .found h ha hs⟩
            · exact ⟨_, _, _, .refused h ha hr hs⟩

/-! ## Runs of the parts -/

/-- Work that cannot fail is done first. -/
theorem run_lift_bind {α β ε : Type} (m : StateM Site α) (f : α → ExceptT ε (StateM Site) β)
    (σ : Site) :
    (liftM m >>= f : ExceptT ε (StateM Site) β).run.run σ = (f (m.run σ).1).run.run (m.run σ).2 :=
  rfl

theorem run_get_bind {β ε : Type} (f : Site → ExceptT ε (StateM Site) β) (σ : Site) :
    (get >>= f).run.run σ = (f σ).run.run σ := rfl

theorem run_modify_bind {β ε : Type} (g : Site → Site) (f : Unit → ExceptT ε (StateM Site) β)
    (σ : Site) : (modify g >>= f).run.run σ = (f ()).run.run (g σ) := rfl

theorem run_emit_bind {β : Type} (ε : Event) (f : Unit → Work β) (σ : Site) :
    (emit ε >>= f).run.run σ = (f ()).run.run { σ with events := σ.events ++ [ε] } := rfl

theorem run_ask (url : String) (σ : Site) : (ask url).run.run σ =
    (.ok (next σ.answers).1,
      { σ with answers := (next σ.answers).2, events := σ.events ++ [.request url] }) := by
  obtain ⟨_, _, _, answers, _, _, _, _, _⟩ := σ
  cases answers <;> rfl

/-- A site where requests were made, which left some answers. -/
def Site.pursued (σ : Site) (urls : List String) (βs : List Answer) : Site :=
  { σ with answers := βs, events := σ.events ++ urls.map .request }

/-- The answer to a request is looked at where one request fewer is left. -/
theorem run_receive_succ {names : HostNames} {n : Nat} {url : String} {υ : Url} {σ : Site}
    (hν : σ.names = names) (h : requested names url = .ok υ) (p : Path) :
    (receive p (n + 1) url).run.run σ =
      let τ : Site := { σ with
        answers := (next σ.answers).2, events := σ.events ++ [.request υ.render] }
      match (next σ.answers).1 with
      | .interrupted ι => (.error (.interrupted ι), τ)
      | .response ρ =>
        (if ρ.isRedirect then
          match ρ.location? with
          | none => throw (.fault astray)
          | some l =>
            match Url.parse names l.toList with
            | .error ε => throw (.interrupted (misleading ε))
            | .ok ref =>
              match υ.advance names ref with
              | .ok ω => receive p n ω.render
              | .error ε => throw (.fault (.saying .address ε.message))
        else if ρ.status ≠ 200 then throw (.fault (refusal ρ.status url))
        else writeBody ρ p : ExceptT Stop (StateM Site) Unit).run.run τ := by
  subst hν
  rw [receive, run_get_bind]
  simp only [h, pure_bind]
  rw [run_lift_bind, run_ask]
  cases (next σ.answers).1 <;> rfl

/-- To receive an answer is to pursue it and then to write it. -/
theorem run_receive {names : HostNames} {n : Nat} {url : String} {αs βs : List Answer}
    {urls : List String} {r : Except Stop Response} (h : Pursues names n url αs urls βs r) (p : Path)
    {σ : Site} (hν : σ.names = names) (hσ : σ.answers = αs) : (receive p n url).run.run σ =
      (do writeBody (← MonadExcept.ofExcept r) p : ExceptT Stop (StateM Site) Unit).run.run
        (σ.pursued urls βs) := by
  unfold Site.pursued
  induction h generalizing σ with
  | exhausted =>
    subst hσ
    rw [List.map_nil, List.append_nil]
    rfl
  | unread h =>
    subst hσ hν
    rw [receive, run_get_bind, List.map_nil, List.append_nil]
    simp only [h]
    rfl
  | interrupted h ha =>
    subst hσ
    rw [run_receive_succ hν h, ha]
    rfl
  | astray h ha hr ht =>
    subst hσ
    rw [run_receive_succ hν h, ha]
    simp only [hr, (Response.target?_of_isRedirect hr).symm.trans ht, if_true]
    rfl
  | garbled h ha ht hl =>
    subst hσ
    rw [run_receive_succ hν h, ha]
    simp only [Response.isRedirect_of_target? ht, Response.location?_of_target? ht, hl, if_true]
    rfl
  | misled h ha ht hl hf =>
    subst hσ
    rw [run_receive_succ hν h, ha]
    simp only [Response.isRedirect_of_target? ht, Response.location?_of_target? ht, hl, hf, if_true]
    rfl
  | refused h ha hr hs =>
    subst hσ
    rw [run_receive_succ hν h, ha]
    simp only [hr, hs, Bool.false_eq_true, if_false, ne_eq, not_false_eq_true, if_true]
    rfl
  | found h ha hs =>
    subst hσ
    rw [run_receive_succ hν h, ha]
    simp only [Response.isRedirect_of_status hs, hs, Bool.false_eq_true, if_false, ne_eq,
      not_true_eq_false]
    rfl
  | onward h ha ht hf _ ih =>
    subst hσ
    obtain ⟨ref, hl, hf⟩ := Url.follow_eq_ok_iff.mp hf
    rw [run_receive_succ hν h, ha]
    simp only [Response.isRedirect_of_target? ht, Response.location?_of_target? ht, hl, hf, if_true]
    rw [@ih { σ with answers := (next σ.answers).2, events := σ.events ++ [.request _] } hν rfl,
      List.map_cons, ← List.append_cons]

/-- A file cannot be written. -/
def unwritten (s : String) : Fault :=
  .saying (.own .binaryDownload) ("Failed to write Cloud SQL Proxy binary: " ++ s)

/-- How the writing of a body ends that comes as far as it does. -/
def ending : Option Interruption → Except Stop Unit
  | none => .ok ()
  | some (.transport s) =>
    .error (.fault (.saying (.own .binaryDownload) ("Download interrupted: " ++ s)))
  | some (.fault φ) => .error (.fault (if φ.isSystem then unwritten φ.message else φ))
  | some ι => .error (.interrupted ι)

/-- The announced length of a body is read before anything is written. -/
theorem run_writeBody (ρ : Response) (p : Path) (σ : Site) : (writeBody ρ p).run.run σ =
    match ρ.length with
    | .error ε => (.error (.fault (.saying .value ε.message)), σ)
    | .ok n =>
      match σ.store.create p with
      | .error φ => (.error (.fault (unwritten φ.message)), σ)
      | .ok (τ, κ, μ) => (ending ρ.interruption, { σ with
          store := τ.put κ (.file μ (ρ.write σ.limits n).content)
          events := σ.events ++ (ρ.write σ.limits n).events }) := by
  cases hl : ρ.length with
  | error ε =>
    simp only [writeBody, hl]
    rfl
  | ok n =>
    simp only [writeBody, hl, pure_bind]
    rw [run_get_bind]
    cases σ.store.create p with
    | error φ => rfl
    | ok t =>
      dsimp only
      rw [run_get_bind, run_modify_bind]
      obtain _ | _ | _ | _ | φ := ρ.interruption
      case fault => cases hφ : φ.isSystem <;> simp [ending, hφ] <;> rfl
      all_goals rfl

/-- An answer that was found is written. -/
theorem run_writeBody_ofExcept (ρ : Response) (p : Path) (σ : Site) :
    (do writeBody (← MonadExcept.ofExcept (.ok ρ)) p : ExceptT Stop (StateM Site) Unit).run.run σ =
      (writeBody ρ p).run.run σ := rfl

/-! ## The run of a download -/

/-- A file cannot be moved to its place. -/
def unsaved (s : String) : Fault :=
  .saying (.own .binaryDownload) ("Failed to save Cloud SQL Proxy binary: " ++ s)

/-- A site where a client was made, unless the caller has one. -/
def Site.withClient (σ : Site) (ownClient : Bool) (timeout : Value) : Site :=
  if ownClient then σ else { σ with events := σ.events ++ [.client (some timeout)] }

/-- A site where what is left of a download was removed. -/
def Site.cleared (σ : Site) (p : Path) : Site := ((clear p).run σ).2

theorem run_change (f : Store → Except Failure Store) (σ : Site) : (change f).run σ =
    match f σ.store with
    | .ok τ => (none, { σ with store := τ })
    | .error φ => (some φ, σ) := by
  unfold change
  rw [StateT.run_bind, StateT.run_get, pure_bind]
  cases f σ.store <;> rfl

/-- What is removed is a matter of the files and the log. -/
theorem exists_cleared_eq (σ : Site) (p : Path) : ∃ τ εs,
    σ.cleared p = { σ with store := τ, events := σ.events ++ εs } ∧
      ∀ ε ∈ εs, ∃ ι s, ε = .log ι .binary s := by
  unfold Site.cleared clear
  rw [StateT.run_bind, run_change]
  cases σ.store.remove p with
  | ok τ => exact ⟨τ, [], by rw [List.append_nil]; rfl, nofun⟩
  | error φ =>
    obtain ⟨c, q, t⟩ := φ
    cases c
    case absent => exact ⟨σ.store, [], by rw [List.append_nil]; rfl, nofun⟩
    all_goals exact ⟨σ.store, [_], rfl, fun ε hε ↦ ⟨_, _, List.mem_singleton.mp hε⟩⟩

/-- The number of requests that a download may make. -/
def Limits.maxRequests (limits : Limits) : Nat := (limits.maxRedirects + 1).toNat

/-- To download a file is to pursue it, to write it, and to move it to its place; whatever is left
of a failure is removed. -/
theorem run_downloadFile {p temp : Path} (ht : p.extend? ".downloading" = some temp) {url : String}
    {σ : Site} {urls : List String} {βs : List Answer} {r : Except Stop Response}
    (h : Pursues σ.names σ.limits.maxRequests url σ.answers urls βs r) (ownClient : Bool)
    (timeout : Value) :
    (downloadFile url p ownClient timeout).run.run σ =
      match (do writeBody (← MonadExcept.ofExcept r) temp : ExceptT Stop (StateM Site) Unit).run.run
        ((σ.withClient ownClient timeout).pursued urls βs) with
      | (.error ς, τ) => (.error (ς.report timeout), τ.cleared temp)
      | (.ok (), τ) =>
        match τ.store.move temp p with
        | .ok υ => (.ok (), { τ with store := υ })
        | .error φ => (.error (unsaved φ.message), τ.cleared temp) := by
  have ha : (σ.withClient ownClient timeout).answers = σ.answers := by
    unfold Site.withClient
    split <;> rfl
  have hν : (σ.withClient ownClient timeout).names = σ.names := by
    unfold Site.withClient
    split <;> rfl
  rw [← run_receive h temp hν ha]
  unfold downloadFile Site.withClient
  rw [ht]
  dsimp only
  rw [pure_bind]
  -- with and without a client of its own the download goes the same way
  cases ownClient
  on_goal 1 => rw [Bool.not_false, if_pos rfl, run_emit_bind, if_neg Bool.false_ne_true]
  on_goal 2 => rw [Bool.not_true, if_neg Bool.false_ne_true, if_pos rfl]
  all_goals
    rw [run_get_bind, run_lift_bind, Limits.maxRequests]
    obtain ⟨ς | ⟨⟩, τ⟩ := (receive temp (σ.limits.maxRedirects + 1).toNat url).run.run _
    · rfl
    · dsimp only
      rw [run_lift_bind, run_change]
      cases τ.store.move temp p <;> rfl

/-- A download whose pursuit fails reports this. -/
theorem fst_downloadFile_of_error {p temp : Path} (ht : p.extend? ".downloading" = some temp)
    {url : String} {σ : Site} {urls : List String} {βs : List Answer} {ς : Stop}
    (h : Pursues σ.names σ.limits.maxRequests url σ.answers urls βs (.error ς)) (ownClient : Bool)
    (timeout : Value) :
    ((downloadFile url p ownClient timeout).run.run σ).1 = .error (ς.report timeout) := by
  rw [run_downloadFile ht h]
  rfl

/-! ## The runs around a download -/

theorem run_ofExcept_bind {α β : Type} (r : Except Fault α) (f : α → Work β) (σ : Site) :
    (MonadExcept.ofExcept r >>= f).run.run σ =
      match r with
      | .ok a => (f a).run.run σ
      | .error φ => (.error φ, σ) := by
  cases r <;> rfl

theorem run_bind {α β : Type} (m : Work α) (f : α → Work β) (σ : Site) :
    (m >>= f).run.run σ =
      match m.run.run σ with
      | (.ok a, τ) => (f a).run.run τ
      | (.error φ, τ) => (.error φ, τ) := by
  rw [ExceptT.run_bind, StateT.run_bind]
  obtain ⟨r, τ⟩ := m.run.run σ
  cases r <;> rfl

/-- A site with one more record of how the proxy is provided. -/
def Site.noting (σ : Site) (s : String) : Site :=
  { σ with events := σ.events ++ [.log .info .binary s] }

theorem run_log_bind {β : Type} (s : String) (f : Unit → Work β) (σ : Site) :
    (log .info s >>= f).run.run σ = (f ()).run.run (σ.noting s) := rfl

/-- The directory of a file cannot be made. -/
def homeless (p : Path) (s : String) : Fault :=
  .saying (.own .binaryDownload)
    ("Failed to create install directory " ++ p.parent.text ++ ": " ++ s)

/-- A file cannot be made executable. -/
def locked (s : String) : Fault :=
  .saying (.own .binaryDownload) ("Failed to make Cloud SQL Proxy binary executable: " ++ s)

/-- What becomes of a file that was downloaded, where `σ` tells the machine. -/
def Site.unlocked (σ : Site) (p : Path) (τ : Site) : Except Fault Unit × Site :=
  let done := "Binary downloaded to " ++ p.text
  if σ.host.isWindows then (.ok (), τ.noting done)
  else match σ.modeFault with
    | some s => (.error (locked s), τ)
    | none => match τ.store.setMode p 0o755 with
      | .ok υ => (.ok (), { τ with store := υ }.noting done)
      | .error φ => (.error (locked φ.message), τ)

/-- To provide the proxy is to make its directory, to download it, and to make it executable. -/
theorem run_downloadBinary {version url : String} {σ : Site}
    (h : address σ.publisher version σ.host = .ok url) (p : Path) (ownClient : Bool) :
    (downloadBinary p version ownClient).run.run σ =
      match σ.store.makeDirectories p.parent with
      | .error φ => (.error (homeless p φ.message), σ)
      | .ok τ =>
        match (downloadFile url p ownClient).run.run
          ({ σ with store := τ }.noting ("Downloading binary from " ++ url ++ "...")) with
        | (.ok (), υ) => σ.unlocked p υ
        | (.error φ, υ) => (.error φ, υ) := by
  unfold downloadBinary
  rw [run_get_bind, h, run_ofExcept_bind]
  dsimp only
  rw [run_lift_bind, run_change]
  cases σ.store.makeDirectories p.parent with
  | error φ => rfl
  | ok τ =>
    dsimp only
    rw [run_log_bind, run_bind]
    obtain ⟨φ | ⟨⟩, υ⟩ := (downloadFile url p ownClient).run.run _
    · rfl
    · dsimp only
      unfold Site.unlocked
      cases σ.host.isWindows
      on_goal 2 => rfl
      rw [Bool.not_false, if_pos rfl, if_neg Bool.false_ne_true]
      cases σ.modeFault with
      | some s => rfl
      | none =>
        dsimp only
        rw [run_lift_bind, run_change]
        cases υ.store.setMode p 0o755 <;> rfl

/-- A machine that no build fits is told so before anything is done. -/
theorem run_downloadBinary_of_error {version : String} {φ : Fault} {σ : Site}
    (h : address σ.publisher version σ.host = .error φ) (p : Path) (ownClient : Bool) :
    (downloadBinary p version ownClient).run.run σ = (.error φ, σ) := by
  unfold downloadBinary
  rw [run_get_bind, h, run_ofExcept_bind]

/-- The proxy is not there and may not be downloaded. -/
def missing (p : Path) (url : String) : Fault :=
  .saying (.own .proxyStartup) ("Cloud SQL Proxy binary not found at " ++ p.text ++ ". " ++
    "Either set CLOUD_SQL_PROXY_AUTO_DOWNLOAD=true to enable automatic download, " ++
    "set CLOUD_SQL_PROXY_BINARY to point to an existing binary, " ++
    "or manually download from " ++ url)

/-- The proxy is downloaded if it is not there. -/
theorem run_ensureBinary {given : Option String} {p : Path} {σ : Site}
    (h : σ.home.binaryPath σ.host given = .ok p) (mayDownload : Bool) (version : String)
    (ownClient : Bool) : (ensureBinary given mayDownload version ownClient).run.run σ =
      if σ.hasBinary p then (.ok p, σ.noting ("Using existing binary at " ++ p.text))
      else if mayDownload then
        match (downloadBinary p version ownClient).run.run
          (σ.noting ("Binary not found at " ++ p.text ++ ", downloading...")) with
        | (.ok (), τ) => (.ok p, τ)
        | (.error φ, τ) => (.error φ, τ)
      else (.error (match address σ.publisher version σ.host with
        | .ok url => missing p url
        | .error φ => φ), σ) := by
  unfold ensureBinary
  rw [run_get_bind, h, run_ofExcept_bind]
  dsimp only
  cases σ.hasBinary p
  on_goal 2 => rfl
  rw [if_neg Bool.false_ne_true, if_neg Bool.false_ne_true]
  cases mayDownload
  · rw [Bool.not_false, if_pos rfl, if_neg Bool.false_ne_true, run_ofExcept_bind]
    cases address σ.publisher version σ.host <;> rfl
  · rw [Bool.not_true, if_neg Bool.false_ne_true, if_pos rfl, run_log_bind, run_bind]
    obtain ⟨φ | ⟨⟩, τ⟩ := (downloadBinary p version ownClient).run.run _ <;> rfl

end Sluice.Install
