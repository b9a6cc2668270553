import Sluice.Proofs.File.Store
import Sluice.Proofs.Install.Pursuit

/-!
# The proxy is provided once

A proxy that is there is taken as it is.  One that is not there and cannot be downloaded is missed
before anything is done about it.  One that is downloaded is there from then on, so whoever asks for
it again is given it without further ado (`ensureBinary_provides`).
-/

namespace Sluice.Install

open File Web

variable {σ τ υ : Site} {p q : Path}

/-! ## What happens to a site -/

/-- From `σ` to `τ` nothing has happened but that records were written. -/
def Site.Notes (σ τ : Site) : Prop :=
  ∃ εs, τ = { σ with events := σ.events ++ εs } ∧ ∀ ε ∈ εs, ∃ ι s, ε = .log ι .binary s

theorem Site.Notes.refl (σ : Site) : σ.Notes σ := ⟨[], by rw [List.append_nil], nofun⟩

theorem Site.notes_noting (σ : Site) (s : String) : σ.Notes (σ.noting s) :=
  ⟨_, rfl, fun _ hε ↦ ⟨_, _, List.mem_singleton.mp hε⟩⟩

/-- The machine at `τ` is the one at `σ`, whatever has happened to its files and the network. -/
def Site.SameMachine (σ τ : Site) : Prop :=
  ∃ store answers events, τ = { σ with store, answers, events }

namespace Site.SameMachine

theorem refl (σ : Site) : σ.SameMachine σ := ⟨_, _, _, rfl⟩

theorem trans (h : σ.SameMachine τ) (h' : τ.SameMachine υ) : σ.SameMachine υ := by
  obtain ⟨_, _, _, rfl⟩ := h
  obtain ⟨_, _, _, rfl⟩ := h'
  exact ⟨_, _, _, rfl⟩

/-- The host does not change. -/
theorem host_eq (h : σ.SameMachine τ) : τ.host = σ.host := by
  obtain ⟨_, _, _, rfl⟩ := h
  rfl

/-- The home directory does not change. -/
theorem home_eq (h : σ.SameMachine τ) : τ.home = σ.home := by
  obtain ⟨_, _, _, rfl⟩ := h
  rfl

end Site.SameMachine

theorem sameMachine_noting (σ : Site) (s : String) : σ.SameMachine (σ.noting s) := ⟨_, _, _, rfl⟩

theorem sameMachine_withClient (σ : Site) (ownClient : Bool) (timeout : Value) :
    σ.SameMachine (σ.withClient ownClient timeout) := by
  unfold Site.withClient
  split
  · exact .refl σ
  · exact ⟨_, _, _, rfl⟩

/-- To write a body leaves the machine what it is. -/
theorem sameMachine_writeBody (ρ : Response) (p : Path) (σ : Site) :
    σ.SameMachine ((writeBody ρ p).run.run σ).2 := by
  rw [run_writeBody]
  split
  · exact .refl σ
  · split
    · exact .refl σ
    · exact ⟨_, _, _, rfl⟩

/-- A download that ends well leaves a file where it was to go. -/
theorem exists_at?_of_downloadFile {url : String} {ownClient : Bool} {timeout : Value}
    (h : (downloadFile url p ownClient timeout).run.run σ = (.ok (), τ)) :
    σ.SameMachine τ ∧ ∃ μ β, τ.store.at? p = some (.file μ β) := by
  cases ht : p.extend? ".downloading" with
  | none =>
    unfold downloadFile at h
    rw [ht] at h
    cases h
  | some temp =>
    obtain ⟨urls, βs, r, hp⟩ := exists_pursues σ.names σ.limits.maxRequests url σ.answers
    rw [run_downloadFile ht hp] at h
    set σ' := (σ.withClient ownClient timeout).pursued urls βs
    have hσ' : σ.SameMachine σ' := (sameMachine_withClient ..).trans ⟨_, _, _, rfl⟩
    cases r with
    | error ς => cases h
    | ok ρ =>
      have hw := sameMachine_writeBody ρ temp σ'
      rw [run_writeBody_ofExcept] at h
      split at h
      · cases h
      next υ he =>
        rw [he] at hw
        split at h
        next ω hm =>
          cases h
          exact ⟨hσ'.trans (hw.trans ⟨_, _, _, rfl⟩), Store.exists_at?_of_move hm fun hmeet ↦
            Store.not_meet_of_extend? ht (by decide) hmeet.symm⟩
        · cases h

/-! ## Where the proxy is -/

/-- The proxy is a file; but on some machines it has to be one that someone may run. -/
theorem Site.hasBinary_iff : σ.hasBinary p = true ↔ ∃ μ β, σ.store.at? p = some (.file μ β) ∧
    (σ.host.isWindows = true ∨ μ &&& 0o111 ≠ 0) := by
  unfold hasBinary Store.isFile Store.isExecutable
  cases σ.store.at? p with
  | none => simp
  | some ν => cases ν <;> simp

/-- To take a lock leaves the machine what it is. -/
theorem sameMachine_unlocked (σ : Site) (p : Path) (τ : Site) :
    τ.SameMachine (σ.unlocked p τ).2 := by
  unfold Site.unlocked
  dsimp only
  split
  · exact ⟨_, _, _, rfl⟩
  · split
    · exact .refl τ
    · split
      · exact ⟨_, _, _, rfl⟩
      · exact .refl τ

/-- A file that was downloaded and unlocked is the proxy. -/
theorem hasBinary_of_unlocked (hσ : σ.SameMachine τ)
    (hp : ∃ μ β, τ.store.at? p = some (.file μ β)) (h : σ.unlocked p τ = (.ok (), υ)) :
    σ.SameMachine υ ∧ υ.hasBinary p = true := by
  obtain ⟨μ, β, hp⟩ := hp
  have hυ : σ.SameMachine υ := by
    have hτ := sameMachine_unlocked σ p τ
    rw [h] at hτ
    exact hσ.trans hτ
  refine ⟨hυ, Site.hasBinary_iff.mpr ?_⟩
  rw [hυ.host_eq]
  unfold Site.unlocked at h
  dsimp only at h
  split at h
  next hw =>
    cases h
    exact ⟨μ, β, hp, .inl hw⟩
  · split at h
    · cases h
    · split at h
      next hm =>
        cases h
        exact ⟨0o755, β, Store.at?_of_setMode hm hp, .inr (by decide)⟩
      · cases h

/-- A download that succeeds leaves the program in its place, and the machine what it is. -/
theorem hasBinary_of_downloadBinary {version : String} {ownClient : Bool}
    (h : (downloadBinary p version ownClient).run.run σ = (.ok (), τ)) :
    σ.SameMachine τ ∧ τ.hasBinary p = true := by
  cases hu : address σ.publisher version σ.host with
  | error φ =>
    rw [run_downloadBinary_of_error hu] at h
    cases h
  | ok url =>
    rw [run_downloadBinary hu] at h
    split at h
    · cases h
    next store hd =>
      set σ' := { σ with store }.noting ("Downloading binary from " ++ url ++ "...")
      have hσ' : σ.SameMachine σ' := ⟨_, _, _, rfl⟩
      split at h
      next υ he =>
        obtain ⟨hυ, hp⟩ := exists_at?_of_downloadFile he
        exact hasBinary_of_unlocked (hσ'.trans hυ) hp h
      · cases h

/-! ## The proxy is provided -/

/-- A program that is there is taken as it is. -/
theorem ensureBinary_of_hasBinary {given : Option String}
    (h : σ.home.binaryPath σ.host given = .ok p) (hp : σ.hasBinary p = true) (mayDownload : Bool)
    (version : String) (ownClient : Bool) :
    ∃ τ, (ensureBinary given mayDownload version ownClient).run.run σ = (.ok p, τ) ∧ σ.Notes τ := by
  rw [run_ensureBinary h, if_pos hp]
  exact ⟨_, rfl, σ.notes_noting _⟩

/-- What it comes to that someone asks for the proxy, whose place is `p`. -/
structure Provides (σ : Site) (given : Option String) (p : Path) (mayDownload : Bool)
    (r : Except Fault Path) (τ : Site) : Prop where
  /-- A proxy that is there is taken as it is. -/
  existing : σ.hasBinary p = true → r = .ok p ∧ σ.Notes τ
  /-- One that is not there and cannot be had is missed, and nothing is done about it. -/
  refused : σ.hasBinary p = false → mayDownload = false ∨ σ.host.suffix? = none →
    (∃ φ, r = .error φ ∧ φ.kind =
      .own (if σ.host.suffix? = none then .unsupportedPlatform else .proxyStartup)) ∧ σ.Notes τ
  /-- One that is given is there from then on, and so it is given again as it is. -/
  provided (q : Path) : r = .ok q → q = p ∧ τ.hasBinary p = true ∧
    ∀ mayDownload version ownClient, ∃ υ,
      (ensureBinary given mayDownload version ownClient).run.run τ = (.ok p, υ) ∧ τ.Notes υ

/-- A host without a suffix has no address to download from. -/
theorem address_eq_error {base version : String} {η : Host} (h : η.suffix? = none) :
    address base version η = .error η.unsupported := by
  rw [address, Host.suffix, h]
  rfl

/-- The address names the version and the suffix of the host. -/
theorem address_eq_ok {base version s : String} {η : Host} (h : η.suffix? = some s) :
    address base version η = .ok (base ++ "/" ++ version ++ "/cloud-sql-proxy." ++ s) := by
  rw [address, Host.suffix, h]
  rfl

/-- Whoever asks for the proxy is given it if it is there, or is told that it cannot be had, without
any request and any change of a file.  Otherwise it is downloaded, and it need not be downloaded a
second time. -/
theorem ensureBinary_provides {given : Option String}
    (h : σ.home.binaryPath σ.host given = .ok p) (mayDownload : Bool) (version : String)
    (ownClient : Bool) :
    Provides σ given p mayDownload
      ((ensureBinary given mayDownload version ownClient).run.run σ).1
      ((ensureBinary given mayDownload version ownClient).run.run σ).2 := by
  constructor
  · intro hp
    rw [run_ensureBinary h, if_pos hp]
    exact ⟨rfl, σ.notes_noting _⟩
  · intro hp hno
    rw [run_ensureBinary h, if_neg (Bool.eq_false_iff.mp hp)]
    cases mayDownload with
    | false =>
      refine ⟨⟨_, rfl, ?_⟩, .refl σ⟩
      cases hs : σ.host.suffix? with
      | none =>
        rw [address_eq_error hs]
        rfl
      | some s =>
        rw [address_eq_ok hs]
        rfl
    | true =>
      have hs := hno.resolve_left nofun
      have hrun (s : String) : (downloadBinary p version ownClient).run.run (σ.noting s) =
          (.error σ.host.unsupported, σ.noting s) :=
        run_downloadBinary_of_error (σ := σ.noting s) (address_eq_error hs) p ownClient
      rw [if_pos rfl, hrun]
      exact ⟨⟨_, rfl, by rw [if_pos hs]; rfl⟩, σ.notes_noting _⟩
  · intro q hq
    have hagain {τ : Site} (hτ : σ.SameMachine τ) (hp : τ.hasBinary p = true) :=
      ensureBinary_of_hasBinary (σ := τ) (by rwa [hτ.home_eq, hτ.host_eq]) hp
    rw [run_ensureBinary h] at hq ⊢
    split at hq
    next hp =>
      cases hq
      rw [if_pos hp]
      exact ⟨rfl, hp, hagain (sameMachine_noting σ _) hp⟩
    next hp =>
      rw [if_neg hp]
      split at hq
      next hmay =>
        rw [if_pos hmay]
        split at hq
        next τ he =>
          cases hq
          obtain ⟨hτ, hp⟩ := hasBinary_of_downloadBinary he
          have hτ := (sameMachine_noting σ _).trans hτ
          exact ⟨rfl, hp, hagain hτ hp⟩
        · cases hq
      · cases hq

/-- Where a file stands at the place of the proxy that nobody may run, and the network has a build.
-/
def bare : Site where
  host := ⟨"linux", "arm64"⟩
  home := { environment := [("HOME", "/home")] }
  store := ⟨[(["/", "home"], .directory 0o755), (["/", "home", "proxy"], .file 0o644 ⟨#[1]⟩)]⟩
  answers := [.response { body := [⟨#[4, 5]⟩, ⟨#[6]⟩] }]

theorem ensureBinary_provides_bare :
    let p : Path := ⟨.root, ["home", "proxy"]⟩
    bare.home.binaryPath bare.host (some "/home/proxy") = .ok p ∧
      Provides bare (some "/home/proxy") p true
        ((ensureBinary (some "/home/proxy") true "v1" false).run.run bare).1
        ((ensureBinary (some "/home/proxy") true "v1" false).run.run bare).2 := by
  intro p
  have h : bare.home.binaryPath bare.host (some "/home/proxy") = .ok p := rfl
  exact ⟨h, ensureBinary_provides h true "v1" false⟩

end Sluice.Install
