import Sluice.Proofs.Install.Pursuit

/-!
# Failures that are not a download's own

A download reports as a failure of its own whatever befalls the connection and the files.  But it
takes some texts as they come: the address of each request, the place that an answer leads to, and
the length that an answer announces.  Where it cannot read an address or a length, or cannot go to a
place (`Stumbles`), it ends in a failure of another kind, and it does so nowhere else
(`downloadBinary_stumbles`).  A place that it cannot even read is one that the connection got wrong.
-/

namespace Sluice.Install

open File Web

/-- What an answer is cut short by, if it is. -/
def Answer.interruption? : Answer → Option Interruption
  | response ρ => ρ.interruption
  | interrupted ι => some ι

/-- Whatever goes wrong with these answers goes wrong with the connection. -/
def Connected (αs : List Answer) : Prop := ∀ α ∈ αs, ∀ φ, α.interruption? ≠ some (.fault φ)

/-- With so many requests left, a download that begins at an address comes to a text that it can do
nothing with, and to this failure. -/
inductive Stumbles (names : HostNames) : Nat → String → List Answer → Fault → Prop
  | address {n : Nat} {url : String} {αs : List Answer} {φ : Fault}
    (h : requested names url = .error φ) :
    Stumbles names (n + 1) url αs φ
  | location {n : Nat} {url : String} {αs : List Answer} {υ ref : Url} {ρ : Response} {l : String}
    {ε : UrlError} (h : requested names url = .ok υ) (ha : (next αs).1 = .response ρ)
    (ht : ρ.target? = some l) (hl : Url.parse names l.toList = .ok ref)
    (hf : υ.advance names ref = .error ε) :
    Stumbles names (n + 1) url αs (.saying .address ε.message)
  | length {n : Nat} {url : String} {αs : List Answer} {υ : Url} {ρ : Response}
    {ε : Value.IntegerError} (h : requested names url = .ok υ) (ha : (next αs).1 = .response ρ)
    (hs : ρ.status = 200) (hl : ρ.length = .error ε) :
    Stumbles names (n + 1) url αs (.saying .value ε.message)
  | onward {n : Nat} {url : String} {αs : List Answer} {υ ω : Url} {ρ : Response} {l : String}
    {φ : Fault} (h : requested names url = .ok υ) (ha : (next αs).1 = .response ρ)
    (ht : ρ.target? = some l) (hf : υ.follow names l.toList = .ok ω)
    (hn : Stumbles names n ω.render (next αs).2 φ) : Stumbles names (n + 1) url αs φ

/-- A failure of the download's own. -/
def IsOwn (φ : Fault) : Prop := φ.kind = .own .binaryDownload

/-- Why a download ends early that makes this a failure of its own. -/
def Stop.IsConnection : Stop → Prop
  | .fault φ => IsOwn φ
  | .interrupted ι => ∀ φ, ι ≠ .fault φ

variable {names : HostNames} {n : Nat} {url : String} {αs βs : List Answer} {urls : List String}
  {r : Except Stop Response} {φ : Fault} {σ : Site} {p temp : Path}

theorem Connected.next (h : Connected αs) (φ : Fault) :
    (Install.next αs).1.interruption? ≠ some (.fault φ) := by
  cases αs with
  | nil => nofun
  | cons α αs => exact h α List.mem_cons_self φ

theorem Connected.behind (h : Connected αs) : Connected (Install.next αs).2 := by
  cases αs with
  | nil => exact h
  | cons α αs => exact fun β hβ ↦ h β (List.mem_cons_of_mem α hβ)

theorem kind_of_requested (h : requested names url = .error φ) : φ.kind = .address := by
  unfold requested at h
  split at h <;> cases h
  rfl

/-- What a download stumbles over is no failure of its own. -/
theorem Stumbles.not_isOwn (h : Stumbles names n url αs φ) : ¬ IsOwn φ := by
  induction h with
  | address h =>
    rw [IsOwn, kind_of_requested h]
    nofun
  | location => nofun
  | length => nofun
  | onward _ _ _ _ _ ih => exact ih

/-! ## The pursuit -/

/-- A download that stumbles does so on its way, or over the answer that it finds. -/
theorem Stumbles.exists_pursues (h : Stumbles names n url αs φ) : ∃ urls βs r,
    Pursues names n url αs urls βs r ∧ (r = .error (.fault φ) ∨
      ∃ ρ ε, r = .ok ρ ∧ ρ.length = .error ε ∧ φ = .saying .value ε.message) := by
  induction h with
  | address h => exact ⟨_, _, _, .unread h, .inl rfl⟩
  | location h ha ht hl hf => exact ⟨_, _, _, .misled h ha ht hl hf, .inl rfl⟩
  | length h ha hs hl => exact ⟨_, _, _, .found h ha hs, .inr ⟨_, _, rfl, hl, rfl⟩⟩
  | onward h ha ht hf _ ih =>
    obtain ⟨urls, βs, r, hp, hr⟩ := ih
    exact ⟨_, _, _, .onward h ha ht hf hp, hr⟩

/-- A pursuit in which nothing is stumbled over ends for a reason that the download knows, or finds
an answer of known length. -/
theorem Pursues.stumbles_or (h : Pursues names n url αs urls βs r) (hα : Connected αs) :
    (∃ φ, Stumbles names n url αs φ) ∨ (∃ ς, r = .error ς ∧ ς.IsConnection) ∨
      ∃ ρ m, r = .ok ρ ∧ ρ.length = .ok m ∧ ∀ φ, ρ.interruption ≠ some (.fault φ) := by
  induction h with
  | exhausted => exact .inr (.inl ⟨_, rfl, rfl⟩)
  | unread h => exact .inl ⟨_, .address h⟩
  | interrupted h ha =>
    refine .inr (.inl ⟨_, rfl, fun φ hι ↦ hα.next φ ?_⟩)
    rw [ha, hι]
    rfl
  | astray => exact .inr (.inl ⟨_, rfl, rfl⟩)
  | garbled => exact .inr (.inl ⟨_, rfl, fun _ ↦ nofun⟩)
  | misled h ha ht hl hf => exact .inl ⟨_, .location h ha ht hl hf⟩
  | refused => exact .inr (.inl ⟨_, rfl, rfl⟩)
  | @found n url αs υ ρ h ha hs =>
    cases hl : ρ.length with
    | error ε => exact .inl ⟨_, .length h ha hs hl⟩
    | ok m =>
      refine .inr (.inr ⟨ρ, m, rfl, hl, fun φ hi ↦ hα.next φ ?_⟩)
      rw [ha]
      exact hi
  | onward h ha ht hf _ ih =>
    obtain ⟨φ, hφ⟩ | hr := ih hα.behind
    · exact .inl ⟨φ, .onward h ha ht hf hφ⟩
    · exact .inr hr

/-! ## The download -/

theorem Stop.IsConnection.isOwn_report {ς : Stop} (h : ς.IsConnection) :
    IsOwn (ς.report defaultTimeout) := by
  cases ς with
  | fault φ => exact h
  | interrupted ι =>
    cases ι with
    | timeout =>
      have ht : Value.toInteger defaultTimeout = .ok 30 := rfl
      rw [report, ht]
      rfl
    | transport s => rfl
    | protocol s => rfl
    | fault φ => exact absurd rfl (h φ)

/-- A body that the connection cuts short is a failure of the download's own. -/
theorem isConnection_of_ending {ι : Option Interruption} {ς : Stop}
    (hι : ∀ φ, ι ≠ some (.fault φ)) (h : ending ι = .error ς) : ς.IsConnection := by
  obtain _ | _ | _ | _ | φ := ι
  case fault => exact absurd rfl (hι φ)
  case none => cases h
  case transport =>
    cases h
    rfl
  all_goals
    cases h
    nofun

/-- A download that stumbles ends in what it stumbles over. -/
theorem fst_downloadFile_of_stumbles (ht : p.extend? ".downloading" = some temp)
    (h : Stumbles σ.names σ.limits.maxRequests url σ.answers φ) (ownClient : Bool) (timeout : Value) :
    ((downloadFile url p ownClient timeout).run.run σ).1 = .error φ := by
  obtain ⟨urls, βs, r, hp, rfl | ⟨ρ, ε, rfl, hl, rfl⟩⟩ := h.exists_pursues
  · rw [fst_downloadFile_of_error ht hp]
    rfl
  · have hrun (τ : Site) := run_writeBody ρ temp τ
    simp only [hl] at hrun
    rw [run_downloadFile ht hp, run_writeBody_ofExcept, hrun]
    rfl

/-- A download that does not stumble and fails reports a failure of its own. -/
theorem stumbles_or_isOwn_of_downloadFile (ht : p.extend? ".downloading" = some temp)
    (hα : Connected σ.answers) {ownClient : Bool}
    (h : ((downloadFile url p ownClient).run.run σ).1 = .error φ) :
    (∃ ψ, Stumbles σ.names σ.limits.maxRequests url σ.answers ψ) ∨ IsOwn φ := by
  obtain ⟨urls, βs, r, hp⟩ := exists_pursues σ.names σ.limits.maxRequests url σ.answers
  obtain hs | ⟨ς, rfl, hς⟩ | ⟨ρ, m, rfl, hl, hi⟩ := hp.stumbles_or hα
  · exact .inl hs
  · rw [fst_downloadFile_of_error ht hp] at h
    cases h
    exact .inr hς.isOwn_report
  · right
    have hrun (τ : Site) := run_writeBody ρ temp τ
    simp only [hl] at hrun
    rw [run_downloadFile ht hp, run_writeBody_ofExcept, hrun] at h
    split at h
    next ς τ he =>
      cases h
      split at he
      · cases he
        rfl
      · obtain ⟨he, -⟩ := Prod.mk.inj he
        exact (isConnection_of_ending hi he).isOwn_report
    next τ he =>
      split at h
      · cases h
      · cases h
        rfl

theorem isOwn_of_unlocked {τ : Site} (h : (σ.unlocked p τ).1 = .error φ) : IsOwn φ := by
  unfold Site.unlocked at h
  dsimp only at h
  split at h
  · cases h
  · split at h
    · cases h
      rfl
    · split at h <;> cases h
      rfl

theorem fst_downloadBinary_of_stumbles {version : String} {τ : Store}
    (hu : address σ.publisher version σ.host = .ok url)
    (ht : p.extend? ".downloading" = some temp) (hd : σ.store.makeDirectories p.parent = .ok τ)
    (h : Stumbles σ.names σ.limits.maxRequests url σ.answers φ) (ownClient : Bool) :
    ((downloadBinary p version ownClient).run.run σ).1 = .error φ := by
  rw [run_downloadBinary hu, hd]
  have hf := fst_downloadFile_of_stumbles ht (σ := { σ with store := τ }.noting
    ("Downloading binary from " ++ url ++ "...")) h ownClient defaultTimeout
  dsimp only
  split
  next he =>
    rw [he] at hf
    cases hf
  next he =>
    rw [he] at hf
    exact hf

/-- Where some build fits the machine and all goes wrong with the connection at most, the download
of the proxy ends in a failure that is not its own just where the directory of the proxy can be made
and the download stumbles, and this is the failure then. -/
theorem downloadBinary_stumbles (version : String) (ownClient : Bool)
    (hu : address σ.publisher version σ.host = .ok url)
    (ht : p.extend? ".downloading" = some temp) (hα : Connected σ.answers) (φ : Fault) :
    (((downloadBinary p version ownClient).run.run σ).1 = .error φ ∧ ¬ IsOwn φ) ↔
      (∃ τ, σ.store.makeDirectories p.parent = .ok τ) ∧
        Stumbles σ.names σ.limits.maxRequests url σ.answers φ := by
  constructor
  · rintro ⟨h, hφ⟩
    cases hd : σ.store.makeDirectories p.parent with
    | error ψ =>
      rw [run_downloadBinary hu, hd] at h
      cases h
      exact absurd rfl hφ
    | ok τ =>
      refine ⟨⟨τ, rfl⟩, ?_⟩
      rw [run_downloadBinary hu, hd] at h
      dsimp only at h
      set σ' := { σ with store := τ }.noting ("Downloading binary from " ++ url ++ "...")
      split at h
      next he => exact absurd (isOwn_of_unlocked h) hφ
      next ψ υ he =>
        cases h
        have hf := congrArg Prod.fst he
        obtain ⟨ψ, hψ⟩ | hown := stumbles_or_isOwn_of_downloadFile (σ := σ') ht hα hf
        · cases hf.symm.trans (fst_downloadFile_of_stumbles (σ := σ') ht hψ ownClient defaultTimeout)
          exact hψ
        · exact absurd hown hφ
  · rintro ⟨⟨τ, hd⟩, h⟩
    exact ⟨fst_downloadBinary_of_stumbles hu ht hd h ownClient, h.not_isOwn⟩

/-- Where the answer to the second request announces a length that is no number. -/
def misannounced : Site where
  host := ⟨"linux", "x64"⟩
  answers := [.response { status := 302, headers := [("location", "/b")] },
    .response { headers := [("content-length", "abc")], body := [⟨#[4, 5]⟩] }]
  publisher := "https://proxy"

/-- What a download stumbles over there. -/
def noInteger : Fault := .saying .value (Value.IntegerError.badLiteral "'abc'").message

theorem connected_misannounced : Connected misannounced.answers := by
  intro α hα φ
  simp only [misannounced, List.mem_cons, List.not_mem_nil, or_false] at hα
  obtain rfl | rfl := hα <;> nofun

theorem stumbles_misannounced : Stumbles misannounced.names misannounced.limits.maxRequests
    "https://proxy/v1/cloud-sql-proxy.linux.amd64" misannounced.answers noInteger := by
  let start : Url := {
    scheme := "https".toList
    authority := some "proxy".toList
    path := "/v1/cloud-sql-proxy.linux.amd64".toList }
  have hs : requested misannounced.names "https://proxy/v1/cloud-sql-proxy.linux.amd64" = .ok start :=
    requested_eq_ok_iff.mpr (by decide)
  let beside : Url := { start with path := "/b".toList }
  have hf : start.follow misannounced.names "/b".toList = .ok beside := by decide
  have hb : requested misannounced.names beside.render = .ok beside := by
    rw [requested_eq_ok_iff, Url.render, String.toList_ofList]
    decide
  exact .onward hs rfl rfl hf (.length hb rfl rfl rfl)

theorem makeDirectories_root (σ : Store) : σ.makeDirectories ⟨.root, []⟩ = .ok σ := by
  unfold Store.makeDirectories
  rfl

theorem downloadBinary_stumbles_misannounced :
    let p : Path := ⟨.root, ["proxy"]⟩
    let temp : Path := ⟨.root, ["proxy.downloading"]⟩
    let url := "https://proxy/v1/cloud-sql-proxy.linux.amd64"
    address misannounced.publisher "v1" misannounced.host = .ok url ∧
      p.extend? ".downloading" = some temp ∧ Connected misannounced.answers ∧
      ((downloadBinary p "v1" false).run.run misannounced).1 = .error noInteger ∧
      ¬ IsOwn noInteger := by
  intro p temp url
  have hu : address misannounced.publisher "v1" misannounced.host = .ok url := rfl
  have ht : p.extend? ".downloading" = some temp := by decide
  exact ⟨hu, ht, connected_misannounced,
    (downloadBinary_stumbles "v1" false hu ht connected_misannounced noInteger).mpr
      ⟨⟨_, makeDirectories_root _⟩, stumbles_misannounced⟩⟩

/-- Not all failures of a download are its own, even if all goes well with the connection. -/
theorem not_forall_isOwn_of_downloadBinary :
    ¬ ∀ (σ : Site) (p temp : Path) (version url : String) (ownClient : Bool) (φ : Fault),
      address σ.publisher version σ.host = .ok url → p.extend? ".downloading" = some temp →
      Connected σ.answers → ((downloadBinary p version ownClient).run.run σ).1 = .error φ →
      IsOwn φ := by
  intro h
  have hu : address misannounced.publisher "v1" misannounced.host =
      .ok "https://proxy/v1/cloud-sql-proxy.linux.amd64" := rfl
  have ht : (⟨.root, ["proxy"]⟩ : Path).extend? ".downloading" =
      some ⟨.root, ["proxy.downloading"]⟩ := by decide
  exact stumbles_misannounced.not_isOwn (h misannounced _ _ "v1" _ false noInteger hu ht
    connected_misannounced (fst_downloadBinary_of_stumbles hu ht (makeDirectories_root _)
      stumbles_misannounced false))

end Sluice.Install
