import Sluice.Proofs.Gate.Mediation
import Sluice.Proofs.Server.Run

/-!
# Complete mediation

Whatever calls of tools come to a desk, and in whatever order they, the processes and the opening go
on, the driver is handed only statements that one of the calls may come to; and a call that is
refused reaches nobody (`mediation`).

One invariant carries this: every job that waits is permitted to come to what it may still come to
(`Desk.IsPermitted`).  It is kept by each move (`Desk.keeps_move`) and so by each run
(`Desk.keeps_moves`).
-/

namespace Sluice.Server

open Proxy Gate

/-! ## Orders -/

/-- The order is to call the tool `ν`, whichever way the call comes. -/
inductive Order.Calls : Order → String → Row → Prop
  | plainly (ν : String) (ρ : Row) : Calls (.call ν ρ) ν ρ
  | politely (ν : String) (ρ : Row) : Calls (.converse ν ρ) ν ρ
  | publicly {υ : Visit} {δs : List Tool.Definition} {ν : String} {ρ : Row}
      (h : υ.errand δs = .call ν ρ) : Calls (.visit υ) ν ρ

/-- Whether `P` permits all that an order may come to. -/
def Order.IsPermitted (P : Statement → Prop) (σ : Settings) (ω : Order) : Prop :=
  (∀ ρ, ω = .run ρ → ρ.IsPermitted P) ∧
    ∀ ν ρ, ω.Calls ν ρ → ∀ τ, Mediates σ ν ρ τ → P τ

/-- An order to call a tool that ends with the call being refused. -/
inductive Order.IsRefused (γ : Gate) : Order → Prop
  | call {ν : String} {ρ : Row} (h : Gate.IsRefused ν ρ) : IsRefused γ (.call ν ρ)
  | converse {ν : String} {ρ : Row} (h : Gate.IsRefused ν ρ) : IsRefused γ (.converse ν ρ)
  | schema {ν : String} {ρ : Row} {reply : ToolReply}
      (h : refusal? (toolsOf γ) ν ρ = some reply) : IsRefused γ (.converse ν ρ)
  | visit {υ : Visit} {ν : String} {ρ : Row} (hυ : υ.errand (toolsOf γ) = .call ν ρ)
      (h : Gate.IsRefused ν ρ) : IsRefused γ (.visit υ)
  | page {υ : Visit} {π : Page} (h : υ.errand (toolsOf γ) = .send π) : IsRefused γ (.visit υ)

/-! ## Jobs -/

/-- Whether `P` permits all that a job may still come to. -/
def JobPhase.IsPermitted (P : Statement → Prop) : JobPhase → Prop
  | running φ => φ.IsPermitted P
  | calling φ | conversing _ φ | visiting _ φ => φ.IsPermitted P
  | _ => True

section Parts

variable {φ α : Type} {P : Statement → Prop} {γ : Gate}

/-- Work at the gate is permitted as work on a job. -/
theorem abides_ofGate {ok : φ → Prop} {point : φ → JobPhase} {answer : α → Answer}
    {r : Gate × Progress φ (Except Fault α)} (h : Abides P ok γ r)
    (hp : ∀ p, ok p → (point p).IsPermitted P) :
    Abides P (JobPhase.IsPermitted P) γ (ofGate point answer r) := by
  obtain ⟨δ, π⟩ := r
  cases π with
  | waiting p => exact h.sends.waiting (hp p (h.waits p rfl))
  | done a => exact h.sends.done _

/-- Work at the gate that is quiet is permitted whatever it comes to. -/
theorem abides_of_quiet {point : φ → JobPhase} {answer : α → Answer}
    {r : Gate × Progress φ (Except Fault α)} (h : γ.Quiet r.1)
    (hp : ∀ p, (point p).IsPermitted P) :
    Abides P (JobPhase.IsPermitted P) γ (ofGate point answer r) := by
  have h' : Abides P (fun _ ↦ True) γ r := ⟨h.sends, fun _ _ ↦ trivial⟩
  exact abides_ofGate h' fun p _ ↦ hp p

/-- Work on the proxy that leaves the traffic alone is permitted. -/
theorem abides_ofWorld {point : φ → JobPhase} {r : World × Progress φ (Except Fault Unit)}
    (h : r.1.traffic = γ.world.traffic) (hp : ∀ p, (point p).IsPermitted P) :
    Abides P (JobPhase.IsPermitted P) γ (ofWorld γ point r) := by
  obtain ⟨w, π⟩ := r
  cases π with
  | waiting p => exact (quiet_withWorld h).sends.waiting (hp p)
  | done a => exact (quiet_withWorld h).sends.done _

end Parts

/-- To answer a request hands the driver nothing. -/
theorem quiet_replyOf (γ : Gate) (ν : String) (r : Except Fault Value) :
    γ.Quiet (replyOf γ ν r).1 := by
  unfold replyOf
  split
  · exact .refl γ
  · split
    · exact .refl γ
    · exact γ.quiet_log ..

/-- To read a page hands the driver nothing. -/
theorem quiet_pageOf (γ : Gate) (ν : String) (r : Except Fault Value) :
    γ.Quiet (pageOf γ ν r).1 := by
  unfold pageOf
  split
  · exact .refl γ
  · split
    · exact .refl γ
    · exact γ.quiet_log ..

section Ways

variable {P : Statement → Prop} {γ : Gate} {r : Gate × Calling}
  (h : Abides P (CallPhase.IsPermitted P) γ r)

include h

/-- A call that is answered plainly hands the driver what it did. -/
theorem abides_plainly : Abides P (JobPhase.IsPermitted P) γ (plainly r) :=
  abides_ofGate h fun _ hp ↦ hp

/-- A call that is answered with its faults hands the driver what it did. -/
theorem abides_politely (ν : String) : Abides P (JobPhase.IsPermitted P) γ (politely ν r) := by
  obtain ⟨δ, π⟩ := r
  cases π with
  | waiting φ => exact h.sends.waiting (h.waits φ rfl)
  | done a => exact (h.sends.trans (quiet_replyOf δ ν a).sends).done _

/-- A call that is answered with its faults as text hands the driver what it did. -/
theorem abides_publicly (ν : String) : Abides P (JobPhase.IsPermitted P) γ (publicly ν r) := by
  obtain ⟨δ, π⟩ := r
  cases π with
  | waiting φ => exact h.sends.waiting (h.waits φ rfl)
  | done a => exact (h.sends.trans (quiet_pageOf δ ν a).sends).done _

end Ways

/-- To try a connection hands the driver nothing. -/
theorem abides_tryConnection {P : Statement → Prop} (γ : Gate) (s : Nat) :
    Abides P (JobPhase.IsPermitted P) γ (tryConnection γ s) := by
  have h := (quiet_withWorld (γ.world.traffic_connect s)).sends (P := P)
  unfold tryConnection
  dsimp only
  split
  · exact h.done _
  · exact h.waiting trivial

/-! ## Work on orders -/

/-- An order that begins hands the driver nothing but what is permitted. -/
theorem abides_begin {P : Statement → Prop} {γ : Gate} {ω : Order}
    (hω : ω.IsPermitted P γ.settings) : Abides P (JobPhase.IsPermitted P) γ (begin γ ω) := by
  -- what the call that an order is may come to, the order may come to
  have hc : ∀ ν ρ, ω.Calls ν ρ → Abides P (CallPhase.IsPermitted P) γ (γ.call ν ρ) := fun ν ρ h ↦
    (γ.abides_call ν ρ).mono (hω.2 ν ρ h) fun _ ↦ .mono (hω.2 ν ρ h)
  cases ω with
  | start s => exact abides_ofWorld (γ.world.traffic_start s) fun _ ↦ trivial
  | stop s => exact abides_ofWorld (γ.world.traffic_stop s) fun _ ↦ trivial
  | kill s => exact (quiet_withWorld (γ.world.traffic_killChild s)).sends.done _
  | check s => exact abides_tryConnection γ s
  | connect => exact abides_of_quiet γ.quiet_getPool fun _ ↦ trivial
  | run ρ => exact abides_ofGate (abides_execute (hω.1 ρ rfl) γ) fun _ hp ↦ hp
  | close => exact abides_of_quiet γ.quiet_close fun _ ↦ trivial
  | abort => exact γ.quiet_abort.sends.done _
  | locate => exact (Quiet.refl γ).sends.done _
  | shutdown grace => exact abides_of_quiet (γ.quiet_shutdown grace) fun _ ↦ trivial
  | announce => exact (Quiet.refl γ).sends.done _
  | call ν ρ => exact abides_plainly (hc ν ρ (.plainly ν ρ))
  | converse ν ρ =>
    unfold begin
    dsimp only
    split
    · exact (Quiet.refl γ).sends.done _
    · exact abides_politely (hc ν ρ (.politely ν ρ)) ν
  | visit υ =>
    unfold begin
    dsimp only
    split
    · exact (Quiet.refl γ).sends.done _
    next ν ρ h => exact abides_publicly (hc ν ρ (.publicly h)) ν

/-- A job that goes on hands the driver nothing but what is permitted. -/
theorem JobPhase.abides_resume {P : Statement → Prop} {φ : JobPhase} (hφ : φ.IsPermitted P)
    (γ : Gate) : Abides P (JobPhase.IsPermitted P) γ (φ.resume γ) := by
  cases φ with
  | starting s φ => exact abides_ofWorld (φ.traffic_resume s γ.world) fun _ ↦ trivial
  | stopping s φ => exact abides_ofWorld (φ.traffic_resume s γ.world) fun _ ↦ trivial
  | checking α => exact (Quiet.refl γ).sends.done _
  | connecting n => exact abides_of_quiet (Quiet.refl γ) fun _ ↦ trivial
  | running φ => exact abides_ofGate (RunPhase.abides_resume hφ γ) fun _ hp ↦ hp
  | closing φ => exact abides_of_quiet (φ.quiet_resume γ) fun _ ↦ trivial
  | shuttingDown φ => exact abides_of_quiet (φ.quiet_resume γ) fun _ ↦ trivial
  | calling φ => exact abides_plainly (CallPhase.abides_resume hφ γ)
  | conversing ν φ => exact abides_politely (CallPhase.abides_resume hφ γ) ν
  | visiting ν φ => exact abides_publicly (CallPhase.abides_resume hφ γ) ν

/-- A job that is cancelled hands the driver nothing but what is permitted. -/
theorem JobPhase.abides_cancel {P : Statement → Prop} {φ : JobPhase} (hφ : φ.IsPermitted P)
    (γ : Gate) : Abides P (JobPhase.IsPermitted P) γ (φ.cancel γ) := by
  cases φ with
  | starting s φ => exact abides_ofWorld (φ.traffic_cancel s γ.world) fun _ ↦ trivial
  | stopping s φ => exact abides_ofWorld (StopPhase.traffic_cancel s γ.world) fun _ ↦ trivial
  | checking α => exact (Quiet.refl γ).sends.done _
  | connecting n => exact (Quiet.refl γ).sends.done _
  | running φ => exact abides_ofGate (φ.abides_cancel γ) fun _ hp ↦ hp
  | closing φ => exact abides_of_quiet (φ.quiet_cancel γ) fun _ ↦ trivial
  | shuttingDown φ => exact abides_of_quiet (φ.quiet_cancel γ) fun _ ↦ trivial
  | calling φ => exact abides_plainly (CallPhase.abides_cancel hφ γ)
  | conversing ν φ => exact abides_politely (CallPhase.abides_cancel hφ γ) ν
  | visiting ν φ => exact abides_publicly (CallPhase.abides_cancel hφ γ) ν

/-! ## Runs -/

namespace Desk

/-- Whether `P` permits all that the jobs of a desk may still come to. -/
def IsPermitted (P : Statement → Prop) (δ : Desk) : Prop :=
  ∀ φ, .waiting φ ∈ δ.jobs → φ.IsPermitted P

theorem isPermitted_nil (P : Statement → Prop) (γ : Gate) : (Desk.mk γ []).IsPermitted P := by
  simp [IsPermitted]

/-- Work from `δ` to `ε` that `P` permits, and that leaves nothing that `P` does not permit. -/
structure Keeps (P : Statement → Prop) (δ ε : Desk) : Prop where
  sends : δ.gate.Sends P ε.gate
  isPermitted : ε.IsPermitted P

theorem keeps_put {P : Statement → Prop} {δ : Desk} (hδ : δ.IsPermitted P) (i : Nat)
    {r : Gate × Working} (hr : Abides P (JobPhase.IsPermitted P) δ.gate r) :
    δ.Keeps P (δ.put i r) := by
  refine ⟨hr.sends, fun φ hφ ↦ ?_⟩
  rcases List.mem_or_eq_of_mem_set hφ with h | h
  · exact hδ φ h
  · exact hr.waits φ h.symm

/-- A job that is found is one of the desk's. -/
theorem mem_of_job? {δ : Desk} {i : Nat} {π : Working} (h : δ.job? i = some π) : π ∈ δ.jobs :=
  List.mem_of_getElem? h

/-- Each move keeps to what is permitted. -/
theorem keeps_move {P : Statement → Prop} {δ : Desk} (hδ : δ.IsPermitted P) (m : Move)
    (hm : ∀ ω, m = .take ω → ω.IsPermitted P δ.gate.settings) : δ.Keeps P (δ.move m) := by
  have hrefl : δ.Keeps P δ := ⟨(Quiet.refl _).sends, hδ⟩
  cases m with
  | take ω =>
    have hr := abides_begin (hm ω rfl)
    refine ⟨hr.sends, fun φ hφ ↦ ?_⟩
    rcases List.mem_append.mp hφ with h | h
    · exact hδ φ h
    · exact hr.waits φ (List.mem_singleton.mp h).symm
  | cancel i =>
    simp only [move, cancel]
    split
    next φ h => exact keeps_put hδ i (JobPhase.abides_cancel (hδ φ (mem_of_job? h)) _)
    next => exact hrefl
  | resume i =>
    simp only [move, resume]
    split
    next φ h => exact keeps_put hδ i (JobPhase.abides_resume (hδ φ (mem_of_job? h)) _)
    next => exact hrefl
  | act p => exact ⟨(quiet_withWorld (δ.gate.world.traffic_act p)).sends, hδ⟩
  | proceed =>
    simp only [move, proceed]
    split
    next φ _ => exact ⟨(φ.quiet_resume δ.gate).sends, hδ⟩
    next => exact hrefl
  | advance t => exact ⟨Quiet.sends ⟨rfl, rfl⟩, hδ⟩

/-- A run keeps to what is permitted, if all orders that come in it do. -/
theorem keeps_moves {P : Statement → Prop} {δ : Desk} (hδ : δ.IsPermitted P) {ms : List Move}
    (hms : ∀ ω, .take ω ∈ ms → ω.IsPermitted P δ.gate.settings) : δ.Keeps P (δ.moves ms) := by
  induction ms generalizing δ with
  | nil => exact ⟨(Quiet.refl _).sends, hδ⟩
  | cons m ms ih =>
    have h := keeps_move hδ m fun ω hω ↦ hms ω (by simp [hω])
    have h' := ih h.isPermitted fun ω hω ↦ by
      rw [h.sends.settings]
      exact hms ω (by simp [hω])
    exact ⟨h.sends.trans h'.sends, h'.isPermitted⟩

end Desk

/-! ## Orders that are refused -/

/-- A call that is over is answered without a change at the gate. -/
theorem politely_of_done {r : Gate × Calling} {v : Value} (h : r.2 = .done (.ok v)) (ν : String) :
    ∃ a, politely ν r = (r.1, .done a) := by
  obtain ⟨γ, π⟩ := r
  cases h
  exact ⟨_, rfl⟩

theorem publicly_of_done {r : Gate × Calling} {v : Value} (h : r.2 = .done (.ok v)) (ν : String) :
    ∃ a, publicly ν r = (r.1, .done a) := by
  obtain ⟨γ, π⟩ := r
  cases h
  exact ⟨_, rfl⟩

/-- A refused order is over at once and touches nothing. -/
theorem begin_of_isRefused {γ : Gate} {ω : Order} (h : ω.IsRefused γ) :
    γ.IsUntouched (begin γ ω).1 ∧ ∃ r, (begin γ ω).2 = .done r := by
  cases h with
  | @call ν ρ h =>
    obtain ⟨hu, v, hv⟩ := call_of_isRefused h γ
    exact ⟨hu, _, by rw [begin, plainly, ofGate, hv, part]⟩
  | @converse ν ρ h =>
    obtain ⟨hu, v, hv⟩ := call_of_isRefused h γ
    obtain ⟨a, ha⟩ := politely_of_done hv ν
    unfold begin
    dsimp only
    split
    · exact ⟨.inl rfl, _, rfl⟩
    · rw [ha]
      exact ⟨hu, a, rfl⟩
  | schema h =>
    unfold begin
    simp only [h]
    exact ⟨.inl rfl, _, rfl⟩
  | @visit υ ν ρ hυ h =>
    obtain ⟨hu, v, hv⟩ := call_of_isRefused h γ
    obtain ⟨a, ha⟩ := publicly_of_done hv ν
    unfold begin
    simp only [hυ, ha]
    exact ⟨hu, a, rfl⟩
  | page h =>
    unfold begin
    simp only [h]
    exact ⟨.inl rfl, _, rfl⟩

/-- Whatever comes to a desk and in whatever order, the driver is handed only statements that some
call of a tool may come to; and a call that is refused is over at once and touches nothing. -/
theorem mediation :
    (∀ (γ : Gate) (ms : List Move), (∀ ρ, .take (.run ρ) ∉ ms) →
      γ.Sends (fun τ ↦ ∃ ω ν ρ, .take ω ∈ ms ∧ ω.Calls ν ρ ∧ Mediates γ.settings ν ρ τ)
        ((Desk.mk γ []).moves ms).gate) ∧
    ∀ (δ : Desk) (ω : Order), ω.IsRefused δ.gate →
      δ.gate.IsUntouched (δ.take ω).1.gate ∧ ∃ r, (δ.take ω).1.jobs = δ.jobs ++ [.done r] := by
  constructor
  · intro γ ms hms
    refine (Desk.keeps_moves (Desk.isPermitted_nil _ γ) fun ω hω ↦ ⟨?_, ?_⟩).sends
    · rintro ρ rfl
      exact absurd hω (hms ρ)
    · exact fun ν ρ hc τ hτ ↦ ⟨ω, ν, ρ, hω, hc, hτ⟩
  · intro δ ω h
    obtain ⟨hu, r, hr⟩ := begin_of_isRefused h
    exact ⟨hu, r, by rw [← hr]; rfl⟩

/-- With the default settings a call to list the tables hands the driver its one statement, and a
call of a tool that there is not hands it none. -/
theorem mediation_show_tables :
    ∃ σ, Settings.load {} = .ok σ ∧
      let γ : Gate := { world := { site := { host := ⟨"linux", "x64"⟩ } }, settings := σ }
      let δ := (Desk.mk γ []).moves [.take (.call "show_tables" [])]
      δ.gate.statements.map Statement.text = ["SHOW TABLES"] ∧
        γ.Sends (fun τ ↦ ∃ ω ν ρ, .take ω ∈ [Move.take (.call "show_tables" [])] ∧ ω.Calls ν ρ ∧
          Mediates γ.settings ν ρ τ) δ.gate ∧
        δ.gate.IsUntouched (δ.take (.call "drop_table" [])).1.gate := by
  refine ⟨_, rfl, ?_, mediation.1 _ _ ?_, (mediation.2 _ _ (.call (.unknown ?_))).1⟩
  · decide +kernel
  · simp
  · decide

end Sluice.Server
