import Sluice.Proofs.Proxy.Startup
import Sluice.Proofs.Proxy.Supervision
import Sluice.Proofs.Server.Progress

/-!
# Starts as jobs

A start that nobody disturbs, and whose process ends by itself before the deadline without ever
having been reached, comes to an end (`reports_of_launch`).  It is said of the process that it ended
if the start looks at it between its end and the deadline, and otherwise that it was not ready in
time.
-/

namespace Sluice.Server

open Proxy

namespace Desk

/-! ## A start as a job -/

/-- The job of a number is all that is at work, and it is a start with the outlook `o`. -/
structure Starts (o : Outlook) (i : Nat) (δ : Desk) : Prop where
  opening : δ.gate.opening = none
  alone {j : Nat} {ψ : JobPhase} : δ.job? j = some (.waiting ψ) → j = i
  job : ∃ π, δ.job? i = some (part (.starting o.supervisor) (fun _ ↦ .nothing) π) ∧
    o.Stands δ.gate.world π

/-- What a start still has before it; what processes do counts last. -/
def startRest (i : Nat) (δ : Desk) : ℕ ×ₗ ℕ ×ₗ ℕ :=
  match δ.job? i with
  | some (.waiting (.starting _ φ)) =>
    toLex (φ.stage, toLex (φ.fuel, δ.gate.world.acts))
  | _ => toLex (0, toLex (0, 0))

variable {o : Outlook} {i : Nat} {δ ε : Desk} {t : Time}

theorem startRest_of_waiting {s : Nat} {φ : StartPhase}
    (h : δ.job? i = some (.waiting (.starting s φ))) :
    δ.startRest i = toLex (φ.stage, toLex (φ.fuel, δ.gate.world.acts)) := by
  rw [startRest, h]

theorem startRest_of_done {r : Except Fault Answer} (h : δ.job? i = some (.done r)) :
    δ.startRest i = toLex (0, toLex (0, 0)) := by
  rw [startRest, h]

namespace Starts

/-- Where the start waits, unless it is over. -/
theorem exists_waiting (h : δ.Starts o i) (hi : δ.isOver i = false) :
    ∃ φ, δ.job? i = some (.waiting (.starting o.supervisor φ)) ∧
      o.Stands δ.gate.world (.waiting φ) := by
  obtain ⟨π, hj, hπ⟩ := h.job
  cases π with
  | waiting φ => exact ⟨φ, hj, hπ⟩
  | done r => cases (isOver_of_done hj).symm.trans hi

/-- A process acts. -/
theorem act (h : δ.Starts o i) (hi : δ.isOver i = false) {p : Nat} {a : Child.Act}
    (ha : (δ.gate.world.child p).nextAct? = some (t, a)) (ht : t ≤ δ.now) :
    (δ.occur (.act p)).Starts o i ∧ (δ.occur (.act p)).startRest i < δ.startRest i := by
  obtain ⟨φ, hj, hs, hφ, hon⟩ := h.exists_waiting hi
  have hj' : (δ.occur (.act p)).job? i = some (.waiting (.starting o.supervisor φ)) := hj
  refine ⟨⟨h.opening, h.alone, .waiting φ, hj', hs.act p, hφ.act hs hon ha ht, ?_⟩, ?_⟩
  · change φ.IsOnTime (δ.gate.world.act p).now
    rwa [(δ.gate.world.stays_act p).now]
  · rw [startRest_of_waiting hj, startRest_of_waiting hj', Prod.Lex.toLex_lt_toLex]
    refine .inr ⟨rfl, Prod.Lex.toLex_lt_toLex.mpr (.inr ⟨rfl, ?_⟩)⟩
    exact World.acts_act (by simp [ha])

/-- The start goes on. -/
theorem resume (h : δ.Starts o i) (hn : δ.gate.world.act? = none) {j : Nat}
    (hr : δ.isReady j = true) :
    (δ.occur (.resume j)).Starts o i ∧ (δ.occur (.resume j)).startRest i < δ.startRest i := by
  obtain ⟨ψ, hj, hψ, ho⟩ := occur_resume hr
  obtain rfl := h.alone hj
  obtain ⟨π, hπ, hs⟩ := h.job
  cases π with
  | done r => cases hj.symm.trans hπ
  | waiting φ =>
    cases hj.symm.trans hπ
    have hk := hs.resume hn hψ
    have hd {χ : StartPhase} := StartPhase.descends_resume (ψ := χ) hψ
    rw [ho, show (JobPhase.starting o.supervisor φ).resume δ.gate = ofWorld δ.gate
      (.starting o.supervisor) (φ.resume o.supervisor δ.gate.world) from rfl]
    generalize φ.resume o.supervisor δ.gate.world = r at hk hd ⊢
    obtain ⟨v, π⟩ := r
    have hput := job?_put_self hj (ofWorld δ.gate (.starting o.supervisor) (v, π))
    refine ⟨⟨h.opening, fun {k ψ} hk ↦ ?_, π, hput, hk⟩, ?_⟩
    · obtain ⟨-, hk⟩ | ⟨rfl, -⟩ := job?_put_cases hk
      · exact h.alone hk
      · rfl
    · rw [startRest_of_waiting hj]
      cases π with
      | waiting χ =>
        rw [startRest_of_waiting hput, Prod.Lex.toLex_lt_toLex]
        exact (hd rfl).imp_right (And.imp_right fun hf ↦ Prod.Lex.toLex_lt_toLex.mpr (.inl hf))
      | done r =>
        rw [startRest_of_done hput, Prod.Lex.toLex_lt_toLex]
        exact .inl φ.stage_pos

/-- The clock moves on to the next moment at which something is due. -/
theorem advance (h : δ.Starts o i) (hi : δ.isOver i = false) (ht : δ.due? = some t) :
    (δ.advance t).Starts o i ∧ (δ.advance t).startRest i = δ.startRest i := by
  obtain ⟨φ, hj, hs, hφ, hon⟩ := h.exists_waiting hi
  have hj' : (δ.advance t).job? i = some (.waiting (.starting o.supervisor φ)) := hj
  refine ⟨⟨h.opening, h.alone, .waiting φ, hj', hs.pass _, hφ.pass _, fun u hu ↦ ?_⟩, ?_⟩
  · obtain ⟨v, hv, hle⟩ := exists_due?_of_job hj hu
    cases ht.symm.trans hv
    exact Int.max_le.mpr ⟨hon u hu, hle⟩
  · rw [startRest_of_waiting hj, startRest_of_waiting hj']
    rfl

theorem due?_ne_none (h : δ.Starts o i) (hi : δ.isOver i = false) : δ.due? ≠ none := by
  obtain ⟨φ, hj, -, hφ, -⟩ := h.exists_waiting hi
  exact due?_ne_none_of_job hj hφ.due?_ne_none

theorem exists_isOver (h : δ.Starts o i) :
    ∃ m r, (δ.workUntil (·.isOver i) m).result? i = some (r.map fun _ ↦ .nothing) ∧
      o.Comes (δ.workUntil (·.isOver i) m).gate.world r := by
  have hstep (δ ε : Desk) (h : δ.Starts o i) (hi : δ.isOver i = false) (hε : δ.step? = some ε) :
      ε.Starts o i ∧ ε.startRest i < δ.startRest i := by
    obtain ⟨p, t, a, ha, ht, rfl⟩ | ⟨φ, hφ, -, -⟩ | ⟨hn, j, hj, rfl⟩ := step?_cases hε
    · exact h.act hi ha ht
    · rw [h.opening] at hφ
      cases hφ
    · exact h.resume hn hj
  obtain ⟨m, hm, h⟩ := exists_workUntil hstep
    (fun δ t h hi _ ht ↦ ⟨(h.advance hi ht).1, (h.advance hi ht).2.le⟩)
    (fun δ h hi _ ↦ h.due?_ne_none hi) h
  obtain ⟨π, hj, hπ⟩ := h.job
  cases π with
  | waiting φ => cases (isOver_of_waiting hj).symm.trans hm
  | done r => exact ⟨m, r, result?_of_done hj, hπ⟩

end Starts

/-! ## Starts that have launched their process -/

/-- The job of a number is all that is at work, and it is a start that has just launched its
process: the launch was tried in the world `w`, in which the start began or which it has waited for.
-/
structure HasLaunched (δ : Desk) (i s : Nat) (w : World) (path : File.Path) : Prop where
  opening : δ.gate.opening = none
  alone {j : Nat} {ψ : JobPhase} : δ.job? j = some (.waiting ψ) → j = i
  world : δ.gate.world = (w.launchProxy s path).1
  job : δ.job? i = some (part (.starting s) (fun _ ↦ .nothing) (w.launchProxy s path).2)

variable {s : Nat} {w : World} {path : File.Path} {u ℓ : Time} {n ms : Int}

/-- A start that is begun while nothing else is at work may launch its process at once. -/
theorem hasLaunched_take (ho : δ.gate.opening = none)
    (hd : ∀ j ψ, δ.job? j ≠ some (.waiting ψ))
    (hs : δ.gate.world.start s = w.launchProxy s path) :
    (δ.take (.start s)).1.HasLaunched δ.jobs.length s w path where
  opening := ho
  alone {j ψ} hj := by
    obtain hj | ⟨rfl, -⟩ := job?_append_cases hj
    · exact absurd hj (hd j ψ)
    · rfl
  world := congrArg Prod.fst hs
  job := by
    rw [← hs]
    exact List.getElem?_concat_length

theorem HasLaunched.starts (h : δ.HasLaunched i s w path) (hw : w.InOrder s)
    (hc : (w.supervisor s).child = none) (hβ : (w.behaviours.headD {}).Expires u n)
    (hs : w.IsShut (w.now + u))
    (hms : milliseconds (w.supervisor s).config.startupTimeout = .ok ms)
    (hℓ : Time.ofSeconds? (w.supervisor s).config.startupTimeout = some ℓ) (hu : 0 ≤ u)
    (hlt : u < ℓ) : δ.Starts (w.outlook s u ℓ n ms) i where
  opening := h.opening
  alone := h.alone
  job := ⟨_, h.job, h.world ▸ hw.stands_launchProxy hc hβ hs hms hℓ hu hlt path⟩

end Desk

/-- A start launches a process that ends by itself before the deadline, and nobody is to be reached
on its port up to then.  If the start looks at the process between its end and the deadline then it
fails with the exit code and what went wrong last; otherwise it fails because the time is up. -/
theorem reports_of_launch {δ : Desk} {i s : Nat} {w : World} {path : File.Path}
    (h : δ.HasLaunched i s w path) (hw : w.InOrder s) (hc : (w.supervisor s).child = none)
    {u ℓ : Time} {n ms : Int} (hβ : (w.behaviours.headD {}).Expires u n)
    (hs : w.IsShut (w.now + u))
    (hms : milliseconds (w.supervisor s).config.startupTimeout = .ok ms)
    (hℓ : Time.ofSeconds? (w.supervisor s).config.startupTimeout = some ℓ) (hu : 0 ≤ u)
    (hlt : u < ℓ) :
    ∃ m,
      let ε := δ.workUntil (·.isOver i) m
      let isCaught :=
        ∃ k > 0, w.now + u ≤ w.network.look w.now k ∧ w.network.look w.now k < w.now + ℓ
      (isCaught → ε.result? i =
        some (.error (exitReport n (ε.gate.world.lastErrorOr s "Unknown error")))) ∧
      (¬ isCaught → ∃ details, ε.result? i = some (.error (lateReport ms details))) := by
  obtain ⟨m, r, hr, hk⟩ := (h.starts hw hc hβ hs hms hℓ hu hlt).exists_isOver
  refine ⟨m, fun hk' ↦ ?_, fun hk' ↦ ?_⟩
  · rw [hr, hk.caught (isCaught_outlook_iff.mpr hk')]
    rfl
  · obtain ⟨details, rfl⟩ := hk.late (mt isCaught_outlook_iff.mp hk')
    exact ⟨details, hr⟩

/-- A supervisor that allows `x` seconds, and a process that complains and then ends with the code 3
after 0.55 seconds. -/
def hasty (x : Decimal.Binary64) : World :=
  { site := stubborn.site
    behaviours :=
      [{ ending := some (550000, 3), writes := [(100000, .errors, [98, 111, 111, 109, 10])] }]
    supervisors := [{ config :=
      { instanceName := some "p:r:i", binaryPath := some "/proxy", startupTimeout := x } }] }

/-- The world in which the supervisor launches that process. -/
def hastyLaunch (x : Decimal.Binary64) : World := ((hasty x).fetch 0).1

/-- A desk that does nothing but start the proxy. -/
def hastyDesk (σ : Settings) (x : Decimal.Binary64) : Desk :=
  (Desk.take ⟨{ world := hasty x, settings := σ }, []⟩ (.start 0)).1

theorem hasLaunched_hastyDesk (σ : Settings) (x : Decimal.Binary64) :
    (hastyDesk σ x).HasLaunched 0 0 (hastyLaunch x) ⟨.root, ["proxy"]⟩ ∧
      (hastyLaunch x).InOrder 0 ∧
      ((hastyLaunch x).behaviours.headD {}).Expires 550000 3 ∧
      (hastyLaunch x).IsShut ((hastyLaunch x).now + 550000) := by
  have hs : (hasty x).start 0 = (hastyLaunch x).launchProxy 0 ⟨.root, ["proxy"]⟩ :=
    World.start_eq_launchProxy rfl rfl (Int.le_refl 0) rfl
  have hw : (hasty x).IsFresh 0 := ⟨⟨_, rfl⟩, by simp [hasty]⟩
  have ho := hw.isSound.1.of_akin (World.alike_fetch (hasty x) 0).toAkin
  exact ⟨Desk.hasLaunched_take rfl (fun j ψ hj ↦ by cases hj) hs, ho,
    ⟨rfl, rfl, by rintro t ⟨⟩⟩, rfl, fun q ↦ rfl⟩

/-- Two seconds are enough to find out that the process has ended. -/
theorem reports_of_launch_hasty : ∃ σ m, Settings.load {} = .ok σ ∧
    let ε := (hastyDesk σ ⟨0x4000000000000000⟩).workUntil (·.isOver 0) m
    ε.result? 0 = some (.error (exitReport 3 (ε.gate.world.lastErrorOr 0 "Unknown error"))) := by
  obtain ⟨σ, hσ⟩ : ∃ σ, Settings.load {} = .ok σ := ⟨_, rfl⟩
  obtain ⟨h, ho, hβ, hs⟩ := hasLaunched_hastyDesk σ ⟨0x4000000000000000⟩
  have hms : milliseconds ⟨0x4000000000000000⟩ = .ok 2000 := by decide +kernel
  have hℓ : Time.ofSeconds? ⟨0x4000000000000000⟩ = some 2000000 := by decide +kernel
  have hu : (0 : Time) ≤ 550000 := by decide
  have hlt : (550000 : Time) < 2000000 := by decide
  obtain ⟨m, hm, -⟩ := reports_of_launch h ho rfl hβ hs hms hℓ hu hlt
  exact ⟨σ, m, hσ, hm ⟨2, by decide⟩⟩

/-- With 0.6 seconds the end of the process, which comes before the deadline, goes unnoticed. -/
theorem not_forall_exitReport :
    ¬ ∀ (δ : Desk) (i s : Nat) (w : World) (path : File.Path) (u ℓ : Time) (n ms : Int),
      δ.HasLaunched i s w path → w.InOrder s → (w.supervisor s).child = none →
        (w.behaviours.headD {}).Expires u n → w.IsShut (w.now + u) →
          milliseconds (w.supervisor s).config.startupTimeout = .ok ms →
            Time.ofSeconds? (w.supervisor s).config.startupTimeout = some ℓ → 0 ≤ u → u < ℓ →
              ∀ m r, (δ.workUntil (·.isOver i) m).result? i = some r → r = .error (exitReport n
                ((δ.workUntil (·.isOver i) m).gate.world.lastErrorOr s "Unknown error")) := by
  intro h
  obtain ⟨σ, -⟩ : ∃ σ, Settings.load {} = .ok σ := ⟨_, rfl⟩
  obtain ⟨hδ, ho, hβ, hs⟩ := hasLaunched_hastyDesk σ ⟨0x3FE3333333333333⟩
  have hms : milliseconds ⟨0x3FE3333333333333⟩ = .ok 600 := by decide +kernel
  have hℓ : Time.ofSeconds? ⟨0x3FE3333333333333⟩ = some 600000 := by decide +kernel
  have hu : (0 : Time) ≤ 550000 := by decide
  have hlt : (550000 : Time) < 600000 := by decide
  obtain ⟨m, r, hr, hk⟩ := (hδ.starts ho rfl hβ hs hms hℓ hu hlt).exists_isOver
  have hn : ¬ ((hastyLaunch ⟨0x3FE3333333333333⟩).outlook 0 550000 600000 3 600).IsCaught := by
    rw [isCaught_outlook_iff]
    rintro ⟨k, -, hl, hr⟩
    rw [Network.look_eq fun t ↦ rfl] at hl hr
    change (0 + 550000 : Int) ≤ 0 + k * 500000 at hl
    change 0 + k * 500000 < (0 + 600000 : Int) at hr
    omega
  obtain ⟨details, rfl⟩ := hk.late hn
  have he := h _ _ _ _ _ _ _ _ _ hδ ho rfl hβ hs hms hℓ hu hlt m _ hr
  exact exitReport_ne_lateReport _ _ _ _ (Except.error.inj he).symm

end Sluice.Server
