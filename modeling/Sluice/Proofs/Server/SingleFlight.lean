import Sluice.Proofs.Gate.Opening
import Sluice.Proofs.Server.Run

/-!
# Openings and their callers

Any number of callers ask a gate for its pool or run queries, come and give up as they like, and
nobody closes the gate.  Then one opening is pending at most, it goes on by itself alone, and
whoever has joined it and does not give up gets what it ends with.  Once an opening has succeeded
there is never another, and all callers get its pool (`singleFlight_of_turns`).

The world may turn at any moment into any other with the same processes and supervisors, and the
database may change what it will answer.  So what is shown does not hang on how the proxy and the
driver behave.
-/

namespace Sluice.Server

open Proxy Gate

/-! ## Callers -/

/-- A caller asks for the pool, or runs a query. -/
inductive Caller where
  | connect
  | run (ρ : Request)

namespace Caller

def order : Caller → Order
  | connect => .connect
  | run ρ => .run ρ

/-- The point at which a caller waits for the opening of a number. -/
def waitsFor (n : Nat) : Caller → JobPhase
  | connect => .connecting n
  | run ρ => .running (.joining n ρ)

/-- What a caller does with the pool or the fault that it gets; until then it waits. -/
def receive (γ : Gate) (π : Getting) : Caller → Gate × Working
  | connect => ofGate .connecting (fun _ ↦ .truth true) (γ, π)
  | run ρ => ofGate .running .table (γ.afterGetting ρ π)

/-- To begin what a caller wants is to ask for the pool first. -/
theorem begin_order (γ : Gate) (κ : Caller) :
    begin γ κ.order = κ.receive γ.getPool.1 γ.getPool.2 := by
  cases κ <;> rfl

/-- A caller that waited for an opening learns what it has come to. -/
theorem resume_waitsFor (γ : Gate) (n : Nat) (κ : Caller) :
    (κ.waitsFor n).resume γ = κ.receive γ (γ.join n) := by
  cases κ <;> rfl

@[simp] theorem receive_waiting (γ : Gate) (n : Nat) (κ : Caller) :
    κ.receive γ (.waiting n) = (γ, .waiting (κ.waitsFor n)) := by
  cases κ <;> rfl

/-- The gate stands still while a caller takes what it has got. -/
theorem still_receive (γ : Gate) (π : Getting) (κ : Caller) : γ.Still (κ.receive γ π).1 := by
  cases κ with
  | connect => exact .refl γ
  | run ρ => exact γ.still_afterGetting ρ π

end Caller

/-- A job is a caller's: it is over, or it works on a query, or it waits for an opening, which is
the pending one unless it has ended. -/
def IsCaller (γ : Gate) : Working → Prop
  | .done _ => True
  | .waiting (.connecting n) => γ.Awaits n
  | .waiting (.running (.joining n _)) => γ.Awaits n
  | .waiting (.running (.running ..)) => True
  | .waiting _ => False

/-- A job that waits is a caller's as long as its opening is awaited. -/
theorem isCaller_waitsFor {γ : Gate} {n : Nat} (κ : Caller) :
    IsCaller γ (.waiting (κ.waitsFor n)) ↔ γ.Awaits n := by
  cases κ <;> rfl

/-- A job stays a caller's as long as what was awaited is. -/
theorem IsCaller.mono {γ δ : Gate} (h : ∀ n, γ.Awaits n → δ.Awaits n) {π : Working}
    (hπ : IsCaller γ π) : IsCaller δ π := by
  unfold IsCaller at hπ ⊢
  split at hπ
  · trivial
  · exact h _ hπ
  · exact h _ hπ
  · trivial
  · exact hπ.elim

/-- A query that has got its pool is over, or it works. -/
theorem isCaller_run (γ δ : Gate) (p : Nat) (ρ : Request) :
    IsCaller δ (part .running .table (γ.run p ρ).2) := by
  unfold Gate.run
  dsimp only
  repeat' split
  all_goals trivial

/-- A caller that has got a pool, a fault or an opening to wait for is a caller still. -/
theorem isCaller_receive {γ : Gate} {π : Getting} (h : ∀ n, π = .waiting n → γ.Awaits n)
    (κ : Caller) : IsCaller (κ.receive γ π).1 (κ.receive γ π).2 := by
  obtain n | r := π
  · rw [Caller.receive_waiting, isCaller_waitsFor]
    exact h n rfl
  · cases κ with
    | connect => trivial
    | run ρ =>
      cases r with
      | ok p => exact isCaller_run γ _ p ρ
      | error φ => trivial

/-- Whoever joins an opening and has to wait waits for that one. -/
theorem eq_of_join {γ : Gate} {n m : Nat} (h : γ.join n = .waiting m) : m = n := by
  unfold Gate.join at h
  split at h <;> cases h
  rfl

/-- A caller that waited for an opening is a caller still when it learns of its end. -/
theorem isCaller_join {γ : Gate} {n : Nat} (h : γ.Awaits n) (κ : Caller) :
    IsCaller (κ.receive γ (γ.join n)).1 (κ.receive γ (γ.join n)).2 :=
  isCaller_receive (fun _ hm ↦ eq_of_join hm ▸ h) κ

/-- A caller that goes on makes no effort of its own. -/
theorem isCaller_resume {γ : Gate} {φ : JobPhase} (h : IsCaller γ (.waiting φ)) :
    γ.Still (φ.resume γ).1 ∧ IsCaller (φ.resume γ).1 (φ.resume γ).2 := by
  unfold IsCaller at h
  split at h
  next hd => cases hd
  next n hn =>
    cases hn
    exact ⟨Caller.connect.still_receive γ (γ.join n), isCaller_join h .connect⟩
  next n ρ hn =>
    cases hn
    exact ⟨(Caller.run ρ).still_receive γ (γ.join n), isCaller_join h (.run ρ)⟩
  next p t d budget reply hn =>
    cases hn
    refine ⟨RunPhase.still_resume γ (.running p t d budget reply), ?_⟩
    unfold JobPhase.resume RunPhase.resume
    dsimp only
    split <;> trivial
  · exact h.elim

/-- A caller that gives up is done, and makes no effort either. -/
theorem isCaller_cancel {γ : Gate} {φ : JobPhase} (h : IsCaller γ (.waiting φ)) :
    γ.Still (φ.cancel γ).1 ∧ IsCaller (φ.cancel γ).1 (φ.cancel γ).2 := by
  unfold IsCaller at h
  split at h
  next hd => cases hd
  next n hn =>
    cases hn
    exact ⟨.refl γ, trivial⟩
  next n ρ hn =>
    cases hn
    exact ⟨.refl γ, trivial⟩
  next p t d budget reply hn =>
    cases hn
    exact ⟨RunPhase.still_cancel γ (.running p t d budget reply), trivial⟩
  · exact h.elim

/-! ## Runs -/

/-- What happens next. -/
inductive Turn where
  | ask (κ : Caller)
  /-- The caller of a number gives up, or goes on. -/
  | giveUp (i : Nat)
  | resume (i : Nat)
  /-- The process of a number acts. -/
  | act (p : Nat)
  /-- The pending opening goes on. -/
  | proceed
  /-- The time, the site, the network and the processes to come turn into those of `w`, and the
  database will answer as `β` says. -/
  | shift (w : World) (β : Database)

namespace Desk

def turn (δ : Desk) : Turn → Desk
  | .ask κ => (δ.take κ.order).1
  | .giveUp i => δ.cancel i
  | .resume i => δ.resume i
  | .act p => { δ with gate.world := δ.gate.world.act p }
  | .proceed => δ.proceed
  | .shift w β =>
    { δ with
      gate.database := β
      gate.world := { w with
        children := δ.gate.world.children
        supervisors := δ.gate.world.supervisors
        events := δ.gate.world.events } }

/-- What becomes of a desk. -/
def turns (δ : Desk) (ts : List Turn) : Desk := ts.foldl turn δ

@[simp] theorem turns_nil (δ : Desk) : δ.turns [] = δ := rfl

@[simp] theorem turns_cons (δ : Desk) (t : Turn) (ts : List Turn) :
    δ.turns (t :: ts) = (δ.turn t).turns ts := rfl

/-! ## The invariant -/

/-- One opening is pending at most, and all jobs are callers'. -/
structure IsSound (δ : Desk) : Prop where
  gate : δ.gate.IsSingle
  jobs : ∀ π ∈ δ.jobs, IsCaller δ.gate π

variable {δ : Desk}

/-- A job goes on or is given up, and its gate stands still. -/
theorem IsSound.put (h : δ.IsSound) (i : Nat) {r : Gate × Working} (hs : δ.gate.Still r.1)
    (hr : IsCaller r.1 r.2) : (δ.put i r).IsSound where
  gate := h.gate.of_still hs
  jobs π hπ := by
    rcases List.mem_or_eq_of_mem_set hπ with hπ | rfl
    · exact (h.jobs π hπ).mono fun n hn ↦ hn.of_still hs
    · exact hr

/-- A desk stays sound as its gate goes on. -/
theorem IsSound.of_advances (h : δ.IsSound) (hp : δ.gate.pool = none) {γ : Gate}
    (ha : δ.gate.Advances γ) : IsSound ⟨γ, δ.jobs⟩ where
  gate := h.gate.of_advances hp ha
  jobs π hπ := (h.jobs π hπ).mono fun _ hn ↦ hn.of_advances ha

/-- A desk stays sound as its gate stands still. -/
theorem IsSound.of_still (h : δ.IsSound) {γ : Gate} (hs : δ.gate.Still γ) :
    IsSound ⟨γ, δ.jobs⟩ where
  gate := h.gate.of_still hs
  jobs π hπ := (h.jobs π hπ).mono fun _ hn ↦ hn.of_still hs

/-- One more caller comes to its point. -/
theorem IsSound.receive (h : δ.IsSound) {π : Getting} (hπ : ∀ n, π = .waiting n → δ.gate.Awaits n)
    (κ : Caller) :
    IsSound ⟨(κ.receive δ.gate π).1, δ.jobs ++ [(κ.receive δ.gate π).2]⟩ where
  gate := h.gate.of_still (κ.still_receive δ.gate π)
  jobs ω hω := by
    rcases List.mem_append.mp hω with hω | hω
    · exact (h.jobs ω hω).mono fun _ hn ↦ hn.of_still (κ.still_receive δ.gate π)
    · rw [List.mem_singleton.mp hω]
      exact isCaller_receive hπ κ

/-- The gate stands still, or it has got no pool and its pending opening goes on, or a caller begins
one. -/
def Goes (δ : Desk) (t : Turn) : Prop :=
  δ.gate.Still (δ.turn t).gate ∨ δ.gate.pool = none ∧
    (t = .proceed ∨ δ.gate.opening = none ∧ ∃ κ, t = .ask κ) ∧
      ∃ γ, δ.gate.Advances γ ∧ γ.Still (δ.turn t).gate

/-- A desk stays sound when a caller comes, who begins an opening only if none is pending and no
pool is there. -/
theorem IsSound.ask (h : δ.IsSound) (κ : Caller) :
    (δ.turn (.ask κ)).IsSound ∧ δ.Goes (.ask κ) := by
  have hδ : δ.turn (.ask κ) = ⟨(κ.receive δ.gate.getPool.1 δ.gate.getPool.2).1,
      δ.jobs ++ [(κ.receive δ.gate.getPool.1 δ.gate.getPool.2).2]⟩ := by
    rw [← Caller.begin_order]
    rfl
  rw [Goes, hδ]
  cases hp : δ.gate.pool with
  | some p =>
    rw [getPool_of_pool hp]
    exact ⟨h.receive (by simp) κ, .inl (κ.still_receive ..)⟩
  | none =>
    cases ho : δ.gate.opening with
    | some φ =>
      rw [getPool_of_pending hp ho]
      refine ⟨h.receive ?_ κ, .inl (κ.still_receive ..)⟩
      rintro n ⟨⟩
      exact fun _ ↦ ⟨rfl, by rw [ho]; rfl⟩
    | none =>
      have ha := δ.gate.advances_beginOpening
      rw [getPool_of_idle hp ho]
      exact ⟨(h.of_advances hp ha).receive (fun _ hn ↦ eq_of_join hn ▸ ha.awaits) κ,
        .inr ⟨rfl, .inr ⟨rfl, κ, rfl⟩, _, ha, κ.still_receive ..⟩⟩

/-- A turn keeps the desk sound, and leaves the gate still unless an opening is concerned. -/
theorem IsSound.turn (h : δ.IsSound) (t : Turn) : (δ.turn t).IsSound ∧ δ.Goes t := by
  cases t with
  | ask κ => exact h.ask κ
  | giveUp i =>
    change (δ.cancel i).IsSound ∧ (δ.gate.Still (δ.cancel i).gate ∨ _)
    unfold cancel
    split
    next φ hφ =>
      obtain ⟨hs, hc⟩ := isCaller_cancel (h.jobs _ (List.mem_of_getElem? hφ))
      exact ⟨h.put i hs hc, .inl hs⟩
    · exact ⟨h, .inl (.refl _)⟩
  | resume i =>
    change (δ.resume i).IsSound ∧ (δ.gate.Still (δ.resume i).gate ∨ _)
    unfold resume
    split
    next φ hφ =>
      obtain ⟨hs, hc⟩ := isCaller_resume (h.jobs _ (List.mem_of_getElem? hφ))
      exact ⟨h.put i hs hc, .inl hs⟩
    · exact ⟨h, .inl (.refl _)⟩
  | act p => exact ⟨h.of_still (δ.gate.still_act p), .inl (δ.gate.still_act p)⟩
  | proceed =>
    cases hφ : δ.gate.opening with
    | none =>
      have hδ : δ.turn .proceed = δ := by simp [Desk.turn, proceed, hφ]
      rw [Goes, hδ]
      exact ⟨h, .inl (.refl _)⟩
    | some φ =>
      have hδ : δ.turn .proceed = ⟨φ.resume δ.gate, δ.jobs⟩ := by simp [Desk.turn, proceed, hφ]
      have hp := h.gate.pool_eq_none hφ
      have ha := φ.advances_resume δ.gate
      rw [Goes, hδ]
      exact ⟨h.of_advances hp ha, .inr ⟨hp, .inl rfl, _, ha, .refl _⟩⟩
  | shift w β =>
    have hs : δ.gate.Still (δ.turn (.shift w β)).gate := ⟨rfl, rfl, rfl, rfl⟩
    exact ⟨h.of_still hs, .inl hs⟩

/-- A desk stays sound whatever callers do. -/
theorem IsSound.turns (h : δ.IsSound) (ts : List Turn) : (δ.turns ts).IsSound := by
  induction ts generalizing δ with
  | nil => exact h
  | cons t ts ih => exact ih (h.turn t).1

/-- With a pool nothing is ever begun. -/
theorem IsSound.still_turns (h : δ.IsSound) {p : Nat} (hp : δ.gate.pool = some p)
    (ts : List Turn) : δ.gate.Still (δ.turns ts).gate := by
  induction ts generalizing δ with
  | nil => exact .refl _
  | cons t ts ih =>
    obtain ⟨hδ, hs | ⟨hn, -⟩⟩ := h.turn t
    · exact hs.trans (ih hδ (hs.pool.trans hp))
    · rw [hp] at hn
      cases hn

/-- The openings of a desk are never forgotten. -/
theorem IsSound.opened_prefix (h : δ.IsSound) (ts : List Turn) :
    δ.gate.opened <+: (δ.turns ts).gate.opened := by
  induction ts generalizing δ with
  | nil => exact List.prefix_rfl
  | cons t ts ih =>
    obtain ⟨hδ, hs | ⟨-, -, γ, ha, hs⟩⟩ := h.turn t
    · have := ih hδ
      rwa [hs.opened] at this
    · refine List.IsPrefix.trans ?_ (ih hδ)
      rw [hs.opened]
      exact ha.prefix_opened

/-! ## A caller that waits -/

/-- Nothing concerns a job but that it is given up or goes on. -/
theorem job?_turn {i : Nat} {π : Working} (h : δ.job? i = some π) {t : Turn} (hg : t ≠ .giveUp i)
    (hr : t ≠ .resume i) : (δ.turn t).job? i = some π := by
  have hput (j : Nat) (r : Gate × Working) (hj : j ≠ i) : (δ.put j r).job? i = some π :=
    (job?_put_of_ne hj r).trans h
  cases t with
  | ask κ =>
    exact job?_append h _ _
  | giveUp j =>
    change (δ.cancel j).job? i = _
    unfold cancel
    split
    · exact hput j _ fun hj ↦ hg (by rw [hj])
    · exact h
  | resume j =>
    change (δ.resume j).job? i = _
    unfold resume
    split
    · exact hput j _ fun hj ↦ hr (by rw [hj])
    · exact h
  | act p => exact h
  | proceed =>
    change δ.proceed.job? i = _
    unfold proceed
    split <;> exact h
  | shift w β => exact h

/-- The caller `i`, which waits for the opening `n`, gets what that opening ended with. -/
def Hears (δ : Desk) (i n : Nat) (κ : Caller) : Prop :=
  ∃ r, δ.gate.opened[n]? = some r ∧ δ.turn (.resume i) = δ.put i (κ.receive δ.gate (.done r))

/-- A caller that goes on gets what the opening it waits for ended with, or that has not ended. -/
theorem hears_or {i n : Nat} {κ : Caller} (h : δ.job? i = some (.waiting (κ.waitsFor n))) :
    δ.Hears i n κ ∨ (δ.turn (.resume i)).job? i = some (.waiting (κ.waitsFor n)) := by
  have hr : δ.turn (.resume i) = δ.put i (κ.receive δ.gate (δ.gate.join n)) := by
    rw [← Caller.resume_waitsFor]
    change δ.resume i = _
    rw [resume, h]
  rw [Hears, hr, Gate.join]
  split
  next r hn => exact .inl ⟨r, hn, rfl⟩
  · rw [job?_put_self h]
    cases κ <;> exact .inr rfl

/-- A caller that does not give up waits for the opening that it has joined until it gets what that
ended with. -/
theorem waits_or_hears {i n : Nat} {κ : Caller} (h : δ.job? i = some (.waiting (κ.waitsFor n)))
    {ts : List Turn} (hg : .giveUp i ∉ ts) :
    (δ.turns ts).job? i = some (.waiting (κ.waitsFor n)) ∨
      ∃ ts₁ ts₂, ts = ts₁ ++ .resume i :: ts₂ ∧ (δ.turns ts₁).Hears i n κ := by
  induction ts generalizing δ with
  | nil => exact .inl h
  | cons t ts ih =>
    rw [List.mem_cons, not_or] at hg
    have hnext (ht : (δ.turn t).job? i = some (.waiting (κ.waitsFor n))) :
        (δ.turns (t :: ts)).job? i = some (.waiting (κ.waitsFor n)) ∨
          ∃ ts₁ ts₂, t :: ts = ts₁ ++ .resume i :: ts₂ ∧ (δ.turns ts₁).Hears i n κ := by
      obtain hw | ⟨ts₁, ts₂, rfl, hh⟩ := ih ht hg.2
      · exact .inl hw
      · exact .inr ⟨t :: ts₁, ts₂, rfl, hh⟩
    by_cases ht : t = .resume i
    · subst ht
      obtain hh | hw := hears_or h
      · exact .inr ⟨[], ts, rfl, hh⟩
      · exact hnext hw
    · exact hnext (job?_turn h (Ne.symm hg.1) ht)

end Desk

/-! ## One opening for all -/

/-- What holds of a desk at which callers have done what they like. -/
structure SingleFlight (δ : Desk) : Prop where
  /-- While an opening is pending it goes on by itself alone, whoever comes, goes on or gives up: no
  other is begun, and no effort is made. -/
  pending {φ : OpenPhase} {t : Turn} : δ.gate.opening = some φ → t ≠ .proceed →
    δ.gate.Still (δ.turn t).gate
  /-- It stays pending, or it leaves its result behind. -/
  proceeds {φ : OpenPhase} : δ.gate.opening = some φ →
    δ.turn .proceed = { δ with gate := φ.resume δ.gate } ∧ δ.gate.Advances (φ.resume δ.gate)
  /-- With none pending, one is begun only by a caller that finds no pool. -/
  idle {t : Turn} : δ.gate.opening = none → (∀ κ, t = .ask κ → δ.gate.pool ≠ none) →
    δ.gate.Still (δ.turn t).gate
  /-- A caller gets the pool if there is one, -/
  served (κ : Caller) {p : Nat} : δ.gate.pool = some p →
    begin δ.gate κ.order = κ.receive δ.gate (.done (.ok p))
  /-- or else it joins the opening that is pending, -/
  joins (κ : Caller) {φ : OpenPhase} : δ.gate.opening = some φ →
    begin δ.gate κ.order = (δ.gate, .waiting (κ.waitsFor δ.gate.nextOpening))
  /-- or one that is begun for it. -/
  begins (κ : Caller) : δ.gate.pool = none → δ.gate.opening = none →
    δ.gate.Advances δ.gate.beginOpening ∧ begin δ.gate κ.order =
      κ.receive δ.gate.beginOpening (δ.gate.beginOpening.join δ.gate.nextOpening)
  /-- What a caller waits for is pending, or has left its result behind, -/
  awaits {i n : Nat} {κ : Caller} : δ.job? i = some (.waiting (κ.waitsFor n)) → δ.gate.Awaits n
  /-- and the caller gets that result, unless it gives up. -/
  hears {i n : Nat} {κ : Caller} {ts : List Turn} :
    δ.job? i = some (.waiting (κ.waitsFor n)) → .giveUp i ∉ ts →
      (δ.turns ts).job? i = some (.waiting (κ.waitsFor n)) ∨
        ∃ ts₁ ts₂, ts = ts₁ ++ .resume i :: ts₂ ∧ (δ.turns ts₁).Hears i n κ
  /-- Results stay as they are. -/
  opened (ts : List Turn) : δ.gate.opened <+: (δ.turns ts).gate.opened
  /-- After a success no effort is made any more, and no other pool is ever handed out. -/
  final {p : Nat} (ts : List Turn) : .ok p ∈ δ.gate.opened →
    (δ.turns ts).gate.pool = some p ∧ δ.gate.Still (δ.turns ts).gate ∧
      ∀ q, .ok q ∈ (δ.turns ts).gate.opened → q = p

theorem Desk.IsSound.singleFlight {δ : Desk} (h : δ.IsSound) : SingleFlight δ where
  pending {φ t} hφ ht := by
    obtain ⟨-, hs | ⟨-, rfl | ⟨ho, -⟩, -⟩⟩ := h.turn t
    · exact hs
    · exact absurd rfl ht
    · rw [hφ] at ho
      cases ho
  proceeds {φ} hφ := ⟨by simp [Desk.turn, Desk.proceed, hφ], φ.advances_resume δ.gate⟩
  idle {t} ho ha := by
    obtain ⟨-, hs | ⟨hp, rfl | ⟨-, κ, rfl⟩, -⟩⟩ := h.turn t
    · exact hs
    · have hδ : δ.turn .proceed = δ := by simp [Desk.turn, Desk.proceed, ho]
      rw [hδ]
      exact .refl _
    · exact absurd hp (ha κ rfl)
  served κ {p} hp := by rw [Caller.begin_order, getPool_of_pool hp]
  joins κ {φ} hφ := by
    rw [Caller.begin_order, getPool_of_pending (h.gate.pool_eq_none hφ) hφ, Caller.receive_waiting]
  begins κ hp ho := by
    rw [Caller.begin_order, getPool_of_idle hp ho]
    exact ⟨δ.gate.advances_beginOpening, rfl⟩
  awaits hi := (isCaller_waitsFor _).mp (h.jobs _ (List.mem_of_getElem? hi))
  hears hi hg := Desk.waits_or_hears hi hg
  opened ts := h.opened_prefix ts
  final {p} ts hp := by
    have hpool := h.gate.pool.mpr hp
    have hs := h.still_turns hpool ts
    refine ⟨hs.pool.trans hpool, hs, fun q hq ↦ ?_⟩
    rw [hs.opened, ← h.gate.pool, hpool] at hq
    exact (Option.some_inj.mp hq).symm

/-- A gate that has done nothing yet. -/
def IsIdle (γ : Gate) : Prop := γ.pool = none ∧ γ.opening = none ∧ γ.opened = []

/-- However callers come, go on and give up, the gate works on one opening at a time and everybody
gets what the opening that they joined ended with; after a success that is the pool, for good. -/
theorem singleFlight_of_turns {γ : Gate} (hγ : IsIdle γ) (ts : List Turn) :
    SingleFlight ((Desk.mk γ []).turns ts) := by
  obtain ⟨hp, ho, he⟩ := hγ
  have h : (Desk.mk γ []).IsSound :=
    ⟨⟨by simp [hp, he], by simp [hp]⟩, by simp⟩
  exact (h.turns ts).singleFlight

/-- Two callers join one opening, and the one that began it gives up: the other gets the pool, and
one pool was asked for. -/
theorem singleFlight_of_turns_two :
    ∃ σ, Settings.load {} = .ok σ ∧
      let γ : Gate :=
        { world := { site := { host := ⟨"linux", "x64"⟩ } }
          settings := σ
          database := { connects := [{ delay := Time.second }] } }
      let ts : List Turn :=
        [.ask .connect, .ask (.run { text := "SHOW TABLES" }), .giveUp 0, .proceed, .resume 1]
      IsIdle γ ∧ SingleFlight ((Desk.mk γ []).turns ts) ∧
        ((Desk.mk γ []).turns ts).gate.opened.length = 1 ∧
        ((Desk.mk γ []).turns ts).gate.pool = some 0 ∧
        ((Desk.mk γ []).turns ts).gate.efforts.2.2.length = 1 ∧
        ((Desk.mk γ []).turns ts).isOver 1 = true := by
  refine ⟨_, rfl, ⟨rfl, rfl, rfl⟩, singleFlight_of_turns ⟨rfl, rfl, rfl⟩ _, ?_⟩
  decide +kernel

end Sluice.Server
