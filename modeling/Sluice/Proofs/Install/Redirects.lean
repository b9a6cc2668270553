import Sluice.Proofs.File.Store
import Sluice.Proofs.Install.Body
import Sluice.Proofs.Install.Pursuit
import Sluice.Proofs.Web.Reference

/-!
# Chains of redirects

A network that answers all that it is asked leads a download along a chain of addresses, each being
what the answer before it means (`trail`).  The download asks for them in turn and stops at the
first answer that leads no further, or when no request is left, and this alone decides how it ends
(`downloadFile_follows`).
-/

namespace Sluice

/-- The address that an event asks for. -/
def Event.request? : Event → Option String
  | request url => some url
  | _ => none

/-- The addresses asked for among some events, in order. -/
def asked (εs : List Event) : List String := εs.filterMap Event.request?

@[simp] theorem asked_append (εs ηs : List Event) : asked (εs ++ ηs) = asked εs ++ asked ηs :=
  List.filterMap_append ..

@[simp] theorem asked_map_request (urls : List String) :
    asked (urls.map .request) = urls := by
  induction urls with
  | nil => rfl
  | cons url urls ih => exact congrArg (url :: ·) ih

namespace Install

open File Web

/-! ## Chains of addresses -/

/-- The answer to the request of a number, the first one being number zero. -/
def script (αs : List Answer) (k : Nat) : Response :=
  match (next (αs.drop k)).1 with
  | .response ρ => ρ
  | .interrupted ι => { interruption := some ι }

/-- Whether the answer of a number leads on. -/
def leads (αs : List Answer) (k : Nat) : Bool := (script αs k).target?.isSome

/-- An address as a request has it. -/
def normal (names : HostNames) (url : String) : String :=
  match Url.parse names url.toList with
  | .ok υ => υ.render
  | .error _ => url

/-- The addresses that a network leads to from an address: the next one is what the place named by
an answer means where it is named, in its normal form. -/
def trail (names : HostNames) (url : String) (αs : List Answer) : Nat → String
  | 0 => url
  | k + 1 => normal names
      (Url.meaning (normal names (trail names url αs k)) ((script αs k).target?.getD ""))

/-- An answer leads no further, and all before it do. -/
def Stops (αs : List Answer) (k : Nat) : Prop := leads αs k = false ∧ ∀ j < k, leads αs j = true

/-- A client that is led from an address to the place `l` comes to what `l` means there: both have
one normal form. -/
def Joins (names : HostNames) (url l : String) : Prop :=
  ∃ υ ω, Url.parse names url.toList = .ok υ ∧ υ.follow names l.toList = .ok ω ∧
    Url.parse names (Url.meaning υ.render l).toList = .ok ω ∧ Url.parse names ω.text = .ok ω

/-- A network answers whatever it is asked. -/
def Answers (αs : List Answer) : Prop :=
  ∀ α ∈ αs, ∃ ρ : Response, α = .response ρ ∧ ρ.interruption = none

variable {names : HostNames} {αs : List Answer} {n k : Nat} {url : String}

/-- The answers to later requests are those that are left. -/
theorem script_succ (αs : List Answer) (k : Nat) : script αs (k + 1) = script αs.tail k := by
  rw [script, script, List.drop_tail]

theorem next_snd (αs : List Answer) : (next αs).2 = αs.tail := by cases αs <;> rfl

/-- Whether later answers lead on is told by those that are left. -/
theorem leads_succ (αs : List Answer) (k : Nat) : leads αs (k + 1) = leads αs.tail k := by
  rw [leads, leads, script_succ]

theorem trail_zero (names : HostNames) (url : String) (αs : List Answer) :
    trail names url αs 0 = url := rfl

theorem trail_one (names : HostNames) (url : String) (αs : List Answer) :
    trail names url αs 1 =
      normal names (Url.meaning (normal names url) ((script αs 0).target?.getD "")) := rfl

/-- Behind the first address the trail is that of the answers that are left. -/
theorem trail_succ (names : HostNames) (url : String) (αs : List Answer) (k : Nat) :
    trail names url αs (k + 1) = trail names (trail names url αs 1) αs.tail k := by
  induction k with
  | zero => exact (trail_zero ..).symm
  | succ k ih => rw [trail, ih, script_succ, ← trail]

/-- A network that has answered once goes on to answer. -/
theorem Answers.tail (h : Answers αs) : Answers αs.tail := fun α hα ↦ h α (List.mem_of_mem_tail hα)

/-- What a download makes of an answer that leads no further. -/
def verdict (ρ : Response) (url : String) : Except Stop Response :=
  if ρ.isRedirect then .error (.fault astray)
  else if ρ.status = 200 then .ok ρ
  else .error (.fault (refusal ρ.status url))

/-- How far a pursuit goes, and how it ends. -/
structure Traces (names : HostNames) (n : Nat) (url : String) (αs : List Answer)
    (urls : List String) (r : Except Stop Response) : Prop where
  urls_eq : ∃ m, (∀ k, k < m ↔ k < n ∧ ∀ j < k, leads αs j = true) ∧
    urls = (List.range m).map fun k ↦ normal names (trail names url αs k)
  ending : ((∀ k < n, leads αs k = true) ∧ r = .error (.fault tooMany)) ∨
    ∃ k < n, Stops αs k ∧ r = verdict (script αs k) (trail names url αs k)

/-- An address that can be read is requested in its normal form. -/
theorem normal_of_requested {υ : Url} (h : requested names url = .ok υ) :
    normal names url = υ.render := by
  rw [normal, requested_eq_ok_iff.mp h]

/-- A pursuit that stops at once. -/
theorem Traces.stop {ρ : Response} {υ : Url} {r : Except Stop Response}
    (hu : requested names url = .ok υ) (hs : script αs 0 = ρ) (ht : ρ.target? = none)
    (hr : r = verdict ρ url) : Traces names (n + 1) url αs [υ.render] r := by
  have hl : leads αs 0 = false := by rw [leads, hs, ht, Option.isSome_none]
  refine ⟨⟨1, fun k ↦ ⟨fun hk ↦ ?_, fun ⟨_, hk⟩ ↦ ?_⟩, ?_⟩,
    .inr ⟨0, n.succ_pos, ⟨hl, nofun⟩, ?_⟩⟩
  · obtain rfl : k = 0 := by omega
    exact ⟨n.succ_pos, nofun⟩
  · by_contra h
    cases (hk 0 (by omega)).symm.trans hl
  · rw [List.range_one, List.map_singleton, trail_zero, normal_of_requested hu]
  · rw [hs, trail_zero, hr]

/-- A pursuit that goes on where the first answer leads. -/
theorem Traces.onward {υ : Url} {urls : List String} {r : Except Stop Response}
    (hu : requested names url = .ok υ) (hl : leads αs 0 = true)
    (h : Traces names n (trail names url αs 1) αs.tail urls r) :
    Traces names (n + 1) url αs (υ.render :: urls) r := by
  have hall (k : Nat) : (∀ j < k + 1, leads αs j = true) ↔ ∀ j < k, leads αs.tail j = true := by
    simp only [Nat.forall_lt_succ_left, hl, leads_succ, true_and]
  constructor
  · obtain ⟨m, hm, rfl⟩ := h.urls_eq
    refine ⟨m + 1, fun k ↦ ?_, ?_⟩
    · cases k with
      | zero => simp
      | succ k => rw [Nat.succ_lt_succ_iff, Nat.succ_lt_succ_iff, hm, hall]
    · simp only [List.range_succ_eq_map, List.map_cons, List.map_map, trail_zero,
        normal_of_requested hu, Function.comp_def, ← trail_succ]
  · obtain ⟨ha, hr⟩ | ⟨k, hk, ⟨hs, hj⟩, hr⟩ := h.ending
    · refine .inl ⟨fun k hk ↦ ?_, hr⟩
      cases k with
      | zero => exact hl
      | succ k => rw [leads_succ]; exact ha k (Nat.succ_lt_succ_iff.mp hk)
    · refine .inr ⟨k + 1, Nat.succ_lt_succ hk, ⟨(leads_succ ..).trans hs, (hall k).mpr hj⟩, ?_⟩
      rw [hr, script_succ, trail_succ names url αs k]

/-- If a network answers all it is asked, and a client joins what it is told, then a pursuit goes
along the trail. -/
theorem Pursues.traces {βs : List Answer} {urls : List String} {r : Except Stop Response}
    (h : Pursues names n url αs urls βs r) (hα : Answers αs)
    (hu : ∃ υ, Url.parse names url.toList = .ok υ)
    (hj : ∀ k < n, ∀ l, (script αs k).target? = some l → (∀ j < k, leads αs j = true) →
      Joins names (trail names url αs k) l) : Traces names n url αs urls r := by
  have hscript {αs : List Answer} {ρ : Response} (ha : (next αs).1 = .response ρ) :
      script αs 0 = ρ := by rw [script, List.drop_zero, ha]
  induction h with
  | exhausted => exact ⟨⟨0, by simp, rfl⟩, .inl ⟨nofun, rfl⟩⟩
  | unread h =>
    obtain ⟨υ, hυ⟩ := hu
    cases h.symm.trans (requested_eq_ok_iff.mpr hυ)
  | @interrupted n url αs υ ι h ha =>
    cases αs with
    | nil => cases ha
    | cons α αs =>
      obtain ⟨ρ, rfl, -⟩ := hα α List.mem_cons_self
      cases ha
  | astray h ha hr ht => exact .stop h (hscript ha) ht (by rw [verdict, if_pos hr])
  | garbled h ha ht hl =>
    obtain ⟨_, _, -, hω, -⟩ := hj 0 (Nat.succ_pos _) _ ((congrArg _ (hscript ha)).trans ht) nofun
    obtain ⟨ref, hl', -⟩ := Url.follow_eq_ok_iff.mp hω
    cases hl.symm.trans hl'
  | misled h ha ht hl hf =>
    obtain ⟨υ', ω, hυ, hω, -⟩ := hj 0 (Nat.succ_pos _) _ ((congrArg _ (hscript ha)).trans ht) nofun
    obtain ⟨ref, hl', hf'⟩ := Url.follow_eq_ok_iff.mp hω
    cases h.symm.trans (requested_eq_ok_iff.mpr hυ)
    cases hl.symm.trans hl'
    cases hf.symm.trans hf'
  | refused h ha hr hs =>
    exact .stop h (hscript ha) (Response.target?_of_not_isRedirect hr)
      (by rw [verdict, hr, if_neg Bool.false_ne_true, if_neg hs])
  | found h ha hs =>
    have hr := Response.isRedirect_of_status hs
    exact .stop h (hscript ha) (Response.target?_of_not_isRedirect hr)
      (by rw [verdict, hr, if_neg Bool.false_ne_true, if_pos hs])
  | @onward n url αs βs υ ω ρ l urls r h ha ht hf _ ih =>
    have ht := (congrArg _ (hscript ha)).trans ht
    obtain ⟨υ', ω', hυ, hω, hm, hp⟩ := hj 0 n.succ_pos l ht nofun
    cases h.symm.trans (requested_eq_ok_iff.mpr hυ)
    cases hf.symm.trans hω
    have hone : trail names url αs 1 = ω.render := by
      rw [trail_one, ht, normal_of_requested h, Option.getD_some,
        normal_of_requested (requested_eq_ok_iff.mpr hm)]
    rw [next_snd, ← hone] at ih
    have hl : leads αs 0 = true := by rw [leads, ht, Option.isSome_some]
    have hω : Url.parse names (trail names url αs 1).toList = .ok ω := by
      rw [hone, Url.render, String.toList_ofList]
      exact hp
    refine .onward h hl (ih hα.tail ⟨ω, hω⟩ ?_)
    intro k hk l hl' hj'
    rw [← script_succ] at hl'
    rw [← trail_succ]
    refine hj (k + 1) (Nat.succ_lt_succ hk) l hl' ?_
    simpa only [Nat.forall_lt_succ_left, hl, leads_succ, true_and] using hj'

/-! ## The end of a chain -/

/-- What a fault begins with.  This much tells the failures of a download apart. -/
def headline (φ : Fault) : List Char := φ.text.take 11

/-- What a failure of the download's own begins with is what it says. -/
theorem headline_own (κ : Category) (s : String) :
    headline (.saying (.own κ) s) = s.toList.take 11 := by
  rw [headline, Fault.text_saying _ _ (by simp)]

theorem headline_tooMany : headline tooMany = "Too many re".toList := headline_own ..

theorem headline_astray : headline astray = "Redirect wi".toList := headline_own ..

theorem headline_refusal (status : Int) (url : String) :
    headline (refusal status url) = "Failed to d".toList := by
  rw [refusal, headline_own, String.toList_append, String.toList_append, String.toList_append]
  rfl

theorem headline_unwritten (s : String) : headline (unwritten s) = "Failed to w".toList := by
  rw [unwritten, headline_own, String.toList_append]
  rfl

theorem headline_unsaved (s : String) : headline (unsaved s) = "Failed to s".toList := by
  rw [unsaved, headline_own, String.toList_append]
  rfl

/-- Failures that begin differently differ. -/
theorem headline_ne {φ ψ : Fault} (h : headline ψ ≠ headline φ) :
    (.error φ : Except Fault Unit) ≠ .error ψ := fun he ↦ h (by cases he; rfl)

end Install

/-- A file can be written at one path and moved to another. -/
def File.Store.Saves (σ : File.Store) (temp p : File.Path) (β : ByteArray) : Prop :=
  ∃ τ κ μ υ, σ.create temp = .ok (τ, κ, μ) ∧ (τ.put κ (.file μ β)).move temp p = .ok υ

namespace Install

open File Web

/-- How a download ends whose network answers all that it is asked. -/
inductive Concludes (σ : Site) (url : String) (p temp : Path) : Except Fault Unit → Prop
  | tooMany (h : ∀ k < σ.limits.maxRequests, leads σ.answers k = true) :
    Concludes σ url p temp (.error tooMany)
  | astray {k : Nat} (hk : k < σ.limits.maxRequests) (hs : Stops σ.answers k)
    (hr : (script σ.answers k).isRedirect = true) : Concludes σ url p temp (.error astray)
  | refused {k : Nat} (hk : k < σ.limits.maxRequests) (hs : Stops σ.answers k)
    (hr : (script σ.answers k).isRedirect = false) (h : (script σ.answers k).status ≠ 200) :
    Concludes σ url p temp
      (.error (refusal (script σ.answers k).status (trail σ.names url σ.answers k)))
  | saved {k : Nat} (hk : k < σ.limits.maxRequests) (hs : Stops σ.answers k)
    (h : (script σ.answers k).status = 200)
    (hw : σ.store.Saves temp p (joined (script σ.answers k).body)) :
    Concludes σ url p temp (.ok ())
  | unsaved {k : Nat} {φ : Fault} (hk : k < σ.limits.maxRequests) (hs : Stops σ.answers k)
    (h : (script σ.answers k).status = 200)
    (hw : ¬ σ.store.Saves temp p (joined (script σ.answers k).body))
    (hφ : headline φ = "Failed to w".toList ∨ headline φ = "Failed to s".toList) :
    Concludes σ url p temp (.error φ)

/-- A chain stops at one answer only. -/
theorem Stops.eq {j : Nat} (h : Stops αs k) (h' : Stops αs j) : k = j := by
  obtain hlt | rfl | hlt := Nat.lt_trichotomy k j
  · cases (h'.2 k hlt).symm.trans h.1
  · rfl
  · cases (h.2 j hlt).symm.trans h'.1

/-- An answer with status 200 is one that was given. -/
theorem mem_of_script (h : (script αs k).status = 200) (hα : Answers αs) :
    .response (script αs k) ∈ αs := by
  unfold script at *
  cases hd : αs.drop k with
  | nil => rw [hd] at h; cases h
  | cons α βs =>
    have hm : α ∈ αs := List.mem_of_mem_drop (hd ▸ List.mem_cons_self)
    obtain ⟨ρ, rfl, -⟩ := hα α hm
    exact hm

namespace Concludes

variable {σ : Site} {p temp : Path} {r : Except Fault Unit}

/-- A download ends well if the answer that it stops at is good and its body can be saved. -/
theorem ok_iff (h : Concludes σ url p temp r) : r = .ok () ↔
    ∃ k < σ.limits.maxRequests, Stops σ.answers k ∧ (script σ.answers k).status = 200 ∧
      σ.store.Saves temp p (joined (script σ.answers k).body) := by
  constructor
  · rintro rfl
    cases h with
    | saved hk hs h hw => exact ⟨_, hk, hs, h, hw⟩
  · rintro ⟨k, hk, hs, h200, hw⟩
    cases h with
    | tooMany hall => cases (hall k hk).symm.trans hs.1
    | astray _ hs' hr =>
      obtain rfl := hs.eq hs'
      cases hr.symm.trans (Response.isRedirect_of_status h200)
    | refused _ hs' _ h =>
      obtain rfl := hs.eq hs'
      exact absurd h200 h
    | saved => rfl
    | unsaved _ hs' _ hw' =>
      obtain rfl := hs.eq hs'
      exact absurd hw hw'

/-- All requests are used up if every answer leads on. -/
theorem tooMany_iff (h : Concludes σ url p temp r) : r = .error Install.tooMany ↔
    ∀ k < σ.limits.maxRequests, leads σ.answers k = true := by
  constructor
  · intro hr
    cases h with
    | tooMany hall => exact hall
    | astray => cases headline_ne (by rw [headline_astray, headline_tooMany]; decide) hr
    | refused => cases headline_ne (by rw [headline_refusal, headline_tooMany]; decide) hr
    | saved => cases hr
    | unsaved _ _ _ _ hφ =>
      refine (headline_ne ?_ hr).elim
      obtain hφ | hφ := hφ <;> rw [hφ, headline_tooMany] <;> decide
  · intro hall
    cases h with
    | tooMany => rfl
    | astray hk hs => cases (hall _ hk).symm.trans hs.1
    | refused hk hs => cases (hall _ hk).symm.trans hs.1
    | saved hk hs => cases (hall _ hk).symm.trans hs.1
    | unsaved hk hs => cases (hall _ hk).symm.trans hs.1

/-- A redirect leads astray if the chain stops at one. -/
theorem astray_iff (h : Concludes σ url p temp r) : r = .error Install.astray ↔
    ∃ k < σ.limits.maxRequests, Stops σ.answers k ∧ (script σ.answers k).isRedirect = true := by
  constructor
  · intro hr
    cases h with
    | tooMany => cases headline_ne (by rw [headline_astray, headline_tooMany]; decide) hr
    | astray hk hs hred => exact ⟨_, hk, hs, hred⟩
    | refused => cases headline_ne (by rw [headline_refusal, headline_astray]; decide) hr
    | saved => cases hr
    | unsaved _ _ _ _ hφ =>
      refine (headline_ne ?_ hr).elim
      obtain hφ | hφ := hφ <;> rw [hφ, headline_astray] <;> decide
  · rintro ⟨k, hk, hs, hred⟩
    have h200 {j : Nat} (hs' : Stops σ.answers j) (h : (script σ.answers j).status = 200) :
        r = .error Install.astray := by
      obtain rfl := hs.eq hs'
      cases hred.symm.trans (Response.isRedirect_of_status h)
    cases h with
    | tooMany hall => cases (hall k hk).symm.trans hs.1
    | astray => rfl
    | refused _ hs' hr =>
      obtain rfl := hs.eq hs'
      cases hred.symm.trans hr
    | saved _ hs' h => exact h200 hs' h
    | unsaved _ hs' h => exact h200 hs' h

/-- A download is refused for the status that it stops at, and the last address is named. -/
theorem refusal_iff (h : Concludes σ url p temp r) (status : Int) (u : String) :
    r = .error (refusal status u) ↔
      ∃ k < σ.limits.maxRequests, Stops σ.answers k ∧ (script σ.answers k).status ≠ 200 ∧
        (script σ.answers k).isRedirect = false ∧
        refusal status u = refusal (script σ.answers k).status (trail σ.names url σ.answers k) := by
  constructor
  · intro hr
    cases h with
    | tooMany => cases headline_ne (by rw [headline_refusal, headline_tooMany]; decide) hr
    | astray => cases headline_ne (by rw [headline_refusal, headline_astray]; decide) hr
    | refused hk hs hred h => exact ⟨_, hk, hs, h, hred, (Except.error.inj hr).symm⟩
    | saved => cases hr
    | unsaved _ _ _ _ hφ =>
      refine (headline_ne ?_ hr).elim
      obtain hφ | hφ := hφ <;> rw [hφ, headline_refusal] <;> decide
  · rintro ⟨k, hk, hs, h200, hred, he⟩
    cases h with
    | tooMany hall => cases (hall k hk).symm.trans hs.1
    | astray _ hs' hr =>
      obtain rfl := hs.eq hs'
      cases hred.symm.trans hr
    | refused _ hs' =>
      obtain rfl := hs.eq hs'
      rw [he]
    | saved _ hs' h =>
      obtain rfl := hs.eq hs'
      exact absurd h h200
    | unsaved _ hs' h =>
      obtain rfl := hs.eq hs'
      exact absurd h h200

end Concludes

/-! ## The download along the chain -/

/-- Records of the log ask for no address. -/
theorem asked_eq_nil {εs : List Event} (h : ∀ ε ∈ εs, ∃ ι s, ε = .log ι .binary s) :
    asked εs = [] := by
  refine List.filterMap_eq_nil_iff.mpr fun ε hε ↦ ?_
  obtain ⟨ι, s, rfl⟩ := h ε hε
  rfl

/-- To clear what is left of a download asks for no address. -/
theorem asked_cleared (σ : Site) (p : Path) : asked (σ.cleared p).events = asked σ.events := by
  obtain ⟨τ, εs, h, hε⟩ := exists_cleared_eq σ p
  rw [h, asked_append, asked_eq_nil hε, List.append_nil]

/-- To make a client asks for no address. -/
theorem asked_withClient (σ : Site) (ownClient : Bool) (timeout : Value) :
    asked (σ.withClient ownClient timeout).events = asked σ.events := by
  unfold Site.withClient
  split
  · rfl
  · rw [asked_append]
    exact List.append_nil _

/-- To write a body asks for no address. -/
theorem asked_writeBody (ρ : Response) (p : Path) (σ : Site) :
    asked ((writeBody ρ p).run.run σ).2.events = asked σ.events := by
  rw [run_writeBody]
  split
  · rfl
  · split
    · rfl
    · rw [asked_append, asked_eq_nil fun _ ↦ exists_eq_log_of_mem_events, List.append_nil]

variable {p temp : Path} {σ : Site} {βs : List Answer} {urls : List String}
  {r : Except Stop Response}

/-- A download asks for what its pursuit asks for. -/
theorem asked_downloadFile (ht : p.extend? ".downloading" = some temp)
    (h : Pursues σ.names σ.limits.maxRequests url σ.answers urls βs r) (ownClient : Bool)
    (timeout : Value) :
    asked ((downloadFile url p ownClient timeout).run.run σ).2.events = asked σ.events ++ urls := by
  set τ := (do writeBody (← MonadExcept.ofExcept r) temp : ExceptT Stop (StateM Site) Unit).run.run
    ((σ.withClient ownClient timeout).pursued urls βs) with hτ
  have hτ' : asked τ.2.events = asked σ.events ++ urls := by
    have hp : asked ((σ.withClient ownClient timeout).pursued urls βs).events =
        asked σ.events ++ urls := by
      rw [Site.pursued, asked_append, asked_map_request, asked_withClient]
    cases r with
    | error ς => exact hp
    | ok ρ => exact (asked_writeBody ..).trans hp
  rw [run_downloadFile ht h, ← hτ]
  obtain ⟨ς | ⟨⟩, τ⟩ := τ
  · exact (asked_cleared τ temp).trans hτ'
  · dsimp only
    split
    · exact hτ'
    · exact (asked_cleared τ temp).trans hτ'

/-- To make a client touches no file. -/
theorem store_withClient (σ : Site) (ownClient : Bool) (timeout : Value) :
    (σ.withClient ownClient timeout).store = σ.store := by
  unfold Site.withClient
  split <;> rfl

/-- A download whose pursuit finds an answer of known length ends well if the files allow for it. -/
theorem fst_downloadFile_of_ok (ht : p.extend? ".downloading" = some temp) {ρ : Response} {m : Int}
    (h : Pursues σ.names σ.limits.maxRequests url σ.answers urls βs (.ok ρ)) (hl : ρ.length = .ok m)
    (hi : ρ.interruption = none) (ownClient : Bool) (timeout : Value) :
    (σ.store.Saves temp p (joined ρ.body) ∧
      ((downloadFile url p ownClient timeout).run.run σ).1 = .ok ()) ∨
    (¬ σ.store.Saves temp p (joined ρ.body) ∧
      ∃ s, ((downloadFile url p ownClient timeout).run.run σ).1 = .error (unwritten s) ∨
        ((downloadFile url p ownClient timeout).run.run σ).1 = .error (unsaved s)) := by
  set υ := (σ.withClient ownClient timeout).pursued urls βs with hυ
  have hs : υ.store = σ.store := store_withClient σ ownClient timeout
  have hrun := run_writeBody ρ temp υ
  simp only [hl, hi, hs, content_write hi] at hrun
  rw [run_downloadFile ht h, ← hυ, run_writeBody_ofExcept, hrun]
  cases hc : σ.store.create temp with
  | error φ =>
    refine .inr ⟨fun ⟨_, _, _, _, hc', _⟩ ↦ ?_, φ.message, .inl rfl⟩
    cases hc.symm.trans hc'
  | ok t =>
    obtain ⟨τ, κ, μ⟩ := t
    cases hm : (τ.put κ (.file μ (joined ρ.body))).move temp p with
    | ok τ' => exact .inl ⟨⟨τ, κ, μ, τ', hc, hm⟩, by simp only [ending, hm]⟩
    | error φ =>
      refine .inr ⟨fun ⟨_, _, _, _, hc', hm'⟩ ↦ ?_, φ.message, .inr (by simp only [ending, hm])⟩
      cases hc.symm.trans hc'
      cases hm.symm.trans hm'

/-- A download is led along the trail and ends where it ends. -/
theorem Traces.concludes (ht : p.extend? ".downloading" = some temp)
    (h : Pursues σ.names σ.limits.maxRequests url σ.answers urls βs r)
    (htr : Traces σ.names σ.limits.maxRequests url σ.answers urls r) (hα : Answers σ.answers)
    (hl : ∀ ρ, .response ρ ∈ σ.answers → ∃ m, ρ.length = .ok m) (ownClient : Bool)
    (timeout : Value) :
    Concludes σ url p temp ((downloadFile url p ownClient timeout).run.run σ).1 := by
  obtain ⟨hall, rfl⟩ | ⟨k, hk, hs, hr⟩ := htr.ending
  · rw [fst_downloadFile_of_error ht h]
    exact .tooMany hall
  · unfold verdict at hr
    split at hr
    next hred =>
      subst hr
      rw [fst_downloadFile_of_error ht h]
      exact .astray hk hs hred
    next hred =>
      split at hr
      next h200 =>
        subst hr
        have hm := mem_of_script h200 hα
        obtain ⟨m, hm'⟩ := hl _ hm
        obtain ⟨ρ, hρ, hi⟩ := hα _ hm
        cases hρ
        obtain ⟨hw, hr⟩ | ⟨hw, s, hr | hr⟩ :=
          fst_downloadFile_of_ok ht h hm' hi ownClient timeout
        · rw [hr]
          exact .saved hk hs h200 hw
        · rw [hr]
          exact .unsaved hk hs h200 hw (.inl (headline_unwritten s))
        · rw [hr]
          exact .unsaved hk hs h200 hw (.inr (headline_unsaved s))
      next h200 =>
        subst hr
        rw [fst_downloadFile_of_error ht h]
        exact .refused hk hs (Bool.eq_false_iff.mpr hred) h200

/-- The client asks for the address that it came to, as it stands. -/
theorem normal_trail_succ {l : String} (hl : (script αs k).target? = some l)
    (h : Joins names (trail names url αs k) l) :
    normal names (trail names url αs (k + 1)) = trail names url αs (k + 1) := by
  obtain ⟨υ, ω, hυ, -, hm, hω⟩ := h
  have ht : trail names url αs (k + 1) = ω.render := by
    rw [trail, hl, normal_of_requested (requested_eq_ok_iff.mpr hυ), Option.getD_some,
      normal_of_requested (requested_eq_ok_iff.mpr hm)]
  have hp : Url.parse names ω.render.toList = .ok ω := by
    rw [Url.render, String.toList_ofList]
    exact hω
  rw [ht, normal_of_requested (requested_eq_ok_iff.mpr hp)]

/-- What a chain of redirects comes to: which addresses are asked for, in order, and how the answer
that the chain stops at decides the end. -/
structure Follows (σ : Site) (url : String) (p temp : Path) (r : Except Fault Unit) (τ : Site) :
    Prop where
  /-- The addresses of the trail are asked for, up to the first answer that leads no further. -/
  asked_eq : ∃ m, (∀ k, k < m ↔ k < σ.limits.maxRequests ∧ ∀ j < k, leads σ.answers j = true) ∧
    (∀ k < m, 0 < k → normal σ.names (trail σ.names url σ.answers k) =
      trail σ.names url σ.answers k) ∧
    asked τ.events =
      asked σ.events ++ (List.range m).map fun k ↦ normal σ.names (trail σ.names url σ.answers k)
  ok_iff : r = .ok () ↔ ∃ k < σ.limits.maxRequests, Stops σ.answers k ∧
    (script σ.answers k).status = 200 ∧ σ.store.Saves temp p (joined (script σ.answers k).body)
  tooMany_iff : r = .error tooMany ↔ ∀ k < σ.limits.maxRequests, leads σ.answers k = true
  astray_iff : r = .error astray ↔
    ∃ k < σ.limits.maxRequests, Stops σ.answers k ∧ (script σ.answers k).isRedirect = true
  /-- A refusal names the address that was asked for last. -/
  refusal_iff (status : Int) (u : String) : r = .error (refusal status u) ↔
    ∃ k < σ.limits.maxRequests, Stops σ.answers k ∧ (script σ.answers k).status ≠ 200 ∧
      (script σ.answers k).isRedirect = false ∧
      refusal status u = refusal (script σ.answers k).status (trail σ.names url σ.answers k)

/-- If a network answers all that it is asked, and the client comes to what each place means that it
is sent to, then a download goes along the trail of addresses and no further than it may. -/
theorem downloadFile_follows (url : String) (p : Path) (ownClient : Bool) (timeout : Value)
    (σ : Site) {temp : Path} (ht : p.extend? ".downloading" = some temp)
    (hα : Answers σ.answers) (hl : ∀ ρ, .response ρ ∈ σ.answers → ∃ m, ρ.length = .ok m)
    (hu : ∃ υ, Url.parse σ.names url.toList = .ok υ)
    (hj : ∀ k < σ.limits.maxRequests, ∀ l, (script σ.answers k).target? = some l →
      (∀ j < k, leads σ.answers j = true) → Joins σ.names (trail σ.names url σ.answers k) l) :
    Follows σ url p temp ((downloadFile url p ownClient timeout).run.run σ).1
      ((downloadFile url p ownClient timeout).run.run σ).2 := by
  obtain ⟨urls, βs, r, h⟩ := exists_pursues σ.names σ.limits.maxRequests url σ.answers
  have htr := h.traces hα hu hj
  have hc := htr.concludes ht h hα hl ownClient timeout
  obtain ⟨m, hm, rfl⟩ := htr.urls_eq
  refine ⟨⟨m, hm, fun k hk hpos ↦ ?_, asked_downloadFile ht h ownClient timeout⟩, hc.ok_iff,
    hc.tooMany_iff, hc.astray_iff, hc.refusal_iff⟩
  obtain ⟨k, rfl⟩ := Nat.exists_eq_succ_of_ne_zero (Nat.pos_iff_ne_zero.mp hpos)
  obtain ⟨hn, hleads⟩ := (hm _).mp hk
  obtain ⟨l, hl⟩ := Option.isSome_iff_exists.mp (hleads k k.lt_succ_self)
  exact normal_trail_succ hl (hj k (by omega) l hl fun j hjk ↦ hleads j (by omega))

/-- Where the network leads a download first to a place beside the address and from there to one
that is written in full, though not in its normal form. -/
def detour : Site where
  host := ⟨"linux", "x64"⟩
  answers := [.response { status := 302, headers := [("location", "b/c?d")] },
    .response {
      status := 307
      headers := [("Location", "https://PROXY:443/d/../e"), ("content-length", "0")] },
    .response { headers := [("content-length", "2")], body := [⟨#[4, 5]⟩] }]

theorem answers_detour : Answers detour.answers := by
  intro α hα
  simp only [detour, List.mem_cons, List.not_mem_nil, or_false] at hα
  obtain rfl | rfl | rfl := hα <;> exact ⟨_, rfl, rfl⟩

namespace Detour

/-- Where the client begins. -/
def start : Url := {
  scheme := "https".toList, authority := some "proxy".toList, path := "/a".toList }

/-- The place beside that. -/
def beside : Url := { start with path := "/b/c".toList, query := some "d".toList }

/-- The place that is written in full. -/
def above : Url := { start with path := "/e".toList }

theorem parse_start : Url.parse detour.names "https://Proxy/a".toList = .ok start := by decide

theorem parse_beside : Url.parse detour.names beside.text = .ok beside := by decide

theorem parse_render_beside : Url.parse detour.names beside.render.toList = .ok beside := by
  rw [Url.render, String.toList_ofList]
  exact parse_beside

/-- What the first place means. -/
theorem meaning_start : Url.meaning start.render "b/c?d" = beside.render := by
  have hs : Url.split "b/c?d".toList = { path := "b/c".toList, query := some "d".toList } := by
    decide
  rw [Url.meaning_render (by decide), hs]
  simp [Url.target, Url.mergeAt, Url.removeDots, start, beside]

/-- What the second place means, before it is brought into its normal form. -/
theorem meaning_beside : (Url.meaning beside.render "https://PROXY:443/d/../e").toList =
    "https://PROXY:443/e".toList := by
  have hs : Url.split "https://PROXY:443/d/../e".toList = {
      scheme := "https".toList
      authority := some "PROXY:443".toList
      path := "/d/../e".toList } := by decide
  rw [Url.meaning_render (by decide), hs, Url.render, String.toList_ofList]
  simp [Url.target, Url.removeDots, Url.dropSegment, Url.text]

/-- The first redirect leads beside the address. -/
theorem trail_eq_beside :
    trail detour.names "https://Proxy/a" detour.answers 1 = beside.render := by
  rw [trail_one, normal_of_requested (requested_eq_ok_iff.mpr parse_start)]
  change normal _ (Url.meaning start.render "b/c?d") = _
  rw [meaning_start, normal_of_requested (requested_eq_ok_iff.mpr parse_render_beside)]

/-- The client joins what it is told. -/
theorem joins {k : Nat} {l : String} (hk : (script detour.answers k).target? = some l)
    (hleads : ∀ j < k, leads detour.answers j = true) :
    Joins detour.names (trail detour.names "https://Proxy/a" detour.answers k) l := by
  obtain _ | _ | _ | k := k
  · obtain rfl : "b/c?d" = l := Option.some.inj hk
    exact ⟨start, beside, parse_start, by decide, meaning_start ▸ parse_render_beside, parse_beside⟩
  · obtain rfl : "https://PROXY:443/d/../e" = l := Option.some.inj hk
    rw [trail_eq_beside]
    exact ⟨beside, above, parse_render_beside, by decide, by rw [meaning_beside]; decide, by decide⟩
  · cases hk
  · cases hleads 2 (by omega)

end Detour

theorem downloadFile_follows_detour :
    let p : Path := ⟨.root, ["proxy"]⟩
    let temp : Path := ⟨.root, ["proxy.downloading"]⟩
    let url := "https://Proxy/a"
    p.extend? ".downloading" = some temp ∧ Answers detour.answers ∧
      (∀ ρ, .response ρ ∈ detour.answers → ∃ m, ρ.length = .ok m) ∧
      (∃ υ, Url.parse detour.names url.toList = .ok υ) ∧
      (∀ k < detour.limits.maxRequests, ∀ l, (script detour.answers k).target? = some l →
        (∀ j < k, leads detour.answers j = true) →
        Joins detour.names (trail detour.names url detour.answers k) l) ∧
      Follows detour url p temp ((downloadFile url p false).run.run detour).1
        ((downloadFile url p false).run.run detour).2 := by
  intro p temp url
  have ht : p.extend? ".downloading" = some temp := by decide
  have hl (ρ : Response) (hρ : .response ρ ∈ detour.answers) : ∃ m, ρ.length = .ok m := by
    simp only [detour, List.mem_cons, List.not_mem_nil, or_false, Answer.response.injEq] at hρ
    obtain rfl | rfl | rfl := hρ
    exacts [⟨0, rfl⟩, ⟨0, rfl⟩, ⟨2, rfl⟩]
  have hu : ∃ υ, Url.parse detour.names url.toList = .ok υ := ⟨_, Detour.parse_start⟩
  have hj (k : Nat) (_ : k < detour.limits.maxRequests) (l : String)
      (hk : (script detour.answers k).target? = some l)
      (hleads : ∀ j < k, leads detour.answers j = true) :
      Joins detour.names (trail detour.names url detour.answers k) l := Detour.joins hk hleads
  exact ⟨ht, answers_detour, hl, hu, hj,
    downloadFile_follows url p false defaultTimeout detour ht answers_detour hl hu hj⟩

end Install

end Sluice
