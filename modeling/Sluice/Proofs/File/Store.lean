import Mathlib.Data.List.Basic
import Mathlib.Tactic.ByContra
import Sluice.File.Store

/-!
# What files leave alone

A file may come, go or be written anew without any effect on where paths lead, since these go
through directories only.  So it concerns no path but those that lead to the file itself
(`Store.Alters.at?_eq`).
-/

namespace Sluice.File.Store

variable {σ τ υ : Store} {κ ι : Key} {p q : Path}

/-! ## Nodes -/

/-- A key that is taken out makes no difference to others. -/
theorem lookup_filter_ne (ns : List (Key × Node)) (h : ι ≠ κ) :
    (ns.filter (·.1 != κ)).lookup ι = ns.lookup ι := by
  induction ns with
  | nil => rfl
  | cons n ns ih =>
    obtain ⟨μ, ν⟩ := n
    by_cases hμ : μ = κ
    · subst hμ
      have hι : (ι == μ) = false := by simpa using h
      simp [List.lookup_cons, hι, ih]
    · simp [hμ, List.lookup_cons, ih]

/-- A key that is taken out is not there. -/
theorem lookup_filter_self (ns : List (Key × Node)) :
    (ns.filter (·.1 != κ)).lookup κ = none := by
  refine List.lookup_eq_none_iff.mpr fun n hn ↦ ?_
  have hn : n.1 ≠ κ := by simpa using List.of_mem_filter hn
  simpa using hn.symm

/-- A node that is put at a key stands there, and nothing else changes. -/
theorem node?_put (σ : Store) (ν : Node) (hκ : isOrigin κ = false) :
    (σ.put κ ν).node? ι = if ι = κ then some ν else σ.node? ι := by
  unfold node? put
  by_cases hι : ι = κ
  · subst hι
    simp [hκ]
  · have hb : (ι == κ) = false := by simpa using hι
    simp [hι, hb, List.lookup_cons, lookup_filter_ne _ hι]

/-- A node that is erased is not there, and nothing else changes. -/
theorem node?_erase (σ : Store) (hκ : isOrigin κ = false) :
    (σ.erase κ).node? ι = if ι = κ then none else σ.node? ι := by
  unfold node? erase
  by_cases hι : ι = κ
  · subst hι
    simp [hκ, lookup_filter_self]
  · simp [hι, lookup_filter_ne _ hι]

/-- Where a path begins there always is a directory. -/
theorem isOrigin_eq_false (h : ∀ μ, σ.node? κ ≠ some (.directory μ)) : isOrigin κ = false := by
  by_contra ho
  exact h directoryMode (by rw [node?, if_pos (by simpa using ho)])

/-! ## Where paths lead -/

/-- A step leads on from a directory only. -/
theorem descend_eq_ok {ν : String} : σ.descend κ ν = .ok ι ↔
    (∃ μ, σ.node? κ = some (.directory μ)) ∧
      ι = if ν = ".." then (if isOrigin κ then κ else κ.dropLast) else κ ++ [ν] := by
  unfold descend
  cases σ.node? κ with
  | none => simp
  | some n =>
    cases n with
    | file μ β => simp
    | directory μ =>
      dsimp only
      constructor
      · intro h
        split at h <;> cases h <;> exact ⟨⟨μ, rfl⟩, (by simp [*])⟩
      · rintro ⟨-, rfl⟩
        split <;> rfl

/-- Names are followed one after the other. -/
theorem foldlM_descend_append {νs ξs : List String} :
    (νs ++ ξs).foldlM σ.descend ι = .ok κ ↔
      ∃ μ, νs.foldlM σ.descend ι = .ok μ ∧ ξs.foldlM σ.descend μ = .ok κ := by
  rw [List.foldlM_append]
  cases νs.foldlM σ.descend ι with
  | error c => exact ⟨nofun, fun ⟨_, hμ, _⟩ ↦ by cases hμ⟩
  | ok μ => exact ⟨fun hr ↦ ⟨μ, rfl, hr⟩, fun ⟨_, hμ, hr⟩ ↦ by cases hμ; exact hr⟩

theorem foldlM_descend_singleton {ν : String} :
    [ν].foldlM σ.descend ι = .ok κ ↔ σ.descend ι ν = .ok κ := by
  rw [List.foldlM_cons]
  cases σ.descend ι ν <;> rfl

/-- `τ` differs from `σ` in the files under the keys `κs` at most. -/
structure Alters (κs : List Key) (σ τ : Store) : Prop where
  node?_eq {κ : Key} : κ ∉ κs → τ.node? κ = σ.node? κ
  before {κ : Key} {μ : Nat} : κ ∈ κs → σ.node? κ ≠ some (.directory μ)
  after {κ : Key} {μ : Nat} : κ ∈ κs → τ.node? κ ≠ some (.directory μ)

namespace Alters

variable {κs ιs : List Key}

/-- A store is altered at no key by doing nothing. -/
theorem refl (h : ∀ κ ∈ κs, ∀ μ, σ.node? κ ≠ some (.directory μ)) : Alters κs σ σ :=
  ⟨fun _ ↦ rfl, fun hκ ↦ h _ hκ _, fun hκ ↦ h _ hκ _⟩

theorem trans (h : Alters κs σ τ) (h' : Alters κs τ υ) : Alters κs σ υ :=
  ⟨fun hκ ↦ (h'.node?_eq hκ).trans (h.node?_eq hκ), h.before, h'.after⟩

/-- The directories are the same in a store whose files were altered. -/
theorem isDirectory_iff (h : Alters κs σ τ) (κ : Key) (μ : Nat) :
    τ.node? κ = some (.directory μ) ↔ σ.node? κ = some (.directory μ) := by
  by_cases hκ : κ ∈ κs
  · exact ⟨fun hτ ↦ absurd hτ (h.after hκ), fun hσ ↦ absurd hσ (h.before hκ)⟩
  · rw [h.node?_eq hκ]

/-- A name leads to the same place in a store whose files were altered. -/
theorem descend_eq_ok_iff (h : Alters κs σ τ) (κ ι : Key) (ν : String) :
    τ.descend κ ν = .ok ι ↔ σ.descend κ ν = .ok ι := by
  rw [descend_eq_ok, descend_eq_ok]
  simp only [h.isDirectory_iff]

/-- Names lead to the same place in a store whose files were altered. -/
theorem foldlM_descend_eq_ok_iff (h : Alters κs σ τ) (νs : List String) (κ ι : Key) :
    νs.foldlM τ.descend ι = .ok κ ↔ νs.foldlM σ.descend ι = .ok κ := by
  induction νs generalizing ι with
  | nil => exact Iff.rfl
  | cons ν νs ih =>
    rw [← List.singleton_append, foldlM_descend_append, foldlM_descend_append]
    simp only [foldlM_descend_singleton, h.descend_eq_ok_iff, ih]

/-- Paths lead where they led. -/
theorem resolve_eq_ok_iff (h : Alters κs σ τ) (p : Path) (κ : Key) :
    τ.resolve p = .ok κ ↔ σ.resolve p = .ok κ := h.foldlM_descend_eq_ok_iff ..

/-- A path that does not lead to what has changed leads to what was there. -/
theorem at?_eq (h : Alters κs σ τ) (hp : ∀ κ ∈ κs, σ.resolve p ≠ .ok κ) : τ.at? p = σ.at? p := by
  have hr := h.resolve_eq_ok_iff p
  unfold at?
  cases hσ : σ.resolve p with
  | ok κ =>
    rw [(hr κ).mpr hσ]
    exact h.node?_eq fun hκ ↦ hp κ hκ hσ
  | error c =>
    cases hτ : τ.resolve p with
    | ok κ => cases hσ.symm.trans ((hr κ).mp hτ)
    | error c' => rfl

end Alters

/-! ## Operations on files -/

/-- What stands at a path is what stands where it leads. -/
theorem at?_of_resolve (h : σ.resolve p = .ok κ) : σ.at? p = σ.node? κ := by rw [at?, h]

/-- Nothing stands at a path that leads nowhere. -/
theorem at?_of_error {c : Cause} (h : σ.resolve p = .error c) : σ.at? p = none := by rw [at?, h]

/-- To write a file changes nothing but that file. -/
theorem alters_put {μ : Nat} {β : ByteArray} (h : ∀ μ, σ.node? κ ≠ some (.directory μ)) :
    Alters [κ] σ (σ.put κ (.file μ β)) := by
  have hκ := isOrigin_eq_false h
  constructor
  · intro ι hι
    rw [node?_put σ _ hκ, if_neg (by simpa using hι)]
  · intro ι μ hι
    rw [List.mem_singleton.mp hι]
    exact h μ
  · intro ι μ hι
    rw [List.mem_singleton.mp hι, node?_put σ _ hκ, if_pos rfl]
    simp

/-- To erase a file alters it alone. -/
theorem alters_erase (h : ∀ μ, σ.node? κ ≠ some (.directory μ)) :
    Alters [κ] σ (σ.erase κ) := by
  have hκ := isOrigin_eq_false h
  constructor
  · intro ι hι
    rw [node?_erase σ hκ, if_neg (by simpa using hι)]
  · intro ι μ hι
    rw [List.mem_singleton.mp hι]
    exact h μ
  · intro ι μ hι
    rw [List.mem_singleton.mp hι, node?_erase σ hκ, if_pos rfl]
    simp

/-- A file can be created where there is no directory, if its path leads somewhere. -/
theorem create_cases (σ : Store) (p : Path) :
    (∃ φ, σ.create p = .error φ) ∨ ∃ κ μ, σ.resolve p = .ok κ ∧
      (∀ μ, σ.node? κ ≠ some (.directory μ)) ∧
      σ.create p = .ok (σ.put κ (.file μ .empty), κ, μ) := by
  unfold create
  split
  · exact .inl ⟨_, rfl⟩
  next κ hκ =>
    split
    · exact .inl ⟨_, rfl⟩
    next hn => exact .inr ⟨κ, _, hκ, by simp [hn], rfl⟩
    next hn => exact .inr ⟨κ, _, hκ, by simp [hn], rfl⟩

/-- What may be removed is gone once it was removed, and nothing else has changed. -/
theorem remove_cases (h : σ.isDirectory p = false) :
    (∃ φ, σ.remove p = .error φ ∧ σ.at? p = none) ∨
      ∃ κ, σ.resolve p = .ok κ ∧ (∀ μ, σ.node? κ ≠ some (.directory μ)) ∧
        σ.remove p = .ok (σ.erase κ) := by
  unfold remove
  split
  next c hr => exact .inl ⟨_, rfl, at?_of_error hr⟩
  next κ hr =>
    have ha := at?_of_resolve hr
    split
    next hn => exact .inl ⟨_, rfl, ha.trans hn⟩
    next hn => simp [isDirectory, ha, hn] at h
    next hn => exact .inr ⟨κ, hr, by simp [hn], rfl⟩

/-- A file that is moved takes the place of a file or of nothing. -/
theorem move_cases (σ : Store) (p q : Path) :
    (∃ φ, σ.move p q = .error φ) ∨ ∃ κ ι μ β, σ.resolve p = .ok κ ∧ σ.resolve q = .ok ι ∧
      σ.node? κ = some (.file μ β) ∧ (∀ μ, σ.node? ι ≠ some (.directory μ)) ∧
      σ.move p q = .ok ((σ.erase κ).put ι (.file μ β)) := by
  unfold move
  split
  · exact .inl ⟨_, rfl⟩
  · exact .inl ⟨_, rfl⟩
  next κ ι hκ hι =>
    split
    next hk hi => exact .inr ⟨κ, ι, _, _, hκ, hι, hk, by simp [hi], rfl⟩
    next hk hi => exact .inr ⟨κ, ι, _, _, hκ, hι, hk, by simp [hi], rfl⟩
    · exact .inl ⟨_, rfl⟩
    · exact .inl ⟨_, rfl⟩
    · exact .inl ⟨_, rfl⟩

/-! ## What happens at a path -/

/-- The key that a path leads to, if it leads anywhere. -/
def place (σ : Store) (p : Path) : List Key :=
  match σ.resolve p with
  | .ok κ => [κ]
  | .error _ => []

theorem mem_place : κ ∈ σ.place p ↔ σ.resolve p = .ok κ := by
  unfold place
  split
  next h => simp [h, eq_comm]
  next h => simp [h]

/-- From `σ` to `τ` nothing was touched but a file at `p`. -/
def Touches (p : Path) (σ τ : Store) : Prop := Alters (σ.place p) σ τ

/-- Two paths lead to the same place. -/
def Meet (σ : Store) (p q : Path) : Prop := ∃ κ, σ.resolve p = .ok κ ∧ σ.resolve q = .ok κ

/-- Two paths meet, whichever comes first. -/
theorem Meet.symm (h : σ.Meet p q) : σ.Meet q p := by
  obtain ⟨κ, hp, hq⟩ := h
  exact ⟨κ, hq, hp⟩

/-- A path whose last name is lengthened, if only by one character beyond `..`, leads elsewhere. -/
theorem not_meet_of_extend? {s : String} (h : p.extend? s = some q) (hs : 2 < s.length) :
    ¬ σ.Meet p q := by
  rintro ⟨κ, hp, hq⟩
  obtain ⟨ν, hν, rfl⟩ := Option.map_eq_some_iff.mp h
  obtain ⟨νs, hn⟩ := List.getLast?_eq_some_iff.mp hν
  rw [resolve, hn, foldlM_descend_append] at hp
  rw [resolve, hn, List.dropLast_concat, foldlM_descend_append] at hq
  obtain ⟨μ, hμ, hp⟩ := hp
  obtain ⟨μ', hμ', hq⟩ := hq
  cases hμ.symm.trans hμ'
  obtain ⟨-, hp⟩ := descend_eq_ok.mp (foldlM_descend_singleton.mp hp)
  obtain ⟨-, hq⟩ := descend_eq_ok.mp (foldlM_descend_singleton.mp hq)
  have hne : ν ++ s ≠ ".." := fun he ↦ by
    have hl := congrArg String.length he
    rw [String.length_append] at hl
    have h2 : "..".length = 2 := by decide
    omega
  rw [if_neg hne] at hq
  split at hp
  · -- a step back leads to no longer key
    have hl : κ.length ≤ μ.length := by
      rw [hp]
      split
      · exact Nat.le_refl _
      · simp
    rw [hq, List.length_append, List.length_singleton] at hl
    omega
  · have he : ν = ν ++ s := by simpa using hp.symm.trans hq
    have hl := congrArg String.length he
    rw [String.length_append] at hl
    omega

namespace Touches

/-- Nothing is touched by doing nothing. -/
theorem refl (h : σ.isDirectory p = false) : Touches p σ σ := by
  refine Alters.refl fun κ hκ μ hn ↦ ?_
  simp [isDirectory, at?_of_resolve (mem_place.mp hκ), hn] at h

/-- Where only a file was touched there is no directory. -/
theorem isDirectory (h : Touches p σ τ) : τ.isDirectory p = false := by
  unfold Store.isDirectory
  split
  next μ hn =>
    unfold at? at hn
    split at hn
    next κ hκ => exact absurd hn (h.after (mem_place.mpr ((h.resolve_eq_ok_iff p κ).mp hκ)))
    next => cases hn
  next => rfl

/-- A path leads to the same place after it was touched. -/
theorem place_eq (h : Touches p σ τ) : τ.place p = σ.place p := by
  have hr := h.resolve_eq_ok_iff p
  unfold place
  cases hσ : σ.resolve p with
  | ok κ => rw [(hr κ).mpr hσ]
  | error c =>
    cases hτ : τ.resolve p with
    | ok κ => cases hσ.symm.trans ((hr κ).mp hτ)
    | error c' => rfl

theorem trans (h : Touches p σ τ) (h' : Touches p τ υ) : Touches p σ υ :=
  Alters.trans h (h.place_eq ▸ h')

/-- A path that does not meet the one that was touched is as it was. -/
theorem at?_eq (h : Touches p σ τ) (hq : ¬ σ.Meet q p) : τ.at? q = σ.at? q :=
  Alters.at?_eq h fun κ hκ hr ↦ hq ⟨κ, hr, mem_place.mp hκ⟩

/-- To put a file at a path touches that path alone. -/
theorem put {μ : Nat} {β : ByteArray} (hr : σ.resolve p = .ok κ)
    (h : ∀ μ, σ.node? κ ≠ some (.directory μ)) :
    Touches p σ (σ.put κ (.file μ β)) ∧
      (σ.put κ (.file μ β)).at? p = some (.file μ β) := by
  have ha := alters_put (μ := μ) (β := β) h
  have hp : Touches p σ (σ.put κ (.file μ β)) := by
    rw [Touches, place, hr]
    exact ha
  refine ⟨hp, ?_⟩
  rw [at?_of_resolve ((ha.resolve_eq_ok_iff p κ).mpr hr), node?_put σ _ (isOrigin_eq_false h),
    if_pos rfl]

/-- To erase a file at a path touches that path alone. -/
theorem erase (hr : σ.resolve p = .ok κ) (h : ∀ μ, σ.node? κ ≠ some (.directory μ)) :
    Touches p σ (σ.erase κ) ∧ (σ.erase κ).at? p = none := by
  have ha := alters_erase h
  have hp : Touches p σ (σ.erase κ) := by
    rw [Touches, place, hr]
    exact ha
  refine ⟨hp, ?_⟩
  rw [at?_of_resolve ((ha.resolve_eq_ok_iff p κ).mpr hr), node?_erase σ (isOrigin_eq_false h),
    if_pos rfl]

end Touches

/-- A file that was created at a path can be written there. -/
theorem touches_create {μ : Nat} (h : σ.create p = .ok (τ, κ, μ)) (β : ByteArray) :
    Touches p σ (τ.put κ (.file μ β)) ∧ (τ.put κ (.file μ β)).at? p = some (.file μ β) := by
  obtain ⟨φ, hφ⟩ | ⟨κ', μ', hr, hd, hc⟩ := σ.create_cases p
  · cases h.symm.trans hφ
  · cases h.symm.trans hc
    obtain ⟨ht, -⟩ := Touches.put (μ := μ) (β := .empty) hr hd
    have hr' : (σ.put κ (.file μ .empty)).resolve p = .ok κ := (ht.resolve_eq_ok_iff p κ).mpr hr
    obtain ⟨ht', hat⟩ := Touches.put (μ := μ) (β := β) hr' fun _ ↦ ht.after (mem_place.mpr hr)
    exact ⟨ht.trans ht', hat⟩

/-- What is left when a path was cleared. -/
theorem touches_remove (h : σ.isDirectory p = false) :
    (∃ φ, σ.remove p = .error φ ∧ σ.at? p = none) ∨
      ∃ τ, σ.remove p = .ok τ ∧ Touches p σ τ ∧ τ.at? p = none := by
  obtain ⟨φ, hφ, ha⟩ | ⟨κ, hr, hd, hc⟩ := remove_cases h
  · exact .inl ⟨φ, hφ, ha⟩
  · exact .inr ⟨_, hc, Touches.erase hr hd⟩

/-- A file that is moved is where it was moved to, and gone from where it was.  Nothing else has
changed. -/
theorem at?_of_move (h : σ.move p q = .ok τ) (hpq : ¬ σ.Meet p q) :
    τ.at? q = σ.at? p ∧ τ.at? p = none ∧
      ∀ r, ¬ σ.Meet r p → ¬ σ.Meet r q → τ.at? r = σ.at? r := by
  obtain ⟨φ, hφ⟩ | ⟨κ, ι, μ, β, hκ, hι, hn, hd, hm⟩ := σ.move_cases p q
  · cases h.symm.trans hφ
  · cases h.symm.trans hm
    have hne : ι ≠ κ := fun he ↦ hpq ⟨κ, hκ, he ▸ hι⟩
    obtain ⟨he, hep⟩ := Touches.erase hκ (by simp [hn])
    have hι' : (σ.erase κ).resolve q = .ok ι := (he.resolve_eq_ok_iff q ι).mpr hι
    have hκ' : (σ.erase κ).resolve p = .ok κ := (he.resolve_eq_ok_iff p κ).mpr hκ
    have hd' : ∀ μ, (σ.erase κ).node? ι ≠ some (.directory μ) :=
      fun μ ↦ mt (he.isDirectory_iff ι μ).mp (hd μ)
    obtain ⟨hp, hpq'⟩ := Touches.put (μ := μ) (β := β) hι' hd'
    refine ⟨?_, ?_, fun r hrp hrq ↦ ?_⟩
    · rw [hpq', at?_of_resolve hκ, hn]
    · rw [hp.at?_eq, hep]
      rintro ⟨κ', h₁, h₂⟩
      cases h₁.symm.trans hκ'
      cases h₂.symm.trans hι'
      exact hne rfl
    · rw [hp.at?_eq, he.at?_eq hrp]
      rintro ⟨κ', h₁, h₂⟩
      exact hrq ⟨κ', (he.resolve_eq_ok_iff r κ').mp h₁, (he.resolve_eq_ok_iff q κ').mp h₂⟩

/-- What was moved is a file. -/
theorem exists_at?_of_move (h : σ.move p q = .ok τ) (hpq : ¬ σ.Meet p q) :
    ∃ μ β, τ.at? q = some (.file μ β) := by
  obtain ⟨hq, -⟩ := at?_of_move h hpq
  obtain ⟨φ, hφ⟩ | ⟨κ, ι, μ, β, hκ, -, hn, -⟩ := σ.move_cases p q
  · cases h.symm.trans hφ
  · exact ⟨μ, β, hq.trans ((at?_of_resolve hκ).trans hn)⟩

/-- A file whose mode is changed keeps its content. -/
theorem at?_of_setMode {μ ν : Nat} {β : ByteArray} (h : σ.setMode p μ = .ok τ)
    (hp : σ.at? p = some (.file ν β)) : τ.at? p = some (.file μ β) := by
  unfold at? at hp
  unfold setMode at h
  split at hp
  next κ hκ =>
    simp only [hκ, hp, Except.ok.injEq] at h
    subst h
    exact (Touches.put hκ (by simp [hp])).2
  next => cases hp

end Sluice.File.Store
