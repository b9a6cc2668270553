import Sluice.Proofs.Decimal.Digits
import Sluice.Value.Moment

/-!
# Moments can be told from their texts

The fields of a date, a time and a duration are runs of digits with marks between them, so each
field can be told from the text, and with it the whole (`Date.text_append_inj`,
`DateTime.textWith_injective`, `Duration.text_injective`).
-/

namespace Sluice.Value

open Decimal

variable {m n : Nat} {r q : List Char}

/-! ## Dates and times of day -/

/-- A date is written so that it shows where it ends. -/
theorem Date.text_append_inj {δ ε : Date} (hr : NoDigit r) (hq : NoDigit q)
    (h : δ.text ++ r = ε.text ++ q) : δ = ε ∧ r = q := by
  simp only [Date.text, List.append_assoc, List.cons_append] at h
  obtain ⟨hyear, h⟩ := padded_append_inj (by simp) (by simp) h
  obtain ⟨hmonth, h⟩ := padded_append_inj (by simp) (by simp) (List.cons.inj h).2
  obtain ⟨hday, h⟩ := padded_append_inj hr hq (List.cons.inj h).2
  refine ⟨?_, h⟩
  cases δ
  cases ε
  subst hyear hmonth hday
  rfl

/-- What may follow a time of day. -/
def NoFraction (r : List Char) : Prop := ∀ c ∈ r.head?, c.isDigit = false ∧ c ≠ '.'

theorem NoFraction.noDigit (h : NoFraction r) : NoDigit r := fun c hc ↦ (h c hc).1

/-- Microseconds are written so that it shows where they end. -/
theorem microText_append_inj (hr : NoFraction r) (hq : NoFraction q)
    (h : microText m ++ r = microText n ++ q) : m = n ∧ r = q := by
  unfold microText at h
  split at h <;> split at h
  next hm hn => exact ⟨hm.trans hn.symm, h⟩
  next =>
    subst h
    exact absurd rfl (hr '.' rfl).2
  next =>
    subst h
    exact absurd rfl (hq '.' rfl).2
  next => exact padded_append_inj hr.noDigit hq.noDigit (List.cons.inj h).2

/-- Microseconds, or what stands in their place, are no digits. -/
theorem noDigit_microText_append (hr : NoDigit r) : NoDigit (microText n ++ r) := by
  unfold microText
  split
  · exact hr
  · exact noDigit_cons.mpr rfl

/-- A time of day is written so that it shows where it ends. -/
theorem TimeOfDay.text_append_inj {σ τ : TimeOfDay} (hr : NoFraction r) (hq : NoFraction q)
    (h : σ.text ++ r = τ.text ++ q) : σ = τ ∧ r = q := by
  simp only [TimeOfDay.text, List.append_assoc, List.cons_append] at h
  obtain ⟨hhour, h⟩ := padded_append_inj (by simp) (by simp) h
  obtain ⟨hminute, h⟩ := padded_append_inj (by simp) (by simp) (List.cons.inj h).2
  obtain ⟨hsecond, h⟩ := padded_append_inj (noDigit_microText_append hr.noDigit)
    (noDigit_microText_append hq.noDigit) (List.cons.inj h).2
  obtain ⟨hmicro, h⟩ := microText_append_inj hr hq h
  refine ⟨?_, h⟩
  cases σ
  cases τ
  subst hhour hminute hsecond hmicro
  rfl

/-- Different dates are written differently. -/
theorem Date.text_injective : Function.Injective Date.text := fun _ _ h ↦
  (text_append_inj noDigit_nil noDigit_nil (congrArg (· ++ []) h)).1

/-- Different times of day are written differently. -/
theorem TimeOfDay.text_injective : Function.Injective TimeOfDay.text := fun _ _ h ↦
  (text_append_inj (r := []) (q := []) nofun nofun (congrArg (· ++ []) h)).1

/-! ## Points in time -/

/-- Different microseconds are written differently. -/
theorem microText_injective : Function.Injective microText := fun _ _ h ↦
  (microText_append_inj (r := []) (q := []) nofun nofun (congrArg (· ++ []) h)).1

theorem noDigit_microText (n : Nat) : NoDigit (microText n) := by
  rw [← List.append_nil (microText n)]
  exact noDigit_microText_append noDigit_nil

theorem noDigit_secondText (s μ : Nat) : NoDigit (secondText s μ) := by
  unfold secondText
  split
  · exact noDigit_nil
  · exact noDigit_cons.mpr rfl

/-- Seconds are read back from what is written of them. -/
theorem secondText_inj {s t : Nat} (h : secondText s m = secondText t n) : s = t ∧ m = n := by
  unfold secondText at h
  split at h <;> split at h
  next hs ht => exact ⟨hs.1.trans ht.1.symm, hs.2.trans ht.2.symm⟩
  next => cases h
  next => cases h
  next =>
    have hmicro := padded_append_inj (noDigit_microText m) (noDigit_microText n) (List.cons.inj h).2
    exact hmicro.imp_right fun h ↦ microText_injective h

/-- Sign, hours, minutes, seconds and microseconds make up an offset. -/
theorem offsetText_injective : Function.Injective offsetText := by
  intro y z h
  unfold offsetText at h
  dsimp only at h
  simp only [List.append_assoc, List.cons_append] at h
  obtain ⟨hsign, h⟩ := List.cons.inj h
  obtain ⟨hhour, h⟩ := padded_append_inj (by simp) (by simp) h
  obtain ⟨hminute, h⟩ := padded_append_inj (noDigit_secondText _ _) (noDigit_secondText _ _)
    (List.cons.inj h).2
  obtain ⟨hsecond, hmicro⟩ := secondText_inj h
  have hlt : y < 0 ↔ z < 0 := by
    by_cases hy : y < 0 <;> by_cases hz : z < 0
    · exact iff_of_true hy hz
    · rw [if_pos hy, if_neg hz] at hsign
      exact absurd hsign (by decide)
    · rw [if_neg hy, if_pos hz] at hsign
      exact absurd hsign (by decide)
    · exact iff_of_false hy hz
  omega

theorem noFraction_offset (o : Option Int) : NoFraction ((o.map offsetText).getD []) := by
  cases o with
  | none => exact nofun
  | some z =>
    intro c hc
    obtain rfl : (if z < 0 then '-' else '+') = c := Option.some.inj hc
    split <;> decide

/-- Offsets from universal time are read back from what is written of them. -/
theorem offset_inj {o q : Option Int} (h : (o.map offsetText).getD [] = (q.map offsetText).getD []) :
    o = q := by
  cases o <;> cases q
  · rfl
  · cases h
  · cases h
  · exact congrArg some (offsetText_injective h)

/-- A mark that is no digit keeps date and time of day apart. -/
theorem DateTime.textWith_injective {sep : Char} (hsep : sep.isDigit = false) :
    Function.Injective (DateTime.textWith sep) := by
  intro δ ε h
  simp only [DateTime.textWith, List.append_assoc, List.cons_append] at h
  obtain ⟨hdate, h⟩ := Date.text_append_inj (noDigit_cons.mpr hsep) (noDigit_cons.mpr hsep) h
  obtain ⟨htime, h⟩ := TimeOfDay.text_append_inj (noFraction_offset _) (noFraction_offset _)
    (List.cons.inj h).2
  have hoffset := offset_inj h
  cases δ
  cases ε
  subst hdate htime hoffset
  rfl

/-! ## Durations -/

/-- One day, or some other number of days. -/
def dayUnit (d : Int) : List Char := (if d.natAbs = 1 then " day, " else " days, ").toList

/-- The days of a duration, if there are any. -/
def dayText (d : Int) : List Char := if d = 0 then [] else intText d ++ dayUnit d

/-- The hours, minutes, seconds and microseconds of a duration. -/
def clockText (s μ : Nat) : List Char :=
  natDigits (s / 3600) ++ ':' :: padded 2 (s / 60 % 60) ++ ':' :: padded 2 (s % 60) ++ microText μ

/-- A duration is written as its days and a clock. -/
theorem Duration.text_eq (δ : Duration) :
    δ.text = dayText δ.days ++ clockText δ.seconds δ.micros := by
  simp only [Duration.text, dayText, dayUnit, clockText, List.append_assoc, List.cons_append]

/-- A clock is read back from what is written of it. -/
theorem clockText_inj {s t : Nat} (h : clockText s m = clockText t n) : s = t ∧ m = n := by
  simp only [clockText, List.append_assoc, List.cons_append] at h
  obtain ⟨hhour, h⟩ := natDigits_append_inj (by simp) (by simp) h
  obtain ⟨hminute, h⟩ := padded_append_inj (by simp) (by simp) (List.cons.inj h).2
  obtain ⟨hsecond, h⟩ := padded_append_inj (noDigit_microText m) (noDigit_microText n)
    (List.cons.inj h).2
  exact ⟨by omega, microText_injective h⟩

/-- Behind the number of days stands a blank. -/
theorem exists_dayUnit_append_eq (d : Int) (r : List Char) : ∃ s, dayUnit d ++ r = ' ' :: s := by
  unfold dayUnit
  split <;> exact ⟨_, rfl⟩

theorem noDigit_dayUnit_append (d : Int) (r : List Char) : NoDigit (dayUnit d ++ r) := by
  obtain ⟨s, hs⟩ := exists_dayUnit_append_eq d r
  rw [hs]
  exact noDigit_cons.mpr rfl

theorem dayText_append (r : List Char) {d : Int} (hd : d ≠ 0) :
    dayText d ++ r = intText d ++ (dayUnit d ++ r) := by
  rw [dayText, if_neg hd, List.append_assoc]

/-- Behind the hours stands a colon, so they are no days. -/
theorem clockText_ne_dayText_append {s : Nat} {d : Int} (hd : d ≠ 0) :
    clockText s m ≠ dayText d ++ r := by
  intro h
  rw [dayText_append r hd, clockText, ← intText_natCast, List.append_assoc, List.append_assoc] at h
  obtain ⟨-, h⟩ := intText_append_inj (noDigit_cons.mpr rfl) (noDigit_dayUnit_append d r) h
  obtain ⟨t, ht⟩ := exists_dayUnit_append_eq d r
  rw [ht] at h
  cases h

/-- The days of a duration are read back, and so is what stands behind them. -/
theorem dayText_append_inj {c d : Int} {s t : Nat}
    (h : dayText c ++ clockText s m = dayText d ++ clockText t n) :
    c = d ∧ clockText s m = clockText t n := by
  by_cases hc : c = 0 <;> by_cases hd : d = 0
  · subst hc hd
    exact ⟨rfl, h⟩
  · subst hc
    exact absurd h (clockText_ne_dayText_append hd)
  · subst hd
    exact absurd h.symm (clockText_ne_dayText_append hc)
  · rw [dayText_append _ hc, dayText_append _ hd] at h
    obtain ⟨rfl, h⟩ := intText_append_inj (noDigit_dayUnit_append _ _)
      (noDigit_dayUnit_append _ _) h
    exact ⟨rfl, List.append_cancel_left h⟩

/-- Different durations are written differently. -/
theorem Duration.text_injective : Function.Injective Duration.text := by
  intro δ ε h
  rw [text_eq, text_eq] at h
  obtain ⟨hdays, h⟩ := dayText_append_inj h
  obtain ⟨hseconds, hmicros⟩ := clockText_inj h
  cases δ
  cases ε
  subst hdays hseconds hmicros
  rfl

end Sluice.Value
