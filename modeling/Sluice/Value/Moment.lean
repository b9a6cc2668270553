import Sluice.Decimal.Digits

/-!
# Dates, times and durations
-/

namespace Sluice.Value

open Decimal

/-- A day of the calendar. -/
structure Date where
  year : Nat
  month : Nat
  day : Nat
  year_lt : year < 10000 := by decide
  month_lt : month < 13 := by decide
  day_lt : day < 32 := by decide
  deriving DecidableEq, Repr

/-- A time of day, to the microsecond. -/
structure TimeOfDay where
  hour : Nat
  minute : Nat
  second : Nat
  micro : Nat
  hour_lt : hour < 24 := by decide
  minute_lt : minute < 60 := by decide
  second_lt : second < 60 := by decide
  micro_lt : micro < 1000000 := by decide
  deriving DecidableEq, Repr

/-- A point in time, with its distance from universal time in microseconds if that is known. -/
structure DateTime where
  date : Date
  time : TimeOfDay
  offset : Option Int := none
  deriving DecidableEq, Repr

/-- A length of time; only the days carry a sign. -/
structure Duration where
  days : Int
  seconds : Nat
  micros : Nat
  seconds_lt : seconds < 86400 := by decide
  micros_lt : micros < 1000000 := by decide
  deriving DecidableEq, Repr

def Date.ofParts? (y m d : Nat) : Option Date :=
  if h : y < 10000 ∧ m < 13 ∧ d < 32 then some ⟨y, m, d, h.1, h.2.1, h.2.2⟩ else none

def TimeOfDay.ofParts? (h m s μ : Nat) : Option TimeOfDay :=
  if p : h < 24 ∧ m < 60 ∧ s < 60 ∧ μ < 1000000 then
    some ⟨h, m, s, μ, p.1, p.2.1, p.2.2.1, p.2.2.2⟩
  else none

/-- The duration of some days, seconds and microseconds of either sign. -/
def Duration.ofParts (d s μ : Int) : Duration :=
  let total := (d * 86400 + s) * 1000000 + μ
  { days := total / 86400000000
    seconds := (total % 86400000000 / 1000000).toNat
    micros := (total % 1000000).toNat
    seconds_lt := by omega
    micros_lt := by omega }

def Date.text (δ : Date) : List Char :=
  padded 4 δ.year ++ '-' :: padded 2 δ.month ++ '-' :: padded 2 δ.day

/-- The microseconds after a point, if there are any. -/
def microText (μ : Nat) : List Char := if μ = 0 then [] else '.' :: padded 6 μ

def TimeOfDay.text (τ : TimeOfDay) : List Char :=
  padded 2 τ.hour ++ ':' :: padded 2 τ.minute ++ ':' :: padded 2 τ.second ++ microText τ.micro

/-- The seconds and microseconds beyond a minute, if there are any. -/
def secondText (s μ : Nat) : List Char :=
  if s = 0 ∧ μ = 0 then [] else ':' :: padded 2 s ++ microText μ

/-- A distance from universal time as hours and minutes, and what there is beyond the minute. -/
def offsetText (z : Int) : List Char :=
  let s := z.natAbs / 1000000
  (if z < 0 then '-' else '+') :: padded 2 (s / 3600) ++ ':' :: padded 2 (s / 60 % 60) ++
    secondText (s % 60) (z.natAbs % 1000000)

/-- Date, separator, time and offset. -/
def DateTime.textWith (sep : Char) (δ : DateTime) : List Char :=
  δ.date.text ++ sep :: δ.time.text ++ (δ.offset.map offsetText).getD []

/-- Days, if there are any, then hours without padding, minutes and seconds. -/
def Duration.text (δ : Duration) : List Char :=
  (if δ.days = 0 then []
    else intText δ.days ++ (if δ.days.natAbs = 1 then " day, " else " days, ").toList) ++
  natDigits (δ.seconds / 3600) ++ ':' :: padded 2 (δ.seconds / 60 % 60) ++
    ':' :: padded 2 (δ.seconds % 60) ++ microText δ.micros

/-- Whether a duration is no time at all. -/
def Duration.isZero (δ : Duration) : Bool := δ.days == 0 && δ.seconds == 0 && δ.micros == 0

end Sluice.Value
