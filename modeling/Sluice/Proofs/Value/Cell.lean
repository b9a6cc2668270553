import Mathlib.Data.List.Forall2
import Sluice.Proofs.Decimal.Scientific
import Sluice.Proofs.Text.Base64
import Sluice.Proofs.Value.Moment
import Sluice.Value.Cell

/-!
# Nothing is lost when rows leave

Rows leave row by row and column by column.  Of two values of one type, what they leave as is the
same only if they are (`toJson_inj`).  Only the floating point numbers are not kept apart like that:
all their NaNs leave as null.
-/

namespace Sluice

open Decimal Text Value

variable {v w : Value}

/-! ## Two values of one type -/

/-- Two values of one type, of the types that keep their values apart. -/
inductive AreAlike : Value → Value → Prop
  | bool (b c : Bool) : AreAlike (.bool b) (.bool c)
  | int (y z : Int) : AreAlike (.int y) (.int z)
  | text (s t : String) : AreAlike (.text s) (.text t)
  | bytes (β γ : List UInt8) : AreAlike (.bytes β) (.bytes γ)
  | buffer (β γ : List UInt8) : AreAlike (.buffer β) (.buffer γ)
  | decimal (δ ε : Scientific) : AreAlike (.decimal δ) (.decimal ε)
  | date (δ ε : Date) : AreAlike (.date δ) (.date ε)
  | dateTime (δ ε : DateTime) : AreAlike (.dateTime δ) (.dateTime ε)
  | time (σ τ : TimeOfDay) : AreAlike (.time σ) (.time τ)
  | duration (δ ε : Duration) : AreAlike (.duration δ) (.duration ε)

/-- A value that leaves as a text is known if the text is. -/
theorem text_ofList_inj {α : Type} {f : α → List Char} (hf : Function.Injective f) (g : α → Value)
    {a b : α} (h : Value.text (String.ofList (f a)) = .text (String.ofList (f b))) : g a = g b :=
  congrArg g (hf (String.ofList_injective (Value.text.inj h)))

theorem toJson_inj (h : AreAlike v w) (hj : (Cell.ofValue v).toJson = (Cell.ofValue w).toJson) :
    v = w := by
  cases h with
  | bool | int | text => exact hj
  | bytes => exact text_ofList_inj Base64.encode_injective .bytes hj
  | buffer => exact text_ofList_inj Base64.encode_injective .buffer hj
  | decimal => exact text_ofList_inj Scientific.text_injective .decimal hj
  | date => exact text_ofList_inj Date.text_injective .date hj
  | dateTime => exact text_ofList_inj (DateTime.textWith_injective rfl) .dateTime hj
  | time => exact text_ofList_inj TimeOfDay.text_injective .time hj
  | duration => exact text_ofList_inj Duration.text_injective .duration hj

/-! ## Rows -/

/-- A field leaves under its name, as what its value leaves as. -/
def Leaves (f g : String × Value) : Prop := g.1 = f.1 ∧ g.2 = (Cell.ofValue f.2).toJson

theorem forall₂_toJson (ρ : Row) : List.Forall₂ Leaves ρ ρ.toJson := by
  induction ρ with
  | nil => exact .nil
  | cons f ρ ih => exact .cons ⟨rfl, rfl⟩ ih

theorem forall₂_rowsToJson (ρs : List Row) : List.Forall₂ (List.Forall₂ Leaves) ρs (rowsToJson ρs) := by
  induction ρs with
  | nil => exact .nil
  | cons ρ ρs ih => exact .cons (forall₂_toJson ρ) ih

/-- Rows leave in their order with their columns in order.  Values of one type leave as the same
only if they are, and bytes as a text of which they are the reading. -/
theorem keeps_rowsToJson (h : AreAlike v w) :
    (∀ ρs : List Row, List.Forall₂ (List.Forall₂ Leaves) ρs (rowsToJson ρs)) ∧
      ((Cell.ofValue v).toJson = (Cell.ofValue w).toJson ↔ v = w) ∧
      ∀ β, ∃ s, (Cell.ofValue (.bytes β)).toJson = .text s ∧ Base64.decode? s.toList = some β := by
  refine ⟨forall₂_rowsToJson, ⟨toJson_inj h, fun he ↦ he ▸ rfl⟩, fun β ↦ ?_⟩
  refine ⟨String.ofList (Base64.encode β), rfl, ?_⟩
  rw [String.toList_ofList, Base64.decode?_encode]

/-- Two prices of one amount, of which one is given more exactly, and some bytes. -/
theorem keeps_rowsToJson_prices :
    AreAlike (.decimal (.finite false 110 (-2))) (.decimal (.finite false 11 (-1))) ∧
      (Cell.ofValue (.decimal (.finite false 110 (-2)))).toJson ≠
        (Cell.ofValue (.decimal (.finite false 11 (-1)))).toJson ∧
      ∃ s, (Cell.ofValue (.bytes [0, 255])).toJson = .text s ∧
        Base64.decode? s.toList = some [0, 255] := by
  have h : AreAlike (.decimal (.finite false 110 (-2))) (.decimal (.finite false 11 (-1))) :=
    .decimal _ _
  obtain ⟨-, hiff, hbytes⟩ := keeps_rowsToJson h
  refine ⟨h, fun hj ↦ ?_, hbytes [0, 255]⟩
  cases hiff.mp hj

end Sluice
