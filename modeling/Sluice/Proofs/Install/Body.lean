import Sluice.Install.Transfer

/-!
# What is written of a body

The body of an answer is cut anew before it is written.  Nothing is lost by this: put together
again, the chunks are the body, as long as it is complete.  And none of them is longer than was
asked for.
-/

namespace Sluice.Install

/-- Pieces of a body put together. -/
def joined (βs : List ByteArray) : ByteArray := βs.foldl (· ++ ·) .empty

theorem foldl_append_eq (γ : ByteArray) (βs : List ByteArray) :
    βs.foldl (· ++ ·) γ = γ ++ joined βs := by
  induction βs generalizing γ with
  | nil => exact ByteArray.append_empty.symm
  | cons β βs ih =>
    rw [joined, List.foldl_cons, List.foldl_cons, ih, ih, ByteArray.empty_append,
      ByteArray.append_assoc]

@[simp] theorem joined_nil : joined [] = .empty := rfl

@[simp] theorem joined_cons (β : ByteArray) (βs : List ByteArray) :
    joined (β :: βs) = β ++ joined βs := by
  rw [joined, List.foldl_cons, foldl_append_eq, ByteArray.empty_append]

theorem joined_append (αs βs : List ByteArray) : joined (αs ++ βs) = joined αs ++ joined βs := by
  induction αs with
  | nil => rw [joined_nil, ByteArray.empty_append, List.nil_append]
  | cons α αs ih => rw [List.cons_append, joined_cons, joined_cons, ih, ByteArray.append_assoc]

/-- The first chunks are the beginning of the body. -/
theorem joined_fullChunks (size n : Nat) (β : ByteArray) :
    joined (fullChunks size n β) = β.extract 0 (n * size) := by
  induction n with
  | zero => simp [fullChunks]
  | succ n ih =>
    have hle : n * size ≤ (n + 1) * size := Nat.mul_le_mul_right size (Nat.le_succ n)
    rw [fullChunks, List.range_succ, List.map_append, joined_append, ← fullChunks, ih,
      List.map_singleton, joined_cons, joined_nil, ByteArray.append_empty,
      ByteArray.extract_append_extract, Nat.zero_min, Nat.max_eq_right hle]

/-- The chunks of a complete body are the body. -/
theorem joined_chunks (size : Nat) (rest : ByteArray) (βs : List ByteArray) :
    joined (chunks size true rest βs) = rest ++ joined βs := by
  induction βs generalizing rest with
  | nil =>
    unfold chunks
    split
    · simp
    next h =>
      have hr : rest = .empty := by simpa [ByteArray.isEmpty] using h
      rw [hr, joined_nil, ByteArray.append_empty]
  | cons β βs ih =>
    have hγ (γ : ByteArray) : γ.extract 0 (γ.size / size * size) ++
        γ.extract (γ.size / size * size) γ.size = γ := by
      rw [ByteArray.extract_append_extract, Nat.zero_min, Nat.max_eq_right (Nat.div_mul_le_self ..),
        ByteArray.extract_zero_size]
    rw [chunks, joined_append, joined_fullChunks, ih, ← ByteArray.append_assoc, hγ, joined_cons,
      ByteArray.append_assoc]

theorem size_le_of_mem_fullChunks {size n : Nat} {β γ : ByteArray}
    (h : γ ∈ fullChunks size n β) : γ.size ≤ size := by
  obtain ⟨i, -, rfl⟩ := List.mem_map.mp h
  rw [ByteArray.size_extract, Nat.succ_mul]
  omega

/-- No chunk is longer than the size to which a body is cut. -/
theorem size_le_of_mem_chunks {size : Nat} {complete : Bool} {rest γ : ByteArray}
    {βs : List ByteArray} (hrest : rest.size < size) (h : γ ∈ chunks size complete rest βs) :
    γ.size ≤ size := by
  induction βs generalizing rest with
  | nil =>
    unfold chunks at h
    split at h
    · obtain rfl := List.mem_singleton.mp h
      exact Nat.le_of_lt hrest
    · cases h
  | cons β βs ih =>
    rw [chunks, List.mem_append] at h
    obtain h | h := h
    · exact size_le_of_mem_fullChunks h
    · refine ih ?_ h
      rw [ByteArray.size_extract, Nat.min_self, Nat.sub_lt_iff_lt_add (Nat.div_mul_le_self ..),
        Nat.add_comm]
      exact Nat.lt_div_mul_add (Nat.zero_lt_of_lt hrest)

theorem content_foldl_write (step : Nat) (total : Int) (ω : Writing) (βs : List ByteArray) :
    (βs.foldl (Writing.write step total) ω).content = ω.content ++ joined βs := by
  induction βs generalizing ω with
  | nil => exact ByteArray.append_empty.symm
  | cons β βs ih =>
    have hc : (ω.write step total β).content = ω.content ++ β := by
      unfold Writing.write
      dsimp only
      split <;> rfl
    rw [List.foldl_cons, ih, hc, joined_cons, ByteArray.append_assoc]

/-- The body of an answer that is not interrupted is written as a whole. -/
theorem content_write {ρ : Response} (h : ρ.interruption = none) (limits : Limits) (total : Int) :
    (ρ.write limits total).content = joined ρ.body := by
  rw [Response.write, h, content_foldl_write, Option.isNone_none, joined_chunks,
    ByteArray.empty_append, ByteArray.empty_append]

/-- Progress is all that is reported of a body. -/
theorem exists_eq_log_of_mem_events {limits : Limits} {total : Int} {ρ : Response} {ε : Event}
    (h : ε ∈ (ρ.write limits total).events) : ∃ ι s, ε = .log ι .binary s := by
  suffices ∀ (βs : List ByteArray) (ω : Writing), (∀ ε ∈ ω.events, ∃ ι s, ε = .log ι .binary s) →
      ∀ ε ∈ (βs.foldl (Writing.write limits.progressStep total) ω).events,
        ∃ ι s, ε = .log ι .binary s from
    this _ { nextReport := limits.progressStep } nofun ε h
  intro βs
  induction βs with
  | nil => exact fun _ hω ↦ hω
  | cons β βs ih =>
    refine fun ω hω ↦ ih _ fun ε hε ↦ ?_
    unfold Writing.write at hε
    dsimp only at hε
    split at hε
    · obtain hε | hε := List.mem_append.mp hε
      · exact hω ε hε
      · exact ⟨_, _, List.mem_singleton.mp hε⟩
    · exact hω ε hε

end Sluice.Install
