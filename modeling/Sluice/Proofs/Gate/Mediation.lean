import Sluice.Proofs.Gate.Traffic

/-!
# What a call of a tool may come to

The statements that a call may hand the driver are laid down by its tool and its arguments alone
(`Mediates`), and a call keeps to them from its beginning to its end (`abides_call`,
`CallPhase.abides_resume`, `CallPhase.abides_cancel`).  A call that is refused touches nothing: it
is over at once, and the gate is as it was but for a record in the log (`call_of_isRefused`).
-/

namespace Sluice.Gate

open Tool

/-! ## Calls and their statements -/

/-- The arguments name a table, and `n` is what is left of its name. -/
def NamesTable (ρ : Row) (n : String) : Prop :=
  (∃ t, argument? ρ "table" = some t ∧ n = String.ofList (identifier t.toList)) ∧
    n ≠ "" ∧ ∀ c ∈ n.toList, isIdentifierChar c = true

/-- The arguments ask for no limit, or for one above zero. -/
def AsksLimit (ρ : Row) (asked : Option Int) : Prop :=
  (ρ.get "limit" = .null ∧ asked = none) ∨ ∃ z, 1 ≤ z ∧ ρ.get "limit" = .int z ∧ asked = some z

/-- The statements that a call of the tool `ν` may hand the driver. -/
inductive Mediates (σ : Settings) (ν : String) (ρ : Row) : Statement → Prop
  | tables (hν : ν = "show_tables") : Mediates σ ν ρ ⟨"SHOW TABLES", none⟩
  | columns {n : String} (hν : ν = "describe_table") (hn : NamesTable ρ n) :
      Mediates σ ν ρ ⟨"DESCRIBE `" ++ n ++ "`", none⟩
  | indexes {n : String} (hν : ν = "describe_table") (hn : NamesTable ρ n) :
      Mediates σ ν ρ ⟨"SHOW INDEX FROM `" ++ n ++ "`", none⟩
  | status {n : String} (hν : ν = "describe_table") (hn : NamesTable ρ n) :
      Mediates σ ν ρ
        ⟨"SHOW TABLE STATUS LIKE %s", some [.text (String.ofList (likePattern n.toList))]⟩
  | rows {q : String} {s : List Char} {asked : Option Int} (hν : ν = "execute_query")
      (hq : argument? ρ "query" = some q) (hs : Query.screen q.toList = .ok s)
      (hl : AsksLimit ρ asked) :
      Mediates σ ν ρ
        ⟨String.ofList (Query.limitRows s (Query.effectiveLimit σ.maxRows asked)).query, none⟩

/-- A call that no tool works on: there is no such tool, an argument is missing or of no use, or the
query is refused. -/
inductive IsRefused : String → Row → Prop
  | unknown {ν : String} {ρ : Row} (hν : ν ∉ ["show_tables", "describe_table", "execute_query"]) :
      IsRefused ν ρ
  | noTable {ρ : Row} (h : argument? ρ "table" = none) : IsRefused "describe_table" ρ
  | noName {ρ : Row} {t : String} (h : argument? ρ "table" = some t)
      (ht : identifier t.toList = []) : IsRefused "describe_table" ρ
  | noQuery {ρ : Row} (h : argument? ρ "query" = none) : IsRefused "execute_query" ρ
  | noLimit {ρ : Row} (h : ∀ asked, ¬ AsksLimit ρ asked) : IsRefused "execute_query" ρ
  | rejected {ρ : Row} {q : String} {r : Query.Rejection} (h : argument? ρ "query" = some q)
      (hq : Query.screen q.toList = .error r) : IsRefused "execute_query" ρ

/-! ## Limits -/

/-- A limit passes the check if it is absent or a whole number from one on. -/
theorem limitError?_eq_none_iff {ρ : Row} :
    limitError? (ρ.get "limit") = none ↔ ∃ asked, AsksLimit ρ asked := by
  unfold limitError? AsksLimit
  split
  next h => exact ⟨fun _ ↦ ⟨none, .inl ⟨h, rfl⟩⟩, fun _ ↦ rfl⟩
  next z h =>
    constructor
    · intro hz
      exact ⟨some z, .inr ⟨z, by simpa using hz, h, rfl⟩⟩
    · rintro ⟨asked, ⟨hn, -⟩ | ⟨y, hy, hz, -⟩⟩
      · simp [h] at hn
      · cases h.symm.trans hz
        simpa using hy
  next v hn hz =>
    refine ⟨by rintro ⟨⟩, ?_⟩
    rintro ⟨asked, ⟨h, -⟩ | ⟨z, -, h, -⟩⟩
    · exact absurd h hn
    · exact absurd h (hz z)

/-- What is written at the end of a query that needs a limit is the limit in force. -/
theorem toInteger_of_asksLimit {ρ : Row} {asked : Option Int} (hl : AsksLimit ρ asked) (m : Int) :
    (if (ρ.get "limit").isTruthy then ρ.get "limit" else .int m).toInteger =
      .ok (Query.effectiveLimit m asked) := by
  rcases hl with ⟨h, rfl⟩ | ⟨z, hz, h, rfl⟩
  · simp [h, Value.isTruthy, Value.toInteger]
  · have hz : z ≠ 0 := by omega
    simp [h, Value.isTruthy, Value.toInteger, Query.effectiveLimit, hz]

/-- Rows are capped by the limit that the caller asked for. -/
theorem eq_limitRows_of_capRows {ρ : Row} {asked : Option Int} (hl : AsksLimit ρ asked)
    {s : List Char} {m : Int} {κ : Query.LimitedQuery}
    (h : capRows s (.int m) (ρ.get "limit") = .ok κ) :
    κ = Query.limitRows s (Query.effectiveLimit m asked) := by
  unfold capRows at h
  split at h
  · rw [toInteger_of_asksLimit hl] at h
    dsimp only [capAt] at h
    split at h
    · cases h
      rfl
    · cases h
  next hs =>
    cases h
    rw [Query.limitRows_of_not_isUncapped (by simpa using hs)]

/-! ## Calls that go on -/

/-- Whether `P` permits the statements that describe the table `n`. -/
structure PermitsTable (P : Statement → Prop) (n : String) : Prop where
  columns : P ⟨"DESCRIBE `" ++ n ++ "`", none⟩
  indexes : P ⟨"SHOW INDEX FROM `" ++ n ++ "`", none⟩
  status : P ⟨"SHOW TABLE STATUS LIKE %s", some [.text (String.ofList (likePattern n.toList))]⟩

/-- What is permitted by more is permitted of a table too. -/
theorem PermitsTable.mono {P Q : Statement → Prop} (hPQ : ∀ τ, P τ → Q τ) {n : String}
    (h : PermitsTable P n) : PermitsTable Q n :=
  ⟨hPQ _ h.columns, hPQ _ h.indexes, hPQ _ h.status⟩

/-- Whether `P` permits the statements that a call may still come to. -/
def CallPhase.IsPermitted (P : Statement → Prop) : CallPhase → Prop
  | tables φ => φ.IsPermitted P
  | columns _ name φ => φ.IsPermitted P ∧ PermitsTable P name
  | indexes _ name _ φ => φ.IsPermitted P ∧ PermitsTable P name
  | status _ _ _ _ φ => φ.IsPermitted P
  | rows _ _ φ => φ.IsPermitted P

/-- The query that a permitted call is at is permitted. -/
theorem CallPhase.isPermitted_run {P : Statement → Prop} {φ : CallPhase} (h : φ.IsPermitted P) :
    φ.run.IsPermitted P := by
  cases φ with
  | tables φ => exact h
  | columns asked name φ => exact h.1
  | indexes asked name cs φ => exact h.1
  | status asked name cs is φ => exact h
  | rows l v φ => exact h

/-- A call that is permitted is permitted by more. -/
theorem CallPhase.IsPermitted.mono {P Q : Statement → Prop} (hPQ : ∀ τ, P τ → Q τ)
    {φ : CallPhase} (h : φ.IsPermitted P) : φ.IsPermitted Q := by
  cases φ with
  | tables φ => exact RunPhase.IsPermitted.mono hPQ h
  | columns asked name φ => exact ⟨h.1.mono hPQ, h.2.mono hPQ⟩
  | indexes asked name cs φ => exact ⟨h.1.mono hPQ, h.2.mono hPQ⟩
  | status asked name cs is φ => exact RunPhase.IsPermitted.mono hPQ h
  | rows l v φ => exact RunPhase.IsPermitted.mono hPQ h

/-- A request without parameters becomes its own text. -/
theorem isPermitted_text {P : Statement → Prop} {s : String} (h : P ⟨s, none⟩) :
    Request.IsPermitted P { text := s } := by
  rintro params ⟨⟩
  exact h

/-- The status of a table is asked for by a pattern that stands for its name. -/
theorem PermitsTable.isPermitted_status {P : Statement → Prop} {n : String}
    (h : PermitsTable P n) : Request.IsPermitted P
      { text := "SHOW TABLE STATUS LIKE %s",
        params := .list [.text (String.ofList (likePattern n.toList))] } := by
  rintro params ⟨⟩
  exact h.status

section After

variable {P : Statement → Prop} (γ : Gate)

/-- A call that fails is over. -/
theorem abides_failCall (φ : Fault) (ι : Level) (r m : String) :
    Abides P (CallPhase.IsPermitted P) γ (γ.failCall φ ι r m) := by
  unfold failCall
  split
  · exact (γ.quiet_log ..).sends.done _
  · exact (Quiet.refl γ).sends.done _

variable {π : Running} (hπ : ∀ φ, π = .waiting φ → φ.IsPermitted P)

include hπ

/-- A listing ends once it has its rows. -/
theorem abides_afterTables : Abides P (CallPhase.IsPermitted P) γ (γ.afterTables π) := by
  unfold afterTables
  split
  · exact (Quiet.refl γ).sends.waiting (hπ _ rfl)
  · exact (Quiet.refl γ).sends.done _
  · exact γ.abides_failCall ..

/-- A description ends once it has the status of its table. -/
theorem abides_afterStatus (asked name : String) (cs is : List Row) :
    Abides P (CallPhase.IsPermitted P) γ (γ.afterStatus asked name cs is π) := by
  unfold afterStatus
  split
  · exact (Quiet.refl γ).sends.waiting (hπ _ rfl)
  · exact (Quiet.refl γ).sends.done _
  · exact γ.abides_failCall ..

/-- A description goes on from the indexes to the status, with one more statement. -/
theorem abides_afterIndexes (asked : String) {name : String} (hn : PermitsTable P name)
    (cs : List Row) : Abides P (CallPhase.IsPermitted P) γ (γ.afterIndexes asked name cs π) := by
  unfold afterIndexes
  split
  · exact (Quiet.refl γ).sends.waiting ⟨hπ _ rfl, hn⟩
  · have he := abides_execute hn.isPermitted_status γ
    exact he.sends.abides (abides_afterStatus _ he.waits ..)
  · exact γ.abides_failCall ..

/-- A description goes on from the columns to the indexes, with one more statement. -/
theorem abides_afterColumns (asked : String) {name : String} (hn : PermitsTable P name) :
    Abides P (CallPhase.IsPermitted P) γ (γ.afterColumns asked name π) := by
  unfold afterColumns
  split
  · exact (Quiet.refl γ).sends.waiting ⟨hπ _ rfl, hn⟩
  · have he := abides_execute (isPermitted_text hn.indexes) γ
    exact he.sends.abides (abides_afterIndexes _ he.waits _ hn _)
  · exact γ.abides_failCall ..

/-- A query ends once it has its rows. -/
theorem abides_afterRows (l : Option Int) (begun : Value) :
    Abides P (CallPhase.IsPermitted P) γ (γ.afterRows l begun π) := by
  unfold afterRows
  split
  · exact (Quiet.refl γ).sends.waiting (hπ _ rfl)
  · have hw : γ.Quiet γ.readStopwatch.1 := ⟨rfl, rfl⟩
    exact hw.sends.done _
  · split <;> exact γ.abides_failCall ..

/-- A call that goes on hands the driver nothing but what is permitted. -/
theorem CallPhase.abides_proceed {φ : CallPhase} (hφ : φ.IsPermitted P) :
    Abides P (CallPhase.IsPermitted P) γ (φ.proceed γ π) := by
  cases φ with
  | tables φ => exact abides_afterTables γ hπ
  | columns asked name φ => exact abides_afterColumns γ hπ asked hφ.2
  | indexes asked name cs φ => exact abides_afterIndexes γ hπ asked hφ.2 cs
  | status asked name cs is φ => exact abides_afterStatus γ hπ ..
  | rows l v φ => exact abides_afterRows γ hπ l v

end After

/-- A call that goes on keeps to what was permitted when it began to wait. -/
theorem CallPhase.abides_resume {P : Statement → Prop} {φ : CallPhase} (hφ : φ.IsPermitted P)
    (γ : Gate) : Abides P (CallPhase.IsPermitted P) γ (φ.resume γ) := by
  have hr := RunPhase.abides_resume (CallPhase.isPermitted_run hφ) γ
  exact hr.sends.abides (CallPhase.abides_proceed _ hr.waits hφ)

/-- A call that is cancelled hands the driver nothing more. -/
theorem CallPhase.abides_cancel {P : Statement → Prop} {φ : CallPhase} (hφ : φ.IsPermitted P)
    (γ : Gate) : Abides P (CallPhase.IsPermitted P) γ (φ.cancel γ) := by
  have hr := φ.run.abides_cancel (P := P) γ
  exact hr.sends.abides (CallPhase.abides_proceed _ hr.waits hφ)

/-! ## Calls that begin -/

/-- To describe a table permits the statements about the table that was named. -/
theorem permitsTable_mediates {σ : Settings} {ρ : Row} {n : String} (hn : NamesTable ρ n) :
    PermitsTable (Mediates σ "describe_table" ρ) n :=
  ⟨.columns rfl hn, .indexes rfl hn, .status rfl hn⟩

/-- The name of a table is the argument without what no identifier may have. -/
theorem namesTable_of_argument? {ρ : Row} {t : String} (h : argument? ρ "table" = some t)
    (hn : ¬ (String.ofList (identifier t.toList)).isEmpty = true) :
    NamesTable ρ (String.ofList (identifier t.toList)) := by
  refine ⟨⟨t, h, rfl⟩, fun he ↦ hn (by simp [he]), ?_⟩
  intro c hc
  rw [String.toList_ofList] at hc
  exact (List.mem_filter.mp hc).2

/-- A query hands the driver the statement that it was cleared for, and no other. -/
theorem abides_executeQuery {ρ : Row} {q : String} (h : argument? ρ "query" = some q) (γ : Gate) :
    Abides (Mediates γ.settings "execute_query" ρ)
      (CallPhase.IsPermitted (Mediates γ.settings "execute_query" ρ)) γ
      (γ.executeQuery q (ρ.get "limit")) := by
  unfold executeQuery
  split
  · exact (Quiet.refl γ).sends.done _
  next hl =>
    obtain ⟨asked, hl⟩ := limitError?_eq_none_iff.mp hl
    split
    · dsimp only
      split
      · exact (γ.quiet_log ..).sends.done _
      · exact (Quiet.refl γ).sends.done _
    next s hs =>
      split
      · exact (Quiet.refl γ).sends.done _
      next κ hκ =>
        have hm : Mediates γ.settings "execute_query" ρ ⟨String.ofList κ.query, none⟩ := by
          rw [eq_limitRows_of_capRows hl hκ]
          exact .rows rfl h hs hl
        have hw : γ.Quiet γ.readStopwatch.1 := ⟨rfl, rfl⟩
        have he := abides_execute (isPermitted_text hm) γ.readStopwatch.1
        exact hw.sends.abides (he.sends.abides (abides_afterRows _ he.waits ..))

/-- A call hands the driver nothing but statements of its own. -/
theorem abides_call (γ : Gate) (ν : String) (ρ : Row) :
    Abides (Mediates γ.settings ν ρ) (CallPhase.IsPermitted (Mediates γ.settings ν ρ)) γ
      (γ.call ν ρ) := by
  unfold call
  dsimp only
  split
  · have hm : Mediates γ.settings "show_tables" ρ ⟨"SHOW TABLES", none⟩ := .tables rfl
    have he := abides_execute (isPermitted_text hm) γ
    exact he.sends.abides (abides_afterTables _ he.waits)
  · split
    next t ht =>
      unfold describeTable
      dsimp only
      split
      · exact (Quiet.refl γ).sends.done _
      next hn =>
        have hp : PermitsTable (Mediates γ.settings "describe_table" ρ) _ :=
          permitsTable_mediates (namesTable_of_argument? ht hn)
        have he := abides_execute (isPermitted_text hp.columns) γ
        exact he.sends.abides (abides_afterColumns _ he.waits t hp)
    · exact (Quiet.refl γ).sends.done _
  · split
    next q hq => exact abides_executeQuery hq γ
    · exact (Quiet.refl γ).sends.done _
  · exact (Quiet.refl γ).sends.done _

/-! ## Calls that are refused -/

/-- A gate that is as it was, but for at most one record in the log. -/
def IsUntouched (γ δ : Gate) : Prop :=
  δ = γ ∨ ∃ ι κ s, δ = γ.log ι κ s

/-- A query with a bad limit is refused and leaves the gate alone. -/
theorem executeQuery_of_error {s : String} {limit : Value} {q : String} (γ : Gate)
    (h : limitError? limit = some s) :
    γ.executeQuery q limit = (γ, .done (.ok (invalidArguments s))) := by
  simp [executeQuery, h]

/-- A refused call is over at once with a result, and touches nothing. -/
theorem call_of_isRefused {ν : String} {ρ : Row} (h : IsRefused ν ρ) (γ : Gate) :
    γ.IsUntouched (γ.call ν ρ).1 ∧ ∃ v, (γ.call ν ρ).2 = .done (.ok v) := by
  cases h with
  | unknown hν =>
    simp only [List.mem_cons, List.not_mem_nil, or_false, not_or] at hν
    simp [call, hν, IsUntouched]
  | noTable h => simp [call, h, IsUntouched]
  | noName h ht => simp [call, h, ht, describeTable, IsUntouched]
  | noQuery h => simp [call, h, IsUntouched]
  | noLimit h =>
    obtain ⟨s, hs⟩ : ∃ s, limitError? (ρ.get "limit") = some s := by
      rw [← Option.isSome_iff_exists, Option.isSome_iff_ne_none]
      exact fun hn ↦ (limitError?_eq_none_iff.mp hn).elim h
    cases hq : argument? ρ "query" with
    | none => simp [call, hq, IsUntouched]
    | some q => simp [call, hq, executeQuery_of_error γ hs, IsUntouched]
  | rejected h hq =>
    cases hl : limitError? (ρ.get "limit") with
    | some s => simp [call, h, executeQuery_of_error γ hl, IsUntouched]
    | none =>
      simp only [call, h, executeQuery, hl, hq]
      split
      · exact ⟨.inr ⟨_, _, _, rfl⟩, _, rfl⟩
      · exact ⟨.inl rfl, _, rfl⟩

end Sluice.Gate
