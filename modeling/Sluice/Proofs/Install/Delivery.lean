import Sluice.Install.Download
import Sluice.Proofs.File.Store
import Sluice.Proofs.Install.Body

/-!
# A download as a whole

A download leaves the file that was asked for and nothing else, or it leaves everything as it was
(`downloadFile_delivers`).  This holds whatever the network answers, and wherever whoever asked
gives up: that is an interruption like any other, be it instead of an answer or in the middle of its
body.
-/

namespace Sluice.Install

open File Work

/-! ## Work at a site -/

/-- Work that begins where `P` holds ends where `Q` does. -/
def Ensures {α : Type} (P : Site → Prop) (m : StateM Site α) (Q : α → Site → Prop) : Prop :=
  ∀ σ, P σ → Q (m.run σ).1 (m.run σ).2

namespace Ensures

variable {α β ε : Type} {P : Site → Prop} {m : StateM Site α} {Q R : α → Site → Prop}

/-- Work that ends where more is known ends where less is. -/
theorem mono (h : Ensures P m R) (hQ : ∀ a σ, R a σ → Q a σ) : Ensures P m Q :=
  fun σ hσ ↦ hQ _ _ (h σ hσ)

/-- Work that may begin anywhere may begin where more is known. -/
theorem weaken {P' : Site → Prop} (h : Ensures P' m Q) (hP : ∀ σ, P σ → P' σ) :
    Ensures P m Q := fun σ hσ ↦ h σ (hP σ hσ)

theorem pure {a : α} (h : ∀ σ, P σ → Q a σ) : Ensures P (Pure.pure a) Q := h

theorem get {Q : Site → Site → Prop} (h : ∀ σ, P σ → Q σ σ) : Ensures P get Q := h

theorem modify {f : Site → Site} {Q : Unit → Site → Prop} (h : ∀ σ, P σ → Q () (f σ)) :
    Ensures P (modify f) Q := h

/-- Work that goes on from where other work ended. -/
theorem bind {f : α → StateM Site β} {Q : β → Site → Prop} (hm : Ensures P m R)
    (hf : ∀ a, Ensures (R a) (f a) Q) : Ensures P (m >>= f) Q :=
  fun σ hσ ↦ hf _ _ (hm σ hσ)

/-! Work that may fail -/

theorem ok {a : α} {Q : Except ε α → Site → Prop} (h : ∀ σ, P σ → Q (.ok a) σ) :
    Ensures P (Pure.pure a : ExceptT ε (StateM Site) α).run Q := h

theorem throw {e : ε} {Q : Except ε α → Site → Prop} (h : ∀ σ, P σ → Q (.error e) σ) :
    Ensures P (throw e : ExceptT ε (StateM Site) α).run Q := h

theorem lift {Q : Except ε α → Site → Prop} (h : Ensures P m fun a ↦ Q (.ok a)) :
    Ensures P (liftM m : ExceptT ε (StateM Site) α).run Q := h

/-- The second part is done only if the first one does not fail. -/
theorem andThen {m : ExceptT ε (StateM Site) α} {f : α → ExceptT ε (StateM Site) β}
    {Q : Except ε β → Site → Prop} (hm : Ensures P m.run fun r σ ↦
      match r with
      | .ok a => R a σ
      | .error e => Q (.error e) σ)
    (hf : ∀ a, Ensures (R a) (f a).run Q) : Ensures P (m >>= f).run Q := by
  rw [ExceptT.run_bind]
  refine bind hm fun r ↦ ?_
  cases r with
  | ok a => exact hf a
  | error e => exact fun σ hσ ↦ hσ

/-- What stands behind a failure is not done. -/
theorem throw_bind {e : ε} {f : α → ExceptT ε (StateM Site) β} {Q : Except ε β → Site → Prop}
    (h : ∀ σ, P σ → Q (.error e) σ) : Ensures P (MonadExcept.throw e >>= f).run Q := h

end Ensures

/-! ## What a download does on its way -/

variable {σ₀ : Site} {p q : Path}

/-- At most a file at `p` was touched, and some answers were taken. -/
structure Goes (σ₀ : Site) (p : Path) (σ : Site) : Prop where
  touches : σ₀.store.Touches p σ.store
  answers : σ.answers <:+ σ₀.answers

/-- The last answer taken was of status 200 and complete, and its body is what stands at `p`. -/
def Holds (σ₀ : Site) (p : Path) (σ : Site) : Prop :=
  ∃ earlier ρ μ, σ₀.answers = earlier ++ .response ρ :: σ.answers ∧ ρ.status = 200 ∧
    ρ.interruption = none ∧ σ.store.at? p = some (.file μ (joined ρ.body))

/-- What holds when work at `p` is over that may fail. -/
def Ends (σ₀ : Site) (p : Path) {ε : Type} (r : Except ε Unit) (σ : Site) : Prop :=
  Goes σ₀ p σ ∧ (r = .ok () → Holds σ₀ p σ)

/-- Work that fails on its way has touched one file at most. -/
theorem Goes.fails {ε : Type} {σ : Site} (h : Goes σ₀ p σ) (e : ε) : Ends σ₀ p (.error e) σ :=
  ⟨h, nofun⟩

/-- What holds when an answer was taken.  A network that has none left answers with status 404. -/
def Takes (σ₀ : Site) (p : Path) (α : Answer) (σ : Site) : Prop :=
  Goes σ₀ p σ ∧ ((∃ earlier, σ₀.answers = earlier ++ α :: σ.answers) ∨
    α = .response { status := 404 })

/-- To write a record touches no file. -/
theorem ensures_emit (ε : Event) :
    Ensures (Goes σ₀ p) (emit ε).run fun r σ ↦ r = .ok () ∧ Goes σ₀ p σ :=
  .lift (.modify fun _ hσ ↦ ⟨rfl, hσ.touches, hσ.answers⟩)

/-- To ask for an address takes an answer. -/
theorem ensures_ask (url : String) :
    Ensures (Goes σ₀ p) (ask url).run fun r σ ↦ ∃ α, r = .ok α ∧ Takes σ₀ p α σ := by
  refine .andThen (R := fun _ ↦ Goes σ₀ p) (ensures_emit _ |>.mono ?_) fun _ ↦ ?_
  · rintro r σ ⟨rfl, hσ⟩
    exact hσ
  refine .andThen (R := fun a σ ↦ Goes σ₀ p σ ∧ a = σ) (.lift (.get fun σ hσ ↦ ⟨hσ, rfl⟩)) fun a ↦ ?_
  split
  next ha => exact .ok fun σ hσ ↦ ⟨_, rfl, hσ.1, .inr rfl⟩
  next α αs ha =>
    refine .andThen (R := fun _ ↦ Takes σ₀ p α) (.lift (.modify ?_)) fun _ ↦
      .ok fun σ hσ ↦ ⟨α, rfl, hσ⟩
    rintro σ ⟨hσ, rfl⟩
    obtain ⟨earlier, he⟩ := hσ.answers
    rw [ha] at he
    exact ⟨⟨hσ.touches, earlier ++ [α], by simp [← he]⟩, .inl ⟨earlier, he.symm⟩⟩

/-- The body of an answer is written as a whole, or writing it fails. -/
theorem ensures_writeBody {ρ : Response} (hρ : ρ.status = 200) :
    Ensures (Takes σ₀ p (.response ρ)) (writeBody ρ p).run (Ends σ₀ p) := by
  unfold writeBody
  dsimp only
  split
  · refine .andThen (R := fun _ ↦ Takes σ₀ p (.response ρ)) (.ok fun σ hσ ↦ hσ) fun total ↦ ?_
    refine .andThen (R := fun a σ ↦ Takes σ₀ p (.response ρ) σ ∧ a = σ)
      (.lift (.get fun σ hσ ↦ ⟨hσ, rfl⟩)) fun a ↦ ?_
    split
    · exact .throw fun σ hσ ↦ hσ.1.1.fails _
    next τ κ μ hc =>
      refine .andThen (R := fun b σ ↦ Takes σ₀ p (.response ρ) σ ∧ a = σ)
        (.lift (.get fun σ hσ ↦ hσ)) fun b ↦ ?_
      refine .andThen (R := fun _ σ ↦ Goes σ₀ p σ ∧ (ρ.interruption = none → Holds σ₀ p σ))
        (.lift (.modify ?_)) fun _ ↦ ?_
      · -- the status tells that this is an answer that was given
        rintro σ ⟨⟨hσ, hα⟩, rfl⟩
        obtain ⟨ht, hat⟩ := Store.touches_create hc (ρ.write b.limits total).content
        refine ⟨⟨hσ.touches.trans ht, hσ.answers⟩, fun hi ↦ ?_⟩
        obtain ⟨earlier, he⟩ | h404 := hα
        · exact ⟨earlier, ρ, μ, he, hρ, hi, hat.trans (by rw [content_write hi])⟩
        · cases h404
          cases hρ
      · split
        next hi => exact .ok fun σ hσ ↦ ⟨hσ.1, fun _ ↦ hσ.2 hi⟩
        · exact .throw fun σ hσ ↦ hσ.1.fails _
        · split
          · exact .throw fun σ hσ ↦ hσ.1.fails _
          · exact .throw fun σ hσ ↦ hσ.1.fails _
        · exact .throw fun σ hσ ↦ hσ.1.fails _
  · exact .throw_bind fun σ hσ ↦ hσ.1.fails _

/-- Wherever the network leads: only an answer that counts is written. -/
theorem ensures_receive (n : Nat) (url : String) :
    Ensures (Goes σ₀ p) (receive p n url).run (Ends σ₀ p) := by
  induction n generalizing url with
  | zero => exact .throw fun σ hσ ↦ hσ.fails _
  | succ n ih =>
    unfold receive
    dsimp only
    refine .andThen (R := fun _ ↦ Goes σ₀ p) (.lift (.get fun σ hσ ↦ hσ)) fun τ ↦ ?_
    split
    · refine .andThen (R := fun _ ↦ Goes σ₀ p) (.ok fun σ hσ ↦ hσ) fun υ ↦ ?_
      refine .andThen (.lift (ensures_ask _)) fun r ↦ ?_
      have htaken {α : Answer} {σ : Site} (h : ∃ β, (.ok α : Except Fault Answer) = .ok β ∧
          Takes σ₀ p β σ) : Takes σ₀ p α σ := by
        obtain ⟨β, hβ, ht⟩ := h
        cases hβ
        exact ht
      split
      · exact .throw fun σ ⟨_, hr, _⟩ ↦ by cases hr
      · exact .throw fun σ hσ ↦ (htaken hσ).1.fails _
      · split
        · split
          · exact .throw fun σ hσ ↦ (htaken hσ).1.fails _
          · split
            · exact .throw fun σ hσ ↦ (htaken hσ).1.fails _
            · split
              · exact (ih _).weaken fun σ hσ ↦ (htaken hσ).1
              · exact .throw fun σ hσ ↦ (htaken hσ).1.fails _
        · split
          · exact .throw fun σ hσ ↦ (htaken hσ).1.fails _
          next hs => exact (ensures_writeBody (not_not.mp hs)).weaken fun σ hσ ↦ htaken hσ
    · exact .throw_bind fun σ hσ ↦ hσ.fails _

/-- Files change if that succeeds. -/
theorem ensures_change {f : Store → Except Failure Store} {P : Site → Prop}
    {Q : Option Failure → Site → Prop}
    (hok : ∀ σ τ, P σ → f σ.store = .ok τ → Q none { σ with store := τ })
    (herror : ∀ σ φ, P σ → f σ.store = .error φ → Q (some φ) σ) : Ensures P (change f) Q := by
  refine .bind (R := fun a σ ↦ P σ ∧ a = σ) (.get fun σ hσ ↦ ⟨hσ, rfl⟩) fun a ↦ ?_
  split
  next τ hτ =>
    refine .bind (R := fun _ ↦ Q none) (.modify ?_) fun _ ↦ .pure fun σ hσ ↦ hσ
    rintro σ ⟨hσ, rfl⟩
    exact hok a τ hσ hτ
  next φ hφ =>
    refine .pure ?_
    rintro σ ⟨hσ, rfl⟩
    exact herror a φ hσ hφ

/-- What was left at the path of the download is gone. -/
theorem ensures_clear : Ensures (Goes σ₀ p) (clear p) fun _ σ ↦
    σ₀.store.Touches p σ.store ∧ σ.store.at? p = none := by
  refine .bind (ensures_change (Q := fun _ σ ↦ σ₀.store.Touches p σ.store ∧ σ.store.at? p = none)
    (fun σ τ hσ hτ ↦ ?_) fun σ φ hσ hφ ↦ ?_) fun o ↦ ?_
  · obtain ⟨φ, hφ, -⟩ | ⟨τ', hτ', ht, ha⟩ := Store.touches_remove hσ.touches.isDirectory
    · cases hτ.symm.trans hφ
    · cases hτ.symm.trans hτ'
      exact ⟨hσ.touches.trans ht, ha⟩
  · obtain ⟨φ', hφ', ha⟩ | ⟨τ', hτ', -⟩ := Store.touches_remove hσ.touches.isDirectory
    · exact ⟨hσ.touches, ha⟩
    · cases hφ.symm.trans hτ'
  · split
    · split
      · exact .modify fun σ hσ ↦ hσ
      · exact .pure fun σ hσ ↦ hσ
    · exact .pure fun σ hσ ↦ hσ

/-! ## The whole download -/

/-- What a download to `p` by way of `temp` comes to. -/
inductive Delivers (σ : Site) (p temp : Path) : Except Fault Unit × Site → Prop
  /-- The body of the last answer, which was of status 200 and complete, is at the destination. -/
  | ok {τ : Site} {earlier : List Answer} {ρ : Response} {μ : Nat}
    (answers : σ.answers = earlier ++ .response ρ :: τ.answers) (status : ρ.status = 200)
    (complete : ρ.interruption = none) (content : τ.store.at? p = some (.file μ (joined ρ.body)))
    (cleared : τ.store.at? temp = none)
    (others : ∀ q, ¬ σ.store.Meet q p → ¬ σ.store.Meet q temp → τ.store.at? q = σ.store.at? q) :
    Delivers σ p temp (.ok (), τ)
  /-- The destination is as it was. -/
  | error {τ : Site} {φ : Fault} (same : τ.store.at? p = σ.store.at? p)
    (cleared : τ.store.at? temp = none)
    (others : ∀ q, ¬ σ.store.Meet q temp → τ.store.at? q = σ.store.at? q) :
    Delivers σ p temp (.error φ, τ)

/-- A download that touched only its part, which is gone, has failed without a trace. -/
theorem Delivers.of_touches {σ τ : Site} {temp : Path} (hm : ¬ σ.store.Meet p temp)
    (ht : σ.store.Touches temp τ.store) (ha : τ.store.at? temp = none) (φ : Fault) :
    Delivers σ p temp (.error φ, τ) :=
  .error (ht.at?_eq hm) ha fun _ hq ↦ ht.at?_eq hq

/-- A download moves what it has received to its destination. -/
theorem ensures_move {temp : Path} (hm : ¬ σ₀.store.Meet p temp) :
    Ensures (Ends σ₀ temp (.ok () : Except Stop Unit)) (change (·.move temp p)) fun o σ ↦
      match o with
      | none => Delivers σ₀ p temp (.ok (), σ)
      | some _ => Goes σ₀ temp σ := by
  refine ensures_change (fun σ τ ⟨hσ, hh⟩ hτ ↦ ?_) fun σ φ hσ hφ ↦ hσ.1
  obtain ⟨earlier, ρ, μ, he, hs, hi, hat⟩ := hh rfl
  have hmeet (q r : Path) : σ.store.Meet q r ↔ σ₀.store.Meet q r := by
    simp only [Store.Meet, hσ.touches.resolve_eq_ok_iff]
  obtain ⟨hp, ht, ho⟩ := Store.at?_of_move hτ fun h ↦ hm ((hmeet p temp).mp h.symm)
  refine .ok he hs hi (hp.trans hat) ht fun q hq hqt ↦ ?_
  exact (ho q (mt (hmeet q temp).mp hqt) (mt (hmeet q p).mp hq)).trans (hσ.touches.at?_eq hqt)

/-- A download leaves the file that was asked for, or it leaves everything as it was but for what
stood at the path beside it, which is cleared.  An answer may be interrupted at any point of it, or
there may be an interruption in its place; of whatever kind that is, a failure it ends in is told on
as it is. -/
theorem downloadFile_delivers (url : String) (p : Path) (ownClient : Bool) (timeout : Value) (σ : Site)
    {temp : Path} (ht : p.extend? ".downloading" = some temp)
    (hd : σ.store.isDirectory temp = false) :
    Delivers σ p temp ((downloadFile url p ownClient timeout).run.run σ) := by
  have hm : ¬ σ.store.Meet p temp := Store.not_meet_of_extend? ht (by decide)
  have hfail (φ : Fault) : Ensures (Goes σ temp) (do clear temp; throw φ : Work Unit).run
      fun r τ ↦ Delivers σ p temp (r, τ) :=
    .andThen (.lift ensures_clear) fun _ ↦ .throw fun τ hτ ↦ .of_touches hm hτ.1 hτ.2 φ
  suffices h : Ensures (Goes σ temp) (downloadFile url p ownClient timeout).run
      fun r τ ↦ Delivers σ p temp (r, τ) from h σ ⟨.refl hd, List.suffix_rfl⟩
  unfold downloadFile
  rw [ht]
  simp only [pure_bind]
  split
  -- to make a client touches no file, and from there on it does not matter whose it is
  on_goal 1 =>
    refine .andThen (R := fun _ ↦ Goes σ temp) ((ensures_emit _).mono ?_) fun _ ↦ ?_
    · rintro r τ ⟨rfl, hτ⟩
      exact hτ
  all_goals
    refine .andThen (R := fun _ ↦ Goes σ temp) (.lift (.get fun τ hτ ↦ hτ)) fun a ↦ ?_
    refine .andThen (.lift (ensures_receive _ url)) fun r ↦ ?_
    split
    · exact (hfail _).weaken fun τ hτ ↦ hτ.1
    · refine .andThen (.lift (ensures_move hm)) fun o ↦ ?_
      split
      · exact .ok fun τ hτ ↦ hτ
      · exact hfail _

/-- Where an older file stands at the destination and a part of one beside it, and the first address
leads to another one. -/
def renewal : Site where
  host := ⟨"linux", "x64"⟩
  store := ⟨[(["/", "proxy"], .file 0o755 ⟨#[1]⟩),
    (["/", "proxy.downloading"], .file 0o600 ⟨#[2, 3]⟩)]⟩
  answers := [.response { status := 302, headers := [("location", "/final")] },
    .response { body := [⟨#[4, 5]⟩, ⟨#[6]⟩] }]

theorem downloadFile_delivers_renewal :
    let p : Path := ⟨.root, ["proxy"]⟩
    let temp : Path := ⟨.root, ["proxy.downloading"]⟩
    p.extend? ".downloading" = some temp ∧ renewal.store.isDirectory temp = false ∧
      Delivers renewal p temp ((downloadFile "https://proxy/" p false).run.run renewal) := by
  intro p temp
  have ht : p.extend? ".downloading" = some temp := by decide
  have hd : renewal.store.isDirectory temp = false := by decide
  exact ⟨ht, hd, downloadFile_delivers _ p false defaultTimeout renewal ht hd⟩

end Sluice.Install
