import GrpcSample.Breaker.System

/-!
# The admission law

Under a clock that never goes back, the check of `_is_open_circuit` is the lock of
`Lib/Lockout.lean` whose last lock is the most recent opening: an admission at `t` is turned down if
and only if an opening has happened and `t` is no later than that opening plus the recovery timeout.

The check compares the clock with `_recovery_time` twice and looks at the state in between, which it
may have changed itself. `Window` ties the three together: `_recovery_time` is the end of the last
opening's window, and in every state but `OPENED` it lies behind the clock. It is kept by every
phase in every order, late completions included, because nothing but an opening assigns
`_recovery_time` and nothing but a check that found the window passed leaves `OPENED`.
-/

namespace GrpcSample
open Lts Lockout

variable {T β : Type*} [LinearOrder T] [Add T]
  {F : Int} {R : T} {codes : List StatusCode} {past : History T β} {s s' : Sys T} {e : Event T β}

/-- How `_recovery_time`, the state and the clock hang together with the last opening. -/
structure Window (R : T) (past : History T β) (s : Sys T) : Prop where
  /-- `_recovery_time` is the end of the last opening's window. -/
  ends : ∀ τ ∈ lastOpening past, s.breaker.recoveryTime = τ + R
  /-- Before any opening the breaker is not `OPENED`. -/
  fresh : lastOpening past = none → s.breaker.state ≠ .opened
  /-- Outside `OPENED` the window is over. -/
  passed : s.breaker.state ≠ .opened → ∀ τ ∈ lastOpening past, s.breaker.recoveryTime < s.now
  /-- Outside `OPENED` `_recovery_time` is not ahead of the clock. -/
  behind : s.breaker.state ≠ .opened → s.breaker.recoveryTime ≤ s.now

/-- While `_recovery_time` is unchanged and the breaker does not leave `OPENED`, time may pass. -/
lemma Window.later (win : Window R past s) (later : s.now ≤ s'.now)
    (last : lastOpening (⟨s, e, s'⟩ :: past) = lastOpening past)
    (time : s'.breaker.recoveryTime = s.breaker.recoveryTime)
    (state : s.breaker.state = .opened ↔ s'.breaker.state = .opened) :
    Window R (⟨s, e, s'⟩ :: past) s' where
  ends τ h := time.trans (win.ends τ (last ▸ h))
  fresh h o := win.fresh (last ▸ h) (state.mpr o)
  passed o τ h := time ▸ (win.passed (mt state.mp o) τ (last ▸ h)).trans_le later
  behind o := time ▸ (win.behind (mt state.mp o)).trans later

/-- A step keeps the window. -/
lemma Window.step (win : Window R past s) (timeout : s.breaker.recoveryTimeout = R)
    (change : Change s.breaker e s'.breaker) (now : s'.now = e.stop) (timely : Timely s e) :
    Window R (⟨s, e, s'⟩ :: past) s' := by
  obtain ⟨start, stop⟩ := timely
  have later : s.now ≤ s'.now := now ▸ start.trans stop
  generalize eq : s'.breaker = b' at change
  cases change with
  | opens o =>
    have last : lastOpening (⟨s, e, s'⟩ :: past) = some e.stop := lastOpening_opens o
    have open' : s'.breaker.state = .opened := by
      rw [eq]
      rfl
    constructor
    · intro τ h
      rw [last] at h
      cases h
      rw [eq, ← timeout]
      rfl
    · intro h
      rw [last] at h
      cases h
    · exact fun h => absurd open' h
    · exact fun h => absurd open' h
  | counts _ o =>
    refine win.later later (lastOpening_keeps o) ?_ ?_ <;> rw [eq]
  | closes c half =>
    refine win.later later (lastOpening_keeps (Event.opening_eq_false c)) ?_ ?_
    · rw [eq]
      rfl
    · rw [eq, half]
      exact ⟨nofun, nofun⟩
  | @halfOpens kind t₁ t₂ attempt open' lt =>
    subst attempt
    -- only here does the state leave `OPENED`, and the check has just found the window passed
    have last : lastOpening (⟨s, .attempt kind t₁ t₂, s'⟩ :: past) = lastOpening past :=
      lastOpening_keeps (Event.opening_eq_false rfl)
    have lt' : s.breaker.recoveryTime < s'.now := lt.trans_le (now ▸ stop)
    have time : s'.breaker.recoveryTime = s.breaker.recoveryTime := by rw [eq]
    constructor
    · intro τ h
      exact time.trans (win.ends τ (last ▸ h))
    · intro h
      exact absurd open' (win.fresh (last ▸ h))
    · intro _ τ _
      exact time ▸ lt'
    · intro _
      exact time ▸ lt'.le
  | keeps c =>
    refine win.later later (lastOpening_keeps (Event.opening_eq_false c)) ?_ ?_ <;> rw [eq]

/-- In a timed run the fields tell the window of the last opening. -/
theorem window_of_run (threshold : 1 ≤ F) (run : Run (timedInterceptor F R codes) past s) :
    Window R past s := by
  refine Run.invariant (I := Window R) ?_ ?_ run
  · rintro s ⟨t, rfl⟩
    exact ⟨nofun, fun _ => nofun, fun _ => nofun, fun _ => le_rfl⟩
  · rintro past s e s' run win ⟨st, timely⟩
    obtain ⟨_, timeout, _⟩ := config_of_run threshold run.unrestrict
    exact win.step timeout (change_of_run threshold run.unrestrict st) st.now timely

/-- The two decisions agree: the code rejects exactly inside the lock. -/
lemma Window.rejects_iff (win : Window R past s) {t₁ t₂ : T} (h₁ : s.now ≤ t₁) (h₂ : t₁ ≤ t₂) :
    s.breaker.Rejects t₁ t₂ ↔ Locked R (lastOpening past) t₁ := by
  constructor
  · rintro (⟨o, le⟩ | lt)
    · cases last : lastOpening past with
      | none => exact absurd o (win.fresh last)
      | some τ => exact locked_some.mpr (win.ends τ last ▸ le)
    · -- outside `OPENED` the second comparison alone cannot reject
      have o : s.breaker.state = .opened := by
        by_contra o
        exact absurd lt (not_lt.mpr ((win.behind o).trans (h₁.trans h₂)))
      cases last : lastOpening past with
      | none => exact absurd o (win.fresh last)
      | some τ => exact locked_some.mpr (win.ends τ last ▸ h₂.trans lt.le)
  · rintro ⟨τ, last, le⟩
    rw [← win.ends τ last] at le
    refine .inl ⟨?_, le⟩
    by_contra o
    exact absurd ((win.passed o τ last).trans_le (h₁.trans le)) (lt_irrefl _)

/-- A rejection leaves the breaker as it was. -/
lemma Window.rejects_keeps (win : Window R past s) {t₁ t₂ : T} (h₁ : s.now ≤ t₁) (h₂ : t₁ ≤ t₂)
    (rejects : s.breaker.Rejects t₁ t₂) : (s.breaker.isOpenCircuit t₁ t₂).2 = s.breaker := by
  apply Breaker.isOpenCircuit_snd_of_le
  intro _
  obtain ⟨τ, last, le⟩ := (win.rejects_iff h₁ h₂).mp rejects
  rw [win.ends τ last]
  exact le

/-- The admission law: in every reachable state an admission at `t₁` is rejected exactly when an
    opening has happened and `t₁` is not past its window, and a rejection changes nothing. -/
theorem admission_law (threshold : 1 ≤ F) (run : Run (timedInterceptor F R codes) past s)
    {t₁ t₂ : T} (h₁ : s.now ≤ t₁) (h₂ : t₁ ≤ t₂) :
    ((s.breaker.isOpenCircuit t₁ t₂).1 = true ↔ ∃ τ, lastOpening past = some τ ∧ t₁ ≤ τ + R) ∧
      ((s.breaker.isOpenCircuit t₁ t₂).1 = true →
        (s.breaker.isOpenCircuit t₁ t₂).2 = s.breaker) := by
  have win := window_of_run threshold run
  rw [Breaker.isOpenCircuit_fst, decide_eq_true_iff]
  exact ⟨win.rejects_iff h₁ h₂, win.rejects_keeps h₁ h₂⟩

/-- After an opening at 2 with a timeout of 5 the check rejects at 7 and admits at 8. -/
theorem admission_law_failedOnce :
    (failedOnce.breaker.isOpenCircuit 7 7).1 = true ∧
      (failedOnce.breaker.isOpenCircuit 8 8).1 = false := by
  refine ⟨(admission_law (by decide) failedOnce_run (by decide) le_rfl).1.mpr ⟨2, rfl, le_rfl⟩, ?_⟩
  rw [Bool.eq_false_iff, Ne, (admission_law (by decide) failedOnce_run (by decide) le_rfl).1]
  rintro ⟨τ, h, le⟩
  cases h
  exact absurd le (by decide)

end GrpcSample
