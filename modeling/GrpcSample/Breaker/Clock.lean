import GrpcSample.Breaker.Admission

/-!
# Calls under a clock that goes back

`time.time()` may step back. `_is_open_circuit` compares the clock with `_recovery_time` in every
state of the breaker, and nothing resets that attribute when the circuit becomes half-open or
closes: it stays the end of the last opening's window, and before any opening the reading of
`__init__` (`unlockTime`). A reading behind that time turns a call down although the circuit is not
open.

`only_open_rejects_iff` says, for every run under an arbitrary clock, that this is the only way: all
calls attempted in `CLOSED` or `HALF_OPENED` are admitted if and only if none of them reads such a
time. A clock that never goes back meets the condition (`only_open_rejects_of_timed`).
-/

namespace GrpcSample
open Lts

variable {T β : Type*}

/-- The reading of `__init__`, for a run that has reached `s`. -/
def constructedAt : History T β → Sys T → T
  | [], s => s.now
  | x :: past, _ => constructedAt past x.before

/-- The end of the last opening's window, or the reading of `__init__` before any opening. -/
def unlockTime [Add T] (R : T) (past : History T β) (s : Sys T) : T :=
  match lastOpening past with
  | some τ => τ + R
  | none => constructedAt past s

/-- The phase has admitted a call. -/
def Admits (x : Entry (Sys T) (Event T β)) : Prop :=
  ∃ call, x.after.calls = x.before.calls ++ [call]

section
variable [Add T] {R : T} {past : History T β} {s s' : Sys T} {e : Event T β}

/-- An opening sets the time at which its window ends. -/
lemma unlockTime_opens (h : e.opening s.breaker = true) :
    unlockTime R (⟨s, e, s'⟩ :: past) s' = e.stop + R := by
  rw [unlockTime, lastOpening_opens h]

/-- Nothing else changes it. -/
lemma unlockTime_keeps (h : e.opening s.breaker = false) :
    unlockTime R (⟨s, e, s'⟩ :: past) s' = unlockTime R past s := by
  rw [unlockTime, lastOpening_keeps h]
  rfl

end

variable [LinearOrder T] [Add T]
  {F : Int} {R : T} {codes : List StatusCode} {past : History T β} {s s' : Sys T} {e : Event T β}

/-- Only an opening assigns `_recovery_time`. -/
lemma Change.recoveryTime (change : Change s.breaker e s'.breaker)
    (timeout : s.breaker.recoveryTimeout = R)
    (time : s.breaker.recoveryTime = unlockTime R past s) :
    s'.breaker.recoveryTime = unlockTime R (⟨s, e, s'⟩ :: past) s' := by
  generalize eq : s'.breaker = b' at change
  cases change with
  | opens o =>
    rw [unlockTime_opens o, ← timeout]
    rfl
  | counts _ quiet => exact time.trans (unlockTime_keeps quiet).symm
  | closes c _ => exact time.trans (unlockTime_keeps (Event.opening_eq_false c)).symm
  | halfOpens attempt _ _ =>
    subst attempt
    exact time.trans (unlockTime_keeps (Event.opening_eq_false rfl)).symm
  | keeps c => exact time.trans (unlockTime_keeps (Event.opening_eq_false c)).symm

/-- So it is `_recovery_time` in every reachable state. -/
theorem recoveryTime_of_run (positive : 1 ≤ F) (run : Run (interceptor F R codes) past s) :
    s.breaker.recoveryTime = unlockTime R past s := by
  refine Run.invariant (I := fun (past : History T β) s =>
    s.breaker.recoveryTime = unlockTime R past s) ?_ ?_ run
  · rintro s ⟨t, rfl⟩
    rfl
  · intro past s e s' run time st
    obtain ⟨_, timeout, _⟩ := config_of_run positive run
    exact (change_of_run positive run st).recoveryTime timeout time

/-- A call is admitted if and only if the check does not turn it down. -/
lemma Step.admits_iff {kind : CallKind} {t₁ t₂ : T} (st : Step s (.attempt kind t₁ t₂ : Event T β) s') :
    Admits (⟨s, .attempt kind t₁ t₂, s'⟩ : Entry (Sys T) (Event T β)) ↔
      ¬ s.breaker.Rejects t₁ t₂ := by
  cases st with
  | reject rejected =>
    have rejected : s.breaker.Rejects t₁ t₂ := by simpa using rejected
    refine ⟨?_, absurd rejected⟩
    rintro ⟨call, same⟩
    have length := congrArg List.length same
    simp at length
  | accept admitted =>
    have admitted : ¬ s.breaker.Rejects t₁ t₂ := by simpa using admitted
    exact ⟨fun _ => admitted, fun _ => ⟨_, rfl⟩⟩

/-- Outside `OPENED` a call is admitted if and only if the clock is not behind `unlockTime`. -/
lemma admits_iff_of_run (positive : 1 ≤ F) (run : Run (interceptor F R codes) past s)
    {x : Entry (Sys T) (Event T β)} {older : History T β} (suffix : x :: older <:+ past)
    {kind : CallKind} {t₁ t₂ : T} (attempt : x.event = .attempt kind t₁ t₂)
    (other : x.before.breaker.state ≠ .opened) :
    Admits x ↔ unlockTime R older x.before ≤ t₂ := by
  obtain ⟨run, st⟩ := run.of_suffix suffix
  obtain ⟨before, event, after⟩ := x
  have attempt : event = .attempt kind t₁ t₂ := attempt
  subst attempt
  rw [Step.admits_iff st, Breaker.rejects_iff_of_not_opened other, not_lt,
    recoveryTime_of_run positive run]

/-- All calls of a run that are attempted in `CLOSED` or `HALF_OPENED` are admitted, if and only if
    none of them reads a time before the end of the last opening's window, or, if the circuit has
    never opened, before the reading of `__init__`. -/
theorem only_open_rejects_iff (positive : 1 ≤ F) (run : Run (interceptor F R codes) past s) :
    (∀ x older, x :: older <:+ past → ∀ kind t₁ t₂, x.event = .attempt kind t₁ t₂ →
        x.before.breaker.state ≠ .opened → Admits x) ↔
      ∀ x older, x :: older <:+ past → ∀ kind t₁ t₂, x.event = .attempt kind t₁ t₂ →
        x.before.breaker.state ≠ .opened → unlockTime R older x.before ≤ t₂ := by
  constructor
  · intro admitted x older suffix kind t₁ t₂ attempt other
    apply (admits_iff_of_run positive run suffix attempt other).mp
    exact admitted x older suffix kind t₁ t₂ attempt other
  · intro unlocked x older suffix kind t₁ t₂ attempt other
    apply (admits_iff_of_run positive run suffix attempt other).mpr
    exact unlocked x older suffix kind t₁ t₂ attempt other

/-- Under a clock that never goes back they are admitted. -/
theorem only_open_rejects_of_timed (positive : 1 ≤ F)
    (run : Run (timedInterceptor F R codes) past s) {x : Entry (Sys T) (Event T β)}
    {older : History T β} (suffix : x :: older <:+ past) {kind : CallKind} {t₁ t₂ : T}
    (attempt : x.event = .attempt kind t₁ t₂) (other : x.before.breaker.state ≠ .opened) :
    Admits x := by
  apply (admits_iff_of_run positive run.unrestrict suffix attempt other).mpr
  obtain ⟨run, _, start, stop⟩ := run.of_suffix suffix
  rw [attempt] at start stop
  rw [← recoveryTime_of_run positive run.unrestrict]
  calc x.before.breaker.recoveryTime ≤ x.before.now := (window_of_run positive run).behind other
    _ ≤ t₁ := start
    _ ≤ t₂ := stop

-- The run of `recovered` goes on under a clock that has gone back: to 5, where the next call is
-- turned down, or to 7, where it is not.

/-- The closed circuit after it has turned a call down at 5. -/
def turnedDown : Sys Int := ⟨recovered.breaker, recovered.calls, 5⟩

/-- The closed circuit after it has admitted a call at 7. -/
def servedAgain : Sys Int := ⟨recovered.breaker, recovered.calls ++ [⟨.unaryUnary, .running⟩], 7⟩

/-- The call at 5 is rejected although the circuit is `CLOSED`. -/
theorem closed_circuit_rejects :
    ¬ ∀ (past : History Int Unit) (s : Sys Int), Run (interceptor 1 5 [.unavailable]) past s →
      ∀ x older, x :: older <:+ past → ∀ kind t₁ t₂, x.event = .attempt kind t₁ t₂ →
        x.before.breaker.state ≠ .opened → Admits x := by
  intro admitted
  have st : Step recovered (.attempt .unaryUnary 5 5 : Event Int Unit) turnedDown :=
    .reject (by decide)
  have run := Run.step recovered_run.unrestrict st
  have admits := admitted _ _ run _ _ List.suffix_rfl _ _ _ rfl nofun
  exact (Step.admits_iff st).mp admits (by decide)

/-- A call at 7 is admitted, like the one before the opening. -/
theorem only_open_rejects_iff_servedAgain :
    unlockTime 5 recoveredHistory recovered = 7 ∧ ∀ x older,
      x :: older <:+ ⟨recovered, .attempt .unaryUnary 5 7, servedAgain⟩ :: recoveredHistory →
      ∀ kind t₁ t₂, x.event = .attempt kind t₁ t₂ → x.before.breaker.state ≠ .opened →
        Admits x := by
  have st : Step recovered (.attempt .unaryUnary 5 7 : Event Int Unit) servedAgain :=
    .accept (by decide)
  refine ⟨rfl, (only_open_rejects_iff (by decide) (.step recovered_run.unrestrict st)).mpr ?_⟩
  refine forall_suffix_cons.mpr ⟨?_, ?_⟩
  · intro kind t₁ t₂ attempt _
    cases attempt
    decide
  · -- so far the clock has not gone back
    intro x older suffix kind t₁ t₂ attempt other
    apply (admits_iff_of_run (by decide) recovered_run.unrestrict suffix attempt other).mp
    exact only_open_rejects_of_timed (by decide) recovered_run suffix attempt other

end GrpcSample
