import GrpcSample.Breaker.Admission

/-!
# When continuations are invoked

A call with a single response invokes its continuation as soon as the check has admitted it. A
stream is admitted when its generator is created and invokes the continuation when the generator is
first advanced; in between any other call may open the circuit, and nothing is checked again.

`started` is the time of that invocation. `starts_unlocked_iff` says when a run keeps all of them
outside the window of the last opening: exactly when it advances no stream for the first time while
the breaker is `OPENED` and `_recovery_time` is not past. No threshold is assumed. One of zero or
less is never reached, so such a breaker never opens (`Dormant`).
-/

namespace GrpcSample
open Lts Lockout

variable {T β : Type*} [LinearOrder T] [Add T]
  {F : Int} {R : T} {codes : List StatusCode} {past : History T β} {s : Sys T}

/-- The time at which a phase invokes a continuation, if it does. -/
def started (x : Entry (Sys T) (Event T β)) : Option T :=
  match x.event with
  | .attempt kind t₁ t₂ =>
    if kind.streamsResponses = false ∧ (x.before.breaker.isOpenCircuit t₁ t₂).1 = false then some t₂
    else none
  | .advance _ t => some t
  | .unaryEnd _ _ _ | .streamEnd _ _ _ => none

/-- Only two phases invoke a continuation. -/
lemma started_cases {x : Entry (Sys T) (Event T β)} {t : T} (h : started x = some t) :
    (∃ i, x.event = .advance i t) ∨
      ∃ kind t₁, x.event = .attempt kind t₁ t ∧ ¬ x.before.breaker.Rejects t₁ t := by
  obtain ⟨before, event, after⟩ := x
  cases event with
  | attempt kind t₁ t₂ =>
    obtain ⟨⟨_, admitted⟩, h⟩ := Option.ite_none_right_eq_some.mp h
    cases h
    refine .inr ⟨kind, t₁, rfl, ?_⟩
    simpa using admitted
  | advance i t' =>
    cases h
    exact .inl ⟨i, rfl⟩
  | unaryEnd _ _ _ => cases h
  | streamEnd _ _ _ => cases h

/-- A breaker whose threshold is below its counter, and closed. -/
structure Dormant (b : Breaker T) : Prop where
  closed : b.state = .closed
  nonneg : 0 ≤ b.failureCount
  threshold : b.failureThreshold ≤ 0

/-- A breaker that is dormant stays so, and does not open. -/
lemma Dormant.step {b b' : Breaker T} {e : Event T β} (dormant : Dormant b)
    (change : Change b e b') : Dormant b' ∧ e.opening b = false := by
  obtain ⟨closed, nonneg, threshold⟩ := dormant
  have quiet : e.opening b = false := by
    rw [Bool.eq_false_iff]
    intro o
    rcases (Event.opening_iff.mp o).2 with h | ⟨_, half⟩
    · omega
    · rw [closed] at half
      cases half
  refine ⟨?_, quiet⟩
  cases change with
  | opens o =>
    rw [quiet] at o
    cases o
  | counts _ _ => exact ⟨closed, Int.add_nonneg nonneg (by decide), threshold⟩
  | closes _ half =>
    rw [closed] at half
    cases half
  | halfOpens _ open' _ =>
    rw [closed] at open'
    cases open'
  | keeps _ => exact ⟨closed, nonneg, threshold⟩

/-- A breaker whose threshold is not positive is dormant. -/
lemma dormant_of_run (threshold : F ≤ 0) (run : Run (interceptor F R codes) past s) :
    Dormant s.breaker ∧ lastOpening past = none := by
  refine Run.invariant (I := fun (past : History T β) s =>
    Dormant s.breaker ∧ lastOpening past = none) ?_ ?_ run
  · rintro s ⟨t, rfl⟩
    exact ⟨⟨rfl, le_rfl, threshold⟩, rfl⟩
  · rintro past s e s' _ ⟨dormant, none⟩ st
    have change := st.change fun half => by
      rw [dormant.closed] at half
      cases half
    obtain ⟨dormant', quiet⟩ := dormant.step change
    exact ⟨dormant', (lastOpening_keeps quiet).trans none⟩

/-- In a reachable state the fields of the breaker tell whether the last opening's window holds. -/
lemma locked_iff (run : Run (timedInterceptor F R codes) past s) {t : T} (h : s.now ≤ t) :
    Locked R (lastOpening past) t ↔ s.breaker.state = .opened ∧ t ≤ s.breaker.recoveryTime := by
  rcases lt_or_ge 0 F with threshold | threshold
  · have win := window_of_run threshold run
    rw [← win.rejects_iff h le_rfl]
    refine ⟨?_, .inl⟩
    rintro (o | lt)
    · exact o
    · refine ⟨?_, lt.le⟩
      by_contra o
      exact absurd (lt.trans_le (win.behind o)) (not_lt.mpr h)
  · -- a threshold that is never reached: no opening, and never `OPENED`
    obtain ⟨dormant, none⟩ := dormant_of_run threshold run.unrestrict
    rw [none, dormant.closed]
    exact ⟨fun h => absurd h locked_none, nofun⟩

/-- An admission that passes the check lies outside the window, at both of its readings. -/
lemma not_locked_of_admitted (run : Run (timedInterceptor F R codes) past s) {t₁ t₂ : T}
    (h₁ : s.now ≤ t₁) (h₂ : t₁ ≤ t₂) (admitted : ¬ s.breaker.Rejects t₁ t₂) :
    ¬ Locked R (lastOpening past) t₂ := by
  rw [locked_iff run (h₁.trans h₂)]
  rintro ⟨o, le⟩
  exact admitted (.inl ⟨o, h₂.trans le⟩)

/-- A run invokes no continuation inside the window of the most recent opening if and only if it
    first advances no stream while the breaker is `OPENED` and `_recovery_time` is not past. -/
theorem starts_unlocked_iff (run : Run (timedInterceptor F R codes) past s) :
    (∀ x older, x :: older <:+ past → ∀ t, started x = some t →
        ¬ ∃ τ, lastOpening older = some τ ∧ t ≤ τ + R) ↔
      ∀ x older, x :: older <:+ past → ∀ i t, x.event = .advance i t →
        ¬ (x.before.breaker.state = .opened ∧ t ≤ x.before.breaker.recoveryTime) := by
  have advanced : ∀ x older, x :: older <:+ past → ∀ i t, x.event = .advance i t →
      (Locked R (lastOpening older) t ↔
        x.before.breaker.state = .opened ∧ t ≤ x.before.breaker.recoveryTime) := by
    intro x older suffix i t advance
    obtain ⟨run, _, timely⟩ := run.of_suffix suffix
    rw [advance] at timely
    exact locked_iff run timely.1
  constructor
  · intro unlocked x older suffix i t advance inside
    have start : started x = some t := by
      rw [started, advance]
    exact unlocked x older suffix t start ((advanced x older suffix i t advance).mpr inside)
  · intro passed x older suffix t start inside
    rcases started_cases start with ⟨i, advance⟩ | ⟨kind, t₁, attempt, admitted⟩
    · exact passed x older suffix i t advance ((advanced x older suffix i t advance).mp inside)
    · obtain ⟨run, _, timely⟩ := run.of_suffix suffix
      rw [attempt] at timely
      exact not_locked_of_admitted run timely.1 timely.2 admitted inside

-- With a threshold of one and a timeout of five: a stream and a unary call are admitted at 1, the
-- unary call fails at 2, and the stream is first advanced at 3.

/-- A stream is admitted and not advanced. -/
def waiting : Sys Int := ⟨idle.breaker, [⟨.unaryStream, .created⟩], 1⟩

/-- A call with a single response is admitted as well. -/
def waitingTwo : Sys Int := ⟨idle.breaker,
  [⟨.unaryStream, .created⟩, ⟨.unaryUnary, .running⟩], 1⟩

/-- The call with a single response has failed, which opens the circuit. -/
def openedMeanwhile : Sys Int := ⟨idle.breaker.opened 2,
  [⟨.unaryStream, .created⟩, ⟨.unaryUnary, .finished⟩], 2⟩

/-- The stream is advanced at 3. -/
def startedLate : Sys Int := ⟨idle.breaker.opened 2,
  [⟨.unaryStream, .running⟩, ⟨.unaryUnary, .finished⟩], 3⟩

/-- How the breaker got to two calls. -/
def waitingTwoHistory : History Int Unit :=
  [⟨waiting, .attempt .unaryUnary 1 1, waitingTwo⟩, ⟨idle, .attempt .unaryStream 1 1, waiting⟩]

/-- Both are admitted at 1. -/
lemma waitingTwo_run : Run (timedInterceptor 1 5 [.unavailable]) waitingTwoHistory waitingTwo :=
  .step (.step (.init ⟨0, rfl⟩) ⟨.accept (by decide), by decide, by decide⟩)
    ⟨.accept (by decide), by decide, by decide⟩

/-- How the circuit got open while the stream was waiting. -/
def openedMeanwhileHistory : History Int Unit :=
  ⟨waitingTwo, .unaryEnd 1 (.rpcError .unavailable) 2, openedMeanwhile⟩ :: waitingTwoHistory

/-- The call fails at 2. -/
lemma openedMeanwhile_run :
    Run (timedInterceptor 1 5 [.unavailable]) openedMeanwhileHistory openedMeanwhile :=
  .step waitingTwo_run ⟨.unaryEnd rfl rfl, by decide, by decide⟩

/-- How the breaker got to `startedLate`. -/
def startedLateHistory : History Int Unit :=
  ⟨openedMeanwhile, .advance 0 3, startedLate⟩ :: openedMeanwhileHistory

/-- The stream's continuation is invoked at 3. -/
lemma startedLate_run : Run (timedInterceptor 1 5 [.unavailable]) startedLateHistory startedLate :=
  .step openedMeanwhile_run ⟨.advance rfl, by decide, by decide⟩

/-- The stream's continuation is invoked one second after an opening that locks for five. -/
theorem starts_in_open_circuit :
    ¬ ∀ (past : History Int Unit) (s : Sys Int), Run (timedInterceptor 1 5 [.unavailable]) past s →
      ∀ x older, x :: older <:+ past → ∀ t, started x = some t →
        ¬ ∃ τ, lastOpening older = some τ ∧ t ≤ τ + 5 := by
  intro unlocked
  exact unlocked _ _ startedLate_run _ _ List.suffix_rfl 3 rfl ⟨2, rfl, by decide⟩

/-- The stream is first advanced at 8. -/
def startedAfter : Sys Int := ⟨openedMeanwhile.breaker,
  [⟨.unaryStream, .running⟩, ⟨.unaryUnary, .finished⟩], 8⟩

/-- How the breaker got to `startedAfter`. -/
def startedAfterHistory : History Int Unit :=
  ⟨openedMeanwhile, .advance 0 8, startedAfter⟩ :: openedMeanwhileHistory

/-- The stream's continuation is invoked at 8. -/
lemma startedAfter_run :
    Run (timedInterceptor 1 5 [.unavailable]) startedAfterHistory startedAfter :=
  .step openedMeanwhile_run ⟨.advance rfl, by decide, by decide⟩

/-- A stream that is admitted before the opening at 2 invokes its continuation at 8, after the
    window. -/
theorem starts_unlocked_iff_startedAfter :
    lastOpening openedMeanwhileHistory = some 2 ∧
      started (⟨openedMeanwhile, .advance 0 8, startedAfter⟩ : Entry (Sys Int) (Event Int Unit)) =
        some 8 ∧
      ∀ x older, x :: older <:+ startedAfterHistory → ∀ t, started x = some t →
        ¬ ∃ τ, lastOpening older = some τ ∧ t ≤ τ + 5 := by
  refine ⟨rfl, rfl, (starts_unlocked_iff startedAfter_run).mpr ?_⟩
  refine forall_suffix_cons.mpr ⟨?_, forall_suffix_cons.mpr ⟨?_, ?_⟩⟩
  · rintro i t ⟨rfl⟩
    decide
  · intro i t advance
    cases advance
  · refine forall_suffix_cons.mpr ⟨?_, forall_suffix_cons.mpr ⟨?_, forall_suffix_nil⟩⟩
    · intro i t advance
      cases advance
    · intro i t advance
      cases advance

end GrpcSample
