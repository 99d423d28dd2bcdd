import GrpcSample.Breaker.Counter
import GrpcSample.Breaker.Streams

/-!
# Results that come late

Calls that were admitted before the circuit opened complete afterwards, when the breaker is
`OPENED`, tries its server in `HALF_OPENED`, or has closed again. The code keeps no record of when a
call was admitted; it looks at its state when the call completes. So a late result counts as any
other does, and it may decide the trial of a half-open breaker.

`Trial` is the invariant that relates the two counts of admitted calls below. While the breaker is
`OPENED` no call is admitted, so the calls that were admitted when the circuit opened are all there
are, and when it becomes `HALF_OPENED` that count is taken again: in `HALF_OPENED` every call has
been admitted either before the last opening or from the trial on (`stale_law`).
-/

namespace GrpcSample
open Lts

variable {T β : Type*}

/-- The number of calls that had been admitted when the circuit last opened. -/
def admittedAtOpening : History T β → ℕ
  | [] => 0
  | x :: past =>
    if x.event.opening x.before.breaker then x.before.calls.length else admittedAtOpening past

/-- The number of calls that had been admitted when the breaker last became `HALF_OPENED`. -/
def admittedAtTrial : History T β → ℕ
  | [] => 0
  | x :: past =>
    if x.after.breaker.state = .halfOpened ∧ x.before.breaker.state ≠ .halfOpened then
      x.before.calls.length
    else admittedAtTrial past

/-- The call that a phase completes. -/
def Event.completes : Event T β → Option ℕ
  | .unaryEnd i _ _ | .streamEnd i _ _ => some i
  | .attempt _ _ _ | .advance _ _ => none

/-- Where the counts of admitted calls stand while the circuit is not closed. -/
structure Trial (past : History T β) (s : Sys T) : Prop where
  opened : s.breaker.state = .opened → admittedAtOpening past = s.calls.length
  halfOpened : s.breaker.state = .halfOpened → admittedAtOpening past = admittedAtTrial past

/-- Only an opening changes what was admitted at the last one. -/
lemma admittedAtOpening_keeps {x : Entry (Sys T) (Event T β)} {past : History T β}
    (h : x.event.opening x.before.breaker = false) :
    admittedAtOpening (x :: past) = admittedAtOpening past := if_neg (by simp [h])

/-- Only a change of the state changes what was admitted at the last trial. -/
lemma admittedAtTrial_keeps {x : Entry (Sys T) (Event T β)} {past : History T β}
    (h : x.after.breaker.state = x.before.breaker.state) :
    admittedAtTrial (x :: past) = admittedAtTrial past := if_neg fun e => e.2 (h ▸ e.1)

variable [LinearOrder T] [Add T]
  {F : Int} {R : T} {codes : List StatusCode} {past : History T β} {s s' : Sys T} {e : Event T β}

/-- Only an admission adds a call, and it does not leave the breaker `OPENED`. -/
lemma Step.calls (st : Step s e s') :
    s'.calls.length = s.calls.length ∨ e.counted s.breaker = false ∧ s'.breaker.state ≠ .opened := by
  cases st with
  | reject _ => exact .inl rfl
  | @accept _ t₁ t₂ admitted =>
    have admitted : ¬ s.breaker.Rejects t₁ t₂ := by simpa using admitted
    exact .inr ⟨rfl, Breaker.checked_not_opened admitted⟩
  | advance _ => exact .inl (List.length_set ..)
  | unaryEnd _ _ => exact .inl (List.length_set ..)
  | streamEnd _ _ => exact .inl (List.length_set ..)

/-- A phase that neither opens the circuit nor changes the state keeps both counts. -/
lemma Trial.quiet (trial : Trial past s) (st : Step s e s')
    (quiet : e.opening s.breaker = false) (state : s'.breaker.state = s.breaker.state) :
    Trial (⟨s, e, s'⟩ :: past) s' := by
  refine ⟨fun o => ?_, fun half => ?_⟩
  · rw [admittedAtOpening_keeps quiet]
    rcases st.calls with same | ⟨_, other⟩
    · rw [same]
      exact trial.opened (state ▸ o)
    · exact absurd o other
  · rw [admittedAtOpening_keeps quiet, admittedAtTrial_keeps state]
    exact trial.halfOpened (state ▸ half)

/-- A step keeps it. -/
lemma Trial.step (trial : Trial past s) (change : Change s.breaker e s'.breaker)
    (st : Step s e s') : Trial (⟨s, e, s'⟩ :: past) s' := by
  generalize eq : s'.breaker = b' at change
  cases change with
  | opens o =>
    refine ⟨fun _ => ?_, fun half => ?_⟩
    · have counted := (Event.opening_iff.mp o).1
      rcases st.calls with same | ⟨quiet, _⟩
      · exact (if_pos o).trans same.symm
      · rw [counted] at quiet
        cases quiet
    · rw [eq] at half
      cases half
  | counts _ quiet => exact trial.quiet st quiet (by rw [eq])
  | closes _ _ => constructor <;> rw [eq] <;> exact nofun
  | halfOpens attempt open' _ =>
    -- the check found the window over: no call had been admitted since the opening
    have quiet : e.opening s.breaker = false := Event.opening_eq_false (by rw [attempt]; rfl)
    refine ⟨fun o => ?_, fun half => ?_⟩
    · rw [eq] at o
      cases o
    · have enters : s'.breaker.state = .halfOpened ∧ s.breaker.state ≠ .halfOpened :=
        ⟨half, by rw [open']; exact nofun⟩
      rw [admittedAtOpening_keeps quiet, trial.opened open']
      exact (if_pos enters).symm
  | keeps c => exact trial.quiet st (Event.opening_eq_false c) (by rw [eq])

/-- Every run has it. -/
theorem trial_of_run (positive : 1 ≤ F) (run : Run (interceptor F R codes) past s) :
    Trial past s := by
  refine Run.invariant (I := Trial) ?_ ?_ run
  · rintro s ⟨t, rfl⟩
    exact ⟨nofun, nofun⟩
  · intro past s e s' run trial st
    exact trial.step (change_of_run positive run st) st

/-- `HALF_OPENED` is left by the completion of a call. -/
lemma Step.leaves (st : Step s e s') (half : s.breaker.state = .halfOpened)
    (left : s'.breaker.state ≠ .halfOpened) : ∃ i, e.completes = some i := by
  have attempted : ∀ t₁ t₂, (s.breaker.isOpenCircuit t₁ t₂).2.state = .halfOpened := by
    intro t₁ t₂
    rw [Breaker.isOpenCircuit_snd_of_le, half]
    intro o
    rw [half] at o
    cases o
  cases st with
  | @reject _ t₁ t₂ _ => exact absurd (attempted t₁ t₂) left
  | @accept _ t₁ t₂ _ => exact absurd (attempted t₁ t₂) left
  | advance _ => exact absurd half left
  | unaryEnd _ _ => exact ⟨_, rfl⟩
  | streamEnd _ _ => exact ⟨_, rfl⟩

section
variable {b : Breaker T} {t : T}

omit [LinearOrder T] in
/-- A response assigns nothing unless the circuit is half-open. -/
lemma response_assigned_iff {m : β} (threshold : 1 ≤ b.failureThreshold) :
    (b.afterUnary (.response m) t).assigned = b.assigned ↔ b.state ≠ .halfOpened := by
  rw [Breaker.afterUnary_response fun _ => threshold]
  split
  · next half =>
    refine ⟨fun same => ?_, fun other => absurd half other⟩
    have state : CircuitState.closed = b.state := congrArg Prod.fst same
    rw [half] at state
    cases state
  · next other => exact ⟨fun _ => other, fun _ => rfl⟩

omit [LinearOrder T] in
/-- An error leaves everything as it was only if it opens, by a threshold of one, a circuit that is
    open until the same time already. -/
lemma rpcError_assigned_iff {status : StatusCode} (nonneg : 0 ≤ b.failureCount)
    (lt : b.failureCount < b.failureThreshold) :
    (b.afterUnary (.rpcError status : Reply β) t).assigned = b.assigned ↔
      b.state = .opened ∧ b.failureThreshold = 1 ∧ b.recoveryTime = t + b.recoveryTimeout := by
  rw [Breaker.afterUnary_rpcError]
  by_cases o : b.state = .opened
  · by_cases opens : b.Opens (b.failureCount + 1)
    · have threshold : b.failureCount + 1 = b.failureThreshold := by
        rcases opens with h | ⟨_, half⟩
        · exact h
        · rw [o] at half
          cases half
      rw [Breaker.setFailureCount_opens opens]
      constructor
      · intro same
        have count : 0 = b.failureCount := congrArg (·.2.1) same
        exact ⟨o, by omega, (congrArg (·.2.2) same).symm⟩
      · rintro ⟨_, one, time⟩
        have count : b.failureCount = 0 := by omega
        show (CircuitState.opened, (0 : Int), t + b.recoveryTimeout) = _
        rw [Breaker.assigned, o, count, time]
    · rw [Breaker.setFailureCount_keeps opens]
      constructor
      · intro same
        have count : b.failureCount + 1 = b.failureCount := congrArg (·.2.1) same
        omega
      · rintro ⟨_, one, _⟩
        exact absurd (.inl (by omega)) opens
  · exact ⟨fun same => absurd same (counted_ne o t), fun h => absurd h.1 o⟩

end

/-- The outcome of a call that was admitted before the most recent opening changes nothing if and
    only if it is a response and the breaker is not `HALF_OPENED`, or an error that opens an open
    circuit until the same time again, by a threshold of one. And `HALF_OPENED` is left only because
    of a call that was admitted before the most recent opening or since the breaker has become
    `HALF_OPENED`. -/
theorem stale_law (positive : 1 ≤ F) (run : Run (interceptor F R codes) past s) :
    (∀ i (response : Reply β) t s', i < admittedAtOpening past → Step s (.unaryEnd i response t) s' →
      (s'.breaker.assigned = s.breaker.assigned ↔
        (∃ m, response = .response m) ∧ s.breaker.state ≠ .halfOpened ∨
        (∃ status, response = .rpcError status) ∧ s.breaker.state = .opened ∧ F = 1 ∧
          s.breaker.recoveryTime = t + R)) ∧
    ∀ (e : Event T β) s', Step s e s' → s.breaker.state = .halfOpened →
      s'.breaker.state ≠ .halfOpened →
      ∃ i, e.completes = some i ∧ (i < admittedAtOpening past ∨ admittedAtTrial past ≤ i) := by
  obtain ⟨threshold, timeout, _⟩ := config_of_run positive run
  obtain ⟨nonneg, lt, _⟩ := counter_of_run positive run
  constructor
  · intro i response t s' _ st
    rw [st.breaker, Event.effect]
    cases response with
    | response m =>
      rw [response_assigned_iff (threshold ▸ positive)]
      constructor
      · exact fun other => .inl ⟨⟨m, rfl⟩, other⟩
      · rintro (⟨_, other⟩ | ⟨⟨_, eq⟩, _⟩)
        · exact other
        · cases eq
    | rpcError status =>
      rw [rpcError_assigned_iff nonneg (threshold ▸ lt), threshold, timeout]
      constructor
      · exact fun again => .inr ⟨⟨status, rfl⟩, again⟩
      · rintro (⟨⟨_, eq⟩, _⟩ | ⟨_, again⟩)
        · cases eq
        · exact again
  · intro e s' st half left
    obtain ⟨i, completes⟩ := st.leaves half left
    refine ⟨i, completes, ?_⟩
    rw [(trial_of_run positive run).halfOpened half]
    exact lt_or_ge i _

-- With a threshold of one: two calls are admitted at 1, the first fails at 2. A third call is
-- admitted at 8, as the trial of the half-open breaker, but it is the response to the second, at 9,
-- that closes the circuit.

/-- Two calls are under way. -/
def two : Sys Int := ⟨idle.breaker, [⟨.unaryUnary, .running⟩, ⟨.unaryUnary, .running⟩], 1⟩

/-- The first has failed, which opens the circuit. -/
def oneFailed : Sys Int := ⟨idle.breaker.opened 2,
  [⟨.unaryUnary, .finished⟩, ⟨.unaryUnary, .running⟩], 2⟩

/-- A third call is under way, as the trial. -/
def onTrial : Sys Int := ⟨{ idle.breaker.opened 2 with state := .halfOpened },
  [⟨.unaryUnary, .finished⟩, ⟨.unaryUnary, .running⟩, ⟨.unaryUnary, .running⟩], 8⟩

/-- The second call is answered. -/
def decided : Sys Int := ⟨onTrial.breaker.closed,
  [⟨.unaryUnary, .finished⟩, ⟨.unaryUnary, .finished⟩, ⟨.unaryUnary, .running⟩], 9⟩

/-- How the breaker got to the trial. -/
def onTrialHistory : History Int Unit :=
  [⟨oneFailed, .attempt .unaryUnary 8 8, onTrial⟩,
    ⟨two, .unaryEnd 0 (.rpcError .unavailable) 2, oneFailed⟩,
    ⟨calling, .attempt .unaryUnary 1 1, two⟩, ⟨idle, .attempt .unaryUnary 1 1, calling⟩]

/-- The trial is admitted at 8. -/
lemma onTrial_run : Run (timedInterceptor 1 5 [.unavailable]) onTrialHistory onTrial := by
  refine .step (.step (.step (.step (.init ⟨0, rfl⟩) ?_) ?_) ?_) ?_
  · exact ⟨.accept (by decide), by decide, by decide⟩
  · exact ⟨.accept (by decide), by decide, by decide⟩
  · exact ⟨.unaryEnd rfl rfl, by decide, by decide⟩
  · exact ⟨.accept (by decide), by decide, by decide⟩

/-- The response to the old call at 9 is a step. -/
lemma decided_step : Step onTrial (.unaryEnd 1 (.response ()) 9) decided := .unaryEnd rfl rfl

/-- The response of the second call closes the circuit, though it was admitted before the circuit
    opened. -/
theorem stale_result_decides :
    ¬ ∀ (past : History Int Unit) (s : Sys Int), Run (timedInterceptor 1 5 [.unavailable]) past s →
      (∀ c ∈ s.calls, c.kind.streamsResponses = false) →
      ∀ i (response : Reply Unit) t s', i < admittedAtOpening past →
        Step s (.unaryEnd i response t) s' → Timely s (.unaryEnd i response t : Event Int Unit) →
        s'.breaker.assigned = s.breaker.assigned := by
  intro unchanged
  have same := unchanged _ _ onTrial_run (by decide) 1 _ 9 _ (by decide) decided_step
    ⟨by decide, by decide⟩
  cases congrArg Prod.fst same

/-- The step that closes the circuit is not free of effect, and the call it completes was admitted
    before the opening. -/
theorem stale_law_onTrial :
    ¬ decided.breaker.assigned = onTrial.breaker.assigned ∧
      ∃ i, (Event.unaryEnd 1 (.response ()) 9 : Event Int Unit).completes = some i ∧
        (i < admittedAtOpening onTrialHistory ∨ admittedAtTrial onTrialHistory ≤ i) := by
  obtain ⟨effect, leaves⟩ := stale_law (by decide) onTrial_run.unrestrict
  constructor
  · rw [effect 1 _ 9 _ (by decide) decided_step]
    rintro (⟨_, other⟩ | ⟨⟨_, eq⟩, _⟩)
    · exact other rfl
    · cases eq
  · exact leaves _ _ decided_step rfl nofun

end GrpcSample
