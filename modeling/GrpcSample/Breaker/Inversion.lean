import GrpcSample.Breaker.Interceptor

/-!
# Breaker inversion

What one call of a setter, of the admission check or of a completion can do, said once. `Opens` and
`Rejects` are the two decisions of the code as predicates on the fields: an assignment to
`failure_count` opens the circuit, an admission is rejected. Everything later cites the equations
below and unfolds no method of `Interceptor.lean`.

With a threshold of at least one the assignments of zero are harmless, and `_call_unary`'s
`self.state = self.CLOSED; self.failure_count = 0` just closes the circuit (`close_eq`).
-/

namespace GrpcSample.Breaker

variable {T β ω : Type*}

/-- Assigning `newValue` to `failure_count` sets the state to `OPENED`. -/
def Opens (b : Breaker T) (newValue : Int) : Prop :=
  newValue = b.failureThreshold ∨ newValue > b.failureCount ∧ b.state = .halfOpened

/-- Whether an assignment opens can be decided. -/
instance (b : Breaker T) (newValue : Int) : Decidable (b.Opens newValue) :=
  inferInstanceAs (Decidable (_ ∨ _))

/-- The breaker just after the circuit has closed again. -/
def closed (b : Breaker T) : Breaker T :=
  { b with state := .closed, failureCount := 0 }

/-- The assignment of zero to a circuit that has closed does not open it. -/
lemma not_opens_zero {b : Breaker T} (threshold : 1 ≤ b.failureThreshold) : ¬ b.closed.Opens 0 := by
  rintro (h | ⟨_, h⟩)
  · have : (0 : Int) = b.failureThreshold := h
    omega
  · cases h

section
variable [Add T]

/-- The breaker just after the circuit has opened. -/
def opened (b : Breaker T) (now : T) : Breaker T :=
  { b.setOpened now with failureCount := 0 }

/-- An assignment that opens sets the counter to zero. -/
lemma setFailureCount_opens {b : Breaker T} {v : Int} (h : b.Opens v) (now : T) :
    b.setFailureCount v now = b.opened now := by
  unfold setFailureCount
  by_cases e : v = b.failureThreshold
  · rw [if_pos e]
    rfl
  · rw [if_neg e, if_pos (h.resolve_left e)]
    rfl

/-- Any other one sets the counter alone. -/
lemma setFailureCount_keeps {b : Breaker T} {v : Int} (h : ¬ b.Opens v) (now : T) :
    b.setFailureCount v now = { b with failureCount := v } := by
  unfold setFailureCount
  rw [if_neg fun e => h (.inl e), if_neg fun e => h (.inr e)]

/-- No assignment to the counter changes the timeout. -/
lemma setFailureCount_recoveryTimeout {b : Breaker T} {v : Int} {now : T} :
    (b.setFailureCount v now).recoveryTimeout = b.recoveryTimeout := by
  by_cases h : b.Opens v
  · rw [setFailureCount_opens h]
    rfl
  · rw [setFailureCount_keeps h]

/-- The two assignments of a recovery close the circuit. -/
lemma close_eq {b : Breaker T} (threshold : 1 ≤ b.failureThreshold) (now : T) :
    (b.setState .closed now).setFailureCount 0 now = b.closed := by
  have inner : b.setState .closed now = b.closed := by
    apply setFailureCount_keeps
    rintro (h | ⟨_, h⟩)
    · exact not_opens_zero threshold (.inl h)
    · cases h
  rw [inner]
  exact setFailureCount_keeps (not_opens_zero threshold) now

/-- A call that fails is counted, whatever its status is. -/
lemma afterUnary_rpcError {b : Breaker T} {s : StatusCode} {now : T} :
    b.afterUnary (.rpcError s : Reply β) now = b.setFailureCount (b.failureCount + 1) now := rfl

/-- A response closes a half-open circuit and does nothing to any other one. -/
lemma afterUnary_response {b : Breaker T} (threshold : b.state = .halfOpened → 1 ≤ b.failureThreshold)
    {m : β} {now : T} :
    b.afterUnary (.response m) now = if b.state = .halfOpened then b.closed else b := by
  show (if b.state = .halfOpened then (b.setState .closed now).setFailureCount 0 now else b) = _
  split
  · next half => exact close_eq (threshold half) now
  · rfl

/-- A stream that ends normally does nothing to the breaker. -/
lemma afterStream_ok {b : Breaker T} {ms : List β} {now : T} :
    b.afterStream ⟨ms, none⟩ now = (b, ⟨ms, .stopIteration⟩) := rfl

/-- Nor does one that fails after a message: the handler itself raises `AttributeError`. -/
lemma afterStream_late {b : Breaker T} {m : β} {ms : List β} {s : StatusCode} {now : T} :
    b.afterStream ⟨m :: ms, some s⟩ now = (b, ⟨m :: ms, .attributeError⟩) := by
  simp [afterStream]

/-- A stream that fails with a retryable status before its first message is counted, and its
    consumer is told nothing. -/
lemma afterStream_retryable {b : Breaker T} {s : StatusCode} (h : s ∈ b.statusForRetry) {now : T} :
    b.afterStream (⟨[], some s⟩ : StreamCall β) now =
      (b.setFailureCount (b.failureCount + 1) now, ⟨[], .stopIteration⟩) := by
  simp [afterStream, Binding.code, h]

/-- One that fails with another status closes a half-open circuit and raises the error again. -/
lemma afterStream_other {b : Breaker T} (threshold : b.state = .halfOpened → 1 ≤ b.failureThreshold)
    {s : StatusCode} (h : s ∉ b.statusForRetry) {now : T} :
    b.afterStream (⟨[], some s⟩ : StreamCall β) now =
      (if b.state = .halfOpened then b.closed else b, ⟨[], .rpcError s⟩) := by
  simp only [afterStream, Binding.after_nil, Binding.code, StreamCall.code_some, h, if_false,
    Binding.list, StreamCall.ending_some]
  split
  · next half => rw [close_eq (threshold half)]
  · rfl

/-- How a stream that the breaker has admitted ends for its consumer. -/
def streamEnds (b : Breaker T) (c : StreamCall β) : Ending :=
  match c with
  | ⟨_, none⟩ => .stopIteration
  | ⟨[], some status⟩ => if status ∈ b.statusForRetry then .stopIteration else .rpcError status
  | ⟨_ :: _, some _⟩ => .attributeError

/-- The consumer gets the messages, and the end that the breaker makes of the call's. -/
lemma afterStream_snd {b : Breaker T} {c : StreamCall β} {now : T} :
    (b.afterStream c now).2 = ⟨c.messages, b.streamEnds c⟩ := by
  obtain ⟨messages, error⟩ := c
  cases error with
  | none => cases messages <;> rfl
  | some status =>
    cases messages with
    | cons m ms => rw [afterStream_late, streamEnds]
    | nil =>
      simp only [afterStream, streamEnds, Binding.after_nil, Binding.code, StreamCall.code_some]
      split
      · rfl
      · split <;> rfl

end

variable [LinearOrder T] [Add T]

/-- The check turns an admission down, `t₁` and `t₂` being its two readings. -/
def Rejects (b : Breaker T) (t₁ t₂ : T) : Prop :=
  b.state = .opened ∧ t₁ ≤ b.recoveryTime ∨ t₂ < b.recoveryTime

/-- Whether a check rejects can be decided. -/
instance (b : Breaker T) (t₁ t₂ : T) : Decidable (b.Rejects t₁ t₂) :=
  inferInstanceAs (Decidable (_ ∨ _))

/-- The check makes an open circuit half-open when its window is over. -/
lemma isOpenCircuit_snd {b : Breaker T} {t₁ t₂ : T} :
    (b.isOpenCircuit t₁ t₂).2 =
      if b.recoveryTime < t₁ ∧ b.state = .opened then { b with state := .halfOpened } else b := rfl

/-- The check does not change how a stream ends. -/
lemma streamEnds_checked {b : Breaker T} {c : StreamCall β} {t₁ t₂ : T} :
    (b.isOpenCircuit t₁ t₂).2.streamEnds c = b.streamEnds c := by
  rw [isOpenCircuit_snd]
  split <;> rfl

/-- A check that does not find the window passed leaves the breaker as it was. -/
lemma isOpenCircuit_snd_of_le {b : Breaker T} {t₁ t₂ : T}
    (h : b.state = .opened → t₁ ≤ b.recoveryTime) : (b.isOpenCircuit t₁ t₂).2 = b := by
  rw [isOpenCircuit_snd, if_neg]
  rintro ⟨lt, o⟩
  exact absurd lt (not_lt.mpr (h o))

/-- Its answer is whether it rejects. -/
@[simp] lemma isOpenCircuit_fst {b : Breaker T} {t₁ t₂ : T} :
    (b.isOpenCircuit t₁ t₂).1 = decide (b.Rejects t₁ t₂) := by
  unfold isOpenCircuit Rejects
  by_cases o : b.state = .opened
  · rcases lt_or_ge b.recoveryTime t₁ with lt | le
    · simp [o, lt, not_le.mpr lt, setState]
    · simp [o, le, not_lt.mpr le]
  · simp [o]

/-- A check that rejects. -/
lemma isOpenCircuit_rejected {b : Breaker T} {t₁ t₂ : T} (h : b.Rejects t₁ t₂) :
    b.isOpenCircuit t₁ t₂ = (true, (b.isOpenCircuit t₁ t₂).2) := by
  have check : (b.isOpenCircuit t₁ t₂).1 = true := by simpa using h
  rw [← check]

/-- A check that does not. -/
lemma isOpenCircuit_admitted {b : Breaker T} {t₁ t₂ : T} (h : ¬ b.Rejects t₁ t₂) :
    b.isOpenCircuit t₁ t₂ = (false, (b.isOpenCircuit t₁ t₂).2) := by
  have check : (b.isOpenCircuit t₁ t₂).1 = false := by simpa using h
  rw [← check]

omit [Add T] in
/-- Outside `OPENED` only the second comparison turns an admission down. -/
lemma rejects_iff_of_not_opened {b : Breaker T} {t₁ t₂ : T} (other : b.state ≠ .opened) :
    b.Rejects t₁ t₂ ↔ t₂ < b.recoveryTime := by
  constructor
  · rintro (⟨o, _⟩ | lt)
    · exact absurd o other
    · exact lt
  · exact .inr

/-- A check that admits a call leaves a breaker that is not `OPENED`. -/
lemma checked_not_opened {b : Breaker T} {t₁ t₂ : T} (admitted : ¬ b.Rejects t₁ t₂) :
    (b.isOpenCircuit t₁ t₂).2.state ≠ .opened := by
  rw [isOpenCircuit_snd]
  split
  · exact nofun
  · next stays =>
    intro o
    exact admitted (.inl ⟨o, not_lt.mp fun lt => stays ⟨lt, o⟩⟩)

/-- One that admits a call while the circuit is not `CLOSED` leaves it `HALF_OPENED`. -/
lemma checked_halfOpened {b : Breaker T} {t₁ t₂ : T} (admitted : ¬ b.Rejects t₁ t₂)
    (other : b.state ≠ .closed) : (b.isOpenCircuit t₁ t₂).2.state = .halfOpened := by
  have open' := checked_not_opened admitted
  rw [isOpenCircuit_snd] at open' ⊢
  split at open'
  · next passes => rw [if_pos passes]
  · next stays =>
    rw [if_neg stays]
    cases state : b.state with
    | opened => exact absurd state open'
    | closed => exact absurd state other
    | halfOpened => rfl

/-- The check assigns nothing but the state. -/
lemma checked_recoveryTimeout {b : Breaker T} {t₁ t₂ : T} :
    (b.isOpenCircuit t₁ t₂).2.recoveryTimeout = b.recoveryTimeout := by
  rw [isOpenCircuit_snd]
  split <;> rfl

section
variable {r : Readings T} {w : Breaker T × ω}

/-- A call that is rejected returns `None` and does not get to the continuation. -/
lemma interceptUnaryCall_rejected {continuation : ω → Reply β × ω}
    (h : w.1.Rejects r.first r.second) :
    interceptUnaryCall r continuation w = (none, (w.1.isOpenCircuit r.first r.second).2, w.2) := by
  rw [interceptUnaryCall, isOpenCircuit_rejected h]

/-- A call that is admitted returns what the continuation does. -/
lemma interceptUnaryCall_accepted {continuation : ω → Reply β × ω}
    (h : ¬ w.1.Rejects r.first r.second) :
    interceptUnaryCall r continuation w =
      (some (continuation w.2).1,
        (w.1.isOpenCircuit r.first r.second).2.afterUnary (continuation w.2).1 r.done,
        (continuation w.2).2) := by
  rw [interceptUnaryCall, isOpenCircuit_admitted h]

/-- A stream that is rejected returns `None`, too. -/
lemma interceptStreamCall_rejected {continuation : ω → StreamCall β × ω}
    (h : w.1.Rejects r.first r.second) :
    interceptStreamCall r continuation w = (.none, (w.1.isOpenCircuit r.first r.second).2, w.2) := by
  rw [interceptStreamCall, isOpenCircuit_rejected h]

/-- A stream that is admitted returns a generator, and calls the continuation when that is run. -/
lemma interceptStreamCall_accepted {continuation : ω → StreamCall β × ω}
    (h : ¬ w.1.Rejects r.first r.second) :
    interceptStreamCall r continuation w =
      (.generator fun w =>
        ((w.1.afterStream (continuation w.2).1 r.done).2,
          (w.1.afterStream (continuation w.2).1 r.done).1, (continuation w.2).2),
        (w.1.isOpenCircuit r.first r.second).2, w.2) := by
  rw [interceptStreamCall, isOpenCircuit_admitted h]

end

end GrpcSample.Breaker
