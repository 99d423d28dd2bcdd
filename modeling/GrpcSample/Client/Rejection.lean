import GrpcSample.Client.Stack
import Mathlib.Data.Int.Order.Basic

/-!
# What a rejected call becomes

The breaker rejects a call by returning `None`. The retry handler takes `None` for a response, since
it is no `RpcError`, and returns it; on the stream path it iterates it. So the caller is told of a
rejection by something that is neither a response nor an `RpcError`, and `answered_iff` says for
every state of the breaker, script and clock when that is avoided: on the unary path when none of
the attempts that the script can cause is turned down, which `TurnedDown` reads off the breaker
before the call and the clock; on the stream path when the one attempt is admitted and the stream
does not fail at all.
-/

namespace GrpcSample.Retry

variable {T β : Type*} [LinearOrder T] [Add T]

/-- The call came back with a response of the server, from an attempt that was made, or with an
    `RpcError`. -/
def Answered (script : ℕ → Reply β) (result : Option (Reply β)) (served : ℕ) : Prop :=
  (∃ m, result = some (.response m) ∧ ∃ i < served, script i = .response m) ∨
    ∃ status, result = some (.rpcError status)

/-- The same for a stream: it delivered what an attempt delivered that ended with status OK, or it
    raised an `RpcError`. -/
def StreamAnswered (script : ℕ → StreamCall β) (delivery : Delivery β) (served : ℕ) : Prop :=
  (delivery.ending = .stopIteration ∧ ∃ i < served, script i = ⟨delivery.messages, none⟩) ∨
    ∃ status, delivery.ending = .rpcError status

variable {h : Retry} {b : Breaker T} {clock : ℕ → Breaker.Readings T}

/-- A unary call is answered if there is an attempt and no attempt is turned down. -/
lemma unary_answered_iff {script : ℕ → Reply β} :
    Answered script (h.stackedUnaryCall b clock script).1 (h.stackedUnaryCall b clock script).2.2 ↔
      1 ≤ h.maxAttempts ∧ ∀ i : ℕ, i < h.maxAttempts →
        (∀ k < i, h.Retries k (some (script k))) → ¬ TurnedDown b clock i := by
  have same : (∀ i : ℕ, (i < h.maxAttempts ∧ ∀ k < i, h.Retries k (some (script k))) →
      ¬ RejectedAt b clock i) ↔ _ :=
    admitted_iff fun i reached k lt => ⟨by omega, fun m lt' => reached.2 m (lt'.trans lt)⟩
  simp only [and_imp] at same
  rw [← same]
  rcases Int.lt_or_le 0 h.maxAttempts with positive | zero
  · obtain ⟨j, _, ⟨admitted, answer, served⟩ | ⟨⟨i, lt, retries, rejected⟩, none⟩⟩ :=
      stackedUnaryCall_cases positive b clock script
    · rw [answer, served]
      refine ⟨fun _ => ⟨positive, admitted⟩, fun _ => ?_⟩
      cases reply : script j with
      | response m => exact .inl ⟨m, rfl, j, j.lt_succ_self, reply⟩
      | rpcError status => exact .inr ⟨status, rfl⟩
    · rw [none]
      refine ⟨?_, fun admitted => absurd rejected (admitted.2 i lt retries)⟩
      rintro (⟨_, eq, _⟩ | ⟨_, eq⟩) <;> cases eq
  · rw [stackedUnaryCall, interceptUnaryCall_zero zero]
    refine ⟨?_, fun some => by omega⟩
    rintro (⟨_, eq, _⟩ | ⟨_, eq⟩) <;> cases eq

omit [LinearOrder T] [Add T] in
/-- Behind the stack a stream never ends with an `RpcError`. -/
lemma endsBehind_ne_rpcError {c : StreamCall β} {status : StatusCode} :
    endsBehind b c ≠ .rpcError status := by
  unfold endsBehind
  split
  · exact nofun
  · next ending h => exact h status

/-- A stream is answered if its one attempt is admitted and ends with status OK. -/
lemma stream_answered_iff {script : ℕ → StreamCall β} :
    StreamAnswered script (h.stackedStreamCall b clock script).1
        (h.stackedStreamCall b clock script).2.2 ↔
      1 ≤ h.maxAttempts ∧ ¬ b.Rejects (clock 0).first (clock 0).second ∧
        (script 0).error = none := by
  rcases Int.lt_or_le 0 h.maxAttempts with positive | zero
  · rcases Classical.em (b.Rejects (clock 0).first (clock 0).second) with rejected | admitted
    · obtain ⟨delivery, _⟩ := stackedStreamCall_rejected script positive rejected
      rw [delivery]
      refine ⟨?_, fun cond => absurd rejected cond.2.1⟩
      rintro (⟨eq, _⟩ | ⟨_, eq⟩) <;> cases eq
    · obtain ⟨delivery, served⟩ := stackedStreamCall_admitted script positive admitted
      rw [delivery, served]
      constructor
      · rintro (⟨_, i, lt, eq⟩ | ⟨status, eq⟩)
        · obtain rfl : i = 0 := by omega
          exact ⟨positive, admitted, congrArg StreamCall.error eq⟩
        · exact absurd eq endsBehind_ne_rpcError
      · rintro ⟨_, _, ok⟩
        have eq : script 0 = ⟨(script 0).messages, none⟩ := by
          rw [← ok]
        refine .inl ⟨?_, 0, Nat.one_pos, eq⟩
        rw [eq]
        rfl
  · rw [stackedStreamCall, interceptStreamCall_zero zero]
    refine ⟨?_, fun some => by omega⟩
    rintro (⟨_, i, lt, _⟩ | ⟨_, eq⟩)
    · exact absurd lt (Nat.not_lt_zero i)
    · cases eq

/-- A call through the stack comes back with a response of the server or an `RpcError` if and only
    if: on the unary path, there is an attempt and none that the script can cause is turned down; on
    the stream path, the first attempt is admitted and ends with status OK. -/
theorem answered_iff (h : Retry) (b : Breaker T) (clock : ℕ → Breaker.Readings T)
    (unary : ℕ → Reply β) (stream : ℕ → StreamCall β) :
    (Answered unary (h.stackedUnaryCall b clock unary).1 (h.stackedUnaryCall b clock unary).2.2 ↔
      1 ≤ h.maxAttempts ∧ ∀ i : ℕ, i < h.maxAttempts →
        (∀ k < i, h.Retries k (some (unary k))) → ¬ TurnedDown b clock i) ∧
    (StreamAnswered stream (h.stackedStreamCall b clock stream).1
        (h.stackedStreamCall b clock stream).2.2 ↔
      1 ≤ h.maxAttempts ∧ ¬ b.Rejects (clock 0).first (clock 0).second ∧
        (stream 0).error = none) :=
  ⟨unary_answered_iff, stream_answered_iff⟩

/-- Every attempt fails. -/
def unavailable (_ : ℕ) : Reply Unit :=
  .rpcError .unavailable

/-- The clock stands at 4. -/
def atFour (_ : ℕ) : Breaker.Readings Int :=
  ⟨4, 4, 4⟩

/-- The clock stands at 3. -/
def atThree (_ : ℕ) : Breaker.Readings Int :=
  ⟨3, 3, 3⟩

/-- The client's first call fails three times at 3, which opens the circuit; the second call follows
    at 4, within the recovery timeout, and comes back with `None`. -/
theorem rejected_call_not_answered :
    ¬ ∀ first second : ℕ → Reply Unit,
      let b := (clientRetry.stackedUnaryCall (clientBreaker 0) atThree first).2.1
      Answered second (clientRetry.stackedUnaryCall b atFour second).1
        (clientRetry.stackedUnaryCall b atFour second).2.2 := by
  intro answered
  have none : (clientRetry.stackedUnaryCall
      (clientRetry.stackedUnaryCall (clientBreaker 0) atThree unavailable).2.1 atFour
      unavailable).1 = none := by decide
  rcases answered unavailable unavailable with ⟨_, eq, _⟩ | ⟨_, eq⟩ <;>
  · rw [none] at eq
    cases eq

end GrpcSample.Retry
