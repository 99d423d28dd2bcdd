import GrpcSample.Retry.Backoff
import Mathlib.Order.Bounds.Basic

/-!
# The schedule of unary calls

How often a unary call is attempted, what it returns and when it sleeps. The number of attempts is a
least element: of `max_attempts` and the positions of the outcomes that are final. Everything else
follows from it by the journal (`Journal.lean`), and the bounds on the sleeps from those of
`ExponentialBackoff`.
-/

namespace GrpcSample.Retry

variable {σ β : Type*} {h : Retry} {i j : ℕ}

/-- A response, or an error whose status is not retried. -/
def Final (h : Retry) (r : Reply β) : Prop :=
  ∀ status ∈ h.statusForRetry, r ≠ .rpcError status

/-- An attempt is retried unless it is the last one or final. -/
lemma retries_iff {r : Reply β} :
    h.Retries i (some r) ↔ i ≠ h.maxAttempts - 1 ∧ ¬ h.Final r := by
  constructor
  · rintro ⟨more, status, mem, eq⟩
    exact ⟨more, fun final => final status mem (Option.some.inj eq)⟩
  · rintro ⟨more, retried⟩
    refine ⟨more, ?_⟩
    by_contra none
    exact retried fun status mem eq => none ⟨status, mem, congrArg some eq⟩

/-- The first attempt that is not retried is the first position of a final outcome, or the last that
    `max_attempts` allows. -/
lemma isLeast_attempts {script : ℕ → Reply β} (lt : j < h.maxAttempts)
    (retries : ∀ i < j, h.Retries i (some (script i))) (returns : ¬ h.Retries j (some (script j))) :
    IsLeast ({h.maxAttempts.toNat} ∪ {p | 1 ≤ p ∧ h.Final (script (p - 1))}) (j + 1) := by
  constructor
  · by_cases last : (j : Int) = h.maxAttempts - 1
    · left
      show j + 1 = h.maxAttempts.toNat
      omega
    · right
      refine ⟨Nat.succ_pos j, ?_⟩
      by_contra retried
      exact returns (retries_iff.mpr ⟨last, retried⟩)
  · rintro p (rfl | ⟨positive, final⟩)
    · omega
    · by_contra before
      exact (retries_iff.mp (retries (p - 1) (by omega))).2 final

/-- A unary call makes `n` attempts, where `n` is the smaller of `max_attempts` and the position of
    the first response or error that is not retried, returns the `n`-th outcome, and sleeps with
    `0`, .., `n - 2` in between. Under `ExponentialBackoff` sleep `i` is at most
    `min (init_backoff * multiplier ^ i) max_backoff`, whatever is drawn. -/
theorem unary_schedule (h : Retry) (policy : ℕ → σ → σ) (start : σ) (b : ExponentialBackoff)
    (draws : ℕ → ℕ) (script : ℕ → Reply β) (positive : 1 ≤ h.maxAttempts) :
    ∃ n, IsLeast ({h.maxAttempts.toNat} ∪ {p | 1 ≤ p ∧ h.Final (script (p - 1))}) n ∧
      (h.scriptedUnaryCall policy start script).1 = some (script (n - 1)) ∧
      (h.scriptedUnaryCall policy start script).2.attempts = n ∧
      (h.scriptedUnaryCall policy start script).2.sleeps = List.range (n - 1) ∧
      (h.scriptedUnaryCall policy start script).2.actions.getLast? = some .attempt ∧
      (h.scriptedUnaryCall (b.asPolicy draws) [] script).2.policy.length = n - 1 ∧
      b.Within (h.scriptedUnaryCall (b.asPolicy draws) [] script).2.policy := by
  obtain ⟨j, lt, retries, returns⟩ := exists_last positive
    fun i (retries : h.Retries i (some (script i))) => retries.1
  refine ⟨j + 1, isLeast_attempts lt retries returns, ?_⟩
  rw [scriptedUnaryCall_eq lt retries returns, scriptedUnaryCall_eq lt retries returns]
  exact ⟨rfl, journalEnd_attempts, journalEnd_sleeps, List.getLast?_concat,
    ExponentialBackoff.policyAt_length, ExponentialBackoff.within_policyAt⟩

/-- An error that is retried, then a response. -/
def secondAnswers (i : ℕ) : Reply Unit :=
  if i = 0 then .rpcError .unavailable else .response ()

/-- The second attempt is answered, so there are two. -/
theorem unary_schedule_secondAnswers : ∃ n,
    IsLeast ({3} ∪ {p | 1 ≤ p ∧ (⟨3, [.unavailable]⟩ : Retry).Final (secondAnswers (p - 1))}) n ∧
      (scriptedUnaryCall ⟨3, [.unavailable]⟩ (fun _ s => s) () secondAnswers).2.attempts = n := by
  obtain ⟨n, least, _, attempts, _⟩ := unary_schedule ⟨3, [.unavailable]⟩ (fun _ s => s) ()
    (.init 500 5000 2 77) (fun _ => 1234) secondAnswers (by decide)
  exact ⟨n, least, attempts⟩

-- The loop of `_intercept_stream_call` tests the same two conditions in the other order, and looks
-- at the error only when the iteration raises. It tries a stream again exactly when the other loop
-- would try a call again that came back with what the stream begins with.

/-- What a response stream begins with: its error, or something that is not tried again. -/
def beginning : StreamCall β → Reply Unit
  | ⟨[], some status⟩ => .rpcError status
  | ⟨[], none⟩ | ⟨_ :: _, _⟩ => .response ()

/-- A stream is retried as a call that came back with its beginning. -/
lemma retriesCall_iff_beginning {c : StreamCall β} :
    h.RetriesCall i c ↔ h.Retries i (some (beginning c)) := by
  apply and_congr_right'
  obtain ⟨messages, error⟩ := c
  cases messages with
  | nil => cases error <;> simp [beginning]
  | cons m ms => simp [beginning]

/-- Both loops make the same attempts and sleeps: those of a stream are, action by action and with
    any sleeping policy, those of the unary call whose outcomes are what the streams begin with. The
    consumer gets the messages of the last attempt, if there is one. -/
theorem stream_schedule (h : Retry) (policy : ℕ → σ → σ) (start : σ) (script : ℕ → StreamCall β) :
    (h.scriptedStreamCall policy start script).2 =
        (h.scriptedUnaryCall policy start fun i => beginning (script i)).2 ∧
      (h.scriptedStreamCall policy start script).1 =
        match (h.scriptedStreamCall policy start script).2.attempts with
        | 0 => ⟨[], .stopIteration⟩
        | n + 1 => ⟨(script n).messages, ends (script n)⟩ := by
  rcases Int.lt_or_le 0 h.maxAttempts with positive | zero
  · obtain ⟨j, lt, retries, returns⟩ := exists_last positive
      fun i (retries : h.RetriesCall i (script i)) => retries.1
    have unary : h.scriptedUnaryCall policy start (fun i => beginning (script i)) = _ :=
      scriptedUnaryCall_eq lt (fun i lt => retriesCall_iff_beginning.mp (retries i lt))
        (mt retriesCall_iff_beginning.mpr returns)
    rw [scriptedStreamCall_eq lt retries returns, unary, journalEnd_attempts]
    exact ⟨rfl, rfl⟩
  · rw [scriptedStreamCall, scriptedUnaryCall, interceptStreamCall_zero zero,
      interceptUnaryCall_zero zero]
    exact ⟨rfl, rfl⟩

end GrpcSample.Retry
