import GrpcSample.Client.Outage
import GrpcSample.Server.Crashing

/-!
# Retrying against a crashing server

What the client gets from a server that fails at random, each attempt with a draw of its own. The
simulated failures have the statuses that the client retries, and come before any response
(`Server/Crashing.lean`), so the retry handler alone gets the whole response if one of the draws
that `max_attempts` allows is quiet, and otherwise nothing.

Behind the breaker it is less. A unary call whose attempts follow one another within the recovery
timeout has those that the breaker has room for (`Outage.lean`), and a response stream has one: the
draws after the first do not matter to it, and its consumer is not told that the stream has failed
(`resilience`).
-/

namespace GrpcSample

variable {T β : Type*}

/-- What a call with a single response is: its message, or its error. -/
def StreamCall.reply : StreamCall β → Option (Reply β)
  | ⟨_, some status⟩ => some (.rpcError status)
  | ⟨[r], none⟩ => some (.response r)
  | ⟨[], none⟩ | ⟨_ :: _ :: _, none⟩ => none

/-- The failures are those that are drawn. -/
lemma simulated_of_failure {d : Draw} {status : StatusCode} (drawn : randomFailure d = some status) :
    status ∈ simulated := by
  unfold randomFailure at drawn
  split at drawn
  · cases drawn
    exact List.get_mem _ _
  · cases drawn

namespace Retry

variable {h : Retry} {call : Draw → StreamCall β} {responses : List β} {r : β} {draws : ℕ → Draw}
  {script : ℕ → Reply β} {i : ℕ}

/-- An attempt whose draw fails is tried again, except for the last. -/
def RetriesDraw (h : Retry) (draws : ℕ → Draw) (i : ℕ) : Prop :=
  i ≠ h.maxAttempts - 1 ∧ randomFailure (draws i) ≠ none

/-- A stream is tried again as its draw says, under a handler that retries the simulated failures.
    -/
lemma retriesCall_iff (crashes : Crashes call responses) (retried : simulated ⊆ h.statusForRetry) :
    h.RetriesCall i (call (draws i)) ↔ h.RetriesDraw draws i := by
  rw [crashes, allOrNothing, RetriesCall, RetriesDraw]
  apply and_congr_right'
  cases drawn : randomFailure (draws i) with
  | none => simp
  | some status =>
    refine ⟨fun _ => Option.some_ne_none status, fun _ => ?_⟩
    exact ⟨status, retried (simulated_of_failure drawn), rfl⟩

/-- The reply to an attempt. -/
lemma script_eq (crashes : Crashes call [r])
    (replies : ∀ i, (call (draws i)).reply = some (script i)) :
    script i =
      match randomFailure (draws i) with
      | some status => .rpcError status
      | none => .response r := by
  have reply := replies i
  rw [crashes, allOrNothing] at reply
  cases drawn : randomFailure (draws i) with
  | none =>
    rw [drawn] at reply
    exact (Option.some.inj reply).symm
  | some status =>
    rw [drawn] at reply
    exact (Option.some.inj reply).symm

/-- A call with a single response is tried again as its draw says. -/
lemma retries_script_iff (crashes : Crashes call [r]) (retried : simulated ⊆ h.statusForRetry)
    (replies : ∀ i, (call (draws i)).reply = some (script i)) :
    h.Retries i (some (script i)) ↔ h.RetriesDraw draws i := by
  rw [script_eq crashes replies, Retries, RetriesDraw]
  apply and_congr_right'
  cases drawn : randomFailure (draws i) with
  | none => simp
  | some status =>
    refine ⟨fun _ => Option.some_ne_none status, fun _ => ?_⟩
    exact ⟨status, retried (simulated_of_failure drawn), rfl⟩

/-- The attempt that a call stops with is quiet if and only if one is that it may make. -/
lemma quiet_iff {j : ℕ} (lt : j < h.maxAttempts) (retries : ∀ i < j, h.RetriesDraw draws i)
    (returns : ¬ h.RetriesDraw draws j) :
    randomFailure (draws j) = none ↔
      ∃ k : ℕ, k < h.maxAttempts ∧ randomFailure (draws k) = none := by
  refine ⟨fun quiet => ⟨j, lt, quiet⟩, ?_⟩
  rintro ⟨k, le, quiet⟩
  rcases Nat.lt_trichotomy k j with before | rfl | after
  · exact absurd quiet (retries k before).2
  · exact quiet
  · by_contra failed
    exact returns ⟨by omega, failed⟩

/-- The retry handler over the server: everything if a draw is quiet that it may get to, and nothing
    otherwise, without an error. -/
lemma directStreamCall_crashes (crashes : Crashes call responses)
    (retried : simulated ⊆ h.statusForRetry) (positive : 1 ≤ h.maxAttempts) :
    ((∃ k : ℕ, k < h.maxAttempts ∧ randomFailure (draws k) = none) →
        (h.directStreamCall fun i => call (draws i)).1 = ⟨responses, .stopIteration⟩) ∧
      ((¬ ∃ k : ℕ, k < h.maxAttempts ∧ randomFailure (draws k) = none) →
        (h.directStreamCall fun i => call (draws i)).1 = ⟨[], .stopIteration⟩) := by
  obtain ⟨j, lt, retries, returns⟩ := exists_last positive
    fun i (retries : h.RetriesDraw draws i) => retries.1
  have eq := directStreamCall_eq lt
    (fun i lt => (retriesCall_iff crashes retried).mpr (retries i lt))
    (mt (retriesCall_iff crashes retried).mp returns)
  rw [eq, ← quiet_iff lt retries returns, crashes, allOrNothing]
  constructor
  · intro quiet
    rw [quiet]
    rfl
  · intro failed
    obtain ⟨status, drawn⟩ := Option.ne_none_iff_exists'.mp failed
    rw [drawn]
    rfl

variable [LinearOrder T] [Add T] {b : Breaker T} {clock : ℕ → Breaker.Readings T}

/-- Through the stack only the first draw counts. -/
lemma stackedStreamCall_crashes (crashes : Crashes call responses)
    (counted : simulated ⊆ b.statusForRetry) (positive : 1 ≤ h.maxAttempts)
    (admitted : ¬ b.Rejects (clock 0).first (clock 0).second) :
    (h.stackedStreamCall b clock fun i => call (draws i)).1 =
      ⟨if randomFailure (draws 0) = none then responses else [], .stopIteration⟩ := by
  rw [stackedStreamCall_eq_admitted _ positive admitted]
  simp only [crashes (draws 0), allOrNothing]
  cases drawn : randomFailure (draws 0) with
  | none => rfl
  | some status =>
    have swallowed : endsBehind b (⟨[], some status⟩ : StreamCall β) = .stopIteration := by
      simp [endsBehind, Breaker.streamEnds, counted (simulated_of_failure drawn)]
    rw [swallowed]
    rfl

/-- A unary call through the stack gets the response if a draw is quiet among those that both the
    retry handler and the breaker leave room for. -/
lemma stackedUnaryCall_crashes (crashes : Crashes call [r])
    (replies : ∀ i, (call (draws i)).reply = some (script i))
    (retried : simulated ⊆ h.statusForRetry) (positive : 1 ≤ h.maxAttempts)
    (closed : b.state = .closed) (room : b.failureCount < b.failureThreshold)
    (onTime : ∀ i, b.recoveryTime ≤ (clock i).second)
    (prompt : ∀ i, (clock (i + 1)).first ≤ (clock i).done + b.recoveryTimeout) :
    (h.stackedUnaryCall b clock script).1 = some (.response r) ↔
      ∃ k : ℕ, k < h.maxAttempts ∧ k < slack b ∧ randomFailure (draws k) = none := by
  obtain ⟨j, lt, retries, returns⟩ := exists_last positive
    fun i (retries : h.RetriesDraw draws i) => retries.1
  have retries' : ∀ i < j, h.Retries i (some (script i)) :=
    fun i lt => (retries_script_iff crashes retried replies).mpr (retries i lt)
  have returns' : ¬ h.Retries j (some (script j)) :=
    mt (retries_script_iff crashes retried replies).mp returns
  rcases Nat.lt_or_ge j (slack b) with within | beyond
  · rw [(stackedUnaryCall_within closed onTime lt retries' returns' within).1,
      script_eq crashes replies]
    constructor
    · intro answered
      refine ⟨j, lt, within, ?_⟩
      cases drawn : randomFailure (draws j) with
      | none => rfl
      | some status =>
        rw [drawn] at answered
        cases answered
    · rintro ⟨k, le, _, quiet⟩
      rw [(quiet_iff lt retries returns).mpr ⟨k, le, quiet⟩]
  · rw [(stackedUnaryCall_beyond closed room onTime prompt lt retries' beyond).1]
    refine ⟨nofun, ?_⟩
    rintro ⟨k, _, few, quiet⟩
    exact absurd quiet (retries k (Nat.lt_of_lt_of_le few beyond)).2

/-- What the client gets from a method that crashes at random, of which each attempt makes a draw,
    when there is an attempt and both lists contain the statuses that are drawn. The retry handler
    alone gets a response stream if a draw is quiet that it may get to, and otherwise nothing.
    Behind a `CLOSED` breaker with room for a failure, whose `_recovery_time` the clock has reached,
    a response stream depends on the first draw alone; and a single response, if each attempt begins
    within the recovery timeout of the end of the one before, on the draws that there is room for.
    Streams end normally in any case. -/
theorem resilience {γ : Type*} {single : Draw → StreamCall γ} {answer : γ} (h : Retry)
    (draws : ℕ → Draw) (script : ℕ → Reply γ) (streams : Crashes call responses)
    (answers : Crashes single [answer])
    (replies : ∀ i, (single (draws i)).reply = some (script i)) (positive : 1 ≤ h.maxAttempts)
    (retried : simulated ⊆ h.statusForRetry) (counted : simulated ⊆ b.statusForRetry)
    (closed : b.state = .closed) (room : b.failureCount < b.failureThreshold)
    (onTime : ∀ i, b.recoveryTime ≤ (clock i).second)
    (prompt : ∀ i, (clock (i + 1)).first ≤ (clock i).done + b.recoveryTimeout) :
    (((∃ k : ℕ, k < h.maxAttempts ∧ randomFailure (draws k) = none) →
          (h.directStreamCall fun i => call (draws i)).1 = ⟨responses, .stopIteration⟩) ∧
        ((¬ ∃ k : ℕ, k < h.maxAttempts ∧ randomFailure (draws k) = none) →
          (h.directStreamCall fun i => call (draws i)).1 = ⟨[], .stopIteration⟩)) ∧
      (h.stackedStreamCall b clock fun i => call (draws i)).1 =
        ⟨if randomFailure (draws 0) = none then responses else [], .stopIteration⟩ ∧
      ((h.stackedUnaryCall b clock script).1 = some (.response answer) ↔
        ∃ k : ℕ, k < h.maxAttempts ∧ k < slack b ∧ randomFailure (draws k) = none) := by
  refine ⟨directStreamCall_crashes streams retried positive, ?_, ?_⟩
  · apply stackedStreamCall_crashes streams counted positive
    rw [rejects_iff_of_closed closed]
    exact not_lt.mpr (onTime 0)
  · exact stackedUnaryCall_crashes answers replies retried positive closed room onTime prompt

/-- The first draw fails, the others do not. -/
def secondCalm (i : ℕ) : Draw :=
  if i = 0 then crash else calm

/-- What `downloadStream` of the Python server answers to these draws. -/
def secondRecorded (i : ℕ) : Reply Recording :=
  if i = 0 then .rpcError .unavailable else .response (recording utf8)

/-- `watchStream` of the Kotlin server gets through the retry handler, but not through the stack;
    `downloadStream` of the Python server gets through the stack. -/
theorem resilience_secondCalm :
    (clientRetry.directStreamCall fun i => answerCall (Kotlin.watchStream (secondCalm i))).1 =
        ⟨[3, 2, 1, 0].map (watched utf8), .stopIteration⟩ ∧
      (clientRetry.stackedStreamCall (clientBreaker 0) eachSecond
        fun i => answerCall (Kotlin.watchStream (secondCalm i))).1 = ⟨[], .stopIteration⟩ ∧
      (clientRetry.stackedUnaryCall (clientBreaker 0) eachSecond secondRecorded).1 =
        some (.response (recording utf8)) := by
  have watches : Crashes (fun d => answerCall (Kotlin.watchStream d))
      ([3, 2, 1, 0].map (watched utf8)) := crashes_answering rfl
  have replies : ∀ i, (replyCall raisedStatus (Python.downloadStream (secondCalm i))).reply =
      some (secondRecorded i) := by
    intro i
    cases i <;> rfl
  have onTime : ∀ i, (clientBreaker 0).recoveryTime ≤ (eachSecond i).second := by
    intro i
    show (0 : Int) ≤ 3 * i + 2
    omega
  have prompt : ∀ i, (eachSecond (i + 1)).first ≤
      (eachSecond i).done + (clientBreaker 0).recoveryTimeout := by
    intro i
    show (3 * ((i + 1 : ℕ) : Int) + 1) ≤ 3 * i + 3 + 5
    omega
  obtain ⟨⟨direct, _⟩, stacked, unary⟩ := resilience clientRetry secondCalm secondRecorded watches
    (crashes_downloadStream fun _ => rfl) replies (by decide) (List.Subset.refl _)
    (List.Subset.refl _) rfl (by decide) onTime prompt
  exact ⟨direct ⟨1, by decide, rfl⟩, stacked, unary.mpr ⟨1, by decide, by decide, rfl⟩⟩

end Retry

end GrpcSample
