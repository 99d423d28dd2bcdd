import GrpcSample.Retry.Journal

/-!
# What a retried stream delivers

Messages are handed to the consumer before the attempt they belong to is known to succeed. That no
message is handed over twice rests on the name `response`: once a message has been delivered it no
longer stands for the call, `response.code()` raises, and the attempt is not tried again. So the
messages are those of the last attempt made (`stream_unmixed`).

How that attempt has ended the consumer is told only when it has ended with status OK
(`reported_iff`): the `return response` of a generator ends the iteration normally, and after a
message the error is replaced by an `AttributeError`.
-/

namespace GrpcSample.Retry

variable {σ β : Type*}

/-- A consumer of a stream gets the messages of the last attempt made and of no other: the earlier
    ones have delivered none. -/
theorem stream_unmixed (h : Retry) (policy : ℕ → σ → σ) (start : σ) (script : ℕ → StreamCall β)
    (positive : 1 ≤ h.maxAttempts) :
    let (delivery, journal) := h.scriptedStreamCall policy start script
    1 ≤ journal.attempts ∧ journal.attempts ≤ h.maxAttempts ∧
      delivery.messages = (script (journal.attempts - 1)).messages ∧
      ∀ i < journal.attempts - 1, (script i).messages = [] := by
  obtain ⟨j, lt, retries, returns⟩ := exists_last positive
    fun i (retries : h.RetriesCall i (script i)) => retries.1
  rw [scriptedStreamCall_eq lt retries returns]
  show _ ∧ _ ∧ _ ∧ _
  rw [journalEnd_attempts]
  refine ⟨j.succ_pos, by omega, rfl, ?_⟩
  intro i lt
  obtain ⟨_, status, _, eq⟩ := retries i lt
  rw [eq]

/-- Fails with `UNAVAILABLE` before any message, then delivers one. -/
def secondDelivers (i : ℕ) : StreamCall Unit :=
  if i = 0 then ⟨[], some .unavailable⟩ else ⟨[()], none⟩

/-- The first attempt delivers nothing, the second one everything. -/
theorem stream_unmixed_secondDelivers :
    let (delivery, journal) :=
      scriptedStreamCall ⟨3, [.unavailable]⟩ (fun _ s => s) () secondDelivers
    1 ≤ journal.attempts ∧ (journal.attempts : Int) ≤ 3 ∧
      delivery.messages = (secondDelivers (journal.attempts - 1)).messages ∧
      ∀ i < journal.attempts - 1, (secondDelivers i).messages = [] :=
  stream_unmixed ⟨3, [.unavailable]⟩ (fun _ s => s) () secondDelivers (by decide)

/-- The iteration ends normally if and only if the last of the attempts made has ended with status
    OK, and with the error of that attempt if it has failed. -/
def Reported (script : ℕ → StreamCall β) (delivery : Delivery β) (attempts : ℕ) : Prop :=
  (delivery.ending = .stopIteration ↔ (script (attempts - 1)).error = none) ∧
    ∀ status, (script (attempts - 1)).error = some status → delivery.ending = .rpcError status

/-- An `RpcError` is no ending of the retry handler's iteration. -/
lemma ends_ne_rpcError {c : StreamCall β} {status : StatusCode} : ends c ≠ .rpcError status := by
  obtain ⟨messages, error⟩ := c
  cases error with
  | none => cases messages <;> exact nofun
  | some _ => cases messages <;> exact nofun

/-- The ending of a stream tells how its last attempt has ended if and only if the first attempt
    that is not retried ends with status OK. -/
theorem reported_iff (h : Retry) (policy : ℕ → σ → σ) (start : σ) (script : ℕ → StreamCall β)
    (positive : 1 ≤ h.maxAttempts) :
    Reported script (h.scriptedStreamCall policy start script).1
        (h.scriptedStreamCall policy start script).2.attempts ↔
      ∃ j : ℕ, j < h.maxAttempts ∧ (∀ i < j, h.RetriesCall i (script i)) ∧
        (script j).error = none := by
  obtain ⟨j, lt, retries, returns⟩ := exists_last positive
    fun i (retries : h.RetriesCall i (script i)) => retries.1
  rw [scriptedStreamCall_eq lt retries returns, journalEnd_attempts]
  constructor
  · rintro ⟨_, failed⟩
    cases error : (script j).error with
    | none => exact ⟨j, lt, retries, error⟩
    | some status => exact absurd (failed status error) ends_ne_rpcError
  · rintro ⟨k, _, earlier, ok⟩
    -- an attempt that ends with status OK is not retried, so it is attempt `j`
    have other : ¬ h.RetriesCall k (script k) := by
      rintro ⟨_, status, _, eq⟩
      rw [eq] at ok
      cases ok
    obtain rfl : k = j := Loop.first_unique earlier other retries returns
    refine ⟨⟨fun _ => ok, fun _ => ends_ok ok⟩, fun status failed => ?_⟩
    have failed : (script k).error = some status := failed
    rw [ok] at failed
    cases failed

/-- Three attempts that fail with `UNAVAILABLE` end the iteration normally. -/
theorem exhausted_stream_not_reported :
    ¬ ∀ script : ℕ → StreamCall Unit,
      Reported script (scriptedStreamCall ⟨3, [.unavailable]⟩ (fun _ s => s) () script).1
        (scriptedStreamCall ⟨3, [.unavailable]⟩ (fun _ s => s) () script).2.attempts := by
  intro reported
  have ended := (reported fun _ => ⟨[], some .unavailable⟩).2 .unavailable rfl
  cases ended

/-- The second attempt ends normally, and its end is reported. -/
theorem reported_iff_secondDelivers :
    Reported secondDelivers
      (scriptedStreamCall ⟨3, [.unavailable]⟩ (fun _ s => s) () secondDelivers).1
      (scriptedStreamCall ⟨3, [.unavailable]⟩ (fun _ s => s) () secondDelivers).2.attempts := by
  apply (reported_iff ⟨3, [.unavailable]⟩ (fun _ s => s) () secondDelivers (by decide)).mpr
  refine ⟨1, by decide, ?_, rfl⟩
  intro i lt
  obtain rfl : i = 0 := by omega
  exact ⟨by decide, .unavailable, by decide, rfl⟩

end GrpcSample.Retry
