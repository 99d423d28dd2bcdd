import GrpcSample.Client.Transparency

/-!
# A retried call that opens the circuit

`Transparency.lean` is about calls that leave the breaker `CLOSED`. Here is what becomes of a unary
call whose own attempts open it: the circuit opens with the attempt that is the last one to be made,
and the next attempt, which the retry handler makes before the recovery timeout has passed, is
turned down. So the stack makes the attempts of the retry handler as long as the breaker has room
for their failures, and not one more; a call that would have needed more comes back with `None`,
whatever the server would have answered.
-/

namespace GrpcSample.Retry

variable {T β : Type*} [LinearOrder T] [Add T]
  {h : Retry} {b : Breaker T} {clock : ℕ → Breaker.Readings T} {script : ℕ → Reply β} {i j : ℕ}

/-- The number of failures that the breaker has room for. -/
def slack (b : Breaker T) : ℕ :=
  (b.failureThreshold - b.failureCount).toNat

/-- The breaker when `n` more failures have been counted. -/
def worn (b : Breaker T) (n : ℕ) : Breaker T :=
  { b with failureCount := b.failureCount + n }

omit [LinearOrder T] [Add T] in
/-- Each failure takes up room. -/
lemma slack_worn {n : ℕ} : slack (worn b n) = slack b - n := by
  show (b.failureThreshold - (b.failureCount + n)).toNat =
    (b.failureThreshold - b.failureCount).toNat - n
  omega

/-- No attempt is turned down as long as there is room for its failure. -/
lemma admitted_of_lt_slack (closed : b.state = .closed)
    (onTime : ∀ i, b.recoveryTime ≤ (clock i).second) (lt : i < slack b) :
    ¬ RejectedAt b clock i := by
  have below : ∀ k < i, b.failureCount + (k + 1) < b.failureThreshold := by
    intro k lt'
    unfold slack at lt
    omega
  have state : (worn b i).state = .closed := closed
  rw [RejectedAt, breakerAt_of_not_opensWithin (not_opensWithin_of_below closed below), ← worn,
    rejects_iff_of_closed state]
  exact not_lt.mpr (onTime i)

/-- After that the next attempt is, unless it comes too late. -/
lemma rejected_slack (closed : b.state = .closed) (room : b.failureCount < b.failureThreshold)
    (onTime : ∀ i, b.recoveryTime ≤ (clock i).second)
    (prompt : ∀ i, (clock (i + 1)).first ≤ (clock i).done + b.recoveryTimeout) :
    RejectedAt b clock (slack b) := by
  rw [rejectedAt_iff_turnedDown fun k lt => admitted_of_lt_slack closed onTime lt]
  obtain ⟨i, full⟩ := Nat.exists_eq_succ_of_ne_zero (show slack b ≠ 0 by unfold slack; omega)
  have within : OpensWithin b (i + 1) := by
    intro _
    unfold slack at full
    omega
  rw [full, Nat.succ_eq_add_one, TurnedDown, if_pos within]
  exact .inl (prompt i)

/-- A call that needs no more attempts than there is room for is the call without the breaker. -/
lemma stackedUnaryCall_within (closed : b.state = .closed)
    (onTime : ∀ i, b.recoveryTime ≤ (clock i).second) (lt : j < h.maxAttempts)
    (retries : ∀ i < j, h.Retries i (some (script i))) (returns : ¬ h.Retries j (some (script j)))
    (within : j < slack b) :
    (h.stackedUnaryCall b clock script).1 = some (script j) ∧
      (h.stackedUnaryCall b clock script).2.2 = j + 1 :=
  stackedUnaryCall_admitted lt retries returns
    fun _ le => admitted_of_lt_slack closed onTime (Nat.lt_of_le_of_lt le within)

/-- One that needs more is turned down at its first attempt too many. -/
lemma stackedUnaryCall_beyond (closed : b.state = .closed)
    (room : b.failureCount < b.failureThreshold) (onTime : ∀ i, b.recoveryTime ≤ (clock i).second)
    (prompt : ∀ i, (clock (i + 1)).first ≤ (clock i).done + b.recoveryTimeout)
    (lt : j < h.maxAttempts) (retries : ∀ i < j, h.Retries i (some (script i)))
    (beyond : slack b ≤ j) :
    (h.stackedUnaryCall b clock script).1 = none ∧
      (h.stackedUnaryCall b clock script).2.2 = slack b := by
  have cut := stackedUnaryCall_eq (lt_of_le_of_lt (by omega) lt)
    (fun i lt => retries i (Nat.lt_of_lt_of_le lt beyond))
    (fun i lt => admitted_of_lt_slack closed onTime lt)
    (pass_rejected (rejected_slack closed room onTime prompt)) nofun
  rw [cut]
  exact ⟨rfl, rfl⟩

/-- A unary call through a `CLOSED` breaker with room for a failure, whose `_recovery_time` the
    clock has reached, each attempt made within the recovery timeout of the one before: the attempts
    are those of the retry handler, as many as the breaker has room for; if these are all, the call
    is that of the retry handler, and otherwise it comes back with `None`. -/
theorem cut_short (h : Retry) (script : ℕ → Reply β) (closed : b.state = .closed)
    (room : b.failureCount < b.failureThreshold)
    (onTime : ∀ i, b.recoveryTime ≤ (clock i).second)
    (prompt : ∀ i, (clock (i + 1)).first ≤ (clock i).done + b.recoveryTimeout) :
    (h.stackedUnaryCall b clock script).2.2 = min (h.directUnaryCall script).2 (slack b) ∧
      (h.stackedUnaryCall b clock script).1 =
        if (h.directUnaryCall script).2 ≤ slack b then (h.directUnaryCall script).1 else none := by
  rcases Int.lt_or_le 0 h.maxAttempts with positive | zero
  · obtain ⟨j, lt, retries, returns⟩ := exists_last positive
      fun i (retries : h.Retries i (some (script i))) => retries.1
    rw [directUnaryCall_eq lt retries returns]
    rcases Nat.lt_or_ge j (slack b) with within | beyond
    · obtain ⟨answer, served⟩ := stackedUnaryCall_within closed onTime lt retries returns within
      have fits : (some (script j), j + 1).2 ≤ slack b := within
      rw [answer, served, if_pos fits]
      exact ⟨(Nat.min_eq_left within).symm, rfl⟩
    · obtain ⟨answer, served⟩ := stackedUnaryCall_beyond closed room onTime prompt lt retries beyond
      have tooMany : ¬ (some (script j), j + 1).2 ≤ slack b :=
        Nat.not_le_of_lt (Nat.lt_succ_of_le beyond)
      rw [answer, served, if_neg tooMany]
      exact ⟨(Nat.min_eq_right (Nat.le_succ_of_le beyond)).symm, rfl⟩
  · rw [stackedUnaryCall, directUnaryCall, interceptUnaryCall_zero zero,
      interceptUnaryCall_zero zero]
    exact ⟨(Nat.zero_min _).symm, by simp⟩

/-- A breaker that has counted one failure before. -/
def strained : Breaker Int :=
  { clientBreaker 0 with failureCount := 1 }

/-- Two failures, then a response. -/
def thirdAnswers (i : ℕ) : Reply Unit :=
  if i < 2 then .rpcError .unavailable else .response ()

/-- The retry handler would have got the response with its third attempt; the stack makes two. -/
theorem cut_short_thirdAnswers :
    clientRetry.directUnaryCall thirdAnswers = (some (.response ()), 3) ∧
      (clientRetry.stackedUnaryCall strained eachSecond thirdAnswers).2.2 = 2 ∧
      (clientRetry.stackedUnaryCall strained eachSecond thirdAnswers).1 = none := by
  have onTime : ∀ i, strained.recoveryTime ≤ (eachSecond i).second := by
    intro i
    show (0 : Int) ≤ 3 * i + 2
    omega
  have prompt : ∀ i, (eachSecond (i + 1)).first ≤ (eachSecond i).done + strained.recoveryTimeout := by
    intro i
    show (3 * ((i + 1 : ℕ) : Int) + 1) ≤ 3 * i + 3 + 5
    omega
  obtain ⟨served, answer⟩ := cut_short clientRetry thirdAnswers (by decide) (by decide) onTime prompt
  have direct : clientRetry.directUnaryCall thirdAnswers = (some (.response ()), 3) := by decide
  rw [direct] at served answer
  exact ⟨direct, served, answer⟩

/-- A call that is over before the recovery timeout after the construction of the breaker is. -/
structure Swift (b : Breaker T) (clock : ℕ → Breaker.Readings T) : Prop where
  first : ∀ i, (clock i).first ≤ b.recoveryTime + b.recoveryTimeout
  second : ∀ i, b.recoveryTime ≤ (clock i).second
  done : ∀ i, b.recoveryTime ≤ (clock i).done

/-- Failures do not change the times that a call is measured by. -/
lemma Swift.worn {n : ℕ} (swift : Swift b clock) : Swift (worn b n) clock :=
  ⟨swift.first, swift.second, swift.done⟩

/-- In such a call each attempt falls within the recovery timeout of the one before. -/
lemma Swift.prompt [AddRightMono T] (swift : Swift b clock) (i : ℕ) :
    (clock (i + 1)).first ≤ (clock i).done + b.recoveryTimeout :=
  (swift.first (i + 1)).trans (add_le_add_left (swift.done i) _)

end GrpcSample.Retry
