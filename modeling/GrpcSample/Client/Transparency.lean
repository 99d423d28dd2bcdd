import GrpcSample.Breaker.Admission
import GrpcSample.Client.Stack

/-!
# The closed breaker under the retry handler

Whether the client sees the difference between the retry handler applied to the server and the whole
stack, the breaker being `CLOSED` and staying so. On the unary path it does not: the attempts, the
response and the error are those of the retry handler, unless the clock has gone back behind
`_recovery_time` (`unary_transparent_of_run`: a clock that never goes back does not do that).

On the stream path it does. The breaker returns a generator where the server returned a call object,
and swallows a retryable error of it, so the retry handler neither sees the error nor finds a
`code()` to look at: a stream that fails before its first message is never tried again.
-/

namespace GrpcSample.Retry
open Lts

variable {T β : Type*} [LinearOrder T] [Add T]
  {h : Retry} {b : Breaker T} {clock : ℕ → Breaker.Readings T} {i : ℕ}

/-- Every attempt that a script can make fail within `max_attempts` leaves `failure_count` below
    `failure_threshold`. -/
def StaysBelow (h : Retry) (b : Breaker T) (script : ℕ → Reply β) : Prop :=
  ∀ i : ℕ, i < h.maxAttempts → (∀ k < i, h.Retries k (some (script k))) →
    (∃ status, script i = .rpcError status) → b.failureCount + (i + 1) < b.failureThreshold

omit [Add T] in
/-- A `CLOSED` breaker turns a call down only when the clock is behind `_recovery_time`. -/
lemma rejects_iff_of_closed (closed : b.state = .closed) {t₁ t₂ : T} :
    b.Rejects t₁ t₂ ↔ t₂ < b.recoveryTime :=
  Breaker.rejects_iff_of_not_opened (by rw [closed]; exact nofun)

/-- In a script that stays below the threshold an attempt is turned down only by the clock. -/
lemma rejectedAt_iff {script : ℕ → Reply β} (closed : b.state = .closed)
    (below : h.StaysBelow b script) (lt : i < h.maxAttempts)
    (retries : ∀ k < i, h.Retries k (some (script k))) :
    RejectedAt b clock i ↔ (clock i).second < b.recoveryTime := by
  have failed : ∀ k < i, b.failureCount + (k + 1) < b.failureThreshold := by
    intro k lt'
    obtain ⟨_, status, _, eq⟩ := retries k lt'
    exact below k (by omega) (fun m lt => retries m (by omega)) ⟨status, Option.some.inj eq⟩
  rw [RejectedAt, breakerAt_of_not_opensWithin (not_opensWithin_of_below closed failed)]
  exact rejects_iff_of_closed closed

/-- On the unary path the stack is the retry handler over the server if and only if no attempt that
    the script can cause finds the clock behind `_recovery_time`. -/
lemma unary_transparent_iff {script : ℕ → Reply β} (closed : b.state = .closed)
    (below : h.StaysBelow b script) :
    ((h.stackedUnaryCall b clock script).1, (h.stackedUnaryCall b clock script).2.2) =
        h.directUnaryCall script ↔
      ∀ i : ℕ, i < h.maxAttempts → (∀ k < i, h.Retries k (some (script k))) →
        b.recoveryTime ≤ (clock i).second := by
  rcases Int.lt_or_le 0 h.maxAttempts with positive | zero
  · obtain ⟨j, direct, ⟨admitted, answer, served⟩ | ⟨⟨i, lt, retries, rejected⟩, none⟩⟩ :=
      stackedUnaryCall_cases positive b clock script
    · rw [direct, answer, served]
      refine ⟨fun _ i lt retries => ?_, fun _ => rfl⟩
      rw [← not_lt, ← rejectedAt_iff closed below lt retries]
      exact admitted i lt retries
    · rw [direct, none]
      refine ⟨nofun, fun onTime => ?_⟩
      rw [rejectedAt_iff closed below lt retries] at rejected
      exact absurd rejected (not_lt.mpr (onTime i lt retries))
  · rw [stackedUnaryCall, directUnaryCall, interceptUnaryCall_zero zero,
      interceptUnaryCall_zero zero]
    exact ⟨fun _ i lt => by omega, fun _ => rfl⟩

omit [LinearOrder T] [Add T] in
/-- The stack and the retry handler end one and the same attempt alike, but for a failure before the
    first message that the breaker does not count. -/
lemma endsBehind_eq_iff {c : StreamCall β} :
    endsBehind b c = ends c ↔ ∀ status, c = ⟨[], some status⟩ → status ∈ b.statusForRetry := by
  obtain ⟨messages, error⟩ := c
  cases error with
  | none => exact ⟨fun _ => nofun, fun _ => rfl⟩
  | some status =>
    cases messages with
    | cons m ms => exact ⟨fun _ => nofun, fun _ => rfl⟩
    | nil =>
      by_cases counted : status ∈ b.statusForRetry
      · refine ⟨fun _ _ eq => ?_, fun _ => ?_⟩
        · cases eq
          exact counted
        · simp [endsBehind, Breaker.streamEnds, counted, ends]
      · refine ⟨fun eq => ?_, fun all => absurd (all status rfl) counted⟩
        simp [endsBehind, Breaker.streamEnds, counted, ends] at eq

/-- On the stream path it is so if and only if no attempt is made, or the first one finds the clock
    not behind `_recovery_time` and does not fail before its first message, unless with a status
    that the breaker counts when there is no second attempt to make. -/
lemma stream_transparent_iff {script : ℕ → StreamCall β} (closed : b.state = .closed) :
    ((h.stackedStreamCall b clock script).1, (h.stackedStreamCall b clock script).2.2) =
        h.directStreamCall script ↔
      h.maxAttempts ≤ 0 ∨ b.recoveryTime ≤ (clock 0).second ∧
        ∀ status, script 0 = ⟨[], some status⟩ →
          status ∈ b.statusForRetry ∧ (status ∈ h.statusForRetry → h.maxAttempts = 1) := by
  rcases Int.lt_or_le 0 h.maxAttempts with positive | zero
  · obtain ⟨j, lt, retries, returns⟩ := exists_last positive
      fun i (retries : h.RetriesCall i (script i)) => retries.1
    rw [directStreamCall_eq lt retries returns, or_iff_right (by omega)]
    rcases lt_or_ge (clock 0).second b.recoveryTime with behind | onTime
    · obtain ⟨_, served⟩ := stackedStreamCall_rejected script positive
        ((rejects_iff_of_closed closed).mpr behind)
      rw [served]
      refine ⟨fun eq => ?_, fun cond => absurd cond.1 (not_le.mpr behind)⟩
      cases congrArg Prod.snd eq
    · obtain ⟨delivery, served⟩ := stackedStreamCall_admitted script positive
        (mt (rejects_iff_of_closed closed).mp (not_lt.mpr onTime))
      rw [delivery, served]
      cases j with
      | zero =>
        have same : (⟨(script 0).messages, endsBehind b (script 0)⟩ : Delivery β) =
            ⟨(script 0).messages, ends (script 0)⟩ ↔ endsBehind b (script 0) = ends (script 0) :=
          ⟨congrArg Delivery.ending, congrArg (Delivery.mk _)⟩
        rw [Prod.mk.injEq, same, endsBehind_eq_iff]
        constructor
        · rintro ⟨counted, _⟩
          refine ⟨onTime, fun status eq => ⟨counted status eq, fun mem => ?_⟩⟩
          by_contra more
          exact returns ⟨by omega, status, mem, eq⟩
        · rintro ⟨_, counted⟩
          exact ⟨fun status eq => (counted status eq).1, rfl⟩
      | succ j =>
        -- the retry handler alone makes a second attempt, the stack never does
        obtain ⟨more, status, mem, eq⟩ := retries 0 j.succ_pos
        refine ⟨fun same => ?_, fun cond => ?_⟩
        · have := congrArg Prod.snd same
          simp at this
        · have once := (cond.2 status eq).2 mem
          omega
  · rw [stackedStreamCall, directStreamCall, interceptStreamCall_zero zero,
      interceptStreamCall_zero zero]
    exact ⟨fun _ => .inl zero, fun _ => rfl⟩

/-- A `CLOSED` breaker that stays below its threshold is transparent to the retry handler exactly
    when the clock is never behind `_recovery_time`, and, for a stream, its first attempt does not
    fail before its first message in a way that the two interceptors treat differently. -/
theorem transparent_iff (h : Retry) (clock : ℕ → Breaker.Readings T) (unary : ℕ → Reply β)
    (stream : ℕ → StreamCall β) (closed : b.state = .closed) :
    (h.StaysBelow b unary →
      (((h.stackedUnaryCall b clock unary).1, (h.stackedUnaryCall b clock unary).2.2) =
          h.directUnaryCall unary ↔
        ∀ i : ℕ, i < h.maxAttempts → (∀ k < i, h.Retries k (some (unary k))) →
          b.recoveryTime ≤ (clock i).second)) ∧
    (((h.stackedStreamCall b clock stream).1, (h.stackedStreamCall b clock stream).2.2) =
        h.directStreamCall stream ↔
      h.maxAttempts ≤ 0 ∨ b.recoveryTime ≤ (clock 0).second ∧
        ∀ status, stream 0 = ⟨[], some status⟩ →
          status ∈ b.statusForRetry ∧ (status ∈ h.statusForRetry → h.maxAttempts = 1)) :=
  ⟨unary_transparent_iff closed, stream_transparent_iff closed⟩

/-- In a reachable state, under a clock that never goes back, a unary call through a `CLOSED`
    breaker that stays below its threshold is the call without the breaker. -/
theorem unary_transparent_of_run {F : Int} {R : T} {codes : List StatusCode} {past : History T β}
    {s : Sys T} {script : ℕ → Reply β} (positive : 1 ≤ F)
    (run : Run (timedInterceptor F R codes) past s) (closed : s.breaker.state = .closed)
    (below : h.StaysBelow s.breaker script) (later : ∀ i, s.now ≤ (clock i).second) :
    ((h.stackedUnaryCall s.breaker clock script).1,
      (h.stackedUnaryCall s.breaker clock script).2.2) = h.directUnaryCall script := by
  have behind := (window_of_run positive run).behind (by rw [closed]; exact nofun)
  exact (unary_transparent_iff closed below).mpr fun i _ _ => behind.trans (later i)

/-- The first attempt fails with `UNAVAILABLE`, the second delivers a message. -/
def onceUnavailable (i : ℕ) : StreamCall Unit :=
  if i = 0 then ⟨[], some .unavailable⟩ else ⟨[()], none⟩

/-- A clock that moves on by one from reading to reading. -/
def eachSecond (i : ℕ) : Breaker.Readings Int :=
  ⟨3 * i + 1, 3 * i + 2, 3 * i + 3⟩

/-- The client's retry handler delivers the message, the client's stack an empty stream. -/
theorem stream_not_transparent :
    ¬ ∀ script : ℕ → StreamCall Unit,
      (∀ i : ℕ, i < clientRetry.maxAttempts → (∀ k < i, clientRetry.RetriesCall k (script k)) →
        (script i).error ≠ none →
        (clientBreaker 0).failureCount + (i + 1) < (clientBreaker 0).failureThreshold) →
      ((clientRetry.stackedStreamCall (clientBreaker 0) eachSecond script).1,
        (clientRetry.stackedStreamCall (clientBreaker 0) eachSecond script).2.2) =
        clientRetry.directStreamCall script := by
  intro transparent
  have same := transparent onceUnavailable (by
    intro i _ _ failed
    obtain rfl : i = 0 := by
      by_contra late
      simp [onceUnavailable, late] at failed
    decide)
  revert same
  decide

/-- The first attempt fails, the second is answered. -/
def answersSecond (i : ℕ) : Reply Unit :=
  if i = 0 then .rpcError .unavailable else .response ()

/-- Every attempt delivers a message. -/
def delivers (_ : ℕ) : StreamCall Unit :=
  ⟨[()], none⟩

/-- A unary call that is tried again and a stream that does not fail are the same both ways. -/
theorem transparent_iff_client :
    ((clientRetry.stackedUnaryCall (clientBreaker 0) eachSecond answersSecond).1,
      (clientRetry.stackedUnaryCall (clientBreaker 0) eachSecond answersSecond).2.2) =
      clientRetry.directUnaryCall answersSecond ∧
    ((clientRetry.stackedStreamCall (clientBreaker 0) eachSecond delivers).1,
      (clientRetry.stackedStreamCall (clientBreaker 0) eachSecond delivers).2.2) =
      clientRetry.directStreamCall delivers := by
  have law := transparent_iff clientRetry eachSecond answersSecond delivers
    (rfl : (clientBreaker 0).state = .closed)
  have onTime : ∀ i, (clientBreaker 0).recoveryTime ≤ (eachSecond i).second := by
    intro i
    show (0 : Int) ≤ 3 * i + 2
    omega
  constructor
  · apply (law.1 _).mpr fun i _ _ => onTime i
    rintro i _ _ ⟨status, failed⟩
    obtain rfl : i = 0 := by
      by_contra late
      simp [answersSecond, late] at failed
    decide
  · exact law.2.mpr (.inr ⟨onTime 0, nofun⟩)

end GrpcSample.Retry
