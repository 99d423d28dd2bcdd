import GrpcSample.Breaker.Start

/-!
# What a failing stream says

The stream path of the breaker, seen from its two sides. `faithful_iff` is the consumer's: the
generator passes on every message, but the error of the call only if it comes before the first
message and has a status that is not retried. An error that is retried is swallowed, and an error
after a message is replaced by the `AttributeError` of `response.code()`, `response` having been
rebound to the message.

`same_effect_iff` is the breaker's: a failing stream does to the breaker what a failing unary call
does if and only if it fails before its first message with a status that is retried. A unary failure
always changes a breaker that has admitted the call (`counted_ne`); the other failures of a stream
leave it as it was or close it.
-/

namespace GrpcSample
open Lts

variable {T β ω : Type*}

/-- What a consumer should get from an interceptor around a call: its messages and its ending. -/
structure Faithful (c : StreamCall β) (d : Delivery β) : Prop where
  messages : d.messages = c.messages
  normal : d.ending = .stopIteration ↔ c.error = none
  failed : ∀ status, c.error = some status → d.ending = .rpcError status

/-- The attributes that a call may assign. -/
def Breaker.assigned (b : Breaker T) : CircuitState × Int × T :=
  (b.state, b.failureCount, b.recoveryTime)

variable [LinearOrder T] [Add T] {b : Breaker T} {r : Breaker.Readings T}

omit [LinearOrder T] [Add T] in
/-- The consumer is told of a failure that comes first and is not counted, and of no other. -/
lemma faithful_streamEnds_iff {c : StreamCall β} :
    Faithful c ⟨c.messages, b.streamEnds c⟩ ↔
      ∀ status, c.error = some status → c.messages = [] ∧ status ∉ b.statusForRetry := by
  obtain ⟨messages, error⟩ := c
  constructor
  · rintro ⟨_, _, failed⟩ status rfl
    have raised := failed status rfl
    cases messages with
    | cons m ms => cases raised
    | nil =>
      refine ⟨rfl, fun retried => ?_⟩
      simp [Breaker.streamEnds, retried] at raised
  · intro early
    cases error with
    | none => exact ⟨rfl, ⟨fun _ => rfl, fun _ => rfl⟩, fun _ eq => by cases eq⟩
    | some status =>
      obtain ⟨nil, other⟩ := early status rfl
      have nil : messages = [] := nil
      subst nil
      have raised : b.streamEnds (⟨[], some status⟩ : StreamCall β) = .rpcError status := if_neg other
      refine ⟨rfl, ⟨fun stopped => ?_, fun eq => by cases eq⟩, fun _ eq => ?_⟩
      · have stopped : b.streamEnds (⟨[], some status⟩ : StreamCall β) = .stopIteration := stopped
        rw [raised] at stopped
        cases stopped
      · cases eq
        exact raised

/-- The iterator of an admitted stream, consumed at whatever state of the breaker, gives its
    consumer what the call gives if and only if the call does not fail, or fails before its first
    message with a status that is not retried. -/
theorem faithful_iff (admitted : ¬ b.Rejects r.first r.second) (continuation : ω → StreamCall β × ω)
    (w : ω) (later : Breaker T × ω) :
    Faithful (continuation later.2).1
        ((Breaker.interceptStreamCall r continuation (b, w)).1.iterate later).1 ↔
      ∀ status, (continuation later.2).1.error = some status →
        (continuation later.2).1.messages = [] ∧ status ∉ later.1.statusForRetry := by
  have intercepted : Breaker.interceptStreamCall r continuation (b, w) = _ :=
    Breaker.interceptStreamCall_accepted (w := (b, w)) admitted
  rw [intercepted, Iterable.iterate, Breaker.afterStream_snd, faithful_streamEnds_iff]

/-- A stream that fails with `UNAVAILABLE` after one message, and its consumer. -/
theorem late_error_replaced :
    ¬ ∀ c : StreamCall Unit, Faithful c ((Breaker.interceptStreamCall ⟨1, 1, 2⟩
      (fun w : Unit => (c, w)) (idle.breaker, ())).1.iterate (idle.breaker, ())).1 := by
  intro faithful
  have raised := (faithful ⟨[()], some .unavailable⟩).failed _ rfl
  cases raised

/-- A failure of a status that is not counted gets through. -/
theorem faithful_iff_idle :
    Faithful (⟨[], some .notFound⟩ : StreamCall Unit) ((Breaker.interceptStreamCall ⟨1, 1, 2⟩
      (fun w : Unit => (⟨[], some .notFound⟩, w)) (idle.breaker, ())).1.iterate
        (idle.breaker, ())).1 := by
  have law := faithful_iff (b := idle.breaker) (r := ⟨1, 1, 2⟩) (by decide)
    (fun w : Unit => ((⟨[], some .notFound⟩ : StreamCall Unit), w)) () (idle.breaker, ())
  apply law.mpr
  intro status failed
  cases failed
  exact ⟨rfl, by decide⟩

/-- The check does not make a breaker half-open that was closed. -/
lemma checked_halfOpened {t₁ t₂ : T} (half : (b.isOpenCircuit t₁ t₂).2.state = .halfOpened) :
    b.state ≠ .closed ∧ (b.isOpenCircuit t₁ t₂).2.failureThreshold = b.failureThreshold := by
  rw [Breaker.isOpenCircuit_snd] at half ⊢
  split at half
  · next h =>
    rw [if_pos h, h.2]
    exact ⟨nofun, rfl⟩
  · next h =>
    rw [if_neg h, half]
    exact ⟨nofun, rfl⟩

omit [LinearOrder T] in
/-- Outside `OPENED` a counted failure changes what the breaker shows. -/
lemma counted_ne (notOpened : b.state ≠ .opened) (now : T) :
    (b.setFailureCount (b.failureCount + 1) now).assigned ≠ b.assigned := by
  intro same
  by_cases opens : b.Opens (b.failureCount + 1)
  · rw [Breaker.setFailureCount_opens opens] at same
    exact notOpened (congrArg Prod.fst same).symm
  · rw [Breaker.setFailureCount_keeps opens] at same
    have count : b.failureCount + 1 = b.failureCount := congrArg (·.2.1) same
    omega

omit [LinearOrder T] in
/-- A completion counts a stream's failure if it comes first and is in the list. -/
lemma same_effect_completion {ms : List β} {status : StatusCode} (notOpened : b.state ≠ .opened)
    (threshold : b.state = .halfOpened → 1 ≤ b.failureThreshold) (now : T) :
    (b.afterStream ⟨ms, some status⟩ now).1.assigned =
        (b.setFailureCount (b.failureCount + 1) now).assigned ↔
      ms = [] ∧ status ∈ b.statusForRetry := by
  cases ms with
  | cons m ms =>
    rw [Breaker.afterStream_late]
    exact ⟨fun same => absurd same.symm (counted_ne notOpened now), nofun⟩
  | nil =>
    by_cases retried : status ∈ b.statusForRetry
    · rw [Breaker.afterStream_retryable retried]
      exact ⟨fun _ => ⟨rfl, retried⟩, fun _ => rfl⟩
    · rw [Breaker.afterStream_other threshold retried]
      refine ⟨fun same => ?_, fun h => absurd h.2 retried⟩
      split at same
      · next half =>
        -- the stream closes the circuit, the unary call opens it
        have opens : b.Opens (b.failureCount + 1) := .inr ⟨Int.lt_succ _, half⟩
        rw [Breaker.setFailureCount_opens opens] at same
        cases congrArg Prod.fst same
      · exact absurd same.symm (counted_ne notOpened now)

variable {F : Int} {R : T} {codes : List StatusCode} {past : History T β} {s : Sys T}

/-- A breaker that has left `CLOSED` has a positive threshold. -/
lemma threshold_of_run (run : Run (interceptor F R codes) past s) (state : s.breaker.state ≠ .closed) :
    1 ≤ s.breaker.failureThreshold := by
  rcases lt_or_ge 0 F with positive | zero
  · obtain ⟨threshold, _, _⟩ := config_of_run positive run
    omega
  · exact absurd (dormant_of_run zero run).1.closed state

/-- From a reachable state that admits both, a stream call that delivers `ms` and fails leaves the
    breaker as a unary call does that fails with the same status, if and only if it delivers nothing
    and the status is one that is retried. -/
theorem same_effect_iff (run : Run (interceptor F R codes) past s)
    (admitted : ¬ s.breaker.Rejects r.first r.second) (ms : List β) (status : StatusCode) (w : ω) :
    let stream := Breaker.interceptStreamCall r (fun w => (⟨ms, some status⟩, w)) (s.breaker, w)
    let unary := Breaker.interceptUnaryCall r (fun w => ((.rpcError status : Reply β), w))
      (s.breaker, w)
    (stream.1.iterate stream.2).2.1.assigned = unary.2.1.assigned ↔
      ms = [] ∧ status ∈ s.breaker.statusForRetry := by
  intro stream unary
  have streamed : stream = _ := Breaker.interceptStreamCall_accepted (w := (s.breaker, w)) admitted
  have called : unary = _ := Breaker.interceptUnaryCall_accepted (w := (s.breaker, w)) admitted
  have codes : (s.breaker.isOpenCircuit r.first r.second).2.statusForRetry =
      s.breaker.statusForRetry := by
    rw [Breaker.isOpenCircuit_snd]
    split <;> rfl
  rw [streamed, called, ← codes]
  apply same_effect_completion (Breaker.checked_not_opened admitted)
  intro half
  obtain ⟨notClosed, eq⟩ := checked_halfOpened half
  rw [eq]
  exact threshold_of_run run notClosed

/-- A breaker with a threshold of one: a stream that fails after a message leaves it `CLOSED`, a
    unary call that fails opens the circuit. -/
theorem late_failure_uncounted :
    ¬ ∀ (past : History Int Unit) (s : Sys Int), Run (interceptor 1 5 [.unavailable]) past s →
      ∀ r : Breaker.Readings Int, ¬ s.breaker.Rejects r.first r.second →
      ∀ (ms : List Unit) (status : StatusCode),
        let stream := Breaker.interceptStreamCall r (fun w => (⟨ms, some status⟩, w))
          (s.breaker, ())
        let unary := Breaker.interceptUnaryCall r (fun w => ((.rpcError status : Reply Unit), w))
          (s.breaker, ())
        (stream.1.iterate stream.2).2.1.assigned = unary.2.1.assigned := by
  intro same
  have assigned := same [] idle (.init ⟨0, rfl⟩) ⟨1, 1, 2⟩ (by decide) [()] .unavailable
  cases congrArg Prod.fst assigned

/-- Admitted in `HALF_OPENED`, both kinds of call open the circuit again when they fail with
    `UNAVAILABLE` at once. -/
theorem same_effect_iff_failedOnce :
    let stream := Breaker.interceptStreamCall ⟨8, 8, 9⟩
      (fun w => ((⟨[], some .unavailable⟩ : StreamCall Unit), w)) (failedOnce.breaker, ())
    let unary := Breaker.interceptUnaryCall ⟨8, 8, 9⟩
      (fun w => ((.rpcError .unavailable : Reply Unit), w)) (failedOnce.breaker, ())
    (stream.1.iterate stream.2).2.1.assigned = unary.2.1.assigned :=
  (same_effect_iff failedOnce_run.unrestrict (by decide) [] .unavailable ()).mpr
    ⟨rfl, by decide⟩

end GrpcSample
