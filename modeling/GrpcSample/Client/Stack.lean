import GrpcSample.Breaker.Inversion
import GrpcSample.Retry.Handler

/-!
# The client's stack

`python/src/client/grpc_resilient_client.py` passes `[retry, breaker]` to `grpc.intercept_channel`,
which makes the first interceptor the outermost: the retry handler's continuation is the breaker's
interceptor, whose continuation is the call to the server. What an inner interceptor returns is what
the outer continuation returns.

The server follows a script, one outcome for each attempt that reaches it, so that the number of
attempts so far is the whole state of the network. The clock gives the readings of each pass through
the breaker; a pass that is turned down ends the call, on both paths, so the pass is identified by
the number of attempts before it.

`direct…` is the retry handler applied to the server itself and `stacked…` the whole stack. The two
lemmas on a stacked call say what decides it: on the unary path the first attempt that is turned
down or not retried, on the stream path the first attempt alone, since what the breaker returns
there is a generator and has no `code()`. Which attempt the breaker turns down can be told from what
it is like before the call and from the clock (`TurnedDown`).
-/

namespace GrpcSample

/-- `GrpcResilientClient.__init__`: the list that both interceptors are given. -/
def statusForRetry : List StatusCode := [.cancelled, .unavailable, .deadlineExceeded]

/-- The retry interceptor of the client. -/
def clientRetry : Retry where
  maxAttempts := 3
  statusForRetry := statusForRetry

/-- The breaker of the client, constructed at `now`. -/
def clientBreaker (now : Int) : Breaker Int := .init 3 5 statusForRetry now

variable {T β ρ : Type*}

/-- The server's next answer. -/
def serve (script : ℕ → ρ) (served : ℕ) : ρ × ℕ := (script served, served + 1)

namespace Retry

/-- The retry handler over the server, for a call with a single response. -/
def directUnaryCall (h : Retry) (script : ℕ → Reply β) : Option (Reply β) × ℕ :=
  h.interceptUnaryCall (fun _ n => n) (replyOf (serve script)) 0

/-- The same for a response stream. -/
def directStreamCall (h : Retry) (script : ℕ → StreamCall β) : Delivery β × ℕ :=
  h.interceptStreamCall (fun _ n => n) (callOf (serve script)) 0

section
variable {h : Retry} {i j : ℕ}

/-- Before attempt `i` the server has answered `i` times. -/
lemma worlds_serve {script : ℕ → ρ} : worlds (fun _ n => n) (serve script) 0 i = i := by
  induction i with
  | zero => rfl
  | succ i ih => rw [worlds, ih, serve]

/-- A direct call returns what the first attempt gets that is not tried again. -/
lemma directUnaryCall_eq {script : ℕ → Reply β} (lt : j < h.maxAttempts)
    (retries : ∀ i < j, h.Retries i (some (script i))) (returns : ¬ h.Retries j (some (script j))) :
    h.directUnaryCall script = (some (script j), j + 1) := by
  apply interceptUnaryCall_replyOf lt
  · intro i lt
    rw [worlds_serve]
    exact retries i lt
  · rw [worlds_serve, serve]
  · exact returns

/-- A direct stream delivers what that attempt delivers. -/
lemma directStreamCall_eq {script : ℕ → StreamCall β} (lt : j < h.maxAttempts)
    (retries : ∀ i < j, h.RetriesCall i (script i)) (returns : ¬ h.RetriesCall j (script j)) :
    h.directStreamCall script = (⟨(script j).messages, ends (script j)⟩, j + 1) := by
  apply interceptStreamCall_callOf lt
  · intro i lt
    rw [worlds_serve]
    exact retries i lt
  · rw [worlds_serve, serve]
  · exact returns

end

variable [LinearOrder T] [Add T]

/-- The breaker's interceptors as continuations of the retry handler's. -/
def throughUnary (clock : ℕ → Breaker.Readings T) (script : ℕ → Reply β) (w : Breaker T × ℕ) :
    Option (Reply β) × (Breaker T × ℕ) :=
  Breaker.interceptUnaryCall (clock w.2) (serve script) w

/-- The breaker's stream path as the handler's continuation. -/
def throughStream (clock : ℕ → Breaker.Readings T) (script : ℕ → StreamCall β)
    (w : Breaker T × ℕ) : Iterable (Breaker T × ℕ) β × (Breaker T × ℕ) :=
  Breaker.interceptStreamCall (clock w.2) (serve script) w

/-- A call with a single response through the whole stack. -/
def stackedUnaryCall (h : Retry) (b : Breaker T) (clock : ℕ → Breaker.Readings T)
    (script : ℕ → Reply β) : Option (Reply β) × (Breaker T × ℕ) :=
  h.interceptUnaryCall (fun _ w => w) (throughUnary clock script) (b, 0)

/-- A call with a response stream through it. -/
def stackedStreamCall (h : Retry) (b : Breaker T) (clock : ℕ → Breaker.Readings T)
    (script : ℕ → StreamCall β) : Delivery β × (Breaker T × ℕ) :=
  h.interceptStreamCall (fun _ w => w) (throughStream clock script) (b, 0)

/-- The breaker before attempt `i`, the earlier ones having reached the server and failed. -/
def breakerAt (b : Breaker T) (clock : ℕ → Breaker.Readings T) : ℕ → Breaker T
  | 0 => b
  | i + 1 =>
    let checked := ((breakerAt b clock i).isOpenCircuit (clock i).first (clock i).second).2
    checked.setFailureCount (checked.failureCount + 1) (clock i).done

/-- The check turns attempt `i` down. -/
def RejectedAt (b : Breaker T) (clock : ℕ → Breaker.Readings T) (i : ℕ) : Prop :=
  (breakerAt b clock i).Rejects (clock i).first (clock i).second

/-- One of `i` failures in a row opens the circuit, and then so does each one that follows: the
    breaker is not `CLOSED`, or the counter comes to the threshold. -/
def OpensWithin (b : Breaker T) (i : ℕ) : Prop :=
  b.state = .closed →
    b.failureCount < b.failureThreshold ∧ b.failureThreshold ≤ b.failureCount + i

omit [LinearOrder T] [Add T] in
/-- It is a comparison of numbers. -/
instance (b : Breaker T) (i : ℕ) : Decidable (OpensWithin b i) :=
  inferInstanceAs (Decidable (_ → _ ∧ _))

/-- What turns attempt `i` down when those before it have been admitted and have failed, read off
    the breaker before the call and the clock: the window of the failure just before it if that has
    opened the circuit, and otherwise `_recovery_time` as it was. -/
def TurnedDown (b : Breaker T) (clock : ℕ → Breaker.Readings T) : ℕ → Prop
  | 0 => b.Rejects (clock 0).first (clock 0).second
  | i + 1 =>
    if OpensWithin b (i + 1) then
      (clock (i + 1)).first ≤ (clock i).done + b.recoveryTimeout ∨
        (clock (i + 1)).second < (clock i).done + b.recoveryTimeout
    else (clock (i + 1)).second < b.recoveryTime

section
variable {b : Breaker T} {clock : ℕ → Breaker.Readings T} {i : ℕ}

omit [LinearOrder T] [Add T] in
/-- Failures that stay below the threshold do not open a `CLOSED` circuit. -/
lemma not_opensWithin_of_below (closed : b.state = .closed)
    (below : ∀ k < i, b.failureCount + (k + 1) < b.failureThreshold) : ¬ OpensWithin b i := by
  intro within
  obtain ⟨room, reached⟩ := within closed
  cases i with
  | zero => omega
  | succ i =>
    have last := below i i.lt_succ_self
    omega

/-- As long as no failure has opened the circuit, they have only raised the counter. -/
lemma breakerAt_of_not_opensWithin (closed : ¬ OpensWithin b i) :
    breakerAt b clock i = { b with failureCount := b.failureCount + i } := by
  obtain ⟨state, below⟩ := Classical.not_imp.mp closed
  induction i with
  | zero => simp [breakerAt]
  | succ i ih =>
    have below' : ¬ (b.failureCount < b.failureThreshold ∧
        b.failureThreshold ≤ b.failureCount + i) := by
      omega
    have before := ih (fun within => below' (within state)) below'
    rw [breakerAt, before, Breaker.isOpenCircuit_snd_of_le, Breaker.setFailureCount_keeps]
    · simp [Int.add_assoc]
    · rintro (threshold | ⟨_, half⟩)
      · simp only at threshold
        omega
      · rw [state] at half
        cases half
    · intro open'
      rw [state] at open'
      cases open'

/-- The timeout stays what it is. -/
lemma breakerAt_recoveryTimeout : (breakerAt b clock i).recoveryTimeout = b.recoveryTimeout := by
  induction i with
  | zero => rfl
  | succ i ih =>
    rw [breakerAt, Breaker.setFailureCount_recoveryTimeout, Breaker.checked_recoveryTimeout, ih]

/-- A failure opens the circuit as the one that reaches the threshold or as that of a trial. -/
lemma breakerAt_opens (admitted : ¬ RejectedAt b clock i) (within : OpensWithin b (i + 1))
    (trial : OpensWithin b i → (breakerAt b clock i).state ≠ .closed) :
    breakerAt b clock (i + 1) =
      ((breakerAt b clock i).isOpenCircuit (clock i).first (clock i).second).2.opened
        (clock i).done := by
  rw [breakerAt]
  apply Breaker.setFailureCount_opens
  by_cases earlier : OpensWithin b i
  · exact .inr ⟨Int.lt_succ _, Breaker.checked_halfOpened admitted (trial earlier)⟩
  · obtain ⟨closed, below⟩ := Classical.not_imp.mp earlier
    obtain ⟨room, reached⟩ := within closed
    rw [breakerAt_of_not_opensWithin earlier, Breaker.isOpenCircuit_snd_of_le]
    · left
      show b.failureCount + i + 1 = b.failureThreshold
      omega
    · intro open'
      rw [closed] at open'
      cases open'

/-- Once one of the failures has opened the circuit, the last one has. -/
lemma breakerAt_opened (admitted : ∀ k ≤ i, ¬ RejectedAt b clock k)
    (within : OpensWithin b (i + 1)) :
    (breakerAt b clock (i + 1)).state = .opened ∧
      (breakerAt b clock (i + 1)).recoveryTime = (clock i).done + b.recoveryTimeout := by
  have trial : OpensWithin b i → (breakerAt b clock i).state ≠ .closed := by
    clear within
    induction i with
    | zero =>
      intro within closed
      have room := within closed
      omega
    | succ i ih =>
      intro within
      rw [breakerAt_opens (admitted i i.le_succ) within
        (ih fun k le => admitted k (Nat.le_succ_of_le le))]
      exact nofun
  rw [breakerAt_opens (admitted i (Nat.le_refl i)) within trial]
  refine ⟨rfl, ?_⟩
  show (clock i).done + _ = _
  rw [Breaker.checked_recoveryTimeout, breakerAt_recoveryTimeout]

/-- What turns an attempt down, in terms of what there is before the call. -/
lemma rejectedAt_iff_turnedDown (admitted : ∀ k < i, ¬ RejectedAt b clock k) :
    RejectedAt b clock i ↔ TurnedDown b clock i := by
  cases i with
  | zero => exact Iff.rfl
  | succ i =>
    rw [TurnedDown]
    split
    · next within =>
      obtain ⟨opened, time⟩ := breakerAt_opened (fun k le => admitted k (Nat.lt_succ_of_le le)) within
      rw [RejectedAt, Breaker.Rejects, time, and_iff_right opened]
    · next closed =>
      have state : b.state = .closed := (Classical.not_imp.mp closed).1
      rw [RejectedAt, breakerAt_of_not_opensWithin closed]
      apply Breaker.rejects_iff_of_not_opened
      show b.state ≠ .opened
      rw [state]
      exact nofun

end

section
variable {h : Retry} {b : Breaker T} {clock : ℕ → Breaker.Readings T} {script : ℕ → Reply β}
  {i j : ℕ}

/-- An attempt that is turned down does not reach the server. -/
lemma pass_rejected (rejected : RejectedAt b clock i) :
    throughUnary clock script (breakerAt b clock i, i) =
      (none, ((breakerAt b clock i).isOpenCircuit (clock i).first (clock i).second).2, i) :=
  Breaker.interceptUnaryCall_rejected (w := (breakerAt b clock i, i)) rejected

/-- One that is admitted does, and the breaker counts what comes back. -/
lemma pass_admitted (admitted : ¬ RejectedAt b clock i) :
    throughUnary clock script (breakerAt b clock i, i) =
      (some (script i), ((breakerAt b clock i).isOpenCircuit (clock i).first
        (clock i).second).2.afterUnary (script i) (clock i).done, i + 1) :=
  Breaker.interceptUnaryCall_accepted (w := (breakerAt b clock i, i)) admitted

/-- Until an attempt is turned down or not retried, the stack is in step with `breakerAt`. -/
lemma worlds_stacked (retries : ∀ i < j, h.Retries i (some (script i)))
    (admitted : ∀ i < j, ¬ RejectedAt b clock i) :
    worlds (fun _ w => w) (throughUnary clock script) (b, 0) j = (breakerAt b clock j, j) := by
  induction j with
  | zero => rfl
  | succ j ih =>
    have before := ih (fun i lt => retries i (Nat.lt_succ_of_lt lt))
      (fun i lt => admitted i (Nat.lt_succ_of_lt lt))
    obtain ⟨_, status, _, failed⟩ := retries j j.lt_succ_self
    rw [worlds, before, pass_admitted (admitted j j.lt_succ_self), Option.some.inj failed]
    rfl

/-- A call through the stack is its first attempt that is turned down or not retried. -/
lemma stackedUnaryCall_eq {answer : Option (Reply β)} {b' : Breaker T} {n : ℕ}
    (lt : j < h.maxAttempts) (retries : ∀ i < j, h.Retries i (some (script i)))
    (admitted : ∀ i < j, ¬ RejectedAt b clock i)
    (last : throughUnary clock script (breakerAt b clock j, j) =
      (answer, b', n))
    (returns : ¬ h.Retries j answer) : h.stackedUnaryCall b clock script = (answer, b', n) := by
  have inStep : ∀ i ≤ j, worlds (fun _ w => w) (throughUnary clock script) (b, 0) i =
      (breakerAt b clock i, i) := fun i le =>
    worlds_stacked (fun k lt => retries k (by omega)) (fun k lt => admitted k (by omega))
  refine interceptUnaryCall_eq lt ?_ ?_ returns
  · intro i lt
    rw [inStep i (Nat.le_of_lt lt), pass_admitted (admitted i lt)]
    exact retries i lt
  · rw [inStep j (Nat.le_refl j), last]

/-- An attempt that is turned down is the end of the call: `None` is no `RpcError`. -/
lemma stackedUnaryCall_rejected (lt : j < h.maxAttempts)
    (retries : ∀ i < j, h.Retries i (some (script i))) (admitted : ∀ i < j, ¬ RejectedAt b clock i)
    (rejected : RejectedAt b clock j) : (h.stackedUnaryCall b clock script).1 = none := by
  rw [stackedUnaryCall_eq lt retries admitted (pass_rejected rejected)]
  rintro ⟨_, status, _, eq⟩
  cases eq

/-- When none is turned down the call is what the server answers to the last attempt. -/
lemma stackedUnaryCall_admitted (lt : j < h.maxAttempts)
    (retries : ∀ i < j, h.Retries i (some (script i))) (returns : ¬ h.Retries j (some (script j)))
    (admitted : ∀ i ≤ j, ¬ RejectedAt b clock i) :
    (h.stackedUnaryCall b clock script).1 = some (script j) ∧
      (h.stackedUnaryCall b clock script).2.2 = j + 1 := by
  have eq := stackedUnaryCall_eq lt retries (fun i lt => admitted i (Nat.le_of_lt lt))
    (pass_admitted (admitted j (Nat.le_refl j))) returns
  rw [eq]
  exact ⟨rfl, rfl⟩

/-- The attempts that a script can cause are those up to the last one. -/
lemma reached_iff (lt : j < h.maxAttempts) (retries : ∀ i < j, h.Retries i (some (script i)))
    (returns : ¬ h.Retries j (some (script j))) :
    (i < h.maxAttempts ∧ ∀ k < i, h.Retries k (some (script k))) ↔ i ≤ j := by
  constructor
  · rintro ⟨_, earlier⟩
    by_contra beyond
    exact returns (earlier j (by omega))
  · intro le
    exact ⟨by omega, fun k lt => retries k (by omega)⟩

/-- No attempt that a script can cause is turned down, if and only if none is by what there is
    before the call. -/
lemma admitted_iff {P : ℕ → Prop} (earlier : ∀ i, P i → ∀ k < i, P k) :
    (∀ i, P i → ¬ RejectedAt b clock i) ↔ ∀ i, P i → ¬ TurnedDown b clock i := by
  constructor
  · intro admitted i reached
    rw [← rejectedAt_iff_turnedDown fun k lt => admitted k (earlier i reached k lt)]
    exact admitted i reached
  · intro admitted i
    induction i using Nat.strong_induction_on with
    | _ i ih =>
      intro reached
      rw [rejectedAt_iff_turnedDown fun k lt => ih k lt (earlier i reached k lt)]
      exact admitted i reached

/-- A call through the stack either is the call without the breaker, or it is turned down at one of
    its attempts and comes back with `None`. -/
theorem stackedUnaryCall_cases (positive : 1 ≤ h.maxAttempts) (b : Breaker T)
    (clock : ℕ → Breaker.Readings T) (script : ℕ → Reply β) :
    ∃ j, h.directUnaryCall script = (some (script j), j + 1) ∧
      ((∀ i : ℕ, i < h.maxAttempts → (∀ k < i, h.Retries k (some (script k))) →
          ¬ RejectedAt b clock i) ∧
        (h.stackedUnaryCall b clock script).1 = some (script j) ∧
        (h.stackedUnaryCall b clock script).2.2 = j + 1 ∨
      (∃ i : ℕ, i < h.maxAttempts ∧ (∀ k < i, h.Retries k (some (script k))) ∧
          RejectedAt b clock i) ∧
        (h.stackedUnaryCall b clock script).1 = none) := by
  obtain ⟨j, lt, retries, returns⟩ := exists_last positive
    fun i (retries : h.Retries i (some (script i))) => retries.1
  refine ⟨j, directUnaryCall_eq lt retries returns, ?_⟩
  rcases Loop.first_or_none (RejectedAt b clock) (j + 1) with ⟨i, le, rejected, earlier⟩ | none
  · have reached := (reached_iff lt retries returns).mpr (Nat.le_of_lt_succ le)
    exact .inr ⟨⟨i, reached.1, reached.2, rejected⟩,
      stackedUnaryCall_rejected reached.1 reached.2 earlier rejected⟩
  · have admitted : ∀ i ≤ j, ¬ RejectedAt b clock i := fun i le => none i (Nat.lt_succ_of_le le)
    refine .inl ⟨fun i lt' earlier => ?_, stackedUnaryCall_admitted lt retries returns admitted⟩
    exact admitted i ((reached_iff lt retries returns).mp ⟨lt', earlier⟩)

end

/-- How an admitted stream ends for the caller of the stack: an `RpcError` of the breaker's
    generator becomes the retry handler's `AttributeError`. -/
def endsBehind (b : Breaker T) (c : StreamCall β) : Ending :=
  match b.streamEnds c with
  | .rpcError _ => .attributeError
  | ending => ending

section
variable {h : Retry} {b : Breaker T} {clock : ℕ → Breaker.Readings T}

/-- A stream that is turned down is iterated as `None`, which raises a `TypeError`. -/
lemma stackedStreamCall_eq_rejected (script : ℕ → StreamCall β) (positive : 1 ≤ h.maxAttempts)
    (rejected : b.Rejects (clock 0).first (clock 0).second) :
    h.stackedStreamCall b clock script =
      (⟨[], .typeError⟩, (b.isOpenCircuit (clock 0).first (clock 0).second).2, 0) := by
  have returned : throughStream clock script (b, 0) =
      (.none, (b.isOpenCircuit (clock 0).first (clock 0).second).2, 0) :=
    Breaker.interceptStreamCall_rejected (w := (b, 0)) rejected
  exact interceptStreamCall_eq positive nofun (consume_eq returned) (not_retriesStream_typeError rfl)

/-- Nothing is delivered, and the server is not reached. -/
lemma stackedStreamCall_rejected (script : ℕ → StreamCall β) (positive : 1 ≤ h.maxAttempts)
    (rejected : b.Rejects (clock 0).first (clock 0).second) :
    (h.stackedStreamCall b clock script).1 = ⟨[], .typeError⟩ ∧
      (h.stackedStreamCall b clock script).2.2 = 0 := by
  rw [stackedStreamCall_eq_rejected script positive rejected]
  exact ⟨rfl, rfl⟩

/-- An admitted stream makes one attempt, whatever becomes of it. -/
lemma stackedStreamCall_eq_admitted (script : ℕ → StreamCall β) (positive : 1 ≤ h.maxAttempts)
    (admitted : ¬ b.Rejects (clock 0).first (clock 0).second) :
    h.stackedStreamCall b clock script =
      (⟨(script 0).messages, endsBehind b (script 0)⟩,
        ((b.isOpenCircuit (clock 0).first (clock 0).second).2.afterStream (script 0)
          (clock 0).done).1, 1) := by
  have returned : throughStream clock script (b, 0) =
      (.generator fun w => ((w.1.afterStream (serve script w.2).1 (clock 0).done).2,
          (w.1.afterStream (serve script w.2).1 (clock 0).done).1, (serve script w.2).2),
        (b.isOpenCircuit (clock 0).first (clock 0).second).2, 0) :=
    Breaker.interceptStreamCall_accepted (w := (b, 0)) admitted
  have eq : h.stackedStreamCall b clock script = _ :=
    interceptStreamCall_eq positive nofun (consume_eq returned) not_retriesStream_generator
  rw [eq, verdict_generator]
  simp only [Iterable.iterate, serve, Breaker.afterStream_snd, Breaker.streamEnds_checked]
  rfl

/-- Its messages are those of the one attempt. -/
lemma stackedStreamCall_admitted (script : ℕ → StreamCall β) (positive : 1 ≤ h.maxAttempts)
    (admitted : ¬ b.Rejects (clock 0).first (clock 0).second) :
    (h.stackedStreamCall b clock script).1 = ⟨(script 0).messages, endsBehind b (script 0)⟩ ∧
      (h.stackedStreamCall b clock script).2.2 = 1 := by
  rw [stackedStreamCall_eq_admitted script positive admitted]
  exact ⟨rfl, rfl⟩

end

end Retry

end GrpcSample
