import GrpcSample.Grpc.Call
import GrpcSample.Lib.Loop

/-!
# The retry handler

`python/src/interceptor/grpc_client_retry_handler.py`: `_intercept_unary_call` and
`_intercept_stream_call` of `RetryOnRpcErrorClientInterceptor`, each a loop over
`range(self.max_attempts)` whose iterations act on a world `ω`. The continuation acts on it (it
reaches a server, or the interceptor below), and so does `sleeping_policy.sleep`. What `sleep`
returns is not used: against the docstring of `SleepingPolicy`, which has it return a number of
milliseconds, a policy is expected to sleep by itself, as `ExponentialBackoff` does. The second of
the two is a generator; it is modelled together with a consumer that takes every message, which is
how the client iterates it.

An iteration retries or returns. `Retries` and `RetriesStream` say which, as predicates on the index
of the attempt and on what the attempt came back with, and the two theorems at the end say what a
whole call is: the outcome of the first attempt that is not retried. A loop that runs out of
attempts happens only without any attempt (`max_attempts` at most zero).
-/

namespace GrpcSample

/-- The attributes `max_attempts` and `status_for_retry`. -/
structure Retry where
  maxAttempts : Int
  statusForRetry : List StatusCode

namespace Retry

variable {ω β ρ : Type*}

/-- One iteration of `_intercept_unary_call`. -/
def attemptUnary (h : Retry) (sleep : ℕ → ω → ω) (continuation : ω → Option (Reply β) × ω)
    (try_i : ℕ) (w : ω) : Option (Option (Reply β)) × ω :=
  match continuation w with
  | (some (.rpcError status), w) =>
    -- the last attempt is returned whatever its status
    if try_i = h.maxAttempts - 1 then (some (some (.rpcError status)), w)
    else if status ∉ h.statusForRetry then (some (some (.rpcError status)), w)
    else (none, sleep try_i w)
  -- a response, and also `None`, which is no `RpcError` either
  | (response, w) => (some response, w)

/-- `_intercept_unary_call`; falling off the end of the loop returns `None`. -/
def interceptUnaryCall (h : Retry) (sleep : ℕ → ω → ω) (continuation : ω → Option (Reply β) × ω)
    (w : ω) : Option (Reply β) × ω :=
  let (returned, w) := Loop.run (h.attemptUnary sleep continuation) h.maxAttempts.toNat w
  (returned.join, w)

/-- Calling the continuation and iterating what it returns. -/
def consume (continuation : ω → Iterable ω β × ω) (w : ω) : (Iterable ω β × Delivery β) × ω :=
  let (response, w) := continuation w
  let (delivery, w) := response.iterate w
  ((response, delivery), w)

/-- One iteration of `_intercept_stream_call`; the state holds the messages yielded so far, and what
    is returned is how the generator ends. -/
def attemptStream (h : Retry) (sleep : ℕ → ω → ω) (continuation : ω → Iterable ω β × ω)
    (try_i : ℕ) (y : List β × ω) : Option Ending × (List β × ω) :=
  let ((response, delivery), w) := consume continuation y.2
  let yielded := y.1 ++ delivery.messages
  match delivery.ending with
  | .rpcError _ =>
    -- `except grpc.RpcError`, where `response` may have been rebound to a message
    match (response.binding.after delivery.messages).code with
    | .error e => (some e, (yielded, w))
    | .ok code =>
      if code ∉ h.statusForRetry ∨ try_i = h.maxAttempts - 1 then (some .stopIteration, (yielded, w))
      else (none, (yielded, sleep try_i w))
  -- `break`, or an exception that the clause does not catch
  | ending => (some ending, (yielded, w))

/-- `_intercept_stream_call`, iterated to its end. -/
def interceptStreamCall (h : Retry) (sleep : ℕ → ω → ω) (continuation : ω → Iterable ω β × ω)
    (w : ω) : Delivery β × ω :=
  let (ended, yielded, w) :=
    Loop.run (h.attemptStream sleep continuation) h.maxAttempts.toNat ([], w)
  (⟨yielded, ended.getD .stopIteration⟩, w)

/-- The world before each attempt, as long as the attempts are retried. -/
def worlds (sleep : ℕ → ω → ω) (continuation : ω → ρ × ω) (w : ω) : ℕ → ω
  | 0 => w
  | i + 1 => sleep i (continuation (worlds sleep continuation w i)).2

variable {h : Retry} {sleep : ℕ → ω → ω} {w : ω} {i j : ℕ}

/-- The worlds are a sequence that each attempt and its sleep lead along. -/
lemma worlds_eq {continuation : ω → ρ × ω} (states : ℕ → ω) (start : states 0 = w)
    (step : ∀ k, sleep k (continuation (states k)).2 = states (k + 1)) :
    worlds sleep continuation w i = states i := by
  induction i with
  | zero => exact start.symm
  | succ i ih => rw [worlds, ih, step]

section
variable {continuation : ω → Option (Reply β) × ω}

/-- Attempt `i` is followed by another one, having come back with `response`. -/
def Retries (h : Retry) (i : ℕ) (response : Option (Reply β)) : Prop :=
  i ≠ h.maxAttempts - 1 ∧ ∃ status ∈ h.statusForRetry, response = some (.rpcError status)

/-- An attempt that is retried is followed by a sleep. -/
lemma attemptUnary_retries (retries : h.Retries i (continuation w).1) :
    h.attemptUnary sleep continuation i w = (none, sleep i (continuation w).2) := by
  obtain ⟨more, status, mem, eq⟩ := retries
  unfold attemptUnary
  split
  · next status' w' eq' =>
    rw [eq'] at eq
    cases eq
    rw [if_neg more, if_neg (not_not.mpr mem), eq']
  · next w' other eq' =>
    rw [eq'] at eq
    exact absurd eq (other status)

/-- Any other one is returned. -/
lemma attemptUnary_returns (returns : ¬ h.Retries i (continuation w).1) :
    h.attemptUnary sleep continuation i w = (some (continuation w).1, (continuation w).2) := by
  unfold attemptUnary
  split
  · next status w' eq =>
    rw [eq] at returns ⊢
    split
    · rfl
    · next more => rw [if_pos fun mem => returns ⟨more, status, mem, rfl⟩]
  · next w' _ eq => rw [eq]

end

section
variable {continuation : ω → Iterable ω β × ω}

/-- Attempt `i` of a stream call is followed by another one. -/
def RetriesStream (h : Retry) (i : ℕ) (r : Iterable ω β × Delivery β) : Prop :=
  i ≠ h.maxAttempts - 1 ∧ (∃ status, r.2.ending = .rpcError status) ∧
    ∃ code ∈ h.statusForRetry, (r.1.binding.after r.2.messages).code = .ok code

/-- How the generator ends when the attempt is not retried. -/
def verdict (r : Iterable ω β × Delivery β) : Ending :=
  match r.2.ending with
  | .rpcError _ =>
    match (r.1.binding.after r.2.messages).code with
    | .error e => e
    | .ok _ => .stopIteration
  | ending => ending

/-- An attempt that is retried has delivered nothing: a message has no `code()`. -/
lemma RetriesStream.silent {r : Iterable ω β × Delivery β} (retries : h.RetriesStream i r) :
    r.2.messages = [] := by
  obtain ⟨_, _, code, _, eq⟩ := retries
  cases messages : r.2.messages with
  | nil => rfl
  | cons m ms =>
    rw [messages, Binding.code_after_cons] at eq
    cases eq

/-- An attempt that is retried yields nothing and is followed by a sleep. -/
lemma attemptStream_retries {yielded : List β}
    (retries : h.RetriesStream i (consume continuation w).1) :
    h.attemptStream sleep continuation i (yielded, w) =
      (none, (yielded, sleep i (consume continuation w).2)) := by
  have silent := retries.silent
  obtain ⟨more, ⟨status, failed⟩, code, mem, eq⟩ := retries
  rw [silent] at eq
  simp only [attemptStream, failed, eq, silent, List.append_nil]
  rw [if_neg]
  rintro (h | h)
  · exact h mem
  · exact more h

/-- Any other one yields its messages and ends the call. -/
lemma attemptStream_returns {yielded : List β}
    (returns : ¬ h.RetriesStream i (consume continuation w).1) :
    h.attemptStream sleep continuation i (yielded, w) =
      (some (verdict (consume continuation w).1),
        (yielded ++ (consume continuation w).1.2.messages, (consume continuation w).2)) := by
  simp only [attemptStream, verdict]
  cases failed : (consume continuation w).1.2.ending with
  | rpcError status =>
    cases eq : ((consume continuation w).1.1.binding.after
      (consume continuation w).1.2.messages).code with
    | error e => rfl
    | ok code =>
      refine if_pos ?_
      by_contra h
      obtain ⟨mem, more⟩ := not_or.mp h
      exact returns ⟨more, ⟨status, failed⟩, code, not_not.mp mem, eq⟩
  | stopIteration => rfl
  | attributeError => rfl
  | typeError => rfl

end

/-- A call object is tried again when it fails with a retryable status before its first message. -/
def RetriesCall (h : Retry) (i : ℕ) (c : StreamCall β) : Prop :=
  i ≠ h.maxAttempts - 1 ∧ ∃ status ∈ h.statusForRetry, c = ⟨[], some status⟩

/-- Over a call object that is when an attempt is retried. -/
lemma retriesStream_call {c : StreamCall β} :
    h.RetriesStream i ((.call c : Iterable ω β), c.iterate) ↔ h.RetriesCall i c := by
  obtain ⟨messages, error⟩ := c
  constructor
  · intro retries
    have silent : messages = [] := retries.silent
    subst silent
    obtain ⟨more, ⟨status, failed⟩, code, mem, eq⟩ := retries
    cases error with
    | none => cases failed
    | some status' =>
      cases eq
      exact ⟨more, status', mem, rfl⟩
  · rintro ⟨more, status, mem, eq⟩
    cases eq
    exact ⟨more, ⟨status, rfl⟩, status, mem, rfl⟩

/-- How the retry handler ends a stream whose last attempt was `c`: a failure before any message
    looks like a normal end, one after a message is the handler's own `AttributeError`. -/
def ends (c : StreamCall β) : Ending :=
  match c with
  | ⟨_, none⟩ | ⟨[], some _⟩ => .stopIteration
  | ⟨_ :: _, some _⟩ => .attributeError

/-- A call that ends normally is ended normally. -/
lemma ends_ok {c : StreamCall β} (ok : c.error = none) : ends c = .stopIteration := by
  obtain ⟨messages, error⟩ := c
  cases ok
  rfl

/-- The verdict on a call object is the end that it makes the stream have. -/
lemma verdict_call {c : StreamCall β} :
    verdict ((.call c : Iterable ω β), c.iterate) = ends c := by
  obtain ⟨messages, error⟩ := c
  cases error with
  | none => cases messages <;> rfl
  | some status =>
    cases messages with
    | nil => rfl
    | cons m ms => simp [verdict, ends, StreamCall.iterate]

/-- A continuation's result is iterated at once. -/
lemma consume_eq {continuation : ω → Iterable ω β × ω} {response : Iterable ω β} {w' : ω}
    (returned : continuation w = (response, w')) :
    consume continuation w = ((response, (response.iterate w').1), (response.iterate w').2) := by
  rw [consume, returned]

/-- A generator has no `code()`, so it is not tried again, and an error of it is not passed on. -/
lemma not_retriesStream_generator {body : ω → Delivery β × ω} {d : Delivery β} :
    ¬ h.RetriesStream i (.generator body, d) := by
  intro retries
  have silent : d.messages = [] := retries.silent
  obtain ⟨_, _, code, _, eq⟩ := retries
  rw [silent] at eq
  cases eq

/-- An `RpcError` of a generator becomes an `AttributeError`. -/
lemma verdict_generator {body : ω → Delivery β × ω} {d : Delivery β} :
    verdict (.generator body, d) = match d.ending with
      | .rpcError _ => .attributeError
      | ending => ending := by
  have code : (Binding.after .generator d.messages).code = .error .attributeError := by
    cases d.messages with
    | nil => rfl
    | cons m ms => exact Binding.code_after_cons
  simp only [verdict, Iterable.binding, code]

/-- What is not iterable is not tried again. -/
lemma not_retriesStream_typeError {r : Iterable ω β × Delivery β} (h' : r.2.ending = .typeError) :
    ¬ h.RetriesStream i r := by
  rintro ⟨_, ⟨status, eq⟩, _⟩
  rw [h'] at eq
  cases eq

/-- Without an attempt a call returns `None`. -/
lemma interceptUnaryCall_zero {continuation : ω → Option (Reply β) × ω} (zero : h.maxAttempts ≤ 0) :
    h.interceptUnaryCall sleep continuation w = (none, w) := by
  rw [interceptUnaryCall, Int.toNat_of_nonpos zero]
  rfl

/-- And a stream delivers nothing. -/
lemma interceptStreamCall_zero {continuation : ω → Iterable ω β × ω} (zero : h.maxAttempts ≤ 0) :
    h.interceptStreamCall sleep continuation w = (⟨[], .stopIteration⟩, w) := by
  rw [interceptStreamCall, Int.toNat_of_nonpos zero]
  rfl

/-- A call is the outcome of its first attempt that is not retried. -/
theorem interceptUnaryCall_eq {continuation : ω → Option (Reply β) × ω} {r : Option (Reply β)}
    {w' : ω} (lt : j < h.maxAttempts)
    (retries : ∀ i < j, h.Retries i (continuation (worlds sleep continuation w i)).1)
    (last : continuation (worlds sleep continuation w j) = (r, w')) (returns : ¬ h.Retries j r) :
    h.interceptUnaryCall sleep continuation w = (r, w') := by
  have loop : Loop.run (h.attemptUnary sleep continuation) h.maxAttempts.toNat w = _ :=
    Loop.run_of_states (worlds sleep continuation w) rfl (by omega)
      (fun i lt => attemptUnary_retries (retries i lt)) (attemptUnary_returns (by rwa [last]))
  rw [interceptUnaryCall, loop, last]
  rfl

/-- A continuation that returns a response or an error, as grpc's own does. -/
def replyOf (f : ω → Reply β × ω) (w : ω) : Option (Reply β) × ω :=
  (some (f w).1, (f w).2)

/-- Wrapping the reply does not change the worlds. -/
lemma worlds_replyOf {f : ω → Reply β × ω} :
    worlds sleep (replyOf f) w i = worlds sleep f w i :=
  worlds_eq (worlds sleep f w) rfl fun _ => rfl

/-- Over grpc's own calls a call is its first attempt that is not retried. -/
theorem interceptUnaryCall_replyOf {f : ω → Reply β × ω} {r : Reply β} {w' : ω}
    (lt : j < h.maxAttempts) (retries : ∀ i < j, h.Retries i (some (f (worlds sleep f w i)).1))
    (last : f (worlds sleep f w j) = (r, w')) (returns : ¬ h.Retries j (some r)) :
    h.interceptUnaryCall sleep (replyOf f) w = (some r, w') := by
  refine interceptUnaryCall_eq lt ?_ ?_ returns
  · intro i lt
    rw [worlds_replyOf]
    exact retries i lt
  · rw [worlds_replyOf, replyOf, last]

/-- A stream delivers what its first attempt that is not retried delivers, and ends by its
    verdict. -/
theorem interceptStreamCall_eq {continuation : ω → Iterable ω β × ω} {r : Iterable ω β × Delivery β}
    {w' : ω} (lt : j < h.maxAttempts)
    (retries : ∀ i < j,
      h.RetriesStream i (consume continuation (worlds sleep (consume continuation) w i)).1)
    (last : consume continuation (worlds sleep (consume continuation) w j) = (r, w'))
    (returns : ¬ h.RetriesStream j r) :
    h.interceptStreamCall sleep continuation w = (⟨r.2.messages, verdict r⟩, w') := by
  have loop : Loop.run (h.attemptStream sleep continuation) h.maxAttempts.toNat ([], w) = _ :=
    Loop.run_of_states (fun i => ([], worlds sleep (consume continuation) w i)) rfl (by omega)
      (fun i lt => attemptStream_retries (retries i lt)) (attemptStream_returns (by rwa [last]))
  rw [interceptStreamCall, loop, last]
  rfl

/-- A continuation that returns grpc's call object. -/
def callOf (f : ω → StreamCall β × ω) (w : ω) : Iterable ω β × ω :=
  (.call (f w).1, (f w).2)

/-- Nor does wrapping the call. -/
lemma worlds_callOf {f : ω → StreamCall β × ω} :
    worlds sleep (consume (callOf f)) w i = worlds sleep f w i :=
  worlds_eq (worlds sleep f w) rfl fun _ => rfl

/-- Over grpc's own calls a stream is its first attempt that is not retried. -/
theorem interceptStreamCall_callOf {f : ω → StreamCall β × ω} {c : StreamCall β} {w' : ω}
    (lt : j < h.maxAttempts) (retries : ∀ i < j, h.RetriesCall i (f (worlds sleep f w i)).1)
    (last : f (worlds sleep f w j) = (c, w')) (returns : ¬ h.RetriesCall j c) :
    h.interceptStreamCall sleep (callOf f) w = (⟨c.messages, ends c⟩, w') := by
  rw [← verdict_call (ω := ω)]
  refine interceptStreamCall_eq lt ?_ ?_ (mt retriesStream_call.mp returns)
  · intro i lt
    rw [worlds_callOf]
    exact retriesStream_call.mpr (retries i lt)
  · rw [worlds_callOf, consume, callOf, last]
    rfl

/-- One of the attempts is not retried: the last one at the latest. -/
theorem exists_last {P : ℕ → Prop} (positive : 1 ≤ h.maxAttempts)
    (last : ∀ i, P i → i ≠ h.maxAttempts - 1) :
    ∃ j : ℕ, j < h.maxAttempts ∧ (∀ i < j, P i) ∧ ¬ P j := by
  rcases Loop.first_or_none (fun i => ¬ P i) h.maxAttempts.toNat with ⟨j, lt, returns, earlier⟩ | all
  · exact ⟨j, by omega, fun i lt => not_not.mp (earlier i lt), returns⟩
  · have h' := not_not.mp (all (h.maxAttempts.toNat - 1) (by omega))
    have := last _ h'
    omega

end Retry

end GrpcSample
