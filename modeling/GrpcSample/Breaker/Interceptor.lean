import GrpcSample.Grpc.Call
import Mathlib.Order.Lattice

/-!
# The circuit breaker

`python/src/interceptor/grpc_client_circuit_breaker.py`: the fields of
`CircuitBreakerClientInterceptor`, its two property setters, the admission check and the two ways a
call goes through it. A method that reads `time.time()` takes the reading as an argument, one for
each read that can matter; the readings that only feed a log line are left out. A reading is an
element of any linear order `T` with an addition: the code compares readings and adds
`recovery_timeout` to one of them, nothing else.

The setters call each other: `state = CLOSED` assigns `failure_count`, which may assign
`state = OPENED`, where it stops. `Breaker.setOpened` is that last assignment, shared by the two.

A call has two phases here, each atomic: the check (`isOpenCircuit`) and, once the continuation has
answered, what follows it (`afterUnary` for `_call_unary`, `afterStream` for the generator
`_call_stream`, whose consumer has taken every message). Between the two other calls may go through
the same breaker. `interceptUnaryCall` and `interceptStreamCall` put the phases together for calls
made one after the other. They return `None` when the circuit is open, as the code does, which logs
the rejection and falls off its end.
-/

namespace GrpcSample

/-- `CLOSED`, `OPENED`, `HALF_OPENED`. -/
inductive CircuitState where
  | closed | opened | halfOpened
  deriving DecidableEq, Repr

/-- The attributes of `CircuitBreakerClientInterceptor`. -/
structure Breaker (T : Type*) where
  failureThreshold : Int
  recoveryTimeout : T
  failureCount : Int
  state : CircuitState
  recoveryTime : T
  statusForRetry : List StatusCode
  deriving DecidableEq, Repr

namespace Breaker

variable {T : Type*} [LinearOrder T] [Add T] {β : Type*} {ω : Type*}

/-- `__init__`, with its reading of the clock. -/
def init (failureThreshold : Int) (recoveryTimeout : T) (statusForRetry : List StatusCode)
    (now : T) : Breaker T where
  failureThreshold := failureThreshold
  recoveryTimeout := recoveryTimeout
  failureCount := 0
  state := .closed
  recoveryTime := now
  statusForRetry := statusForRetry

/-- `self.state = self.OPENED`. -/
def setOpened (b : Breaker T) (now : T) : Breaker T :=
  { b with state := .opened, recoveryTime := now + b.recoveryTimeout }

/-- The setter of `failure_count`. -/
def setFailureCount (b : Breaker T) (newValue : Int) (now : T) : Breaker T :=
  -- the threshold is met by equality: a counter that skipped it would never open the circuit
  if newValue = b.failureThreshold then
    { b.setOpened now with failureCount := 0 }
  else if newValue > b.failureCount ∧ b.state = .halfOpened then
    { b.setOpened now with failureCount := 0 }
  else
    { b with failureCount := newValue }

/-- The setter of `state`. -/
def setState (b : Breaker T) (newValue : CircuitState) (now : T) : Breaker T :=
  match newValue with
  | .opened => b.setOpened now
  | .closed => setFailureCount { b with state := .closed } 0 now
  | .halfOpened => { b with state := .halfOpened }

/-- `_is_open_circuit`: `t₁` is read by the first comparison, `t₂` by the second. -/
def isOpenCircuit (b : Breaker T) (t₁ t₂ : T) : Bool × Breaker T :=
  let b := if b.recoveryTime < t₁ ∧ b.state = .opened then b.setState .halfOpened t₁ else b
  -- the state that is tested here is the one the first line may have assigned
  (b.state = .opened ∨ b.recoveryTime > t₂, b)

/-- `_call_unary` from the point where the continuation has returned. -/
def afterUnary (b : Breaker T) (response : Reply β) (now : T) : Breaker T :=
  match response with
  | .rpcError _ => b.setFailureCount (b.failureCount + 1) now
  | .response _ =>
    if b.state = .halfOpened then
      (b.setState .closed now).setFailureCount 0 now
    else b

/-- `_call_stream` from the point where the last message has been consumed: what the generator does
    to the breaker and what its consumer has got from it altogether. -/
def afterStream (b : Breaker T) (response : StreamCall β) (now : T) : Breaker T × Delivery β :=
  match response.error with
  | none => (b, ⟨response.messages, .stopIteration⟩)
  | some _ =>
    -- `except grpc.RpcError`, where `response` may have been rebound to a message
    let binding := (Binding.call response).after response.messages
    match binding.code with
    | .error e => (b, ⟨response.messages, e⟩)
    | .ok code =>
      if code ∈ b.statusForRetry then
        (b.setFailureCount (b.failureCount + 1) now, ⟨response.messages, .stopIteration⟩)
      else if b.state = .halfOpened then
        ((b.setState .closed now).setFailureCount 0 now, ⟨response.messages, binding.list⟩)
      else
        (b, ⟨response.messages, binding.list⟩)

/-- The readings that one pass through the breaker makes: two in the check, one when it is over. -/
structure Readings (T : Type*) where
  first : T
  second : T
  done : T

/-- `_intercept_unary_call`. -/
def interceptUnaryCall (r : Readings T) (continuation : ω → Reply β × ω) (w : Breaker T × ω) :
    Option (Reply β) × (Breaker T × ω) :=
  match w.1.isOpenCircuit r.first r.second with
  | (true, b) => (none, (b, w.2))
  | (false, b) =>
    let (response, w') := continuation w.2
    (some response, (b.afterUnary response r.done, w'))

/-- `_intercept_stream_call`: the check is made now, the continuation is called when the generator
    that is returned is first advanced. -/
def interceptStreamCall (r : Readings T) (continuation : ω → StreamCall β × ω)
    (w : Breaker T × ω) : Iterable (Breaker T × ω) β × (Breaker T × ω) :=
  match w.1.isOpenCircuit r.first r.second with
  | (true, b) => (.none, (b, w.2))
  | (false, b) =>
    (.generator fun w =>
      let (response, w') := continuation w.2
      let (b, delivery) := w.1.afterStream response r.done
      (delivery, (b, w')), (b, w.2))

end Breaker

end GrpcSample
