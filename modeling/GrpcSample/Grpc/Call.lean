import Mathlib.Data.List.Basic
import Mathlib.Tactic.Common

/-!
# Calls as a client interceptor sees them

The part of grpc and of Python's iterator protocol that the two client interceptors are written
against. An interceptor receives a `continuation` and hands back what the continuation gave it.

* A call with a single response (unary-unary, stream-unary) yields a `Reply`: the response, or an
  object that is an instance of `grpc.RpcError` and has a `code()`.
* A call with a response stream (unary-stream, stream-stream) yields a `StreamCall`: an iterable
  that delivers messages and then ends, or raises an `RpcError`; it has a `code()` too, and once it
  has terminated with an error it raises that error again when it is iterated once more.
* A generator function yields a generator: its body, run by the consumer, has no `code()`.

`for response in response: yield response` rebinds the name `response` from the call to each message
in turn. `Binding` is what the name stands for and `Binding.after` what it stands for when the loop
is left, which decides what `response.code()` in an `except` clause does. A stub compiled from the
proto gives its messages no attribute `code`.
-/

namespace GrpcSample

/-- The status codes of grpc. -/
inductive StatusCode where
  | ok | cancelled | unknown | invalidArgument | deadlineExceeded | notFound | alreadyExists
  | permissionDenied | resourceExhausted | failedPrecondition | aborted | outOfRange
  | unimplemented | internal | unavailable | dataLoss | unauthenticated
  deriving DecidableEq, Repr

/-- The four kinds of method a service has. -/
inductive CallKind where
  | unaryUnary | unaryStream | streamUnary | streamStream
  deriving DecidableEq, Repr

/-- Whether a call of this kind has a response stream rather than one response. -/
def CallKind.streamsResponses : CallKind → Bool
  | .unaryUnary | .streamUnary => false
  | .unaryStream | .streamStream => true

variable {β : Type*}

/-- What a call with a single response comes back with. -/
inductive Reply (β : Type*) where
  | response (message : β)
  | rpcError (status : StatusCode)
  deriving DecidableEq, Repr

/-- A call with a response stream: the messages it delivers, and the status it then fails with, if
    it does not end normally. -/
structure StreamCall (β : Type*) where
  messages : List β
  error : Option StatusCode
  deriving DecidableEq, Repr

/-- How an iteration ends for the consumer: normally, or with the exception raised from it. -/
inductive Ending where
  | stopIteration
  | rpcError (status : StatusCode)
  | attributeError
  | typeError
  deriving DecidableEq, Repr

/-- What the consumer of an iterable gets from it. -/
structure Delivery (β : Type*) where
  messages : List β
  ending : Ending
  deriving DecidableEq, Repr

/-- The end of a stream call: `StopIteration`, or its error. -/
def StreamCall.ending (c : StreamCall β) : Ending :=
  match c.error with
  | none => .stopIteration
  | some s => .rpcError s

/-- `code()` of a terminated call. -/
def StreamCall.code (c : StreamCall β) : StatusCode :=
  c.error.getD .ok

/-- Iterating a call for the first time. -/
def StreamCall.iterate (c : StreamCall β) : Delivery β :=
  ⟨c.messages, c.ending⟩

/-- What the name `response` stands for. -/
inductive Binding (β : Type*) where
  | call (c : StreamCall β)
  | message (m : β)
  | generator
  | none

/-- `for response in response: yield response` has rebound the name to each message in turn. -/
def Binding.after (response : Binding β) (messages : List β) : Binding β :=
  messages.foldl (fun _ m => .message m) response

/-- `response.code()`: of these only a call has the attribute. -/
def Binding.code : Binding β → Except Ending StatusCode
  | .call c => .ok c.code
  | .message _ | .generator | .none => .error .attributeError

/-- `list(response)` of something already iterated once: a failed call raises its error again, an
    exhausted generator is empty, a message or `None` is not iterable. -/
def Binding.list : Binding β → Ending
  | .call c => c.ending
  | .generator => .stopIteration
  | .message _ | .none => .typeError

/-- A call with an error ends with it. -/
@[simp] lemma StreamCall.ending_some {ms : List β} {s : StatusCode} :
    (StreamCall.mk ms (some s)).ending = .rpcError s := rfl

/-- A call with an error has its status. -/
@[simp] lemma StreamCall.code_some {ms : List β} {s : StatusCode} :
    (StreamCall.mk ms (some s)).code = s := rfl

/-- Without a message nothing is rebound. -/
@[simp] lemma Binding.after_nil {r : Binding β} : r.after [] = r := rfl

/-- After at least one message the name no longer stands for anything that has a `code()`. -/
@[simp] lemma Binding.code_after_cons {r : Binding β} {m : β} {ms : List β} :
    (r.after (m :: ms)).code = .error .attributeError := by
  induction ms generalizing r m with
  | nil => rfl
  | cons m' ms ih => exact ih (r := .message m)

/-- What a continuation returns for a call with a response stream: grpc's call object, a generator
    whose body acts on the world `ω` when it is run, or `None`. -/
inductive Iterable (ω : Type*) (β : Type*) where
  | call (c : StreamCall β)
  | generator (body : ω → Delivery β × ω)
  | none

/-- The binding of `response` when it has just been assigned an iterable object. -/
def Iterable.binding {ω : Type*} : Iterable ω β → Binding β
  | .call c => .call c
  | .generator _ => .generator
  | .none => .none

/-- Consuming an iterable; `None` is not iterable. -/
def Iterable.iterate {ω : Type*} : Iterable ω β → ω → Delivery β × ω
  | .call c, w => (c.iterate, w)
  | .generator body, w => body w
  | .none, w => (⟨[], .typeError⟩, w)

end GrpcSample
