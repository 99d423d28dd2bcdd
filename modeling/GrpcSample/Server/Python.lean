import GrpcSample.Lib.Streaming
import GrpcSample.Server.Messages

/-!
# The streaming methods of the Python server

`startStream` and `joinInteractStream` of `python/src/server/grpc_crashing_server.py`. A request
iterator delivers its requests and then ends, or raises an `RpcError` when the stream is broken.
`joinInteractStream` is a generator function: its body is a `Generator`, whose `yield` inside the
`try` statement has the `finally` clause for what happens when the consumer closes the generator
there, just as for every other way out of the loop.
-/

namespace GrpcSample
open Streaming

/-- The exceptions that the methods meet. -/
inductive PyException where
  /-- `grpc.RpcError`, with the status that has been set in the context. -/
  | rpcError (status : Option StatusCode)
  | unicodeDecodeError
  | generatorExit
  deriving DecidableEq, Repr

/-- A request iterator: the requests it delivers, and whether it then raises an `RpcError`. -/
structure RequestIterator (α : Type*) where
  requests : List α
  broken : Bool

/-- `for update in request_iterator: updates.append(update)`: the list, and the exception that has
    left the loop. -/
def RequestIterator.collect {α : Type*} (it : RequestIterator α) : List α × Option PyException :=
  (it.requests, if it.broken then some (.rpcError none) else none)

namespace Python

/-- `bytes.decode('utf-8')`. -/
def decode (bs : Bytes) : Except PyException String :=
  match Utf8.decode? bs with
  | some s => .ok s
  | none => .error .unicodeDecodeError

/-- `_from_proto_stream`. -/
def fromProtoStream (stream : InteractStreamUpdate) : Except PyException (String × String) := do
  let audioData ← decode stream.audioData
  let videoData ← decode stream.frameData
  return (videoData, audioData)

/-- `startStream`; `text` is what an f-string makes of a list of messages. -/
def startStream (d : Draw) (text : List StreamUpdate → String) (it : RequestIterator StreamUpdate) :
    Except PyException StartStreamResponse :=
  match randomFailure d with
  | some status => .error (.rpcError (some status))
  | none =>
    let (updates, raised) := it.collect
    match raised with
    -- `except grpc.RpcError` logs the error, and the method goes on with what it has got
    | none | some (.rpcError _) => .ok ⟨wordsText ++ text updates⟩
    | some e => .error e

/-- The `finally` clause of `joinInteractStream`, and how the generator ends after it. -/
def parting (ending : Generator InteractStreamUpdate InteractStreamUpdate PyException) :
    Generator InteractStreamUpdate InteractStreamUpdate PyException :=
  .yield (reply utf8 farewellText) ending (.raise .generatorExit)

/-- The `try` statement of `joinInteractStream`. -/
def interact (broken : Bool) :
    List InteractStreamUpdate → Generator InteractStreamUpdate InteractStreamUpdate PyException
  | [] =>
    -- `except grpc.RpcError` only logs
    if broken then .broke (parting .stop) else parting .stop
  | streamUpdate :: requests =>
    .took streamUpdate <|
      match fromProtoStream streamUpdate with
      -- no `except` clause for it, but the `finally` clause yields before it leaves
      | .error e => parting (.raise e)
      | .ok stream =>
        if "Hey" = stream.2 then
          .yield (reply utf8 greetingText) (interact broken requests)
            (parting (.raise .generatorExit))
        else interact broken requests

/-- `joinInteractStream`. -/
def joinInteractStream (d : Draw) (it : RequestIterator InteractStreamUpdate) :
    Generator InteractStreamUpdate InteractStreamUpdate PyException :=
  match randomFailure d with
  | some status => .raise (.rpcError (some status))
  | none => interact it.broken it.requests

/-- A request that cannot be decoded raises, whatever its audio says. -/
lemma fromProtoStream_error {u : InteractStreamUpdate} (h : ¬ u.Decodable) :
    fromProtoStream u = .error .unicodeDecodeError := by
  unfold fromProtoStream decode
  cases audio : Utf8.decode? u.audioData with
  | none => rfl
  | some a =>
    cases frame : Utf8.decode? u.frameData with
    | none => rfl
    | some v => exact absurd ⟨by rw [audio]; rfl, by rw [frame]; rfl⟩ h

/-- Of one that can be, the audio is `Hey` if it is a greeting. -/
lemma fromProtoStream_ok {u : InteractStreamUpdate} (h : u.Decodable) :
    ∃ stream, fromProtoStream u = .ok stream ∧ ("Hey" = stream.2 ↔ u.Greets) := by
  obtain ⟨a, audio⟩ := Option.isSome_iff_exists.mp h.1
  obtain ⟨v, frame⟩ := Option.isSome_iff_exists.mp h.2
  refine ⟨(v, a), by simp only [fromProtoStream, decode, audio, frame]; rfl, ?_⟩
  rw [InteractStreamUpdate.Greets, utf8_eq, ← Utf8.decode?_eq_some_iff, audio, Option.some_inj]
  exact eq_comm

variable {u : InteractStreamUpdate} {requests : List InteractStreamUpdate} {broken : Bool}

/-- Whether a request cannot be decoded is left to those behind one that can be. -/
lemma undecodable_cons (h : u.Decodable) :
    (∃ v ∈ u :: requests, ¬ v.Decodable) ↔ ∃ v ∈ requests, ¬ v.Decodable := by
  simp [h]

/-- A request that cannot be decoded leads to the farewell, and then to the exception. -/
lemma interact_undecodable (h : ¬ u.Decodable) :
    interact broken (u :: requests) = .took u (parting (.raise .unicodeDecodeError)) := by
  rw [interact, fromProtoStream_error h]

/-- A greeting is answered. Closed at this point the generator says farewell. -/
lemma interact_greets (h : u.Decodable) (greets : u.Greets) :
    interact broken (u :: requests) = .took u (.yield (reply utf8 greetingText)
      (interact broken requests) (parting (.raise .generatorExit))) := by
  obtain ⟨stream, ok, iff⟩ := fromProtoStream_ok h
  simp only [interact, ok, if_pos (iff.mpr greets)]

/-- Another request is passed over. -/
lemma interact_passes (h : u.Decodable) (other : ¬ u.Greets) :
    interact broken (u :: requests) = .took u (interact broken requests) := by
  obtain ⟨stream, ok, iff⟩ := fromProtoStream_ok h
  simp only [interact, ok, if_neg (mt iff.mp other)]

end Python

end GrpcSample
