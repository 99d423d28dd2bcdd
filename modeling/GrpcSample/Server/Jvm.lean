import GrpcSample.Lib.Streaming
import GrpcSample.Server.Messages

/-!
# The streaming methods of the Java and Kotlin servers

`startStream` and `joinInteractStream` of `GrpcCrashingServer` in `java/` and `kotlin/`: after the
simulated failure, if there is none, each returns a `StreamObserver` of the requests that answers on
`responseObserver`. The two differ in one thing: Java makes the bytes of its responses with
`getBytes()`, in the default charset of the JVM, Kotlin with `toByteArray()`, in UTF-8.

Both decode with `String(bytes, UTF_8)`, which replaces what is malformed; `more` is how many bytes
it replaces at a time (`Lib/Utf8.lean`).
-/

namespace GrpcSample
open Streaming

/-- The observer of `startStream`, with its `updates`. -/
def startObserver (decode : Bytes → String) :
    Observer (List StreamUpdate) StreamUpdate StartStreamResponse where
  start := []
  onNext updates streamUpdate := (updates ++ [streamUpdate], [])
  onError updates := (updates, [])
  onCompleted updates :=
    let words := updates.map fun u => decode u.audioData
    (updates, [.next ⟨wordsText ++ ",".intercalate words⟩, .completed])

/-- The observer of `joinInteractStream`. -/
def interactObserver (decode : Bytes → String) (encode : String → Bytes) :
    Observer Unit InteractStreamUpdate InteractStreamUpdate where
  start := ()
  onNext _ streamUpdate :=
    ((), if "Hey" = decode streamUpdate.audioData then [.next (reply encode greetingText)] else [])
  onError _ := ((), [])
  onCompleted _ := ((), [.next (reply encode farewellText), .completed])

/-- A method: `randomFailure`, which throws a simulated failure, and then the observer. -/
def afterFailure {σ α β : Type*} (d : Draw) (observer : Observer σ α β) :
    Except StatusCode (Observer σ α β) :=
  match randomFailure d with
  | some status => .error status
  | none => .ok observer

/-- A method under the signals of a call. -/
def serveCall {σ α β : Type*} (method : Except StatusCode (Observer σ α β))
    (signals : List (Signal α)) : List (Seen α β StatusCode) :=
  match method with
  | .error status => [.failed status]
  | .ok observer => observer.run observer.start signals

/-- Without a simulated failure it is the observer that answers. -/
lemma serveCall_quiet {σ α β : Type*} {d : Draw} {observer : Observer σ α β}
    {signals : List (Signal α)} (quiet : randomFailure d = none) :
    serveCall (afterFailure d observer) signals = observer.run observer.start signals := by
  rw [afterFailure, quiet]
  rfl

/-- With one the call fails, and no observer gets the signals. -/
lemma serveCall_failed {σ α β : Type*} {d : Draw} {observer : Observer σ α β}
    {signals : List (Signal α)} {status : StatusCode} (failed : randomFailure d = some status) :
    serveCall (afterFailure d observer) signals = [.failed status] := by
  rw [afterFailure, failed]
  rfl

namespace Java

/-- `startStream`. -/
def startStream (d : Draw) (more : Bytes → ℕ) :
    Except StatusCode (Observer (List StreamUpdate) StreamUpdate StartStreamResponse) :=
  afterFailure d (startObserver (Utf8.decodeReplacing more))

/-- `joinInteractStream`. -/
def joinInteractStream (d : Draw) (more : Bytes → ℕ) (charset : String → Bytes) :
    Except StatusCode (Observer Unit InteractStreamUpdate InteractStreamUpdate) :=
  afterFailure d (interactObserver (Utf8.decodeReplacing more) charset)

end Java

namespace Kotlin

/-- `startStream`. -/
def startStream (d : Draw) (more : Bytes → ℕ) :
    Except StatusCode (Observer (List StreamUpdate) StreamUpdate StartStreamResponse) :=
  afterFailure d (startObserver (Utf8.decodeReplacing more))

/-- `joinInteractStream`. -/
def joinInteractStream (d : Draw) (more : Bytes → ℕ) :
    Except StatusCode (Observer Unit InteractStreamUpdate InteractStreamUpdate) :=
  afterFailure d (interactObserver (Utf8.decodeReplacing more) utf8)

end Kotlin

end GrpcSample
