import GrpcSample.Server.Protocol

/-!
# The crashing servers

What a simulated failure does to a call, for all four methods of the three servers. The streaming
methods are in `Python.lean` and `Jvm.lean`; here are the two that take a single request,
`downloadStream` and `watchStream`. They read of the request only what they log, so they do not take
it here. The Kotlin server counts down, `3 downTo 0`, and so sends one message more than the others.

A client sees of a server what `clientCall` makes of its trace. `crash_law`: each method is all or
nothing. A failure that is drawn ends the call before any response, with the status that is drawn,
and without one the call delivers all of its responses and ends with status OK. The one exception is
`joinInteractStream` of the Python server, which also fails, after some responses, when a request
cannot be decoded.
-/

namespace GrpcSample
open Streaming

/-- The response of `downloadStream`. -/
structure Recording where
  data : Bytes
  deriving DecidableEq, Repr

/-- The response of `downloadStream`, under the encoding that the server makes bytes with. -/
def recording (encode : String → Bytes) : Recording :=
  ⟨encode "Recording Data"⟩

/-- Message `i` of `watchStream`. -/
def watched (encode : String → Bytes) (i : ℕ) : StreamUpdate :=
  ⟨encode ("Video" ++ toString i), encode ("Audio" ++ toString i)⟩

namespace Python

/-- `downloadStream`. -/
def downloadStream (d : Draw) : Except PyException Recording :=
  match randomFailure d with
  | some status => .error (.rpcError (some status))
  | none => .ok (recording utf8)

/-- The loop of `watchStream`. -/
def watch : List ℕ → Generator Empty StreamUpdate PyException
  | [] => .stop
  | i :: rest => .yield (watched utf8 i) (watch rest) (.raise .generatorExit)

/-- `watchStream`. -/
def watchStream (d : Draw) : Generator Empty StreamUpdate PyException :=
  match randomFailure d with
  | some status => .raise (.rpcError (some status))
  | none => watch (List.range 3)

end Python

/-- A method of the servers in Java and Kotlin with a single request: `randomFailure`, which throws
    a simulated failure, and then what is sent. -/
def answering {β : Type*} (d : Draw) (sent : List (Sent β)) : Except StatusCode (List (Sent β)) :=
  match randomFailure d with
  | some status => .error status
  | none => .ok sent

namespace Java

/-- `downloadStream`. -/
def downloadStream (d : Draw) (charset : String → Bytes) : Except StatusCode (List (Sent Recording)) :=
  answering d [.next (recording charset), .completed]

/-- `watchStream`. -/
def watchStream (d : Draw) (charset : String → Bytes) :
    Except StatusCode (List (Sent StreamUpdate)) :=
  answering d (([0, 1, 2].map fun i => .next (watched charset i)) ++ [.completed])

end Java

namespace Kotlin

/-- `downloadStream`. -/
def downloadStream (d : Draw) : Except StatusCode (List (Sent Recording)) :=
  answering d [.next (recording utf8), .completed]

/-- `watchStream`. -/
def watchStream (d : Draw) : Except StatusCode (List (Sent StreamUpdate)) :=
  answering d (([3, 2, 1, 0].map fun i => .next (watched utf8 i)) ++ [.completed])

end Kotlin

section
variable {α β ε σ : Type*}

/-- What is seen of a method that returns its response. -/
def returning : Except ε β → List (Seen α β ε)
  | .error e => [.failed e]
  | .ok r => [.emitted r, .completed]

/-- What is seen of a method with a single request. -/
def serveAnswer : Except StatusCode (List (Sent β)) → List (Seen α β StatusCode)
  | .error status => [.failed status]
  | .ok sent => sent.map Sent.seen

/-- What grpc documents of the status of a call whose method raises: it is the code that has been
    set in the context. -/
def KeepsCode (status : PyException → StatusCode) : Prop :=
  ∀ code, status (.rpcError (some code)) = code

/-- The error that a trace ends with. -/
def failure (status : ε → StatusCode) : Seen α β ε → Option StatusCode
  | .failed e => some (status e)
  | .input _ | .broke | .closed | .emitted _ | .completed => none

/-- The call as its client sees it. -/
def clientCall (status : ε → StatusCode) (trace : List (Seen α β ε)) : StreamCall β :=
  ⟨emissions trace, trace.findSome? (failure status)⟩

/-- A method of the Python server that returns its response; `status` is what grpc makes of an
    exception. -/
def replyCall (status : PyException → StatusCode) (method : Except PyException β) : StreamCall β :=
  clientCall status (returning method : List (Seen Empty β PyException))

/-- A method of the Python server that is a generator function. -/
def generatorCall (status : PyException → StatusCode) (method : Generator α β PyException) :
    StreamCall β :=
  clientCall status method.drain

/-- A method of the other servers with a single request. -/
def answerCall (method : Except StatusCode (List (Sent β))) : StreamCall β :=
  clientCall id (serveAnswer method : List (Seen Empty β StatusCode))

/-- A method of the other servers that observes its requests. -/
def observerCall (method : Except StatusCode (Observer σ α β)) (signals : List (Signal α)) :
    StreamCall β :=
  clientCall id (serveCall method signals)

/-- Nothing, with the status that is drawn, or everything. -/
def allOrNothing (d : Draw) (responses : List β) : StreamCall β :=
  match randomFailure d with
  | some status => ⟨[], some status⟩
  | none => ⟨responses, none⟩

/-- The method fails as it is drawn, before any response, and otherwise delivers all of them. -/
def Crashes (call : Draw → StreamCall β) (responses : List β) : Prop :=
  ∀ d, call d = allOrNothing d responses

variable {call : Draw → StreamCall β} {responses : List β} {d : Draw} {o : Observer σ α β} {s : σ}

/-- The two cases of a draw, one by one. -/
lemma crashes_intro (failed : ∀ d status, randomFailure d = some status → call d = ⟨[], some status⟩)
    (quiet : ∀ d, randomFailure d = none → call d = ⟨responses, none⟩) : Crashes call responses := by
  intro d
  unfold allOrNothing
  cases drawn : randomFailure d with
  | some status => exact failed d status drawn
  | none => exact quiet d drawn

/-- What has been sent is no failure. -/
lemma failure_seen {status : ε → StatusCode} {sent : List (Sent β)} :
    (sent.map Sent.seen : List (Seen α β ε)).findSome? (failure status) = none := by
  rw [List.findSome?_eq_none_iff]
  intro x mem
  obtain ⟨r, _, rfl⟩ := List.mem_map.mp mem
  cases r <;> rfl

/-- An observer does not fail. -/
lemma failure_run {status : ε → StatusCode} {signals : List (Signal α)} :
    (o.run s signals : List (Seen α β ε)).findSome? (failure status) = none := by
  induction signals generalizing s with
  | nil => rfl
  | cons signal signals ih =>
    have input : (signal.seen : List (Seen α β ε)).findSome? (failure status) = none := by
      cases signal <;> rfl
    rw [Observer.run, List.findSome?_append, List.findSome?_append, input, failure_seen, ih]
    rfl

/-- A method with a single request is all or nothing. -/
lemma crashes_answering {sent : List (Sent β)}
    (all : emissions (sent.map Sent.seen : List (Seen Empty β StatusCode)) = responses) :
    Crashes (fun d => answerCall (answering d sent)) responses := by
  apply crashes_intro
  · intro d status failed
    rw [answering, failed]
    rfl
  · intro d quiet
    rw [answering, quiet, answerCall, serveAnswer, clientCall, all, failure_seen]

/-- So is one that observes its requests. -/
lemma crashes_afterFailure {signals : List (Signal α)}
    (all : emissions (o.run o.start signals : List (Seen α β StatusCode)) = responses) :
    Crashes (fun d => observerCall (afterFailure d o) signals) responses := by
  apply crashes_intro
  · intro d status failed
    rw [observerCall, serveCall_failed failed]
    rfl
  · intro d quiet
    rw [observerCall, serveCall_quiet quiet, clientCall, all, failure_run]

/-- A generator fails at its end, if at all. -/
lemma failure_drain {status : ε → StatusCode} {g : Generator α β ε} :
    g.drain.findSome? (failure status) = g.drain.getLast?.bind (failure status) := by
  induction g with
  | stop => rfl
  | raise e => rfl
  | took a next ih =>
    rw [Generator.drain, List.getLast?_cons_of_ne_nil drain_ne_nil]
    exact ih
  | broke next ih =>
    rw [Generator.drain, List.getLast?_cons_of_ne_nil drain_ne_nil]
    exact ih
  | yield r resume close ih _ =>
    rw [Generator.drain, List.getLast?_cons_of_ne_nil drain_ne_nil]
    exact ih

end

section
variable {status : PyException → StatusCode} {charset : String → Bytes} {more : Bytes → ℕ}
  {updates before : List StreamUpdate}
  {requests : List InteractStreamUpdate} {text : List StreamUpdate → String}

/-- A method that raises a simulated failure. -/
lemma replyCall_failed {β : Type*} {code : StatusCode} (keeps : KeepsCode status) :
    replyCall status (.error (.rpcError (some code)) : Except PyException β) = ⟨[], some code⟩ := by
  show (⟨[], some (status (.rpcError (some code)))⟩ : StreamCall β) = _
  rw [keeps code]

/-- A generator function that does. -/
lemma generatorCall_failed {α β : Type*} {code : StatusCode} (keeps : KeepsCode status) :
    generatorCall status (.raise (.rpcError (some code)) : Generator α β PyException) =
      ⟨[], some code⟩ := by
  show (⟨[], some (status (.rpcError (some code)))⟩ : StreamCall β) = _
  rw [keeps code]

/-- `downloadStream` raises before it returns its recording. -/
lemma crashes_downloadStream (keeps : KeepsCode status) :
    Crashes (fun d => replyCall status (Python.downloadStream d)) [recording utf8] := by
  apply crashes_intro
  · intro d code failed
    rw [Python.downloadStream, failed]
    exact replyCall_failed keeps
  · intro d quiet
    rw [Python.downloadStream, quiet]
    rfl

/-- `watchStream` raises before its first message. -/
lemma crashes_watchStream (keeps : KeepsCode status) :
    Crashes (fun d => generatorCall status (Python.watchStream d)) ([0, 1, 2].map (watched utf8)) := by
  apply crashes_intro
  · intro d code failed
    rw [Python.watchStream, failed]
    exact generatorCall_failed keeps
  · intro d quiet
    rw [Python.watchStream, quiet]
    rfl

/-- `startStream` raises before it reads its requests. -/
lemma crashes_startStream (keeps : KeepsCode status) :
    Crashes (fun d => replyCall status (Python.startStream d text ⟨updates, false⟩))
      [⟨wordsText ++ text updates⟩] := by
  apply crashes_intro
  · intro d code failed
    rw [Python.startStream, failed]
    exact replyCall_failed keeps
  · intro d quiet
    rw [Python.startStream, quiet]
    rfl

/-- A request that cannot be decoded makes `joinInteractStream` fail without a draw. -/
lemma crashes_joinInteractStream_iff (keeps : KeepsCode status) :
    Crashes (fun d => generatorCall status (Python.joinInteractStream d ⟨requests, false⟩))
        (answers utf8 requests) ↔ ∀ u ∈ requests, u.Decodable := by
  constructor
  · intro crashes
    by_contra undecodable
    have failed : (Python.interact false requests).drain.getLast? = _ :=
      drain_fails (by simpa using undecodable)
    have error : (generatorCall status (Python.interact false requests)).error =
        some (status .unicodeDecodeError) := by
      rw [generatorCall, clientCall, failure_drain, failed]
      rfl
    have ended : (generatorCall status (Python.interact false requests)).error = none :=
      congrArg StreamCall.error (crashes calm)
    rw [error] at ended
    cases ended
  · intro decodable
    apply crashes_intro
    · intro d code failed
      rw [Python.joinInteractStream, failed]
      exact generatorCall_failed keeps
    · intro d quiet
      obtain ⟨emitted, last⟩ := answers_drain decodable
      rw [Python.joinInteractStream, quiet, generatorCall, clientCall, failure_drain, last, emitted]
      rfl

/-- What the JVM servers acknowledge a stream with, under their decoding. -/
def acknowledgement (decode : Bytes → String) (updates : List StreamUpdate) : StartStreamResponse :=
  ⟨wordsText ++ ",".intercalate (updates.map fun u => decode u.audioData)⟩

/-- What the observer of `startStream` answers to the requests that are still to come. -/
lemma emissions_start {decode : Bytes → String} :
    emissions ((startObserver decode).run before (updates.map .next ++ [.completed]) :
        List (Seen _ _ StatusCode)) = [acknowledgement decode (before ++ updates)] := by
  induction updates generalizing before with
  | nil =>
    rw [List.append_nil]
    rfl
  | cons u updates ih =>
    rw [← List.singleton_append (x := u), ← List.append_assoc]
    exact ih

/-- Each of the four methods of each of the three servers is all or nothing, but for
    `joinInteractStream` of the Python server, for which every request has to be decodable. -/
theorem crash_law (keeps : KeepsCode status) (charset : String → Bytes) (moreJava moreKotlin : Bytes → ℕ)
    (text : List StreamUpdate → String) (updates : List StreamUpdate)
    (requests : List InteractStreamUpdate) :
    (Crashes (fun d => replyCall status (Python.downloadStream d)) [recording utf8] ∧
      Crashes (fun d => answerCall (Java.downloadStream d charset)) [recording charset] ∧
      Crashes (fun d => answerCall (Kotlin.downloadStream d)) [recording utf8]) ∧
    (Crashes (fun d => generatorCall status (Python.watchStream d)) ([0, 1, 2].map (watched utf8)) ∧
      Crashes (fun d => answerCall (Java.watchStream d charset)) ([0, 1, 2].map (watched charset)) ∧
      Crashes (fun d => answerCall (Kotlin.watchStream d)) ([3, 2, 1, 0].map (watched utf8))) ∧
    (Crashes (fun d => replyCall status (Python.startStream d text ⟨updates, false⟩))
        [⟨wordsText ++ text updates⟩] ∧
      Crashes (fun d => observerCall (Java.startStream d moreJava)
          (updates.map .next ++ [.completed]))
        [acknowledgement (Utf8.decodeReplacing moreJava) updates] ∧
      Crashes (fun d => observerCall (Kotlin.startStream d moreKotlin)
          (updates.map .next ++ [.completed]))
        [acknowledgement (Utf8.decodeReplacing moreKotlin) updates]) ∧
    ((Crashes (fun d => generatorCall status (Python.joinInteractStream d ⟨requests, false⟩))
          (answers utf8 requests) ↔ ∀ u ∈ requests, u.Decodable) ∧
      Crashes (fun d => observerCall (Java.joinInteractStream d moreJava charset) (signals requests))
        (answers charset requests) ∧
      Crashes (fun d => observerCall (Kotlin.joinInteractStream d moreKotlin) (signals requests))
        (answers utf8 requests)) :=
  ⟨⟨crashes_downloadStream keeps, crashes_answering rfl, crashes_answering rfl⟩,
    ⟨crashes_watchStream keeps, crashes_answering rfl, crashes_answering rfl⟩,
    ⟨crashes_startStream keeps, crashes_afterFailure emissions_start,
      crashes_afterFailure emissions_start⟩,
    crashes_joinInteractStream_iff keeps, crashes_afterFailure emissions_signals,
    crashes_afterFailure emissions_signals⟩

/-- What grpc makes of the exceptions: without a code in the context the status is `UNKNOWN`. -/
def raisedStatus : PyException → StatusCode
  | .rpcError (some code) => code
  | .rpcError none | .unicodeDecodeError | .generatorExit => .unknown

/-- `downloadStream` of the Python server is all or nothing, and its `joinInteractStream` is not
    when the frame of a request is no text. -/
theorem crash_law_undecodable :
    Crashes (fun d => replyCall raisedStatus (Python.downloadStream d)) [recording utf8] ∧
      ¬ Crashes
        (fun d => generatorCall raisedStatus (Python.joinInteractStream d ⟨[hostileFrame], false⟩))
        (answers utf8 [hostileFrame]) := by
  have keeps : KeepsCode raisedStatus := fun _ => rfl
  obtain ⟨⟨downloads, _⟩, _, _, joins, _⟩ :=
    crash_law keeps utf8 (fun _ => 0) (fun _ => 0) (fun _ => "") [] [hostileFrame]
  refine ⟨downloads, fun crashes => ?_⟩
  exact absurd (joins.mp crashes hostileFrame List.mem_cons_self) (by decide +kernel)

end

end GrpcSample
