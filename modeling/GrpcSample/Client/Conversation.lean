import GrpcSample.Lib.Duplex
import GrpcSample.Server.Protocol

/-!
# Conversations over a network

The streaming calls of the clients in Java and Kotlin with their messages in flight: the client
pushes its requests into the call and then completes it, the server answers while requests are still
on their way, and the client's `StreamObserver` is called for each answer, in any interleaving
(`Lib/Duplex.lean`). `startStream` and `joinInteractStream` of `GrpcResilientClient` wait on a
`finishLatch`, which `onError` and `onCompleted` count down. What is left out is a call that the
network or its deadline (`withDeadlineAfter`) ends: here the only failures are those of the server.

The servers were modelled as functions of the whole sequence of requests. Here they react to one
request at a time, and `conversation` says that nothing is lost by the difference: in every
interleaving the observer is given a prefix of the responses of the sequential model, the latch is
open only when all of them are there, and when nothing is left to be done it is open. This holds of
all three servers, of both methods, and of every draw of the simulated failure.
-/

namespace GrpcSample
open Streaming Duplex Lts

variable {α β ε σ ι : Type*}

/-- What a `StreamObserver` of responses is called with. -/
inductive Received (β ε : Type*) where
  | next (r : β)
  | error (e : ε)
  | completed
  deriving DecidableEq, Repr

/-- What reaches the client of what is seen of a server. -/
def received : Seen α β ε → Option (Received β ε)
  | .emitted r => some (.next r)
  | .completed => some .completed
  | .failed e => some (.error e)
  | .input _ | .broke | .closed => none

/-- What reaches the client of what an observer sends. -/
def ofSent : Sent β → Received β ε
  | .next r => .next r
  | .completed => .completed

/-- The response observer of `startStream` and `joinInteractStream`: what it has logged, and
    `finishLatch`. -/
structure ResponseObserver (β : Type*) where
  logged : List β
  finishLatch : ℕ
  deriving DecidableEq, Repr

/-- `onNext`, `onError` and `onCompleted`; counting down a latch at zero does nothing. -/
def ResponseObserver.on (o : ResponseObserver β) : Received β ε → ResponseObserver β
  | .next r => { o with logged := o.logged ++ [r] }
  | .error _ | .completed => { o with finishLatch := o.finishLatch - 1 }

/-- The observer of a call, after what it has been called with; `new CountDownLatch(1)`. -/
def observed (calls : List (Received β ε)) : ResponseObserver β :=
  calls.foldl ResponseObserver.on ⟨[], 1⟩

/-- The signals of a client that completes its call. -/
def completing (requests : List α) : List (Signal α) :=
  requests.map .next ++ [.completed]

/-- A method of the servers in Java and Kotlin. A method that has thrown reacts to nothing. -/
def served (method : Except ε (Observer σ α β)) :
    Party (Option σ) (Signal α) (Received β ε) where
  start := method.toOption.map (·.start)
  opening :=
    match method with
    | .error e => [.error e]
    | .ok _ => []
  react s x :=
    match method, s with
    | .ok o, some s => (some (o.react s x).1, (o.react s x).2.map ofSent)
    | _, s => (s, [])

namespace Python

/-- `joinInteractStream` as its requests arrive; the state says whether the generator is over. -/
def interactParty (d : Draw) :
    Party Bool (Signal InteractStreamUpdate) (Received InteractStreamUpdate PyException) where
  start := (randomFailure d).isSome
  opening := (randomFailure d).toList.map fun status => .error (.rpcError (some status))
  react ended signal :=
    if ended then (true, []) else
    match signal with
    | .next streamUpdate =>
      match fromProtoStream streamUpdate with
      | .error e => (true, [.next (reply utf8 farewellText), .error e])
      | .ok stream =>
        (false, if "Hey" = stream.2 then [.next (reply utf8 greetingText)] else [])
    | .error | .completed => (true, [.next (reply utf8 farewellText), .completed])

/-- `startStream` as its requests arrive; the state is `updates`, until the method has returned. -/
def startParty (d : Draw) (text : List StreamUpdate → String) :
    Party (Option (List StreamUpdate)) (Signal StreamUpdate)
      (Received StartStreamResponse PyException) where
  start := if (randomFailure d).isSome then none else some []
  opening := (randomFailure d).toList.map fun status => .error (.rpcError (some status))
  react updates signal :=
    match updates, signal with
    | none, _ => (none, [])
    | some updates, .next streamUpdate => (some (updates ++ [streamUpdate]), [])
    | some updates, .error | some updates, .completed =>
      (none, [.next ⟨wordsText ++ text updates⟩, .completed])

end Python

/-- The call that ends a response stream. -/
def Received.Ends : Received β ε → Prop
  | .next _ => False
  | .error _ | .completed => True

/-- In every interleaving of the call's moves: the responses are logged in order; the latch is open
    only when all of them have been; it is open when no move is left; and there are no more moves
    than those of the requests, the responses and the end. -/
structure Converses (p : Party σ ι (Received β ε)) (script : List ι) (responses : List β) :
    Prop where
  inOrder : ∀ past s, Run (link p script) past s → (observed s.received).logged <+: responses
  latched : ∀ past s, Run (link p script) past s → (observed s.received).finishLatch = 0 →
    (observed s.received).logged = responses
  finishes : ∀ past s, Run (link p script) past s → (∀ m s', ¬ Duplex.Step p s m s') →
    (observed s.received).finishLatch = 0
  bounded : ∀ past s, Run (link p script) past s →
    past.length ≤ 2 * script.length + responses.length + 1

section
variable {p : Party σ ι (Received β ε)} {script : List ι} {responses : List β}
  {last : Received β ε} {trace : List (Seen α β ε)}

/-- Responses alone are logged, and leave the latch shut. -/
lemma observed_next : observed (responses.map .next : List (Received β ε)) = ⟨responses, 1⟩ := by
  have from' : ∀ logged : List β, (responses.map .next : List (Received β ε)).foldl
      ResponseObserver.on ⟨logged, 1⟩ = ⟨logged ++ responses, 1⟩ := by
    induction responses with
    | nil => simp
    | cons r responses ih =>
      intro logged
      rw [List.map_cons, List.foldl_cons, ResponseObserver.on, ih]
      simp
  exact from' []

/-- The end opens it. -/
lemma observed_ends (ends : last.Ends) :
    observed (responses.map .next ++ [last]) = ⟨responses, 0⟩ := by
  rw [observed, List.foldl_append, ← observed, observed_next]
  cases last with
  | next r => cases ends
  | error e => rfl
  | completed => rfl

/-- A server that ends the call, and sends nothing afterwards, holds a conversation. -/
lemma converses (answers : p.answers script = responses.map .next ++ [last]) (ends : last.Ends) :
    Converses p script responses := by
  have observes : ∀ past s, Run (link p script) past s →
      observed s.received = ⟨responses, 0⟩ ∨
        ∃ n, observed s.received = ⟨responses.take n, 1⟩ := by
    intro past s run
    have received := received_prefix run
    rw [answers] at received
    rcases List.prefix_concat_iff.mp received with all | some
    · exact .inl (all ▸ observed_ends ends)
    · obtain ⟨n, eq⟩ : ∃ n, s.received = (responses.take n).map .next := by
        refine ⟨s.received.length, ?_⟩
        rw [List.map_take]
        exact List.prefix_iff_eq_take.mp some
      exact .inr ⟨n, eq ▸ observed_next⟩
  constructor
  · intro past s run
    rcases observes past s run with eq | ⟨n, eq⟩
    · rw [eq]
    · rw [eq]
      exact List.take_prefix n responses
  · intro past s run latch
    rcases observes past s run with eq | ⟨n, eq⟩
    · rw [eq]
    · rw [eq] at latch
      cases latch
  · intro past s run stuck
    rw [received_of_stuck run stuck, answers, observed_ends ends]
  · intro past s run
    have moves := length_of_run run
    rw [answers, List.length_append, List.length_map, List.length_singleton] at moves
    omega

/-- A trace whose responses are followed by its end. -/
def Closing (trace : List (Seen α β ε)) : Prop :=
  ∃ last : Received β ε, last.Ends ∧
    trace.filterMap received = (emissions trace).map .next ++ [last]

/-- A server that sends what a closing trace shows holds a conversation with its responses. -/
lemma Closing.converses (closing : Closing trace)
    (answers : p.answers script = trace.filterMap received) :
    Converses p script (emissions trace) := by
  obtain ⟨last, ends, eq⟩ := closing
  exact GrpcSample.converses (answers.trans eq) ends

/-- Whatever a generator yields, it ends by returning or by raising. -/
lemma closing_drain (g : Generator α β ε) : Closing g.drain := by
  induction g with
  | stop => exact ⟨.completed, trivial, rfl⟩
  | raise e => exact ⟨.error e, trivial, rfl⟩
  | took a next ih => exact ih
  | broke next ih => exact ih
  | yield r resume close ih _ =>
    obtain ⟨last, ends, eq⟩ := ih
    have emitted : received (.emitted r : Seen α β ε) = some (.next r) := rfl
    refine ⟨last, ends, ?_⟩
    rw [Generator.drain, List.filterMap_cons_some emitted, eq]
    rfl

end

section
variable {o : Observer σ α β} {s : σ} {requests : List α}

/-- An observer that sends responses until the requests are complete, and then ends the call. -/
structure Closes (o : Observer σ α β) : Prop where
  onNext : ∀ s a, ∃ rs : List β, (o.onNext s a).2 = rs.map .next
  onCompleted : ∀ s, ∃ rs : List β, (o.onCompleted s).2 = rs.map .next ++ [.completed]

/-- All that an observer sends reaches the client. -/
lemma filterMap_seen {sent : List (Sent β)} :
    (sent.map Sent.seen : List (Seen α β ε)).filterMap received = sent.map ofSent := by
  induction sent with
  | nil => rfl
  | cons x sent ih => cases x <;> exact congrArg (List.cons _) ih

/-- Of what is seen of a reaction it is that part which does. -/
lemma filterMap_react {signal : Signal α} :
    (signal.seen ++ (o.react s signal).2.map Sent.seen : List (Seen α β ε)).filterMap received =
      (o.react s signal).2.map ofSent := by
  rw [List.filterMap_append, filterMap_seen]
  cases signal <;> rfl

/-- Reacting to one signal after the other is the run over all of them. -/
lemma sends_observer {signals : List (Signal α)} :
    (served (.ok o : Except ε (Observer σ α β))).sends (some s) signals =
      (o.run s signals).filterMap received := by
  induction signals generalizing s with
  | nil => rfl
  | cons signal signals ih =>
    rw [Party.sends, Observer.run, List.filterMap_append, filterMap_react]
    exact congrArg ((o.react s signal).2.map ofSent ++ ·) ih

/-- A method that has thrown sends nothing. -/
lemma sends_thrown {e : ε} {signals : List (Signal α)} :
    (served (.error e : Except ε (Observer σ α β))).sends none signals = [] := by
  induction signals with
  | nil => rfl
  | cons signal signals ih => exact ih

/-- A method of the servers in Java and Kotlin answers what it does in the sequential model. -/
lemma answers_served {method : Except StatusCode (Observer σ α β)} {signals : List (Signal α)} :
    (served method).answers signals = (serveCall method signals).filterMap received := by
  cases method with
  | error status => exact congrArg (List.cons _) sends_thrown
  | ok o => exact sends_observer

/-- The responses among what is sent are those that are sent. -/
lemma emissions_sent {rs : List β} :
    emissions ((rs.map Sent.next).map Sent.seen : List (Seen α β ε)) = rs := by
  induction rs with
  | nil => rfl
  | cons r rs ih => exact congrArg (List.cons r) ih

/-- Responses that are sent reach the client as calls of `onNext`. -/
lemma map_ofSent {rs : List β} :
    ((rs.map Sent.next).map ofSent : List (Received β ε)) = rs.map .next := by
  rw [List.map_map]
  rfl

/-- The trace of such an observer is closing. -/
lemma Closes.run (closes : Closes o) :
    Closing (o.run s (completing requests) : List (Seen α β ε)) := by
  refine ⟨.completed, trivial, ?_⟩
  induction requests generalizing s with
  | nil =>
    obtain ⟨rs, eq⟩ := closes.onCompleted s
    have run : (o.run s (completing []) : List (Seen α β ε)) =
        (rs.map Sent.next).map Sent.seen ++ [.completed] := by
      show ([] ++ (o.onCompleted s).2.map Sent.seen) ++ [] = _
      rw [eq, List.append_nil, List.nil_append, List.map_append]
      rfl
    rw [run, List.filterMap_append, filterMap_seen, map_ofSent, emissions_append, emissions_sent,
      emissions_completed, emissions_nil, List.append_nil]
    rfl
  | cons a requests ih =>
    obtain ⟨rs, eq⟩ := closes.onNext s a
    have run : (o.run s (completing (a :: requests)) : List (Seen α β ε)) =
        .input a :: ((rs.map Sent.next).map Sent.seen ++
          o.run (o.onNext s a).1 (completing requests)) := by
      show ([.input a] ++ (o.onNext s a).2.map Sent.seen) ++ o.run _ (completing requests) = _
      rw [eq]
      rfl
    have input : received (.input a : Seen α β ε) = none := rfl
    rw [run, List.filterMap_cons_none input, List.filterMap_append, filterMap_seen, map_ofSent, ih,
      emissions_input, emissions_append, emissions_sent, List.map_append, List.append_assoc]

/-- A method with such an observer holds a conversation, whatever is drawn. -/
lemma converses_served (closes : Closes o) (d : Draw) :
    Converses (served (afterFailure d o)) (completing requests)
      (emissions (serveCall (afterFailure d o) (completing requests))) := by
  refine Closing.converses ?_ answers_served
  cases drawn : randomFailure d with
  | none =>
    rw [serveCall_quiet drawn]
    exact closes.run
  | some status =>
    rw [serveCall_failed drawn]
    exact ⟨.error status, trivial, rfl⟩

end

/-- The observer of `startStream` sends its acknowledgement at the end. -/
lemma closes_start {decode : Bytes → String} : Closes (startObserver decode) where
  onNext _ _ := ⟨[], rfl⟩
  onCompleted _ := ⟨[_], rfl⟩

/-- That of `joinInteractStream` sends a greeting at a time, and its farewell at the end. -/
lemma closes_interact {decode : Bytes → String} {encode : String → Bytes} :
    Closes (interactObserver decode encode) where
  onNext _ a := by
    by_cases greets : "Hey" = decode a.audioData
    · exact ⟨[reply encode greetingText], by simp [interactObserver, greets]⟩
    · exact ⟨[], by simp [interactObserver, greets]⟩
  onCompleted _ := ⟨[_], rfl⟩

namespace Python

variable {d : Draw} {requests : List InteractStreamUpdate}

/-- A generator that is over yields nothing. -/
lemma sends_over {signals : List (Signal InteractStreamUpdate)} :
    (interactParty d).sends true signals = [] := by
  induction signals with
  | nil => rfl
  | cons signal signals ih => exact ih

/-- Until it is over the generator yields the same whether the requests are there or arrive. -/
lemma sends_interact :
    (interactParty d).sends false (completing requests) =
      (interact false requests).drain.filterMap received := by
  induction requests with
  | nil => rfl
  | cons u requests ih =>
    show ((interactParty d).react false (.next u)).2 ++
      (interactParty d).sends ((interactParty d).react false (.next u)).1 (completing requests) = _
    by_cases decodable : u.Decodable
    · obtain ⟨stream, ok, iff⟩ := fromProtoStream_ok decodable
      by_cases greets : u.Greets
      · rw [interact_greets decodable greets]
        simp only [interactParty, ok, if_pos (iff.mpr greets)]
        exact congrArg (List.cons _) ih
      · rw [interact_passes decodable greets]
        simp only [interactParty, ok, if_neg (mt iff.mp greets)]
        exact ih
    · rw [interact_undecodable decodable]
      simp only [interactParty, fromProtoStream_error decodable]
      exact congrArg (fun rest => _ :: _ :: rest) sends_over

/-- With a simulated failure as well the answers are those of the sequential model. -/
lemma answers_interact :
    (interactParty d).answers (completing requests) =
      (joinInteractStream d ⟨requests, false⟩).drain.filterMap received := by
  rw [Party.answers, joinInteractStream]
  cases drawn : randomFailure d with
  | none =>
    have start : (interactParty d).start = false := congrArg Option.isSome drawn
    have opening : (interactParty d).opening = [] := by simp [interactParty, drawn]
    rw [start, opening]
    exact sends_interact
  | some status =>
    have start : (interactParty d).start = true := congrArg Option.isSome drawn
    have opening : (interactParty d).opening = [.error (.rpcError (some status))] := by
      simp [interactParty, drawn]
    rw [start, opening, sends_over]
    rfl

section
variable {text : List StreamUpdate → String} {updates before : List StreamUpdate}

/-- A method that has returned sends nothing. -/
lemma sends_returned {signals : List (Signal StreamUpdate)} :
    (startParty d text).sends none signals = [] := by
  induction signals with
  | nil => rfl
  | cons signal signals ih => exact ih

/-- `startStream` collects its updates and returns its acknowledgement at the end. -/
lemma sends_start :
    (startParty d text).sends (some before) (completing updates) =
      [.next ⟨wordsText ++ text (before ++ updates)⟩, .completed] := by
  induction updates generalizing before with
  | nil =>
    rw [List.append_nil]
    rfl
  | cons u updates ih =>
    rw [← List.singleton_append, ← List.append_assoc]
    exact ih

/-- The method returns what it would have returned had it been called with all requests at hand. -/
lemma converses_start :
    Converses (startParty d text) (completing updates)
      (startStream d text ⟨updates, false⟩).toOption.toList := by
  cases drawn : randomFailure d with
  | none =>
    have start : (startParty d text).start = some [] := by simp [startParty, drawn]
    have opening : (startParty d text).opening = [] := by simp [startParty, drawn]
    have returned : startStream d text ⟨updates, false⟩ = .ok ⟨wordsText ++ text updates⟩ := by
      rw [startStream, drawn]
      rfl
    have answers : (startParty d text).answers (completing updates) =
        [.next ⟨wordsText ++ text updates⟩, .completed] := by
      rw [Party.answers, start, opening, sends_start]
      rfl
    rw [returned]
    exact converses answers trivial
  | some status =>
    have start : (startParty d text).start = none := by simp [startParty, drawn]
    have opening : (startParty d text).opening = [.error (.rpcError (some status))] := by
      simp [startParty, drawn]
    have raised : startStream d text ⟨updates, false⟩ = .error (.rpcError (some status)) := by
      rw [startStream, drawn]
    have answers : (startParty d text).answers (completing updates) =
        [.error (.rpcError (some status))] := by
      rw [Party.answers, start, opening, sends_returned]
      rfl
    rw [raised]
    exact converses answers trivial

end

end Python

/-- In every interleaving of a streaming call with its server, as long as neither the deadline nor
    the network ends it, the client logs the responses of the sequential model, in order, and its
    latch opens exactly at the end. -/
theorem conversation (dp dj dk : Draw) (text : List StreamUpdate → String)
    (moreJava moreKotlin : Bytes → ℕ) (charset : String → Bytes)
    (requests : List InteractStreamUpdate) (updates : List StreamUpdate) :
    (Converses (Python.interactParty dp) (completing requests)
        (emissions (Python.joinInteractStream dp ⟨requests, false⟩).drain) ∧
      Converses (served (Java.joinInteractStream dj moreJava charset)) (completing requests)
        (emissions (serveCall (Java.joinInteractStream dj moreJava charset)
          (completing requests))) ∧
      Converses (served (Kotlin.joinInteractStream dk moreKotlin)) (completing requests)
        (emissions (serveCall (Kotlin.joinInteractStream dk moreKotlin) (completing requests)))) ∧
    (Converses (Python.startParty dp text) (completing updates)
        (Python.startStream dp text ⟨updates, false⟩).toOption.toList ∧
      Converses (served (Java.startStream dj moreJava)) (completing updates)
        (emissions (serveCall (Java.startStream dj moreJava) (completing updates))) ∧
      Converses (served (Kotlin.startStream dk moreKotlin)) (completing updates)
        (emissions (serveCall (Kotlin.startStream dk moreKotlin) (completing updates)))) := by
  refine ⟨⟨?_, converses_served closes_interact dj, converses_served closes_interact dk⟩,
    Python.converses_start, converses_served closes_start dj, converses_served closes_start dk⟩
  exact (closing_drain _).converses Python.answers_interact

end GrpcSample
