import GrpcSample.Server.Jvm
import GrpcSample.Server.Python

/-!
# Streams that are cut short

What the three servers still send when the requests break off with an error, or when the consumer
closes the response generator of the Python server. The observers of Java and Kotlin send nothing:
their `onError` only logs. In Python the `except` clause only logs as well, and what stands behind
it is executed as if the stream had ended: `startStream` returns its acknowledgement, and
`joinInteractStream` yields its farewell from the `finally` clause, even into a generator that is
being closed. That response reaches nobody: CPython discards what is yielded into `close()`, and
raises a `RuntimeError` where `close()` was called.

`broken_stream_iff` says when the Python methods are silent all the same: when a simulated failure
has come first; when a request that cannot be decoded has ended the call before the break; and when
the consumer closes the generator anywhere but at a greeting.
-/

namespace GrpcSample
open Streaming

namespace Python

variable {d : Draw} {requests : List InteractStreamUpdate}

/-- `startStream` acknowledges whatever it has got before the break. -/
lemma startStream_broken_iff {text : List StreamUpdate → String} {updates : List StreamUpdate} :
    (∀ r, startStream d text ⟨updates, true⟩ ≠ .ok r) ↔ (randomFailure d).isSome := by
  cases drawn : randomFailure d with
  | none =>
    have acknowledged : startStream d text ⟨updates, true⟩ = .ok ⟨wordsText ++ text updates⟩ := by
      rw [startStream, drawn]
      rfl
    exact ⟨fun silent => absurd acknowledged (silent _), nofun⟩
  | some status =>
    have raised : startStream d text ⟨updates, true⟩ = .error (.rpcError (some status)) := by
      rw [startStream, drawn]
    rw [raised]
    exact ⟨fun _ => rfl, fun _ _ => nofun⟩

/-- The break is followed by the farewell, unless an exception comes before it. -/
lemma interact_broke_iff :
    SilentAfter (· = .broke) (interact true requests).drain ↔ ∃ u ∈ requests, ¬ u.Decodable := by
  induction requests with
  | nil =>
    constructor
    · intro silent
      cases (silentAfter_cons.mp silent).1 rfl
    · rintro ⟨_, mem, _⟩
      cases mem
  | cons u requests ih =>
    by_cases decodable : u.Decodable
    · rw [undecodable_cons decodable, ← ih]
      by_cases greets : u.Greets
      · rw [interact_greets decodable greets, Generator.drain, Generator.drain,
          silentAfter_cons_of_not nofun, silentAfter_cons_of_not nofun]
      · rw [interact_passes decodable greets, Generator.drain, silentAfter_cons_of_not nofun]
    · rw [interact_undecodable decodable]
      refine ⟨fun _ => ⟨u, List.mem_cons_self, decodable⟩, fun _ => ?_⟩
      rw [parting, Generator.drain, Generator.drain, Generator.drain,
        silentAfter_cons_of_not nofun, silentAfter_cons_of_not nofun, silentAfter_cons_of_not nofun]
      exact silentAfter_nil

/-- At the farewell nothing is left to be said. -/
lemma closeAfter_parting {n : ℕ} {ending : Generator InteractStreamUpdate InteractStreamUpdate _}
    (ends : ending = .stop ∨ ∃ e, ending = .raise e) :
    SilentAfter (· = .closed) ((parting ending).closeAfter (n + 1)) := by
  rw [parting]
  cases n with
  | zero =>
    rw [Generator.closeAfter, silentAfter_cons_of_not nofun]
    exact silentAfter_of_emissions rfl
  | succ n =>
    rw [Generator.closeAfter, silentAfter_cons_of_not nofun]
    rcases ends with rfl | ⟨e, rfl⟩
    · exact silentAfter_of_emissions rfl
    · exact silentAfter_of_emissions rfl

/-- The greetings that come before a request that cannot be decoded. -/
def greetings (requests : List InteractStreamUpdate) : ℕ :=
  ((requests.takeWhile (·.Decodable)).filter (·.Greets)).length

section
variable {u : InteractStreamUpdate}

/-- A request that cannot be decoded is the end of them. -/
lemma greetings_undecodable (h : ¬ u.Decodable) : greetings (u :: requests) = 0 := by
  simp [greetings, h]

/-- A greeting adds one. -/
lemma greetings_greets (h : u.Decodable) (greets : u.Greets) :
    greetings (u :: requests) = greetings requests + 1 := by
  simp [greetings, h, greets]

/-- A request that is no greeting adds nothing. -/
lemma greetings_passes (h : u.Decodable) (other : ¬ u.Greets) :
    greetings (u :: requests) = greetings requests := by
  simp [greetings, h, other]

end

/-- A close is answered with the farewell if and only if it comes at a greeting. -/
lemma interact_closed_iff {broken : Bool} {n : ℕ} :
    SilentAfter (· = .closed) ((interact broken requests).closeAfter (n + 1)) ↔
      greetings requests < n + 1 := by
  induction requests generalizing n with
  | nil =>
    refine ⟨fun _ => Nat.succ_pos n, fun _ => ?_⟩
    cases broken with
    | false => exact closeAfter_parting (.inl rfl)
    | true =>
      show SilentAfter _ (.broke :: (parting .stop).closeAfter (n + 1))
      rw [silentAfter_cons_of_not nofun]
      exact closeAfter_parting (.inl rfl)
  | cons u requests ih =>
    by_cases decodable : u.Decodable
    · by_cases greets : u.Greets
      · rw [interact_greets decodable greets, greetings_greets decodable greets,
          Generator.closeAfter, silentAfter_cons_of_not nofun]
        cases n with
        | zero =>
          -- closed at the greeting: the farewell follows
          constructor
          · rw [Generator.closeAfter, silentAfter_cons_of_not nofun]
            intro silent
            cases (silentAfter_cons.mp silent).1 rfl
          · intro lt
            omega
        | succ n =>
          rw [Generator.closeAfter, silentAfter_cons_of_not nofun, ih]
          omega
      · rw [interact_passes decodable greets, greetings_passes decodable greets,
          Generator.closeAfter, silentAfter_cons_of_not nofun, ih]
    · rw [interact_undecodable decodable, greetings_undecodable decodable, Generator.closeAfter,
        silentAfter_cons_of_not nofun]
      exact ⟨fun _ => Nat.succ_pos n, fun _ => closeAfter_parting (.inr ⟨_, rfl⟩)⟩

/-- For the method as a whole a simulated failure may have come before the requests. -/
lemma join_broke_iff :
    SilentAfter (· = .broke) (joinInteractStream d ⟨requests, true⟩).drain ↔
      (randomFailure d).isSome ∨ ∃ u ∈ requests, ¬ u.Decodable := by
  rw [joinInteractStream]
  cases randomFailure d with
  | none => exact interact_broke_iff.trans (or_iff_right Bool.false_ne_true).symm
  | some status => exact ⟨fun _ => .inl rfl, fun _ => silentAfter_of_emissions rfl⟩

/-- The same for a close, which also finds nothing to do in a generator that has not been started.
    -/
lemma join_closed_iff {broken : Bool} {n : ℕ} :
    SilentAfter (· = .closed) ((joinInteractStream d ⟨requests, broken⟩).closeAfter n) ↔
      (randomFailure d).isSome ∨ n = 0 ∨ greetings requests < n := by
  cases n with
  | zero =>
    rw [Generator.closeAfter_zero]
    exact ⟨fun _ => .inr (.inl rfl), fun _ => silentAfter_of_emissions rfl⟩
  | succ n =>
    rw [joinInteractStream, or_iff_right (Nat.succ_ne_zero n)]
    cases randomFailure d with
    | none => exact interact_closed_iff.trans (or_iff_right Bool.false_ne_true).symm
    | some status => exact ⟨fun _ => .inl rfl, fun _ => silentAfter_of_emissions rfl⟩

end Python

/-- The signals of a client that sends some requests and then breaks off. -/
def brokenSignals {α : Type*} (requests : List α) : List (Signal α) :=
  requests.map .next ++ [.error]

/-- Nothing is sent on the response side. -/
def Unacknowledged {α β ε : Type*} (trace : List (Seen α β ε)) : Prop :=
  emissions trace = [] ∧ .completed ∉ trace

section
variable {d : Draw} {decode : Bytes → String} {encode : String → Bytes}

/-- The observer of `startStream` takes the updates and the error, and answers neither. -/
lemma startObserver_run {s updates : List StreamUpdate} :
    ((startObserver decode).run s (brokenSignals updates) : List (Seen _ _ StatusCode)) =
      updates.map .input ++ [.broke] := by
  induction updates generalizing s with
  | nil => rfl
  | cons u updates ih => exact congrArg (.input u :: ·) ih

/-- So `startStream` of Java and Kotlin acknowledges nothing, with or without a simulated failure.
    -/
lemma startObserver_unacknowledged {updates : List StreamUpdate} :
    Unacknowledged (serveCall (afterFailure d (startObserver decode)) (brokenSignals updates)) := by
  cases drawn : randomFailure d with
  | none =>
    rw [serveCall_quiet drawn, startObserver_run]
    constructor
    · rw [emissions_append, emissions, List.filterMap_map]
      simp [Function.comp_def, Seen.response]
    · simp
  | some status =>
    rw [serveCall_failed drawn]
    exact ⟨rfl, by simp⟩

/-- Nor does their `joinInteractStream` send anything after the break. -/
lemma interactObserver_silent {requests : List InteractStreamUpdate} :
    SilentAfter (· = .broke)
      (serveCall (afterFailure d (interactObserver decode encode)) (brokenSignals requests)) := by
  cases drawn : randomFailure d with
  | none =>
    rw [serveCall_quiet drawn]
    exact Observer.silentAfter_error fun _ => rfl
  | some status =>
    rw [serveCall_failed drawn]
    exact silentAfter_of_emissions rfl

end

/-- What is left unsaid after a break: the acknowledgement by the Python server if and only if a
    simulated failure came first; its farewell if and only if that did or a request cannot be
    decoded, and at a close if and only if such a failure did or the consumer has asked for nothing
    or for more responses than there are greetings; everything by the other two servers. A farewell
    at a close is yielded, which CPython answers with a `RuntimeError`, and not delivered. -/
theorem broken_stream_iff (d : Draw) (text : List StreamUpdate → String)
    (updates : List StreamUpdate) (requests : List InteractStreamUpdate) (broken : Bool) (n : ℕ)
    (more : Bytes → ℕ) (charset : String → Bytes) :
    ((∀ r, Python.startStream d text ⟨updates, true⟩ ≠ .ok r) ↔ (randomFailure d).isSome) ∧
    (SilentAfter (· = .broke) (Python.joinInteractStream d ⟨requests, true⟩).drain ↔
      (randomFailure d).isSome ∨ ∃ u ∈ requests, ¬ u.Decodable) ∧
    (SilentAfter (· = .closed) ((Python.joinInteractStream d ⟨requests, broken⟩).closeAfter n) ↔
      (randomFailure d).isSome ∨ n = 0 ∨ Python.greetings requests < n) ∧
    (Unacknowledged (serveCall (Java.startStream d more) (brokenSignals updates)) ∧
      SilentAfter (· = .broke)
        (serveCall (Java.joinInteractStream d more charset) (brokenSignals requests))) ∧
    (Unacknowledged (serveCall (Kotlin.startStream d more) (brokenSignals updates)) ∧
      SilentAfter (· = .broke)
        (serveCall (Kotlin.joinInteractStream d more) (brokenSignals requests))) :=
  ⟨Python.startStream_broken_iff, Python.join_broke_iff, Python.join_closed_iff,
    ⟨startObserver_unacknowledged, interactObserver_silent⟩,
    startObserver_unacknowledged, interactObserver_silent⟩

/-- A greeting that can be decoded. -/
def greetingRequest : InteractStreamUpdate :=
  ⟨"Python Client", utf8 "ClientSmileMuzzle", utf8 "Hey"⟩

/-- The Python server acknowledges an upload that breaks off at once, and says farewell to an
    interactive stream that does, and to a consumer that closes at its greeting. -/
theorem broken_stream_acknowledged :
    (¬ ∀ r, Python.startStream calm (fun _ => "[]") ⟨[], true⟩ ≠ .ok r) ∧
    (¬ SilentAfter (· = .broke) (Python.joinInteractStream calm ⟨[], true⟩).drain) ∧
    ¬ SilentAfter (· = .closed)
      ((Python.joinInteractStream calm ⟨[greetingRequest], false⟩).closeAfter 1) := by
  refine ⟨?_, ?_, ?_⟩
  · rw [Python.startStream_broken_iff]
    exact Bool.false_ne_true
  · rw [Python.join_broke_iff]
    simp [calm_quiet]
  · rw [Python.join_closed_iff]
    decide +kernel

end GrpcSample
