import GrpcSample.Client.Mapper

/-!
# Watching a stream

`watchStream` of the three clients: a loop that logs the responses one by one, a line after it, and
what becomes of a failure. The Java and Kotlin clients iterate the call of grpc itself and catch
`StatusRuntimeException`, whose status they log; the Kotlin client has no line after the loop. Their
channel is built with `retrying_config.json`, so that grpc may have tried the call again by itself;
the call here is what the stub sees after that. The Python client iterates what its stack has made
of the call, and catches nothing.

`watching_law`: over one and the same call, in every state of the breaker, the Python client logs a
part of the texts that the other two log, from the first one on. They log the status of a failure;
it never learns it. What leaves its loop is an exception of its own, or nothing, and then it logs
that the stream has ended, also when the call has failed before its first message with a status that
the breaker counts (`Hides`).
-/

namespace GrpcSample
open Retry

/-- A line that is logged while a stream is watched. -/
inductive Line (γ : Type*) where
  | showed (update : γ)
  | ended
  | failed (status : StatusCode)
  deriving DecidableEq, Repr

/-- What is logged of the responses. -/
def updatesOf {γ : Type*} : List (Line γ) → List γ
  | [] => []
  | .showed update :: lines => update :: updatesOf lines
  | .ended :: lines | .failed _ :: lines => updatesOf lines

/-- `while (iterator.hasNext())` over a call of grpc that ends with `last`, or with the line that
    the `catch` clause logs. -/
def watching (text : StreamUpdate → String) (last : List (Line String))
    (call : StreamCall StreamUpdate) : List (Line String) :=
  call.messages.map (fun data => .showed (text data)) ++
    match call.error with
    | none => last
    | some status => [.failed status]

namespace Java.Client

/-- `watchStream`, after the line about the request. -/
def watchStream (more : Bytes → ℕ) (call : StreamCall StreamUpdate) : List (Line String) :=
  watching (fromProtoStreamUpdate more) [.ended] call

end Java.Client

namespace Kotlin.Client

/-- `watchStream`, after the line about the request. -/
def watchStream (more : Bytes → ℕ) (call : StreamCall StreamUpdate) : List (Line String) :=
  watching (fromProtoStreamUpdate more) [] call

end Kotlin.Client

namespace Python.Client

/-- The loop of `watch_stream`: the lines it logs, and the exception that one of the responses
    raises. -/
def showing : List StreamUpdate → List (Line (String × String)) × Option ClientError
  | [] => ([], none)
  | response :: responses =>
    match fromProtoWatched response with
    | .error e => ([], some e)
    | .ok stream =>
      let (lines, raised) := showing responses
      (.showed stream :: lines, raised)

/-- The loop and the line after it, over what an iterable delivers. -/
def showAll (responses : Delivery StreamUpdate) :
    List (Line (String × String)) × Option ClientError :=
  match showing responses.messages with
  | (lines, some e) => (lines, some e)
  | (lines, none) =>
    match responses.ending with
    | .stopIteration => (lines ++ [.ended], none)
    | .rpcError status => (lines, some (.rpcError status))
    | .attributeError => (lines, some .attributeError)
    | .typeError => (lines, some .typeError)

/-- `watch_stream`, after the line about the request. -/
def watchStream {T : Type*} [LinearOrder T] [Add T] (h : Retry) (b : Breaker T)
    (clock : ℕ → Breaker.Readings T) (script : ℕ → StreamCall StreamUpdate) :
    List (Line (String × String)) × Option ClientError :=
  showAll (h.stackedStreamCall b clock script).1

end Python.Client

/-- A failure of the call, if any, cannot be told from its end behind the breaker. -/
def Hides {T β : Type*} (b : Breaker T) (c : StreamCall β) : Prop :=
  ∀ status, c.error = some status → c.messages = [] ∧ status ∈ b.statusForRetry

section
variable {T β : Type*} {b : Breaker T} {c : StreamCall β}

/-- What the consumer sees is a normal end if the failure is hidden, and an `AttributeError` if not.
    -/
lemma endsBehind_cases (b : Breaker T) (c : StreamCall β) :
    Hides b c ∧ endsBehind b c = .stopIteration ∨
      ¬ Hides b c ∧ endsBehind b c = .attributeError := by
  obtain ⟨messages, error⟩ := c
  cases error with
  | none => exact .inl ⟨nofun, rfl⟩
  | some status =>
    cases messages with
    | cons m ms =>
      refine .inr ⟨fun hides => ?_, rfl⟩
      obtain ⟨silent, _⟩ := hides status rfl
      cases silent
    | nil =>
      by_cases counted : status ∈ b.statusForRetry
      · refine .inl ⟨fun status' eq => ?_, ?_⟩
        · cases eq
          exact ⟨rfl, counted⟩
        · simp [endsBehind, Breaker.streamEnds, counted]
      · refine .inr ⟨fun hides => counted (hides status rfl).2, ?_⟩
        simp [endsBehind, Breaker.streamEnds, counted]

end

section
variable {γ : Type*} {lines lines' : List (Line γ)}

/-- The texts of a log are those of its parts. -/
lemma updatesOf_append : updatesOf (lines ++ lines') = updatesOf lines ++ updatesOf lines' := by
  induction lines with
  | nil => rfl
  | cons line lines ih =>
    cases line with
    | showed update => exact congrArg (update :: ·) ih
    | ended => exact ih
    | failed _ => exact ih

/-- A line for each response shows its text. -/
lemma updatesOf_showed {β : Type*} {text : β → γ} {responses : List β} :
    updatesOf (responses.map fun data => .showed (text data)) = responses.map text := by
  induction responses with
  | nil => rfl
  | cons data responses ih => exact congrArg (text data :: ·) ih

end

section
variable {text : StreamUpdate → String} {last : List (Line String)} {call : StreamCall StreamUpdate}

/-- The clients in Java and Kotlin log the text of every message. -/
lemma updatesOf_watching (silent : updatesOf last = []) :
    updatesOf (watching text last call) = call.messages.map text := by
  rw [watching, updatesOf_append, updatesOf_showed]
  cases call.error with
  | none => exact (congrArg _ silent).trans (List.append_nil _)
  | some status => exact List.append_nil _

/-- The status of a failure is logged, and no other one. -/
lemma failed_mem_watching {status : StatusCode} (silent : ∀ s, .failed s ∉ last) :
    .failed status ∈ watching text last call ↔ call.error = some status := by
  rw [watching, List.mem_append]
  have shown : .failed status ∉ call.messages.map fun data => Line.showed (text data) := by
    intro mem
    obtain ⟨_, _, eq⟩ := List.mem_map.mp mem
    cases eq
  rw [or_iff_right shown]
  cases call.error with
  | none => exact ⟨fun mem => absurd mem (silent status), nofun⟩
  | some status' =>
    rw [List.mem_singleton, Option.some_inj, Line.failed.injEq]
    exact eq_comm

end

namespace Python.Client

/-- The loop shows the responses up to the first that is not legible, which raises. -/
lemma showing_cases (messages : List StreamUpdate) :
    (∀ more, (updatesOf (showing messages).1).map ofPair <+:
        messages.map fun u => fromProto more u.frameData u.audioData) ∧
      ((∀ u ∈ messages, u.Decodable) ∧ (showing messages).2 = none ∨
        (¬ ∀ u ∈ messages, u.Decodable) ∧
          (showing messages).2 = some .unicodeDecodeError) := by
  induction messages with
  | nil => exact ⟨fun _ => List.nil_prefix, .inl ⟨nofun, rfl⟩⟩
  | cons u messages ih =>
    obtain ⟨texts, raised⟩ := ih
    by_cases decodable : u.Decodable
    · obtain ⟨stream, ok, _⟩ := (fromProtoWatched_cases u fun _ => 0).1 decodable
      have shown : showing (u :: messages) =
          (.showed stream :: (showing messages).1, (showing messages).2) := by
        rw [showing, ok]
      rw [shown]
      refine ⟨fun more => ?_, ?_⟩
      · obtain ⟨stream', ok', text⟩ := (fromProtoWatched_cases u more).1 decodable
        rw [ok] at ok'
        cases ok'
        rw [updatesOf, List.map_cons, List.map_cons, text]
        exact List.cons_prefix_cons.mpr ⟨rfl, texts more⟩
      · rw [List.forall_mem_cons, and_iff_right decodable]
        exact raised
    · have shown : showing (u :: messages) = ([], some .unicodeDecodeError) := by
        rw [showing, (fromProtoWatched_cases u fun _ => 0).2 decodable]
      rw [shown]
      exact ⟨fun _ => List.nil_prefix,
        .inr ⟨fun all => decodable (all u List.mem_cons_self), rfl⟩⟩

/-- A loop that nothing leaves has seen the end of what it iterates. -/
lemma showAll_cases (messages : List StreamUpdate) (ending : Ending) :
    updatesOf (showAll ⟨messages, ending⟩).1 = updatesOf (showing messages).1 ∧
      ((showAll ⟨messages, ending⟩).2 = none ↔
        ending = .stopIteration ∧ ∀ u ∈ messages, u.Decodable) ∧
      ∀ status, (showAll ⟨messages, ending⟩).2 = some (.rpcError status) →
        ending = .rpcError status := by
  obtain ⟨_, ⟨legible, none⟩ | ⟨illegible, raised⟩⟩ := showing_cases messages
  · have shown : showing messages = ((showing messages).1, .none) := Prod.ext rfl none
    rw [showAll, shown]
    cases ending with
    | stopIteration =>
      refine ⟨updatesOf_append.trans (List.append_nil _), ?_, nofun⟩
      exact ⟨fun _ => ⟨rfl, legible⟩, fun _ => rfl⟩
    | rpcError status =>
      refine ⟨rfl, ⟨nofun, nofun⟩, fun status' eq => ?_⟩
      cases eq
      rfl
    | attributeError => exact ⟨rfl, ⟨nofun, nofun⟩, nofun⟩
    | typeError => exact ⟨rfl, ⟨nofun, nofun⟩, nofun⟩
  · have shown : showing messages = ((showing messages).1, some .unicodeDecodeError) :=
      Prod.ext rfl raised
    rw [showAll, shown]
    exact ⟨rfl, ⟨nofun, fun ⟨_, legible⟩ => absurd legible illegible⟩, nofun⟩

end Python.Client

variable {T : Type*} [LinearOrder T] [Add T]

/-- A call of `watchStream` as each of the three clients logs it; for the clients in Java and Kotlin
    it is the call that the stub sees after the retries of its channel, for the Python client the
    first attempt of its stack. The Python client logs no text that the others do not log, in their
    order. They log the status of a failure; what leaves its loop is never an `RpcError`, and
    nothing leaves it when the call has ended, or has failed in a way that the stack hides. -/
theorem watching_law (h : Retry) (b : Breaker T) (clock : ℕ → Breaker.Readings T)
    (script : ℕ → StreamCall StreamUpdate) (more : Bytes → ℕ) :
    ((updatesOf (Python.Client.watchStream h b clock script).1).map ofPair <+:
          updatesOf (Java.Client.watchStream more (script 0)) ∧
        (updatesOf (Python.Client.watchStream h b clock script).1).map ofPair <+:
          updatesOf (Kotlin.Client.watchStream more (script 0))) ∧
      (∀ status, (.failed status ∈ Java.Client.watchStream more (script 0) ↔
          (script 0).error = some status) ∧
        (.failed status ∈ Kotlin.Client.watchStream more (script 0) ↔
          (script 0).error = some status) ∧
        (Python.Client.watchStream h b clock script).2 ≠ some (.rpcError status)) ∧
      ((Python.Client.watchStream h b clock script).2 = none ↔
        h.maxAttempts ≤ 0 ∨ ¬ b.Rejects (clock 0).first (clock 0).second ∧
          Hides b (script 0) ∧ ∀ u ∈ (script 0).messages, u.Decodable) := by
  have java : updatesOf (Java.Client.watchStream more (script 0)) =
      (script 0).messages.map fun u => fromProto more u.frameData u.audioData :=
    updatesOf_watching rfl
  have kotlin : updatesOf (Kotlin.Client.watchStream more (script 0)) =
      (script 0).messages.map fun u => fromProto more u.frameData u.audioData :=
    updatesOf_watching rfl
  have reported : ∀ status,
      (.failed status ∈ Java.Client.watchStream more (script 0) ↔
          (script 0).error = some status) ∧
        (.failed status ∈ Kotlin.Client.watchStream more (script 0) ↔
          (script 0).error = some status) :=
    fun status => ⟨failed_mem_watching (by simp), failed_mem_watching (by simp)⟩
  rw [java, kotlin, and_self, Python.Client.watchStream]
  rcases Int.lt_or_le 0 h.maxAttempts with positive | zero
  · by_cases rejected : b.Rejects (clock 0).first (clock 0).second
    · rw [(stackedStreamCall_rejected script positive rejected).1]
      refine ⟨List.nil_prefix, fun status => ⟨(reported status).1, (reported status).2, ?_⟩, ?_, ?_⟩
      · intro eq
        cases eq
      · intro eq
        cases eq
      · intro cond
        exact absurd rejected (cond.resolve_left (not_le.mpr positive)).1
    · rw [(stackedStreamCall_admitted script positive rejected).1]
      obtain ⟨shown, ended, raised⟩ :=
        Python.Client.showAll_cases (script 0).messages (endsBehind b (script 0))
      rw [shown, ended, or_iff_right (not_le.mpr positive), and_iff_right rejected]
      refine ⟨(Python.Client.showing_cases _).1 more, fun status => ⟨(reported status).1,
        (reported status).2, fun eq => ?_⟩, and_congr_left' ?_⟩
      · obtain ⟨_, end'⟩ | ⟨_, end'⟩ := endsBehind_cases b (script 0)
        · cases end'.symm.trans (raised status eq)
        · cases end'.symm.trans (raised status eq)
      · obtain ⟨hides, end'⟩ | ⟨seen, end'⟩ := endsBehind_cases b (script 0)
        · exact ⟨fun _ => hides, fun _ => end'⟩
        · rw [end']
          refine ⟨fun eq => ?_, fun hides => absurd hides seen⟩
          cases eq
  · rw [stackedStreamCall, interceptStreamCall_zero zero]
    refine ⟨List.nil_prefix, fun status => ⟨(reported status).1, (reported status).2, ?_⟩, ?_⟩
    · intro eq
      cases eq
    · exact ⟨fun _ => .inl zero, fun _ => rfl⟩

end GrpcSample
