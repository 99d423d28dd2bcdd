import GrpcSample.Client.Resilience
import Mathlib.Algebra.Order.Group.Int

/-!
# The client's program

`__main__` of `python/src/client/grpc_resilient_client.py`: one `GrpcResilientClient` calls the four
methods of the service one after the other, all through the same breaker, and an exception of a call
is the end of the program. The server crashes at random (`Server/Crashing.lean`); what it would
answer to each attempt is given, so that an acknowledgement may depend on the requests that earlier
attempts have used up.

`program_ok_iff` says when the program gets to its end before the recovery timeout is over: when of
both calls with a single response some attempt is answered, and fewer failures are drawn before the
second of these answers than the breaker has room for. A stream that fails costs one of these
failures, and is not noticed: the program goes on without its responses.
-/

namespace GrpcSample

variable {T β γ : Type*}

/-- The reply of a method that crashes at random. -/
def crashingReply (d : Draw) (r : β) : Reply β :=
  match randomFailure d with
  | some status => .rpcError status
  | none => .response r

/-- It is what the client gets from a method with one response that is all or nothing. -/
lemma Crashes.reply {call : Draw → StreamCall β} {r : β} (crashes : Crashes call [r]) (d : Draw) :
    (call d).reply = some (crashingReply d r) := by
  rw [crashes, allOrNothing, crashingReply]
  cases randomFailure d <;> rfl

namespace Python
open Retry

/-- The exceptions that leave the methods of the client. -/
inductive ClientError where
  | rpcError (status : StatusCode)
  | attributeError
  | typeError
  | unicodeDecodeError
  deriving DecidableEq, Repr

/-- A call with a single response: its error is raised, and of `None` no field can be read. -/
def single : Option (Reply β) → Except ClientError β
  | some (.response r) => .ok r
  | some (.rpcError status) => .error (.rpcError status)
  | none => .error .attributeError

/-- `bytes.decode('utf-8')` of the client. -/
def text (bs : Bytes) : Except ClientError String :=
  match Utf8.decode? bs with
  | some s => .ok s
  | none => .error .unicodeDecodeError

/-- `_from_proto_stream`, of a `StreamUpdate`. -/
def fromProtoWatched (stream : StreamUpdate) : Except ClientError (String × String) := do
  let audioData ← text stream.audioData
  let videoData ← text stream.frameData
  return (videoData, audioData)

/-- `_from_proto_stream_update`. -/
def fromProtoStreamUpdate (streamUpdate : InteractStreamUpdate) : Except ClientError String := do
  let audioData ← text streamUpdate.audioData
  let videoData ← text streamUpdate.frameData
  return audioData ++ ", " ++ videoData

/-- `for response in responses: log.info(..)`: what is logged, if no exception leaves the loop. -/
def logAll (line : β → Except ClientError γ) (responses : Delivery β) :
    Except ClientError (List γ) := do
  let lines ← responses.messages.mapM line
  match responses.ending with
  | .stopIteration => return lines
  | .rpcError status => throw (.rpcError status)
  | .attributeError => throw .attributeError
  | .typeError => throw .typeError

/-- What the server answers to a call, and to each attempt of one, unless it crashes. -/
structure Answers where
  recording : ℕ → Recording
  updates : List StreamUpdate
  acknowledged : ℕ → StartStreamResponse
  interaction : List InteractStreamUpdate

/-- A call of the program: the readings of its passes through the breaker, and the draws of the
    server in its attempts. -/
structure Pass (T : Type*) where
  clock : ℕ → Breaker.Readings T
  draws : ℕ → Draw

/-- What the program has logged of the responses. -/
structure Logged where
  data : String
  watched : List (String × String)
  message : String
  interaction : List String
  deriving DecidableEq, Repr

section
variable [LinearOrder T] [Add T]

/-- A call with a single response through the stack. -/
def Pass.unary (p : Pass T) (h : Retry) (b : Breaker T) (answers : ℕ → β) :
    Option (Reply β) × (Breaker T × ℕ) :=
  h.stackedUnaryCall b p.clock fun i => crashingReply (p.draws i) (answers i)

/-- A call with a response stream through the stack. -/
def Pass.stream (p : Pass T) (h : Retry) (b : Breaker T) (responses : List β) :
    Delivery β × (Breaker T × ℕ) :=
  h.stackedStreamCall b p.clock fun i => allOrNothing (p.draws i) responses

/-- `download_stream`, `watch_stream`, `start_stream` and `join_interact_stream` in turn. -/
def program (h : Retry) (b : Breaker T) (server : Answers) (download watch start join : Pass T) :
    Except ClientError Logged := do
  let (response, b, _) := download.unary h b server.recording
  let recording ← single response
  let data ← text recording.data
  let (responses, b, _) := watch.stream h b server.updates
  let watched ← logAll fromProtoWatched responses
  let (response, b, _) := start.unary h b server.acknowledged
  let acknowledged ← single response
  let (responses, _, _) := join.stream h b server.interaction
  let interaction ← logAll fromProtoStreamUpdate responses
  return ⟨data, watched, acknowledged.message, interaction⟩

end

/-- Draw `k` is the first that does not fail. -/
def FirstQuiet (draws : ℕ → Draw) (k : ℕ) : Prop :=
  randomFailure (draws k) = none ∧ ∀ i < k, randomFailure (draws i) ≠ none

/-- The number of failures that a single draw makes. -/
def failed (d : Draw) : ℕ :=
  if randomFailure d = none then 0 else 1

/-- A `CLOSED` breaker under a retry handler, both of which know the statuses that are drawn. -/
structure Ready (h : Retry) (b : Breaker T) : Prop where
  retried : simulated ⊆ h.statusForRetry
  counted : simulated ⊆ b.statusForRetry
  closed : b.state = .closed
  room : b.failureCount < b.failureThreshold

/-- Failures that there is room for leave it ready. -/
lemma Ready.worn {h : Retry} {b : Breaker T} {n : ℕ} (ready : Ready h b)
    (within : n < slack b) : Ready h (worn b n) where
  retried := ready.retried
  counted := ready.counted
  closed := ready.closed
  room := by
    show b.failureCount + n < b.failureThreshold
    unfold slack at within
    omega

/-- A sequence of computations succeeds when each of them does. -/
lemma bind_eq_ok {ε α δ : Type} {x : Except ε α} {f : α → Except ε δ} {r : δ} :
    (x >>= f) = .ok r ↔ ∃ a, x = .ok a ∧ f a = .ok r := by
  cases x with
  | error e => exact ⟨nofun, nofun⟩
  | ok a => exact ⟨fun eq => ⟨a, rfl, eq⟩, fun ⟨_, eq, next⟩ => by cases eq; exact next⟩

/-- Only a response is read. -/
lemma single_eq_ok {answer : Option (Reply β)} {r : β} :
    single answer = .ok r ↔ answer = some (.response r) := by
  cases answer with
  | none => exact ⟨nofun, nofun⟩
  | some reply => cases reply <;> simp [single]

/-- Such a reply is tried again as its draw says. -/
lemma retries_crashing {h : Retry} {draws : ℕ → Draw} {answers : ℕ → β} {i : ℕ}
    (retried : simulated ⊆ h.statusForRetry) :
    h.Retries i (some (crashingReply (draws i) (answers i))) ↔ h.RetriesDraw draws i := by
  apply and_congr_right'
  unfold crashingReply
  cases drawn : randomFailure (draws i) with
  | none => simp
  | some status =>
    refine ⟨fun _ => Option.some_ne_none status, fun _ => ?_⟩
    exact ⟨status, retried (simulated_of_failure drawn), rfl⟩

section
variable [LinearOrder T] [Add T] {h : Retry} {b : Breaker T} {p : Pass T} {k : ℕ}

/-- The call is answered by its first attempt that does not fail. -/
lemma unary_eq {answers : ℕ → β} (ready : Ready h b) (swift : Swift b p.clock)
    (quiet : FirstQuiet p.draws k) (lt : k < h.maxAttempts) (within : k < slack b) :
    p.unary h b answers = (some (.response (answers k)), worn b k, k + 1) := by
  obtain ⟨retried, _, closed, _⟩ := ready
  have replied : crashingReply (p.draws k) (answers k) = .response (answers k) := by
    rw [crashingReply, quiet.1]
  have below : ∀ i < k, b.failureCount + (i + 1) < b.failureThreshold := by
    intro i lt
    unfold slack at within
    omega
  apply stackedUnaryCall_eq lt
  · intro i before
    exact (retries_crashing retried).mpr ⟨by omega, quiet.2 i before⟩
  · intro i before
    exact admitted_of_lt_slack closed swift.second (before.trans within)
  · have other : (worn b k).state ≠ .halfOpened := by
      show b.state ≠ .halfOpened
      rw [closed]
      exact nofun
    have checked : ((worn b k).isOpenCircuit (p.clock k).first (p.clock k).second).2 = worn b k := by
      apply Breaker.isOpenCircuit_snd_of_le
      show b.state = .opened → _
      rw [closed]
      exact nofun
    have unchanged : (worn b k).afterUnary (.response (answers k)) (p.clock k).done = worn b k := by
      rw [Breaker.afterUnary_response fun half => absurd half other, if_neg other]
    rw [pass_admitted (admitted_of_lt_slack closed swift.second within), replied,
      breakerAt_of_not_opensWithin (not_opensWithin_of_below closed below), ← worn, checked, unchanged]
  · rintro ⟨_, _, _, eq⟩
    cases eq

/-- A call with a single response is answered if and only if its first draw that does not fail comes
    in time for both the retry handler and the breaker. -/
lemma unary_ok_iff [AddRightMono T] {answers : ℕ → β} {r : β} (ready : Ready h b)
    (swift : Swift b p.clock) :
    single (p.unary h b answers).1 = .ok r ↔
      ∃ k, FirstQuiet p.draws k ∧ k < h.maxAttempts ∧ k < slack b ∧ r = answers k := by
  have retried := ready.retried
  have closed := ready.closed
  rw [single_eq_ok]
  constructor
  · intro answered
    rcases Int.lt_or_le 0 h.maxAttempts with positive | zero
    · obtain ⟨j, lt, retries, returns⟩ := exists_last positive
        fun i (retries : h.RetriesDraw p.draws i) => retries.1
      have retries' : ∀ i < j, h.Retries i (some (crashingReply (p.draws i) (answers i))) :=
        fun i lt => (retries_crashing retried).mpr (retries i lt)
      rcases Nat.lt_or_ge j (slack b) with within | beyond
      · have last := (stackedUnaryCall_within closed swift.second lt retries'
          (mt (retries_crashing retried).mp returns) within).1
        rw [Pass.unary, last, Option.some_inj] at answered
        unfold crashingReply at answered
        cases drawn : randomFailure (p.draws j) with
        | none =>
          rw [drawn] at answered
          cases answered
          exact ⟨j, ⟨drawn, fun i lt => (retries i lt).2⟩, lt, within, rfl⟩
        | some status =>
          rw [drawn] at answered
          cases answered
      · have none := (stackedUnaryCall_beyond closed ready.room swift.second swift.prompt lt
          retries' beyond).1
        rw [Pass.unary, none] at answered
        cases answered
    · rw [Pass.unary, stackedUnaryCall, interceptUnaryCall_zero zero] at answered
      cases answered
  · rintro ⟨k, quiet, lt, within, rfl⟩
    rw [unary_eq ready swift quiet lt within]

/-- A draw makes one failure at most. -/
lemma failed_le (d : Draw) : failed d ≤ 1 := by
  unfold failed
  split <;> omega

/-- A stream delivers everything or, if its first draw fails, nothing. -/
lemma stream_delivers {responses : List β} (positive : 1 ≤ h.maxAttempts) (ready : Ready h b)
    (swift : Swift b p.clock) :
    (p.stream h b responses).1 =
      ⟨if randomFailure (p.draws 0) = none then responses else [], .stopIteration⟩ := by
  apply stackedStreamCall_crashes (fun _ => rfl) ready.counted positive
  rw [rejects_iff_of_closed ready.closed]
  exact not_lt.mpr (swift.second 0)

/-- A stream that fails is counted. -/
lemma stream_breaker {responses : List β} (positive : 1 ≤ h.maxAttempts) (ready : Ready h b)
    (swift : Swift b p.clock) :
    (p.stream h b responses).2.1 =
      if randomFailure (p.draws 0) = none then b
      else b.setFailureCount (b.failureCount + 1) (p.clock 0).done := by
  obtain ⟨_, counted, closed, _⟩ := ready
  have admitted : ¬ b.Rejects (p.clock 0).first (p.clock 0).second := by
    rw [rejects_iff_of_closed closed]
    exact not_lt.mpr (swift.second 0)
  have checked : (b.isOpenCircuit (p.clock 0).first (p.clock 0).second).2 = b := by
    apply Breaker.isOpenCircuit_snd_of_le
    rw [closed]
    exact nofun
  rw [Pass.stream, stackedStreamCall_eq_admitted _ positive admitted, checked, allOrNothing]
  cases drawn : randomFailure (p.draws 0) with
  | none => rw [if_pos rfl, Breaker.afterStream_ok]
  | some status =>
    rw [if_neg (Option.some_ne_none status),
      Breaker.afterStream_retryable (counted (simulated_of_failure drawn))]

/-- A failure that there is room for leaves the circuit closed. -/
lemma stream_worn {responses : List β} (positive : 1 ≤ h.maxAttempts) (ready : Ready h b)
    (swift : Swift b p.clock) (fits : failed (p.draws 0) < slack b) :
    (p.stream h b responses).2.1 = worn b (failed (p.draws 0)) := by
  rw [stream_breaker positive ready swift]
  unfold failed slack at fits
  unfold failed
  split
  · simp [worn]
  · next drawn =>
    rw [if_neg drawn] at fits
    apply Breaker.setFailureCount_keeps
    rintro (reached | ⟨_, half⟩)
    · omega
    · rw [ready.closed] at half
      cases half

/-- Nothing gets through after the failure that there is no room for. -/
lemma stream_opens {responses : List β} {answers : ℕ → γ} {next : Pass T} [AddRightMono T]
    (positive : 1 ≤ h.maxAttempts) (ready : Ready h b) (swift : Swift b p.clock)
    (later : Swift b next.clock) (full : slack b ≤ failed (p.draws 0)) :
    (next.unary h (p.stream h b responses).2.1 answers).1 = none := by
  have room := ready.room
  have failure : randomFailure (p.draws 0) ≠ none := by
    intro quiet
    rw [failed, if_pos quiet] at full
    unfold slack at full
    omega
  have reached : b.failureCount + 1 = b.failureThreshold := by
    have le := failed_le (p.draws 0)
    unfold slack at full
    omega
  rw [stream_breaker positive ready swift, if_neg failure,
    Breaker.setFailureCount_opens (.inl reached)]
  apply stackedUnaryCall_rejected (j := 0) positive nofun nofun
  exact .inl ⟨rfl, (later.first 0).trans (add_le_add_left (swift.done 0) _)⟩

/-- A call with a single response after a stream. -/
lemma unary_after_stream_iff {responses : List β} {answers : ℕ → γ} {r : γ} {next : Pass T}
    [AddRightMono T] (positive : 1 ≤ h.maxAttempts) (ready : Ready h b) (swift : Swift b p.clock)
    (later : Swift b next.clock) :
    single (next.unary h (p.stream h b responses).2.1 answers).1 = .ok r ↔
      ∃ k, FirstQuiet next.draws k ∧ k < h.maxAttempts ∧
        failed (p.draws 0) + k < slack b ∧ r = answers k := by
  rcases Nat.lt_or_ge (failed (p.draws 0)) (slack b) with fits | full
  · rw [stream_worn positive ready swift fits, unary_ok_iff (ready.worn fits) later.worn, slack_worn]
    simp only [Nat.lt_sub_iff_add_lt']
  · rw [stream_opens positive ready swift later full]
    refine ⟨nofun, ?_⟩
    rintro ⟨k, _, _, within, _⟩
    omega

/-- The loop logs what the stream has delivered. -/
lemma logAll_ok {line : β → Except ClientError γ} {responses : List β} {lines : List γ} {d : Draw}
    (legible : responses.mapM line = .ok lines) :
    logAll line ⟨if randomFailure d = none then responses else [], .stopIteration⟩ =
      .ok (if randomFailure d = none then lines else []) := by
  split
  · rw [logAll, legible]
    rfl
  · rfl

/-- The program call by call. -/
lemma program_eq_ok {server : Answers} {download watch start join : Pass T} {logged : Logged} :
    program h b server download watch start join = .ok logged ↔
      ∃ recording, single (download.unary h b server.recording).1 = .ok recording ∧
      ∃ data, text recording.data = .ok data ∧
      ∃ watched, logAll fromProtoWatched
          (watch.stream h (download.unary h b server.recording).2.1 server.updates).1 =
        .ok watched ∧
      ∃ acknowledged, single (start.unary h
          (watch.stream h (download.unary h b server.recording).2.1 server.updates).2.1
          server.acknowledged).1 = .ok acknowledged ∧
      ∃ interaction, logAll fromProtoStreamUpdate (join.stream h
          (start.unary h
            (watch.stream h (download.unary h b server.recording).2.1 server.updates).2.1
            server.acknowledged).2.1 server.interaction).1 = .ok interaction ∧
      ⟨data, watched, acknowledged.message, interaction⟩ = logged := by
  unfold program
  rw [bind_eq_ok]
  refine exists_congr fun recording => and_congr_right' ?_
  rw [bind_eq_ok]
  refine exists_congr fun data => and_congr_right' ?_
  rw [bind_eq_ok]
  refine exists_congr fun watched => and_congr_right' ?_
  rw [bind_eq_ok]
  refine exists_congr fun acknowledged => and_congr_right' ?_
  rw [bind_eq_ok]
  refine exists_congr fun interaction => and_congr_right' ?_
  exact ⟨Except.ok.inj, congrArg Except.ok⟩

/-- What the later calls log when the first one has been answered at attempt `i`. -/
lemma later_logged {server : Answers} {watch start join : Pass T} {watched : List (String × String)}
    {interaction : List String} {i : ℕ} (positive : 1 ≤ h.maxAttempts) (ready : Ready h b)
    (within : i < slack b)
    (swift : Swift b watch.clock ∧ Swift b start.clock ∧ Swift b join.clock)
    (updates : server.updates.mapM fromProtoWatched = .ok watched)
    (replies : server.interaction.mapM fromProtoStreamUpdate = .ok interaction) :
    logAll fromProtoWatched (watch.stream h (worn b i) server.updates).1 =
        .ok (if randomFailure (watch.draws 0) = none then watched else []) ∧
      ∀ k, FirstQuiet start.draws k → k < h.maxAttempts →
        failed (watch.draws 0) + k < slack (worn b i) →
        logAll fromProtoStreamUpdate (join.stream h (start.unary h
            (watch.stream h (worn b i) server.updates).2.1 server.acknowledged).2.1
            server.interaction).1 =
          .ok (if randomFailure (join.draws 0) = none then interaction else []) := by
  obtain ⟨swift₂, swift₃, swift₄⟩ := swift
  have ready' := ready.worn within
  refine ⟨?_, fun k quiet lt fits => ?_⟩
  · rw [stream_delivers positive ready' swift₂.worn, logAll_ok updates]
  · have fits' : failed (watch.draws 0) < slack (worn b i) := by omega
    have ready'' := ready'.worn fits'
    have room : k < slack (worn (worn b i) (failed (watch.draws 0))) := by
      rw [slack_worn]
      omega
    rw [stream_worn positive ready' swift₂.worn fits',
      unary_eq ready'' swift₃.worn.worn quiet lt room,
      stream_delivers positive (ready''.worn room) swift₄.worn.worn.worn, logAll_ok replies]

/-- Before the recovery timeout is over, through a `CLOSED` breaker with room for a failure, with
    both lists containing the statuses that are drawn and a server whose responses can be decoded,
    the program gets to its end if and only if both of its calls with a single response are answered
    by some attempt, and the failures before the second answer, that of the first stream included,
    are fewer than the breaker has room for. It has then logged both answers, and of each stream
    everything or, if its draw has failed, nothing. -/
theorem program_ok_iff [AddRightMono T] (h : Retry) (server : Answers)
    {download watch start join : Pass T} {data : ℕ → String} {watched : List (String × String)}
    {interaction : List String} {logged : Logged} (ready : Ready h b)
    (swift : ∀ p ∈ [download, watch, start, join], Swift b p.clock)
    (recordings : ∀ i, text (server.recording i).data = .ok (data i))
    (updates : server.updates.mapM fromProtoWatched = .ok watched)
    (replies : server.interaction.mapM fromProtoStreamUpdate = .ok interaction) :
    program h b server download watch start join = .ok logged ↔
      ∃ i k, (FirstQuiet download.draws i ∧ i < h.maxAttempts) ∧
        (FirstQuiet start.draws k ∧ k < h.maxAttempts) ∧
        i + failed (watch.draws 0) + k < slack b ∧
        logged = ⟨data i, if randomFailure (watch.draws 0) = none then watched else [],
          (server.acknowledged k).message,
          if randomFailure (join.draws 0) = none then interaction else []⟩ := by
  obtain ⟨swift₁, swift₂, swift₃, swift₄⟩ : Swift b download.clock ∧ Swift b watch.clock ∧
      Swift b start.clock ∧ Swift b join.clock := by simpa using swift
  rw [program_eq_ok]
  constructor
  · rintro ⟨_, answered, _, legible, _, shown, _, answered', _, spoken, rfl⟩
    obtain ⟨i, quiet, lt, within, rfl⟩ := (unary_ok_iff ready swift₁).mp answered
    have positive : 1 ≤ h.maxAttempts := by omega
    rw [unary_eq ready swift₁ quiet lt within] at shown answered' spoken
    obtain ⟨k, quiet', lt', fits, rfl⟩ := (unary_after_stream_iff positive (ready.worn within)
      swift₂.worn swift₃.worn).mp answered'
    obtain ⟨watched', interaction'⟩ := later_logged positive ready within
      ⟨swift₂, swift₃, swift₄⟩ updates replies
    rw [recordings] at legible
    rw [watched'] at shown
    rw [interaction' k quiet' lt' fits] at spoken
    rw [slack_worn] at fits
    cases legible
    cases shown
    cases spoken
    exact ⟨i, k, ⟨quiet, lt⟩, ⟨quiet', lt'⟩, by omega, rfl⟩
  · rintro ⟨i, k, ⟨quiet, lt⟩, ⟨quiet', lt'⟩, fits, rfl⟩
    have positive : 1 ≤ h.maxAttempts := by omega
    have within : i < slack b := by omega
    have fits' : failed (watch.draws 0) + k < slack (worn b i) := by
      rw [slack_worn]
      omega
    obtain ⟨watched', interaction'⟩ := later_logged positive ready within
      ⟨swift₂, swift₃, swift₄⟩ updates replies
    rw [unary_eq ready swift₁ quiet lt within]
    refine ⟨_, rfl, _, recordings i, _, watched', _, ?_, _, interaction' k quiet' lt' fits', rfl⟩
    exact (unary_after_stream_iff positive (ready.worn within) swift₂.worn swift₃.worn).mpr
      ⟨k, quiet', lt', fits', rfl⟩

end

/-- The client decodes what the Python server has encoded. -/
lemma text_utf8 (s : String) : text (utf8 s) = .ok s := by
  rw [text, utf8_eq, Utf8.decode?_eq_some_iff.mpr rfl]

/-- It reads each message of `watchStream`. -/
lemma fromProtoWatched_utf8 (i : ℕ) :
    fromProtoWatched (watched utf8 i) = .ok ("Video" ++ toString i, "Audio" ++ toString i) := by
  rw [fromProtoWatched, watched, text_utf8, text_utf8]
  rfl

/-- And each one of `joinInteractStream`. -/
lemma fromProtoStreamUpdate_reply (s : String) :
    fromProtoStreamUpdate (reply utf8 s) = .ok (s ++ ", " ++ muzzleText) := by
  rw [fromProtoStreamUpdate, reply, text_utf8, text_utf8]
  rfl

/-- The answers of the Python server. -/
def pythonAnswers : Answers where
  recording _ := recording utf8
  updates := [0, 1, 2].map (watched utf8)
  acknowledged _ := ⟨wordsText⟩
  interaction := [reply utf8 greetingText, reply utf8 farewellText]

/-- A call of which the first `n` draws fail. -/
def failing (n : ℕ) : Pass Int where
  clock _ := ⟨1, 1, 1⟩
  draws i := if i < n then crash else calm

/-- The next one does not. -/
lemma firstQuiet_failing (n : ℕ) : FirstQuiet (failing n).draws n := by
  constructor
  · simp [failing, calm_quiet]
  · intro i lt
    simp [failing, lt, crash_unavailable]

/-- The client of the deployment against the Python server, in the first second: after a failure of
    `downloadStream` and one of `watchStream` the program gets to its end, and with one more, of
    `startStream`, it does not. -/
theorem program_ok_iff_failing :
    program clientRetry (clientBreaker 0) pythonAnswers (failing 1) (failing 1) (failing 0)
        (failing 0) = .ok ⟨"Recording Data", [], wordsText,
          [greetingText ++ ", " ++ muzzleText, farewellText ++ ", " ++ muzzleText]⟩ ∧
      ∀ logged, program clientRetry (clientBreaker 0) pythonAnswers (failing 1) (failing 1)
        (failing 1) (failing 0) ≠ .ok logged := by
  have ready : Ready clientRetry (clientBreaker 0) :=
    ⟨List.Subset.refl _, List.Subset.refl _, rfl, by decide⟩
  have swift : ∀ m : ℕ, ∀ p ∈ [failing 1, failing 1, failing m, failing 0],
      Swift (clientBreaker 0) p.clock := by
    have one : ∀ n, Swift (clientBreaker 0) (failing n).clock := fun n =>
      ⟨fun _ => show (1 : Int) ≤ 0 + 5 by decide, fun _ => Int.zero_le_ofNat 1,
        fun _ => Int.zero_le_ofNat 1⟩
    intro m
    simp [one]
  have updates : pythonAnswers.updates.mapM fromProtoWatched =
      .ok ([0, 1, 2].map fun i => ("Video" ++ toString i, "Audio" ++ toString i)) := by
    simp only [pythonAnswers, List.map_cons, List.mapM_cons, fromProtoWatched_utf8]
    rfl
  have replies : pythonAnswers.interaction.mapM fromProtoStreamUpdate =
      .ok [greetingText ++ ", " ++ muzzleText, farewellText ++ ", " ++ muzzleText] := by
    simp only [pythonAnswers, List.mapM_cons, fromProtoStreamUpdate_reply]
    rfl
  have quiet_eq : ∀ {n i}, FirstQuiet (failing n).draws i → i = n := fun quiet =>
    Loop.first_unique quiet.2 (not_not.mpr quiet.1) (firstQuiet_failing _).2
      (not_not.mpr (firstQuiet_failing _).1)
  constructor
  · refine (program_ok_iff clientRetry pythonAnswers ready (swift 0) (fun _ => text_utf8 _) updates
      replies).mpr ⟨1, 0, ⟨firstQuiet_failing 1, by decide⟩, ⟨firstQuiet_failing 0, by decide⟩, ?_⟩
    exact ⟨by decide, rfl⟩
  · intro logged ended
    obtain ⟨i, k, ⟨quiet, _⟩, ⟨quiet', _⟩, fits, _⟩ := (program_ok_iff clientRetry pythonAnswers
      ready (swift 1) (fun _ => text_utf8 _) updates replies).mp ended
    rw [quiet_eq quiet, quiet_eq quiet'] at fits
    exact absurd fits (by decide)

end Python

end GrpcSample
