import GrpcSample.Server.Jvm
import GrpcSample.Server.Python

/-!
# One protocol, three servers

`joinInteractStream` of the three servers over requests that end normally. The answer that they have
in common is a greeting for every request that says `Hey`, then a farewell. The Python server pulls
the requests and decodes both byte strings of each, strictly, before it looks at the audio; the
other two are pushed them and decode the audio, with replacement.

On the question whether the audio is `Hey` the two decoders agree (`Utf8.decode?_eq_some_iff`,
`Utf8.decodeReplacing_eq_iff`). So the servers answer alike unless a request cannot be decoded,
which ends the stream of the Python server, or the default charset of the Java server's JVM makes
other bytes of its answers (`same_protocol_iff`).
-/

namespace GrpcSample
open Streaming

variable {requests : List InteractStreamUpdate} {u : InteractStreamUpdate}

/-- A greeting for each request that is one, and a farewell. -/
def answers (encode : String → Bytes) (requests : List InteractStreamUpdate) :
    List InteractStreamUpdate :=
  ((requests.filter (·.Greets)).map fun _ => reply encode greetingText) ++
    [reply encode farewellText]

/-- The trace of a call that has been answered and completed. -/
def Answers {ε : Type*} (requests : List InteractStreamUpdate)
    (trace : List (Seen InteractStreamUpdate InteractStreamUpdate ε)) : Prop :=
  emissions trace = answers utf8 requests ∧ trace.getLast? = some .completed

/-- Something is seen of every generator, its end at least. -/
lemma drain_ne_nil {α β ε : Type*} {g : Generator α β ε} : g.drain ≠ [] := by
  cases g <;> exact List.cons_ne_nil _ _

/-- Requests that can be decoded are answered. -/
lemma answers_drain (h : ∀ u ∈ requests, u.Decodable) :
    Answers requests (Python.interact false requests).drain := by
  induction requests with
  | nil => exact ⟨rfl, rfl⟩
  | cons u requests ih =>
    obtain ⟨emitted, last⟩ := ih fun u mem => h u (List.mem_cons_of_mem _ mem)
    have decodable := h u List.mem_cons_self
    by_cases greets : u.Greets
    · rw [Python.interact_greets decodable greets]
      refine ⟨?_, ?_⟩
      · rw [Generator.drain, Generator.drain, emissions_input, emissions_emitted, emitted, answers,
          answers, List.filter_cons_of_pos (by simpa using greets)]
        rfl
      · rw [Generator.drain, Generator.drain, List.getLast?_cons_of_ne_nil (List.cons_ne_nil _ _),
          List.getLast?_cons_of_ne_nil drain_ne_nil, last]
    · rw [Python.interact_passes decodable greets]
      refine ⟨?_, ?_⟩
      · rw [Generator.drain, emissions_input, emitted, answers, answers,
          List.filter_cons_of_neg (by simpa using greets)]
      · rw [Generator.drain, List.getLast?_cons_of_ne_nil drain_ne_nil, last]

/-- The first one that cannot be ends the call with a `UnicodeDecodeError`. -/
lemma drain_fails {broken : Bool} (h : ∃ u ∈ requests, ¬ u.Decodable) :
    (Python.interact broken requests).drain.getLast? = some (.failed .unicodeDecodeError) := by
  induction requests with
  | nil =>
    obtain ⟨_, mem, _⟩ := h
    cases mem
  | cons u requests ih =>
    by_cases decodable : u.Decodable
    · have last := ih ((Python.undecodable_cons decodable).mp h)
      by_cases greets : u.Greets
      · rw [Python.interact_greets decodable greets, Generator.drain, Generator.drain,
          List.getLast?_cons_of_ne_nil (List.cons_ne_nil _ _),
          List.getLast?_cons_of_ne_nil drain_ne_nil, last]
      · rw [Python.interact_passes decodable greets, Generator.drain,
          List.getLast?_cons_of_ne_nil drain_ne_nil, last]
    · rw [Python.interact_undecodable decodable]
      rfl

/-- The Python server answers if and only if it can decode every request. -/
lemma answers_python_iff :
    Answers requests (Python.interact false requests).drain ↔ ∀ u ∈ requests, u.Decodable := by
  refine ⟨fun answered => ?_, answers_drain⟩
  by_contra undecodable
  have failed : (Python.interact false requests).drain.getLast? = _ :=
    drain_fails (by simpa using undecodable)
  rw [answered.2] at failed
  cases failed

/-- The requests of a call that its client ends normally, as signals. -/
def signals (requests : List InteractStreamUpdate) : List (Signal InteractStreamUpdate) :=
  requests.map .next ++ [.completed]

section
variable {ε : Type*} {more : Bytes → ℕ} {encode : String → Bytes}

/-- Decoding with replacement finds `Hey` in a greeting and in nothing else. -/
lemma decodeReplacing_hey_iff :
    "Hey" = Utf8.decodeReplacing more u.audioData ↔ u.Greets := by
  rw [eq_comm, Utf8.decodeReplacing_eq_iff (by decide)]
  rfl

/-- The observer answers each greeting. -/
lemma emissions_requests :
    emissions ((interactObserver (Utf8.decodeReplacing more) encode).run ()
        (requests.map .next) : List (Seen _ _ ε)) =
      (requests.filter (·.Greets)).map fun _ => reply encode greetingText := by
  induction requests with
  | nil => rfl
  | cons u requests ih =>
    rw [List.map_cons, Observer.run, emissions_append, ih, emissions_append]
    by_cases greets : u.Greets
    · have hey : "Hey" = Utf8.decodeReplacing more u.audioData :=
        decodeReplacing_hey_iff.mpr greets
      rw [List.filter_cons_of_pos (by simpa using greets)]
      simp only [Observer.react, interactObserver, if_pos hey]
      rfl
    · have other : ¬ "Hey" = Utf8.decodeReplacing more u.audioData :=
        mt decodeReplacing_hey_iff.mp greets
      rw [List.filter_cons_of_neg (by simpa using greets)]
      simp only [Observer.react, interactObserver, if_neg other]
      rfl

/-- With the farewell at the end this is the answer, in the bytes of `encode`. -/
lemma emissions_signals :
    emissions ((interactObserver (Utf8.decodeReplacing more) encode).run ()
      (signals requests) : List (Seen _ _ ε)) = answers encode requests := by
  rw [signals, Observer.run_append, emissions_append]
  exact congrArg (· ++ [reply encode farewellText]) emissions_requests

/-- The call is completed last. -/
lemma getLast?_signals :
    ((interactObserver (Utf8.decodeReplacing more) encode).run ()
      (signals requests) : List (Seen _ _ ε)).getLast? = some .completed := by
  rw [signals, Observer.run_append]
  exact List.getLast?_append_of_ne_nil _ (List.cons_ne_nil _ _)

omit encode in
/-- A response has the bytes of UTF-8 if and only if both of its texts have. -/
lemma reply_eq_iff {charset : String → Bytes} {text : String} :
    reply charset text = reply utf8 text ↔
      charset muzzleText = utf8 muzzleText ∧ charset text = utf8 text := by
  simp [reply]

/-- The greetings are the same if there are none, or if one is. -/
lemma greetings_eq_iff {charset : String → Bytes} :
    ((requests.filter (·.Greets)).map fun _ => reply charset greetingText) =
        ((requests.filter (·.Greets)).map fun _ => reply utf8 greetingText) ↔
      ∀ u ∈ requests, u.Greets → reply charset greetingText = reply utf8 greetingText := by
  rw [List.map_inj_left]
  simp only [List.mem_filter, decide_eq_true_eq, and_imp]

/-- The whole answer does if and only if the texts do that occur in it. -/
lemma answers_eq_iff {charset : String → Bytes} : answers charset requests = answers utf8 requests ↔
    charset muzzleText = utf8 muzzleText ∧ charset farewellText = utf8 farewellText ∧
      ((∃ u ∈ requests, u.Greets) → charset greetingText = utf8 greetingText) := by
  rw [answers, answers, List.append_eq_append_iff_of_size_eq_left (by rw [List.length_map,
    List.length_map]), greetings_eq_iff, List.singleton_inj, reply_eq_iff, reply_eq_iff]
  constructor
  · rintro ⟨greetings, muzzle, farewell⟩
    refine ⟨muzzle, farewell, ?_⟩
    rintro ⟨u, mem, greets⟩
    exact (greetings u mem greets).2
  · rintro ⟨muzzle, farewell, greeting⟩
    exact ⟨fun u mem greets => ⟨muzzle, greeting ⟨u, mem, greets⟩⟩, muzzle, farewell⟩

end

section
variable {d : Draw} {more : Bytes → ℕ}

/-- The Python method, without a simulated failure. -/
lemma python_iff (quiet : randomFailure d = none) :
    Answers requests (Python.joinInteractStream d ⟨requests, false⟩).drain ↔
      ∀ u ∈ requests, u.Decodable := by
  rw [Python.joinInteractStream, quiet, ← answers_python_iff]

/-- The Java method, under the charset of its JVM. -/
lemma java_iff {charset : String → Bytes} (quiet : randomFailure d = none) :
    Answers requests (serveCall (Java.joinInteractStream d more charset) (signals requests)) ↔
      charset muzzleText = utf8 muzzleText ∧ charset farewellText = utf8 farewellText ∧
        ((∃ u ∈ requests, u.Greets) → charset greetingText = utf8 greetingText) := by
  rw [Java.joinInteractStream, serveCall_quiet quiet, ← answers_eq_iff, Answers]
  exact (and_iff_left getLast?_signals).trans (Eq.congr_left emissions_signals)

/-- The Kotlin method, which always makes the bytes of UTF-8. -/
lemma kotlin_answers (quiet : randomFailure d = none) :
    Answers requests (serveCall (Kotlin.joinInteractStream d more) (signals requests)) := by
  rw [Kotlin.joinInteractStream, serveCall_quiet quiet]
  exact ⟨emissions_signals, getLast?_signals⟩

end

/-- The three servers answer alike if and only if the Python server can decode every request and the
    default charset of the Java server's JVM agrees with UTF-8 on the texts that it answers with. -/
theorem same_protocol_iff (charset : String → Bytes) (moreJava moreKotlin : Bytes → ℕ)
    (requests : List InteractStreamUpdate) {dp dj dk : Draw} (python : randomFailure dp = none)
    (java : randomFailure dj = none) (kotlin : randomFailure dk = none) :
    (Answers requests (Python.joinInteractStream dp ⟨requests, false⟩).drain ∧
      Answers requests (serveCall (Java.joinInteractStream dj moreJava charset) (signals requests)) ∧
      Answers requests (serveCall (Kotlin.joinInteractStream dk moreKotlin) (signals requests))) ↔
    (∀ u ∈ requests, u.Decodable) ∧
      charset muzzleText = utf8 muzzleText ∧ charset farewellText = utf8 farewellText ∧
        ((∃ u ∈ requests, u.Greets) → charset greetingText = utf8 greetingText) := by
  rw [python_iff python, java_iff java]
  exact and_congr_right' (and_iff_left (kotlin_answers kotlin))

/-- The first requests that the Python client sends. -/
def clientRequests : List InteractStreamUpdate :=
  [⟨"Python Client", utf8 "ClientSmileMuzzle", utf8 "Hey"⟩,
    ⟨"Python Client", utf8 "video_frame_data0", utf8 "audio_data0"⟩]

/-- These are answered alike, by a Java server whose default charset is UTF-8. -/
theorem same_protocol_iff_clientRequests :
    Answers clientRequests (Python.joinInteractStream calm ⟨clientRequests, false⟩).drain ∧
      Answers clientRequests
        (serveCall (Java.joinInteractStream calm (fun _ => 0) utf8) (signals clientRequests)) ∧
      Answers clientRequests
        (serveCall (Kotlin.joinInteractStream calm fun _ => 0) (signals clientRequests)) := by
  have law := same_protocol_iff utf8 (fun _ => 0) (fun _ => 0) clientRequests calm_quiet calm_quiet
    calm_quiet
  exact law.mpr ⟨by decide +kernel, rfl, rfl, fun _ => rfl⟩

/-- A greeting with a video frame that is not text. -/
def hostileFrame : InteractStreamUpdate :=
  ⟨"", [0xFF], utf8 "Hey"⟩

/-- The Python server does not answer it, the other two do. -/
theorem undecodable_frame_unanswered :
    ¬ Answers [hostileFrame] (Python.joinInteractStream calm ⟨[hostileFrame], false⟩).drain ∧
      ∀ more,
        Answers [hostileFrame]
          (serveCall (Java.joinInteractStream calm more utf8) (signals [hostileFrame])) ∧
        Answers [hostileFrame]
          (serveCall (Kotlin.joinInteractStream calm more) (signals [hostileFrame])) := by
  rw [python_iff calm_quiet]
  refine ⟨by decide +kernel, fun more => ⟨?_, kotlin_answers calm_quiet⟩⟩
  exact (java_iff calm_quiet).mpr ⟨rfl, rfl, fun _ => rfl⟩

end GrpcSample
