import GrpcSample.Client.Program

/-!
# Reading responses

What the clients make of the bytes of a response before they log it: `SocialMediaStreamMapper` of
`java/` and `kotlin/`, and of `python/` the functions of `grpc_data_utils.py` (in `Program.lean`).
All of them expect UTF-8. Python's `decode('utf-8')` raises on anything else, which leaves the loop
over the responses; `String(bytes, UTF_8)` puts U+FFFD in its place and goes on.

`reading_law`: on a stream of legible responses the three clients log the same texts, whatever the
texts are, and on any other stream the Python client stops where the others log a text with U+FFFD.
-/

namespace GrpcSample

/-- Both byte strings are UTF-8. -/
def StreamUpdate.Decodable (u : StreamUpdate) : Prop :=
  (Utf8.decode? u.audioData).isSome ∧ (Utf8.decode? u.frameData).isSome

/-- The text that the mappers make of a message with these byte strings. -/
def fromProto (more : Bytes → ℕ) (frameData audioData : Bytes) : String :=
  Utf8.decodeReplacing more audioData ++ ", " ++ Utf8.decodeReplacing more frameData

namespace Java

/-- `fromProtoInteractStreamUpdate`. -/
def fromProtoInteractStreamUpdate (more : Bytes → ℕ) (u : InteractStreamUpdate) : String :=
  fromProto more u.frameData u.audioData

/-- `fromProtoStreamUpdate`. -/
def fromProtoStreamUpdate (more : Bytes → ℕ) (u : StreamUpdate) : String :=
  fromProto more u.frameData u.audioData

end Java

namespace Kotlin

/-- `fromProtoInteractStreamUpdate`. -/
def fromProtoInteractStreamUpdate (more : Bytes → ℕ) (u : InteractStreamUpdate) : String :=
  fromProto more u.frameData u.audioData

/-- `fromProtoStreamUpdate`. -/
def fromProtoStreamUpdate (more : Bytes → ℕ) (u : StreamUpdate) : String :=
  fromProto more u.frameData u.audioData

end Kotlin

/-- The text of a pair that `_from_proto_stream` has returned, as the mappers put it. -/
def ofPair (stream : String × String) : String :=
  stream.2 ++ ", " ++ stream.1

section
variable {more : Bytes → ℕ} {frameData audioData : Bytes}

/-- On a legible message the mappers find the texts. -/
lemma fromProto_eq {audio video : String} (h : Utf8.decode? audioData = some audio)
    (h' : Utf8.decode? frameData = some video) :
    fromProto more frameData audioData = audio ++ ", " ++ video := by
  rw [fromProto, Utf8.decodeReplacing_of_decode? h, Utf8.decodeReplacing_of_decode? h']

/-- What cannot be decoded shows. -/
lemma replacement_mem_fromProto
    (h : ¬ ((Utf8.decode? audioData).isSome ∧ (Utf8.decode? frameData).isSome)) :
    Utf8.replacement ∈ (fromProto more frameData audioData).toList := by
  rw [fromProto, String.toList_append, String.toList_append]
  cases audio : Utf8.decode? audioData with
  | none =>
    exact List.mem_append_left _ (List.mem_append_left _ (Utf8.replacement_mem_of_decode? audio))
  | some s =>
    cases video : Utf8.decode? frameData with
    | none => exact List.mem_append_right _ (Utf8.replacement_mem_of_decode? video)
    | some s' =>
      rw [audio, video] at h
      exact absurd ⟨rfl, rfl⟩ h

end

namespace Python

/-- UTF-8 is decoded. -/
lemma text_eq_ok {bs : Bytes} {s : String} (h : Utf8.decode? bs = some s) : text bs = .ok s := by
  rw [text, h]

/-- Anything else raises. -/
lemma text_eq_error {bs : Bytes} (h : Utf8.decode? bs = none) :
    text bs = .error .unicodeDecodeError := by
  rw [text, h]

/-- The two readers of the Python client take a message apart in the same way. -/
lemma fromProtoWatched_cases (u : StreamUpdate) (more : Bytes → ℕ) :
    (u.Decodable → ∃ stream, fromProtoWatched u = .ok stream ∧
        ofPair stream = fromProto more u.frameData u.audioData) ∧
      (¬ u.Decodable → fromProtoWatched u = .error .unicodeDecodeError) := by
  unfold fromProtoWatched
  cases audio : Utf8.decode? u.audioData with
  | none =>
    rw [text_eq_error audio]
    exact ⟨fun h => by simp [StreamUpdate.Decodable, audio] at h, fun _ => rfl⟩
  | some a =>
    rw [text_eq_ok audio]
    cases video : Utf8.decode? u.frameData with
    | none =>
      rw [text_eq_error video]
      exact ⟨fun h => by simp [StreamUpdate.Decodable, video] at h, fun _ => rfl⟩
    | some v =>
      rw [text_eq_ok video]
      refine ⟨fun _ => ⟨(v, a), rfl, (fromProto_eq audio video).symm⟩, fun h => ?_⟩
      exact absurd ⟨by rw [audio]; rfl, by rw [video]; rfl⟩ h

/-- The reader of interactive responses makes a text of the pair that the other one returns. -/
lemma fromProtoStreamUpdate_eq (u : InteractStreamUpdate) :
    fromProtoStreamUpdate u = (fromProtoWatched ⟨u.frameData, u.audioData⟩).map ofPair := by
  unfold fromProtoStreamUpdate fromProtoWatched
  cases text u.audioData with
  | error e => rfl
  | ok a => cases text u.frameData <;> rfl

/-- On legible messages it agrees with the mappers, and on others it raises. -/
lemma fromProtoStreamUpdate_cases (u : InteractStreamUpdate) (more : Bytes → ℕ) :
    (u.Decodable → fromProtoStreamUpdate u = .ok (fromProto more u.frameData u.audioData)) ∧
      (¬ u.Decodable → fromProtoStreamUpdate u = .error .unicodeDecodeError) := by
  obtain ⟨ok, error⟩ := fromProtoWatched_cases ⟨u.frameData, u.audioData⟩ more
  rw [fromProtoStreamUpdate_eq]
  refine ⟨fun h => ?_, fun h => ?_⟩
  · obtain ⟨stream, eq, pair⟩ := ok h
    rw [eq, ← pair]
    rfl
  · rw [error h]
    rfl

variable {β γ : Type} {line : β → Except ClientError γ} {put : γ → String} {xs : List β}

/-- A loop over legible responses logs all of them. -/
lemma mapM_ok {g : β → String} (h : ∀ x ∈ xs, ∃ r, line x = .ok r ∧ put r = g x) :
    ∃ lines, xs.mapM line = .ok lines ∧ lines.map put = xs.map g := by
  induction xs with
  | nil => exact ⟨[], rfl, rfl⟩
  | cons x xs ih =>
    obtain ⟨r, ok, eq⟩ := h x List.mem_cons_self
    obtain ⟨lines, all, eqs⟩ := ih fun y mem => h y (List.mem_cons_of_mem x mem)
    refine ⟨r :: lines, ?_, ?_⟩
    · rw [List.mapM_cons, ok, all]
      rfl
    · rw [List.map_cons, List.map_cons, eq, eqs]

/-- A response that is not legible ends it with the exception, whatever comes behind. -/
lemma mapM_error {e : ClientError} (all : ∀ x ∈ xs, (∃ r, line x = .ok r) ∨ line x = .error e)
    (raised : ∃ x ∈ xs, line x = .error e) : xs.mapM line = .error e := by
  induction xs with
  | nil =>
    obtain ⟨x, mem, _⟩ := raised
    cases mem
  | cons x xs ih =>
    rw [List.mapM_cons]
    rcases all x List.mem_cons_self with ⟨r, ok⟩ | here
    · have rest : ∃ y ∈ xs, line y = .error e := by
        obtain ⟨y, mem, there⟩ := raised
        rcases List.mem_cons.mp mem with rfl | mem
        · rw [ok] at there
          cases there
        · exact ⟨y, mem, there⟩
      rw [ok, ih (fun y mem => all y (List.mem_cons_of_mem x mem)) rest]
      rfl
    · rw [here]
      rfl

/-- A Python client whose loop logs `line`, put into a text, and clients that log `java` and
    `kotlin`: the texts are the same for legible responses; of others the first raises, and the
    other two log a text with U+FFFD. -/
structure ReadAlike (line : β → Except ClientError γ) (put : γ → String) (java kotlin : β → String)
    (Decodable : β → Prop) (responses : List β) : Prop where
  legible : (∀ u ∈ responses, Decodable u) →
    ∃ lines, logAll line ⟨responses, .stopIteration⟩ = .ok lines ∧
      lines.map put = responses.map java ∧ lines.map put = responses.map kotlin
  illegible : (∃ u ∈ responses, ¬ Decodable u) →
    logAll line ⟨responses, .stopIteration⟩ = .error .unicodeDecodeError ∧
      ∃ u ∈ responses, Utf8.replacement ∈ (java u).toList ∧ Utf8.replacement ∈ (kotlin u).toList

/-- The clients read alike if they do so on each message. -/
lemma readAlike {java kotlin : β → String} {Decodable : β → Prop}
    (ok : ∀ u, Decodable u → ∃ r, line u = .ok r ∧ put r = java u ∧ java u = kotlin u)
    (error : ∀ u, ¬ Decodable u → line u = .error .unicodeDecodeError ∧
      Utf8.replacement ∈ (java u).toList ∧ Utf8.replacement ∈ (kotlin u).toList) :
    ReadAlike line put java kotlin Decodable xs where
  legible all := by
    have each : ∀ u ∈ xs, ∃ r, line u = .ok r ∧ put r = java u := by
      intro u mem
      obtain ⟨r, eq, same, _⟩ := ok u (all u mem)
      exact ⟨r, eq, same⟩
    obtain ⟨lines, eq, texts⟩ := mapM_ok each
    refine ⟨lines, ?_, texts, texts.trans (List.map_congr_left fun u mem => ?_)⟩
    · rw [logAll, eq]
      rfl
    · obtain ⟨_, _, _, same⟩ := ok u (all u mem)
      exact same
  illegible some := by
    have each : ∀ u ∈ xs, (∃ r, line u = .ok r) ∨ line u = .error .unicodeDecodeError := by
      intro u _
      by_cases h : Decodable u
      · obtain ⟨r, eq, _⟩ := ok u h
        exact .inl ⟨r, eq⟩
      · exact .inr (error u h).1
    obtain ⟨u, mem, h⟩ := some
    have eq := mapM_error each ⟨u, mem, (error u h).1⟩
    refine ⟨?_, u, mem, (error u h).2⟩
    rw [logAll, eq]
    rfl

end Python

/-- The three clients read the responses of `joinInteractStream` and those of `watchStream` alike,
    as long as they are UTF-8; the Python client logs the parts of the latter in the other order. -/
theorem reading_law (moreJava moreKotlin : Bytes → ℕ) (responses : List InteractStreamUpdate)
    (updates : List StreamUpdate) :
    Python.ReadAlike Python.fromProtoStreamUpdate id (Java.fromProtoInteractStreamUpdate moreJava)
        (Kotlin.fromProtoInteractStreamUpdate moreKotlin) InteractStreamUpdate.Decodable responses ∧
      Python.ReadAlike Python.fromProtoWatched ofPair (Java.fromProtoStreamUpdate moreJava)
        (Kotlin.fromProtoStreamUpdate moreKotlin) StreamUpdate.Decodable updates := by
  constructor
  · apply Python.readAlike
    · intro u h
      have java := (Python.fromProtoStreamUpdate_cases u moreJava).1 h
      have kotlin := (Python.fromProtoStreamUpdate_cases u moreKotlin).1 h
      rw [java] at kotlin
      exact ⟨_, java, rfl, Except.ok.inj kotlin⟩
    · intro u h
      exact ⟨(Python.fromProtoStreamUpdate_cases u moreJava).2 h, replacement_mem_fromProto h,
        replacement_mem_fromProto h⟩
  · apply Python.readAlike
    · intro u h
      obtain ⟨stream, java, same⟩ := (Python.fromProtoWatched_cases u moreJava).1 h
      obtain ⟨stream', kotlin, same'⟩ := (Python.fromProtoWatched_cases u moreKotlin).1 h
      rw [java] at kotlin
      cases kotlin
      exact ⟨stream, java, same, same.symm.trans same'⟩
    · intro u h
      exact ⟨(Python.fromProtoWatched_cases u moreJava).2 h, replacement_mem_fromProto h,
        replacement_mem_fromProto h⟩

end GrpcSample
