import GrpcSample.Grpc.Bytes
import GrpcSample.Grpc.Call

/-!
# Messages of the service

The messages of `proto/social-media-stream.proto` that the streaming methods of the three servers
take and send, and what the servers have in common: the texts they answer with and the simulated
failure. A sub-message that is absent reads as its default, so `video_frame.frame_data` and
`audio_chunk.audio_data` are byte strings in every message.
-/

namespace GrpcSample

/-- `StreamUpdate`: `video_frame.frame_data` and `audio_chunk.audio_data`. -/
structure StreamUpdate where
  frameData : Bytes
  audioData : Bytes
  deriving DecidableEq, Repr

/-- `InteractStreamUpdate`. -/
structure InteractStreamUpdate where
  providerName : String
  frameData : Bytes
  audioData : Bytes
  deriving DecidableEq, Repr

/-- Both byte strings are UTF-8. -/
def InteractStreamUpdate.Decodable (u : InteractStreamUpdate) : Prop :=
  (Utf8.decode? u.audioData).isSome ∧ (Utf8.decode? u.frameData).isSome

/-- Decoding both decides it. -/
instance (u : InteractStreamUpdate) : Decidable u.Decodable :=
  inferInstanceAs (Decidable (_ ∧ _))

/-- The audio is exactly `Hey`. -/
def InteractStreamUpdate.Greets (u : InteractStreamUpdate) : Prop :=
  u.audioData = utf8 "Hey"

/-- Comparing the bytes decides it. -/
instance (u : InteractStreamUpdate) : Decidable u.Greets :=
  inferInstanceAs (Decidable (_ = _))

/-- The response of `startStream`. -/
structure StartStreamResponse where
  message : String
  deriving DecidableEq, Repr

/-- What every message of `startStream`'s response begins with. -/
def wordsText : String :=
  "We got your words from the stream! They are:"

/-- The audio that answers a greeting. -/
def greetingText : String :=
  "Hey! How are you doing?"

/-- The audio of the last response. -/
def farewellText : String :=
  "It was a pleasure talking to you. Bye!"

/-- The video frame of every response. -/
def muzzleText : String :=
  "ServerMuzzle"

/-- A response of `joinInteractStream`, under the encoding that the server makes bytes with. -/
def reply (encode : String → Bytes) (text : String) : InteractStreamUpdate :=
  ⟨"", encode muzzleText, encode text⟩

/-- The statuses of a simulated failure. -/
def simulated : List StatusCode :=
  [.cancelled, .unavailable, .deadlineExceeded]

/-- What the random generator supplies to one call of `randomFailure`. -/
structure Draw where
  number : ℕ
  choice : Fin simulated.length

/-- `random_failure`, `randomFailure`: the status of the simulated failure, if it is drawn. -/
def randomFailure (d : Draw) : Option StatusCode :=
  if d.number > 70 then some (simulated.get d.choice) else none

/-- A draw without a failure. -/
def calm : Draw :=
  ⟨0, ⟨0, by decide⟩⟩

/-- A draw of `UNAVAILABLE`. -/
def crash : Draw :=
  ⟨90, ⟨1, by decide⟩⟩

/-- The draw lets the call go on. -/
lemma calm_quiet : randomFailure calm = none := rfl

/-- The draw ends the call with `UNAVAILABLE`. -/
lemma crash_unavailable : randomFailure crash = some .unavailable := rfl

end GrpcSample
