import GrpcSample.Retry.Handler

/-!
# Request streams that are tried again

A client-streaming call hands the interceptor an iterator of requests, which the client's generators
(`_generate_stream_data`, `_generate_interact_stream_data`) make a one-shot one. Every attempt is
handed that same iterator: it sends what it pulls, and what it has pulled is gone.

`Requests` is the iterator together with the attempts made, and a script says how much each attempt
pulls and how it ends. `left_eq_iff` says when attempt `j` still finds the whole sequence, and
`successful_complete_iff` when a call that succeeds has sent it: when none of the attempts before
the one that succeeds has pulled a message.
-/

namespace GrpcSample

/-- An attempt: the messages left in the iterator it was handed, and its outcome. -/
structure Attempt (α ρ : Type*) where
  handed : List α
  outcome : ρ

/-- The request iterator and the attempts made with it, latest first. -/
structure Requests (α ρ : Type*) where
  left : List α
  made : List (Attempt α ρ)

variable {α β ρ : Type*}

/-- The next attempt: it pulls as many messages as the script says, and ends as the script says. -/
def Requests.send (script : ℕ → ℕ × ρ) (q : Requests α ρ) : ρ × Requests α ρ :=
  let (pulls, outcome) := script q.made.length
  (outcome, ⟨q.left.drop pulls, ⟨q.left, outcome⟩ :: q.made⟩)

/-- `intercept_stream_unary` over such attempts. -/
def Retry.interceptStreamUnary (h : Retry) (requests : List α) (script : ℕ → ℕ × Reply β) :
    Option (Reply β) × Requests α (Reply β) :=
  h.interceptUnaryCall (fun _ q => q) (Retry.replyOf (Requests.send script)) ⟨requests, []⟩

/-- `intercept_stream_stream` over such attempts. -/
def Retry.interceptStreamStream (h : Retry) (requests : List α) (script : ℕ → ℕ × StreamCall β) :
    Delivery β × Requests α (StreamCall β) :=
  h.interceptStreamCall (fun _ q => q) (Retry.callOf (Requests.send script)) ⟨requests, []⟩

/-- The iterator and the attempts when `i` of them have been made. -/
def sent (requests : List α) (script : ℕ → ℕ × ρ) : ℕ → Requests α ρ
  | 0 => ⟨requests, []⟩
  | i + 1 => ((sent requests script i).send script).2

variable {requests : List α} {script : ℕ → ℕ × ρ} {i j : ℕ}

/-- Before attempt `i` there have been `i`. -/
@[simp] lemma sent_made_length : (sent requests script i).made.length = i := by
  induction i with
  | zero => rfl
  | succ i ih => exact congrArg Nat.succ ih

/-- An attempt pulls what the script says. -/
lemma send_sent :
    (sent requests script i).send script = ((script i).2, sent requests script (i + 1)) := by
  simp [sent, Requests.send]

/-- Of the iterator that much is gone. -/
lemma sent_left_succ :
    (sent requests script (i + 1)).left = (sent requests script i).left.drop (script i).1 := by
  simp [sent, Requests.send]

/-- And the attempt has been passed what was left before it. -/
lemma sent_made_succ : (sent requests script (i + 1)).made =
    ⟨(sent requests script i).left, (script i).2⟩ :: (sent requests script i).made := by
  simp [sent, Requests.send]

/-- Every attempt ended as the script says. -/
lemma outcome_of_mem {a : Attempt α ρ} (h : a ∈ (sent requests script j).made) :
    ∃ i < j, a.outcome = (script i).2 := by
  induction j with
  | zero => cases h
  | succ j ih =>
    rw [sent_made_succ] at h
    rcases List.mem_cons.mp h with rfl | h
    · exact ⟨j, j.lt_succ_self, rfl⟩
    · obtain ⟨i, lt, eq⟩ := ih h
      exact ⟨i, Nat.lt_succ_of_lt lt, eq⟩

/-- The iterator does not grow. -/
lemma left_length_le : (sent requests script j).left.length ≤ requests.length := by
  induction j with
  | zero => exact Nat.le_refl _
  | succ j ih =>
    rw [sent_left_succ, List.length_drop]
    omega

/-- The iterator still has every message if and only if none has been pulled, or there is none. -/
theorem left_eq_iff : (sent requests script j).left = requests ↔
    requests = [] ∨ ∀ i < j, (script i).1 = 0 := by
  constructor
  · intro whole
    induction j with
    | zero => exact .inr fun i lt => absurd lt (Nat.not_lt_zero i)
    | succ j ih =>
      have pulled := congrArg List.length whole
      have le : (sent requests script j).left.length ≤ requests.length := left_length_le
      rw [sent_left_succ, List.length_drop] at pulled
      -- a pull from a sequence with messages shortens what is left, which never grows again
      rcases Nat.eq_zero_or_pos requests.length with zero | some
      · exact .inl (List.eq_nil_of_length_eq_zero zero)
      have none : (script j).1 = 0 := by omega
      rw [sent_left_succ, none, List.drop_zero] at whole
      rcases ih whole with nil | earlier
      · exact .inl nil
      · refine .inr fun i lt => ?_
        rcases Nat.lt_succ_iff_lt_or_eq.mp lt with lt | rfl
        · exact earlier i lt
        · exact none
  · rintro (rfl | none)
    · exact List.eq_nil_of_length_eq_zero (Nat.le_zero.mp left_length_le)
    · induction j with
      | zero => rfl
      | succ j ih =>
        rw [sent_left_succ, none j j.lt_succ_self, List.drop_zero]
        exact ih fun i lt => none i (Nat.lt_succ_of_lt lt)

/-- The states of the iterator are the worlds of the loop. -/
lemma worlds_send : Retry.worlds (fun _ q => q) (Requests.send script) ⟨requests, []⟩ i =
    sent requests script i :=
  Retry.worlds_eq (sent requests script) rfl fun _ => rfl

variable {h : Retry}

/-- A call is its first attempt that is not retried. -/
lemma Retry.interceptStreamUnary_eq {script : ℕ → ℕ × Reply β} (lt : j < h.maxAttempts)
    (retries : ∀ i < j, h.Retries i (some (script i).2))
    (returns : ¬ h.Retries j (some (script j).2)) :
    h.interceptStreamUnary requests script =
      (some (script j).2, sent requests script (j + 1)) := by
  apply interceptUnaryCall_replyOf lt
  · intro i lt
    rw [worlds_send, send_sent]
    exact retries i lt
  · rw [worlds_send, send_sent]
  · exact returns

/-- So is a stream. -/
lemma Retry.interceptStreamStream_eq {script : ℕ → ℕ × StreamCall β} (lt : j < h.maxAttempts)
    (retries : ∀ i < j, h.RetriesCall i (script i).2) (returns : ¬ h.RetriesCall j (script j).2) :
    h.interceptStreamStream requests script =
      (⟨(script j).2.messages, ends (script j).2⟩, sent requests script (j + 1)) := by
  apply interceptStreamCall_callOf lt
  · intro i lt
    rw [worlds_send, send_sent]
    exact retries i lt
  · rw [worlds_send, send_sent]
  · exact returns

/-- When attempt `j` is the last one made, a call that succeeds has handed over every message if and
    only if nothing was pulled before a success. -/
lemma complete_iff (Ok : ρ → Prop) (Retried : ℕ → ρ → Prop) {Success : Prop} {n : Int} (lt : j < n)
    (retries : ∀ i < j, Retried i (script i).2) (returns : ¬ Retried j (script j).2)
    (failed : ∀ i r, Retried i r → ¬ Ok r) (success : Ok (script j).2 → Success) :
    (Success → ∀ a ∈ (sent requests script (j + 1)).made, Ok a.outcome →
        a.handed = requests) ↔
      requests = [] ∨ ∀ k : ℕ, k < n → (∀ i < k, Retried i (script i).2) → Ok (script k).2 →
        ∀ i < k, (script i).1 = 0 := by
  constructor
  · intro complete
    rcases Classical.em (requests = []) with nil | cons
    · exact .inl nil
    refine .inr fun k lt earlier ok => ?_
    -- an attempt that succeeds after retried ones is the last one made
    obtain rfl : k = j :=
      Loop.first_unique earlier (fun retried => failed k _ retried ok) retries returns
    have whole := complete (success ok) _ (sent_made_succ ▸ List.mem_cons_self) ok
    exact (left_eq_iff.mp whole).resolve_left cons
  · intro untouched _ a mem ok
    rw [sent_made_succ] at mem
    rcases List.mem_cons.mp mem with rfl | mem
    · exact left_eq_iff.mpr (untouched.imp_right fun h => h j lt retries ok)
    · obtain ⟨i, lt, eq⟩ := outcome_of_mem mem
      rw [eq] at ok
      exact absurd ok (failed i _ (retries i lt))

/-- A client-streaming call that succeeds has handed its successful attempt every message, in order,
    if and only if the sequence is empty or no attempt before one that succeeds, all of them being
    retried, has pulled a message. -/
theorem successful_complete_iff (h : Retry) (requests : List α) (unary : ℕ → ℕ × Reply β)
    (stream : ℕ → ℕ × StreamCall β) :
    ((∀ m, (h.interceptStreamUnary requests unary).1 = some (.response m) →
        ∀ a ∈ (h.interceptStreamUnary requests unary).2.made, (∃ m, a.outcome = .response m) →
          a.handed = requests) ↔
      requests = [] ∨ ∀ j : ℕ, j < h.maxAttempts → (∀ i < j, h.Retries i (some (unary i).2)) →
        (∃ m, (unary j).2 = .response m) → ∀ i < j, (unary i).1 = 0) ∧
    (((h.interceptStreamStream requests stream).1.ending = .stopIteration →
        ∀ a ∈ (h.interceptStreamStream requests stream).2.made, a.outcome.error = none →
          a.handed = requests) ↔
      requests = [] ∨ ∀ j : ℕ, j < h.maxAttempts → (∀ i < j, h.RetriesCall i (stream i).2) →
        (stream j).2.error = none → ∀ i < j, (stream i).1 = 0) := by
  rcases Int.lt_or_le 0 h.maxAttempts with positive | zero
  · constructor
    · obtain ⟨j, lt, retries, returns⟩ := Retry.exists_last positive
        fun i (retries : h.Retries i (some (unary i).2)) => retries.1
      rw [Retry.interceptStreamUnary_eq lt retries returns, ← exists_imp]
      apply complete_iff (fun r => ∃ m, r = .response m) (fun i r => h.Retries i (some r)) lt retries
        returns
      · rintro i _ ⟨_, status, _, eq⟩ ⟨m, rfl⟩
        cases eq
      · rintro ⟨m, eq⟩
        exact ⟨m, congrArg some eq⟩
    · obtain ⟨j, lt, retries, returns⟩ := Retry.exists_last positive
        fun i (retries : h.RetriesCall i (stream i).2) => retries.1
      rw [Retry.interceptStreamStream_eq lt retries returns]
      apply complete_iff (fun c => c.error = none) h.RetriesCall lt retries returns
      · rintro i _ ⟨_, status, _, rfl⟩ ok
        cases ok
      · exact Retry.ends_ok
  · have none : ∀ j : ℕ, ¬ (j : Int) < h.maxAttempts := fun j => by omega
    constructor
    · refine ⟨fun _ => .inr fun j lt => absurd lt (none j), fun _ m eq => ?_⟩
      rw [Retry.interceptStreamUnary, Retry.interceptUnaryCall_zero zero] at eq
      cases eq
    · refine ⟨fun _ => .inr fun j lt => absurd lt (none j), fun _ _ a mem => ?_⟩
      rw [Retry.interceptStreamStream, Retry.interceptStreamCall_zero zero] at mem
      cases mem

-- One message, and a first attempt that pulls it and fails with `UNAVAILABLE`. The second attempt
-- finds the iterator exhausted and succeeds.

/-- What the server pulls of each attempt, and what it answers. -/
def lossyUpload (i : ℕ) : ℕ × Reply Unit :=
  if i = 0 then (1, .rpcError .unavailable) else (0, .response ())

/-- The server acknowledges an empty stream as if it were the whole. -/
theorem upload_truncated :
    ¬ ∀ (requests : List Unit) (script : ℕ → ℕ × Reply Unit) (m : Unit),
      (Retry.interceptStreamUnary ⟨3, [.unavailable]⟩ requests script).1 = some (.response m) →
      ∀ a ∈ (Retry.interceptStreamUnary ⟨3, [.unavailable]⟩ requests script).2.made,
        (∃ m, a.outcome = .response m) → a.handed = requests := by
  intro complete
  have handed := complete [()] lossyUpload () rfl ⟨[], .response ()⟩ List.mem_cons_self ⟨(), rfl⟩
  cases handed

end GrpcSample
