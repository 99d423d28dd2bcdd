import GrpcSample.Retry.Handler

/-!
# The journal of a retried call

`interceptUnaryCall` and `interceptStreamCall` over a script of outcomes and any sleeping policy.
The world is a `Journal`: what the call has done so far, attempts and sleeps in their order, and the
state of the policy, which `sleeping_policy.sleep` acts on as it likes. As long as the attempts are
retried the journal is `journalAt`; a call that stops with attempt `j` leaves `journalEnd`, with `j
+ 1` attempts and the sleeps `0`, .., `j - 1`, each of them between two attempts.
-/

namespace GrpcSample

/-- What a retried call does. -/
inductive Action where
  | attempt
  | sleep (try_i : ℕ)
  deriving DecidableEq, Repr

/-- The actions so far, and the state of the sleeping policy. -/
structure Journal (σ : Type*) where
  actions : List Action
  policy : σ

/-- The index that `sleep` was called with. -/
def Action.slept : Action → Option ℕ
  | .attempt => none
  | .sleep try_i => some try_i

variable {σ β ρ : Type*}

namespace Journal

/-- The number of attempts made. -/
def attempts (j : Journal σ) : ℕ :=
  j.actions.count .attempt

/-- The indices that `sleep` was called with. -/
def sleeps (j : Journal σ) : List ℕ :=
  j.actions.filterMap Action.slept

/-- The next attempt has the next outcome of the script. -/
def attempt (script : ℕ → ρ) (j : Journal σ) : ρ × Journal σ :=
  (script j.attempts, ⟨j.actions ++ [.attempt], j.policy⟩)

/-- `sleeping_policy.sleep(try_i)`. -/
def sleep (policy : ℕ → σ → σ) (try_i : ℕ) (j : Journal σ) : Journal σ :=
  ⟨j.actions ++ [.sleep try_i], policy try_i j.policy⟩

end Journal

namespace Retry

/-- `_intercept_unary_call` over a script. -/
def scriptedUnaryCall (h : Retry) (policy : ℕ → σ → σ) (start : σ) (script : ℕ → Reply β) :
    Option (Reply β) × Journal σ :=
  h.interceptUnaryCall (Journal.sleep policy) (replyOf (Journal.attempt script)) ⟨[], start⟩

/-- `_intercept_stream_call` over a script, iterated to its end. -/
def scriptedStreamCall (h : Retry) (policy : ℕ → σ → σ) (start : σ) (script : ℕ → StreamCall β) :
    Delivery β × Journal σ :=
  h.interceptStreamCall (Journal.sleep policy) (callOf (Journal.attempt script)) ⟨[], start⟩

end Retry

/-- The actions of `i` attempts that are all tried again. -/
def schedule : ℕ → List Action
  | 0 => []
  | i + 1 => schedule i ++ [.attempt, .sleep i]

/-- The policy after `i` sleeps. -/
def policyAt (policy : ℕ → σ → σ) (start : σ) : ℕ → σ
  | 0 => start
  | i + 1 => policy i (policyAt policy start i)

/-- The journal when `i` attempts have been tried again. -/
def journalAt (policy : ℕ → σ → σ) (start : σ) (i : ℕ) : Journal σ :=
  ⟨schedule i, policyAt policy start i⟩

/-- The journal when attempt `i` has been made and was the last. -/
def journalEnd (policy : ℕ → σ → σ) (start : σ) (i : ℕ) : Journal σ :=
  ⟨schedule i ++ [.attempt], policyAt policy start i⟩

variable {policy : ℕ → σ → σ} {start : σ} {i j : ℕ}

/-- The schedule before attempt `i` has `i` attempts in it. -/
@[simp] lemma count_schedule : (schedule i).count .attempt = i := by
  induction i with
  | zero => rfl
  | succ i ih =>
    rw [schedule, List.count_append, ih]
    rfl

/-- And a sleep after each of them, with its index. -/
@[simp] lemma filterMap_schedule : (schedule i).filterMap Action.slept = List.range i := by
  induction i with
  | zero => rfl
  | succ i ih =>
    rw [schedule, List.filterMap_append, ih, List.range_succ]
    rfl

/-- Before attempt `i` there have been `i`. -/
@[simp] lemma journalAt_attempts : (journalAt policy start i).attempts = i := count_schedule

/-- After it there has been one more. -/
@[simp] lemma journalEnd_attempts : (journalEnd policy start i).attempts = i + 1 := by
  simp [Journal.attempts, journalEnd]

/-- But no sleep more. -/
@[simp] lemma journalEnd_sleeps : (journalEnd policy start i).sleeps = List.range i := by
  simp [Journal.sleeps, journalEnd, Action.slept]

/-- An attempt is noted. -/
lemma attempt_journalAt {script : ℕ → ρ} :
    (journalAt policy start i).attempt script = (script i, journalEnd policy start i) := by
  rw [Journal.attempt, journalAt_attempts]
  rfl

/-- A sleep after attempt `i` leads to the journal before the next. -/
lemma sleep_journalEnd :
    (journalEnd policy start i).sleep policy i = journalAt policy start (i + 1) := by
  simp [Journal.sleep, journalEnd, journalAt, schedule, policyAt]

/-- The journals are the worlds of the loop. -/
lemma worlds_attempt {script : ℕ → ρ} :
    Retry.worlds (Journal.sleep policy) (Journal.attempt script) ⟨[], start⟩ i =
      journalAt policy start i := by
  apply Retry.worlds_eq (journalAt policy start) rfl
  intro k
  rw [attempt_journalAt, sleep_journalEnd]

namespace Retry

variable {h : Retry}

/-- A call is its first attempt that is not retried, with the journal until then. -/
lemma scriptedUnaryCall_eq {script : ℕ → Reply β} (lt : j < h.maxAttempts)
    (retries : ∀ i < j, h.Retries i (some (script i))) (returns : ¬ h.Retries j (some (script j))) :
    h.scriptedUnaryCall policy start script = (some (script j), journalEnd policy start j) := by
  apply interceptUnaryCall_replyOf lt
  · intro i lt
    rw [worlds_attempt, attempt_journalAt]
    exact retries i lt
  · rw [worlds_attempt, attempt_journalAt]
  · exact returns

/-- So is a stream. -/
lemma scriptedStreamCall_eq {script : ℕ → StreamCall β} (lt : j < h.maxAttempts)
    (retries : ∀ i < j, h.RetriesCall i (script i)) (returns : ¬ h.RetriesCall j (script j)) :
    h.scriptedStreamCall policy start script =
      (⟨(script j).messages, ends (script j)⟩, journalEnd policy start j) := by
  apply interceptStreamCall_callOf lt
  · intro i lt
    rw [worlds_attempt, attempt_journalAt]
    exact retries i lt
  · rw [worlds_attempt, attempt_journalAt]
  · exact returns

end Retry

end GrpcSample
