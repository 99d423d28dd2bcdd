import GrpcSample.Breaker.Start
import GrpcSample.Lib.Threads

/-!
# The breaker under threads

`System.lean` takes the check and the completion of a call for atomic. The interceptor is called
from several threads and has no lock, so what is atomic is one access to an attribute or one reading
of the clock; between two of them any other thread may go on. Here the methods of
`CircuitBreakerClientInterceptor` are programs over a shared memory (`Lib/Threads.lean`), one action
for each access, in the order in which Python evaluates them. `failure_count += 1` reads the counter
in one action and assigns it in a later one, so that increments can be lost.

`threads_law` is what is left: the counter stays in `[0, threshold)` and so does not skip the
threshold that it is compared with, it never exceeds the number of failures, and until
`failure_threshold` calls have failed the circuit stays `CLOSED` and no check says that it is open.
`threads_simulate`: the runs of `System.lean` are among the interleavings, with the same breaker.
-/

namespace GrpcSample
open Lts Threads

/-- The attributes and the clock. `counting` is auxiliary: how many `failure_count += 1` have read
    the counter. -/
structure Memory (T : Type*) where
  breaker : Breaker T
  now : T
  counting : ℕ

/-- What a thread returns with. -/
inductive Finished where
  | checked (isOpen : Bool)
  | completed
  deriving DecidableEq, Repr

namespace Threaded

variable {T α β : Type*} [LinearOrder T] [Add T]

/-- `self.state = self.OPENED`. -/
def setOpened (next : Prog (Memory T) α) : Prog (Memory T) α :=
  put (fun m => { m with breaker.state := .opened }) <|
  get (·.now) fun t =>
  get (·.breaker.recoveryTimeout) fun timeout =>
  put (fun m => { m with breaker.recoveryTime := t + timeout }) next

/-- The setter of `failure_count`. -/
def setFailureCount (newValue : Int) (next : Prog (Memory T) α) : Prog (Memory T) α :=
  get (·.breaker.failureThreshold) fun threshold =>
  if newValue = threshold then
    setOpened <| put (fun m => { m with breaker.failureCount := 0 }) next
  else
    get (·.breaker.failureCount) fun count =>
    -- `and` reads the state only if the comparison holds
    if newValue > count then
      get (·.breaker.state) fun state =>
      if state = .halfOpened then
        setOpened <| put (fun m => { m with breaker.failureCount := 0 }) next
      else
        put (fun m => { m with breaker.failureCount := newValue }) next
    else
      put (fun m => { m with breaker.failureCount := newValue }) next

/-- `self.state = self.CLOSED`. -/
def setClosed (next : Prog (Memory T) α) : Prog (Memory T) α :=
  put (fun m => { m with breaker.state := .closed }) <| setFailureCount 0 next

/-- `self.failure_count += 1`. -/
def countFailure (next : Prog (Memory T) α) : Prog (Memory T) α :=
  .act (fun m => { m with counting := m.counting + 1 })
    fun m => setFailureCount (m.breaker.failureCount + 1) next

/-- `elif self.state == self.HALF_OPENED: self.state = self.CLOSED; self.failure_count = 0`. -/
def closeTrial (next : Prog (Memory T) α) : Prog (Memory T) α :=
  get (·.breaker.state) fun state =>
  if state = .halfOpened then setClosed (setFailureCount 0 next) else next

/-- `_call_unary` from the point where the continuation has returned. -/
def afterUnary (response : Reply β) (next : Prog (Memory T) α) : Prog (Memory T) α :=
  match response with
  | .rpcError _ => countFailure next
  | .response _ => closeTrial next

/-- `_call_stream` from the point where the last message has been consumed. -/
def afterStream (response : StreamCall β) (next : Prog (Memory T) α) : Prog (Memory T) α :=
  match response.error with
  | none => next
  | some _ =>
    match ((Binding.call response).after response.messages).code with
    | .error _ => next
    | .ok code =>
      get (·.breaker.statusForRetry) fun codes =>
      if code ∈ codes then countFailure next else closeTrial next

/-- `return self.state == self.OPENED or self._recovery_time > time.time()`. -/
def recheck (next : Bool → Prog (Memory T) α) : Prog (Memory T) α :=
  get (·.breaker.state) fun state =>
  if state = .opened then next true
  else
    get (·.breaker.recoveryTime) fun recoveryTime =>
    get (·.now) fun t =>
    next (recoveryTime > t)

/-- `_is_open_circuit`. -/
def isOpenCircuit (next : Bool → Prog (Memory T) α) : Prog (Memory T) α :=
  get (·.breaker.recoveryTime) fun recoveryTime =>
  get (·.now) fun t =>
  if recoveryTime < t then
    get (·.breaker.state) fun state =>
    if state = .opened then
      put (fun m => { m with breaker.state := .halfOpened }) <| recheck next
    else recheck next
  else recheck next

/-- What the threads of the client do with the breaker. -/
inductive Starts (β : Type*) : Prog (Memory T) Finished → Prop where
  | check :
    Starts β (isOpenCircuit fun isOpen => .done (.checked isOpen))
  | unary (response : Reply β) :
    Starts β (afterUnary response (.done .completed))
  | stream (response : StreamCall β) :
    Starts β (afterStream response (.done .completed))

/-- `time.time()` moves on, or back; `clock` are the readings that it may give. -/
def Ticks (clock : T → Prop) (m m' : Memory T) : Prop :=
  ∃ t, clock t ∧ m' = { m with now := t }

/-- All interleavings of checks and completions, from the construction at `t₀` on. -/
def threaded (β : Type*) (failureThreshold : Int) (recoveryTimeout : T)
    (statusForRetry : List StatusCode) (t₀ : T) (clock : T → Prop) :
    System (Pool (Memory T) Finished) (Threads.Event (Memory T) Finished) :=
  interleavings ⟨.init failureThreshold recoveryTimeout statusForRetry t₀, t₀, 0⟩ (Starts β)
    (Ticks clock)

section
variable {m : Memory T} {v : Int} {next : Prog (Memory T) α}

omit [LinearOrder T] in
/-- Alone, the accesses of `state = OPENED` are the setter. -/
lemma steps_setOpened :
    Prog.Steps m (setOpened next) { m with breaker := m.breaker.setOpened m.now } next :=
  .put <| .get <| .get <| .put .refl

omit [LinearOrder T] in
/-- So are those of an assignment to `failure_count`. -/
lemma steps_setFailureCount :
    Prog.Steps m (setFailureCount v next)
      { m with breaker := m.breaker.setFailureCount v m.now } next := by
  apply Prog.Steps.get
  unfold Breaker.setFailureCount
  split
  · exact steps_setOpened.trans (.put .refl)
  · apply Prog.Steps.get
    by_cases more : v > m.breaker.failureCount
    · rw [if_pos more]
      apply Prog.Steps.get
      by_cases half : m.breaker.state = .halfOpened
      · rw [if_pos half, if_pos ⟨more, half⟩]
        exact steps_setOpened.trans (.put .refl)
      · rw [if_neg half, if_neg fun h => half h.2]
        exact .put .refl
    · rw [if_neg more, if_neg fun h => more h.1]
      exact .put .refl

omit [LinearOrder T] in
/-- And those of `failure_count += 1`. -/
lemma steps_countFailure :
    Prog.Steps m (countFailure next)
      { m with
        breaker := m.breaker.setFailureCount (m.breaker.failureCount + 1) m.now
        counting := m.counting + 1 } next :=
  .act steps_setFailureCount

omit [LinearOrder T] in
/-- And those that close a half-open circuit. -/
lemma steps_closeTrial :
    Prog.Steps m (closeTrial next)
      { m with
        breaker := if m.breaker.state = .halfOpened then
          (m.breaker.setState .closed m.now).setFailureCount 0 m.now else m.breaker } next := by
  apply Prog.Steps.get
  split
  · exact .put (steps_setFailureCount.trans steps_setFailureCount)
  · exact .refl

omit [LinearOrder T] in
/-- Alone, a unary completion is that of the atomic model. -/
lemma steps_afterUnary (response : Reply β) : ∃ n,
    Prog.Steps m (afterUnary response next)
      { m with breaker := m.breaker.afterUnary response m.now, counting := n } next := by
  cases response with
  | rpcError s => exact ⟨_, steps_countFailure⟩
  | response r => exact ⟨m.counting, steps_closeTrial⟩

omit [LinearOrder T] in
/-- So is the completion of a stream. -/
lemma steps_afterStream (response : StreamCall β) : ∃ n,
    Prog.Steps m (afterStream response next)
      { m with breaker := (m.breaker.afterStream response m.now).1, counting := n } next := by
  obtain ⟨messages, error⟩ := response
  cases error with
  | none => exact ⟨m.counting, .refl⟩
  | some s =>
    cases messages with
    | cons message messages =>
      refine ⟨m.counting, ?_⟩
      simp only [afterStream, Breaker.afterStream, Binding.code_after_cons]
      exact .refl
    | nil =>
      simp only [afterStream, Breaker.afterStream, Binding.after_nil, Binding.code,
        StreamCall.code_some]
      by_cases retried : s ∈ m.breaker.statusForRetry
      · refine ⟨m.counting + 1, .get ?_⟩
        rw [if_pos retried, if_pos retried]
        exact steps_countFailure
      · refine ⟨m.counting, .get ?_⟩
        rw [if_neg retried, if_neg retried]
        have steps : Prog.Steps m (closeTrial next) _ next := steps_closeTrial
        split
        · next half => rwa [if_pos half] at steps
        · next other => rwa [if_neg other] at steps

variable {next : Bool → Prog (Memory T) α}

/-- The first comparison of the check, and what it assigns. -/
lemma steps_isOpenCircuit (t₂ : T) :
    Prog.Steps m (isOpenCircuit next)
      { m with breaker := (m.breaker.isOpenCircuit m.now t₂).2 } (recheck next) := by
  rw [Breaker.isOpenCircuit_snd]
  apply Prog.Steps.get
  apply Prog.Steps.get
  by_cases passed : m.breaker.recoveryTime < m.now
  · rw [if_pos passed]
    apply Prog.Steps.get
    by_cases opened : m.breaker.state = .opened
    · rw [if_pos opened, if_pos ⟨passed, opened⟩]
      exact .put .refl
    · rw [if_neg opened, if_neg fun h => opened h.2]
      exact .refl
  · rw [if_neg passed, if_neg fun h => passed h.1]
    exact .refl

omit [Add T] in
/-- The second comparison, which is the answer. -/
lemma steps_recheck :
    Prog.Steps m (recheck next) m
      (next (m.breaker.state = .opened ∨ m.breaker.recoveryTime > m.now)) := by
  apply Prog.Steps.get
  split
  · next opened =>
    rw [decide_eq_true (.inl opened)]
    exact .refl
  · next other =>
    rw [decide_eq_decide.mpr (or_iff_right other)]
    exact .get (.get .refl)

end

variable {F : Int} {R t₀ : T} {codes : List StatusCode} {clock : T → Prop} {m m' : Memory T}
  {next : Prog (Memory T) Finished}

/-- The counter against its bounds, and what has to have happened before the circuit opens. -/
structure Inv (F : Int) (t₀ : T) (clock : T → Prop) (m : Memory T) : Prop where
  threshold : m.breaker.failureThreshold = F
  nonneg : 0 ≤ m.breaker.failureCount
  lt : m.breaker.failureCount < F
  counted : m.breaker.failureCount ≤ m.counting
  state : m.breaker.state = .closed ∨ F ≤ m.counting
  time : m.breaker.recoveryTime = t₀ ∨ F ≤ m.counting
  clock : m.now = t₀ ∨ clock m.now

/-- The circuit is said to be open only after `F` failures, or by a clock that is behind `t₀`. -/
def discipline (F : Int) (t₀ : T) (clock : T → Prop) : Discipline (Memory T) Finished where
  later m m' := m.counting ≤ m'.counting
  refl _ := le_rfl
  trans := le_trans
  inv := Inv F t₀ clock
  post
    | .checked true, m => F ≤ m.counting ∨ ∃ t, clock t ∧ t < t₀
    | .checked false, _ | .completed, _ => True

section
variable {v : Int}

omit [Add T] in
/-- A write that leaves the auxiliary count alone. -/
lemma keeps {m'' : Memory T} (inv : Inv F t₀ clock m'') (same : m''.counting = m'.counting) :
    (discipline F t₀ clock).inv m'' ∧ (discipline F t₀ clock).later m' m'' :=
  ⟨inv, same.ge⟩

/-- The circuit may be opened once `F` failures are being counted. -/
lemma holds_setOpened (enough : F ≤ m.counting) (holds : next.Holds (discipline F t₀ clock) m) :
    (setOpened next).Holds (discipline F t₀ clock) m := by
  have still : ∀ {m' : Memory T}, m.counting ≤ m'.counting → F ≤ m'.counting := fun later => by omega
  apply holds_put
  · exact fun m' later inv => keeps { inv with state := .inr (still later) } rfl
  · intro m₁ later₁ _
    apply holds_get
    intro m₂ later₂ _
    apply holds_get
    intro m₃ later₃ _
    have later : m.counting ≤ m₃.counting := le_trans later₁ (le_trans later₂ later₃)
    apply holds_put
    · exact fun m' later' inv => keeps { inv with time := .inr (still (later.trans later')) } rfl
    · exact fun m' later' _ => holds.later (later.trans later')

omit [Add T] in
/-- The counter may be set to zero at any time. -/
lemma holds_reset (positive : 1 ≤ F) (holds : next.Holds (discipline F t₀ clock) m) :
    (put (fun m => { m with breaker.failureCount := 0 }) next).Holds (discipline F t₀ clock) m := by
  apply holds_put
  · intro m' _ inv
    exact keeps
      { inv with nonneg := le_rfl, lt := positive, counted := Int.natCast_nonneg _ } rfl
  · exact fun m' later _ => holds.later later

/-- A value between zero and the threshold may be assigned when as many failures are being
    counted. -/
lemma holds_setFailureCount (positive : 1 ≤ F) (nonneg : 0 ≤ v) (le : v ≤ F)
    (counted : v ≤ m.counting) (holds : next.Holds (discipline F t₀ clock) m) :
    (setFailureCount v next).Holds (discipline F t₀ clock) m := by
  apply holds_get
  intro m₁ later₁ inv₁
  have later₁ : m.counting ≤ m₁.counting := later₁
  rw [inv₁.threshold]
  split
  · next reached =>
    apply holds_setOpened (by omega)
    apply holds_reset positive
    exact holds.later later₁
  · next below =>
    -- the assignment that opens nothing; the value has been compared with the threshold
    have assign : ∀ m₂, m₁.counting ≤ m₂.counting →
        (put (fun m => { m with breaker.failureCount := v }) next).Holds
          (discipline F t₀ clock) m₂ := by
      intro m₂ later₂
      apply holds_put
      · intro m' later inv
        have later : m₂.counting ≤ m'.counting := later
        exact keeps
          { inv with
            nonneg := nonneg
            lt := show v < F by omega
            counted := show v ≤ m'.counting by omega } rfl
      · exact fun m' later _ => holds.later (later₁.trans (later₂.trans later))
    apply holds_get
    intro m₂ later₂ _
    split
    · apply holds_get
      intro m₃ later₃ inv₃
      have later₃ : m₁.counting ≤ m₃.counting := le_trans later₂ later₃
      split
      · next half =>
        have enough : F ≤ m₃.counting := by
          rcases inv₃.state with closed | enough
          · rw [closed] at half
            cases half
          · exact enough
        apply holds_setOpened enough
        apply holds_reset positive
        exact holds.later (later₁.trans later₃)
      · exact assign m₃ later₃
    · exact assign m₂ later₂

/-- An increment assigns a value that was smaller when it was read, and is one of the failures. -/
lemma holds_countFailure (positive : 1 ≤ F) (holds : next.Holds (discipline F t₀ clock) m) :
    (countFailure next).Holds (discipline F t₀ clock) m := by
  intro m₁ later₁ inv₁
  have later₁ : m.counting ≤ m₁.counting := later₁
  have nonneg := inv₁.nonneg
  have lt := inv₁.lt
  have counted := inv₁.counted
  refine ⟨?_, Nat.le_succ _, ?_⟩
  · exact
      { inv₁ with
        counted := show m₁.breaker.failureCount ≤ ((m₁.counting + 1 : ℕ) : Int) by omega
        state := inv₁.state.imp_right fun h => show F ≤ ((m₁.counting + 1 : ℕ) : Int) by omega
        time := inv₁.time.imp_right fun h => show F ≤ ((m₁.counting + 1 : ℕ) : Int) by omega }
  · apply holds_setFailureCount positive (by omega) (by omega)
    · show m₁.breaker.failureCount + 1 ≤ ((m₁.counting + 1 : ℕ) : Int)
      omega
    · exact holds.later (later₁.trans (Nat.le_succ _))

/-- Closing a half-open circuit keeps the discipline. -/
lemma holds_closeTrial (positive : 1 ≤ F) (holds : next.Holds (discipline F t₀ clock) m) :
    (closeTrial next).Holds (discipline F t₀ clock) m := by
  have zero : ∀ m' : Memory T, (0 : Int) ≤ m'.counting := fun m' => Int.natCast_nonneg _
  apply holds_get
  intro m₁ later₁ _
  split
  · apply holds_put
    · exact fun m' _ inv => keeps { inv with state := .inl rfl } rfl
    · intro m₂ later₂ _
      apply holds_setFailureCount positive le_rfl (by omega) (zero _)
      apply holds_setFailureCount positive le_rfl (by omega) (zero _)
      exact holds.later (le_trans later₁ later₂)
  · exact holds.later later₁

omit [Add T] in
/-- So does being over. -/
lemma holds_completed : (Prog.done .completed).Holds (discipline F t₀ clock) m :=
  fun _ _ _ => trivial

/-- So does a unary completion. -/
lemma holds_afterUnary (positive : 1 ≤ F) (response : Reply β) :
    (afterUnary response (.done .completed)).Holds (discipline F t₀ clock) m := by
  cases response with
  | rpcError s => exact holds_countFailure positive holds_completed
  | response r => exact holds_closeTrial positive holds_completed

/-- So does the completion of a stream. -/
lemma holds_afterStream (positive : 1 ≤ F) (response : StreamCall β) :
    (afterStream response (.done .completed)).Holds (discipline F t₀ clock) m := by
  unfold afterStream
  split
  · exact holds_completed
  · split
    · exact holds_completed
    · apply holds_get
      intro m' _ _
      split
      · exact holds_countFailure positive holds_completed
      · exact holds_closeTrial positive holds_completed

omit [Add T] in
/-- A check that says that the circuit is open has found a state that only failures lead to. -/
lemma holds_recheck :
    (recheck fun isOpen => .done (.checked isOpen)).Holds (discipline F t₀ clock) m := by
  apply holds_get
  intro m₁ _ inv₁
  split
  · next opened =>
    intro m₂ later₂ _
    have later₂ : m₁.counting ≤ m₂.counting := later₂
    rcases inv₁.state with closed | enough
    · rw [opened] at closed
      cases closed
    · exact .inl (by omega)
  · apply holds_get
    intro m₂ _ inv₂
    apply holds_get
    intro m₃ later₃ inv₃ m₄ later₄ _
    have later : m₂.counting ≤ m₄.counting := le_trans later₃ later₄
    cases behind : decide (m₂.breaker.recoveryTime > m₃.now) with
    | false => trivial
    | true =>
      have behind := of_decide_eq_true behind
      rcases inv₂.time with time | enough
      · rw [time] at behind
        rcases inv₃.clock with now | reading
        · rw [now] at behind
          exact absurd behind (lt_irrefl t₀)
        · exact .inr ⟨_, reading, behind⟩
      · exact .inl (by omega)

omit [Add T] in
/-- So does a check. -/
lemma holds_isOpenCircuit :
    (isOpenCircuit fun isOpen => .done (.checked isOpen)).Holds (discipline F t₀ clock) m := by
  apply holds_get
  intro m₁ _ _
  apply holds_get
  intro m₂ _ _
  split
  · apply holds_get
    intro m₃ _ inv₃
    split
    · next opened =>
      have enough : F ≤ m₃.counting := by
        rcases inv₃.state with closed | enough
        · rw [opened] at closed
          cases closed
        · exact enough
      apply holds_put
      · intro m' later inv
        have later : m₃.counting ≤ m'.counting := later
        exact keeps { inv with state := .inr (show F ≤ m'.counting by omega) } rfl
      · exact fun m' _ _ => holds_recheck
    · exact holds_recheck
  · exact holds_recheck

end

section
variable {past : List (Entry (Pool (Memory T) Finished) (Threads.Event (Memory T) Finished))}
  {s : Pool (Memory T) Finished}

/-- In every interleaving of accesses, the counter stays between zero and the threshold and does not
    exceed the number of failures; and until `F` failures are being counted the circuit is `CLOSED`,
    and no check says that it is open unless the clock goes back behind the construction. -/
theorem threads_law (positive : 1 ≤ F) (run : Run (threaded β F R codes t₀ clock) past s) :
    (0 ≤ s.memory.breaker.failureCount ∧ s.memory.breaker.failureCount < F) ∧
      s.memory.breaker.failureCount ≤ s.memory.counting ∧
      (s.memory.counting < F → s.memory.breaker.state = .closed) ∧
      ((∀ t, clock t → t₀ ≤ t) → s.memory.counting < F →
        .done (.checked true) ∉ s.threads) := by
  have init : Inv F t₀ clock ⟨.init F R codes t₀, t₀, 0⟩ :=
    ⟨rfl, le_rfl, positive, le_rfl, .inl rfl, .inl rfl, .inl rfl⟩
  have started : ∀ p, Starts β p → ∀ m, Inv F t₀ clock m → p.Holds (discipline F t₀ clock) m := by
    intro p start m _
    cases start with
    | check => exact holds_isOpenCircuit
    | unary response => exact holds_afterUnary positive response
    | stream response => exact holds_afterStream positive response
  have ticks : ∀ m m' : Memory T, Ticks clock m m' → Inv F t₀ clock m →
      Inv F t₀ clock m' ∧ m.counting ≤ m'.counting := by
    rintro m _ ⟨t, reading, rfl⟩ inv
    exact ⟨{ inv with clock := .inr reading }, le_rfl⟩
  obtain ⟨inv, results⟩ := Discipline.of_run (d := discipline F t₀ clock) init started ticks run
  refine ⟨⟨inv.nonneg, inv.lt⟩, inv.counted, fun few => ?_, fun onward few rejected => ?_⟩
  · exact inv.state.resolve_right (by omega)
  · rcases results _ rejected with enough | ⟨t, reading, behind⟩
    · omega
    · exact absurd behind (not_lt.mpr (onward t reading))

/-- Two calls fail, and one increment is lost: the first thread reads the counter, the second counts
    its failure undisturbed, and then the first assigns what it has read, plus one. -/
theorem threads_law_lost : ∃ past s,
    Run (threaded ℕ 3 10 [.unavailable] 0 fun _ => True) past s ∧ s.memory.counting = 2 ∧
      s.memory.breaker.failureCount = 1 ∧ s.memory.breaker.state = .closed := by
  have failing : Starts (T := ℕ) ℕ (afterUnary (.rpcError .unavailable) (.done .completed)) :=
    .unary _
  have none : Run (threaded ℕ 3 10 [.unavailable] 0 fun _ => True) [] _ := .init rfl
  have read := ((none.step (.start failing)).step (.start failing)).step (.act (i := 0) rfl)
  obtain ⟨_, second⟩ := run_steps (i := 1) read rfl steps_countFailure
  obtain ⟨past, first⟩ := run_steps (i := 0) second rfl steps_setFailureCount
  obtain ⟨_, _, closed, _⟩ := threads_law (by decide) first
  exact ⟨past, _, first, rfl, rfl, closed (by decide)⟩

end

/-- What a phase of a call comes to for the thread that executes it. -/
def outcome (x : Entry (Sys T) (GrpcSample.Event T β)) : Option Finished :=
  match x.event with
  | .attempt _ t₁ t₂ => some (.checked (x.before.breaker.isOpenCircuit t₁ t₂).1)
  | .advance _ _ => none
  | .unaryEnd _ _ _ | .streamEnd _ _ _ => some .completed

/-- The interleaving has got to the same breaker and the same time, and its threads have returned
    with these results. -/
def Matches (β : Type*) (F : Int) (R : T) (codes : List StatusCode) (t₀ : T) (s : Sys T)
    (results : List Finished) : Prop :=
  ∃ past p, Run (threaded β F R codes t₀ fun _ => True) past p ∧ p.memory.breaker = s.breaker ∧
    p.memory.now = s.now ∧ p.threads = results.map .done

section
variable {past : List (Entry (Pool (Memory T) Finished) (Threads.Event (Memory T) Finished))}
  {p : Pool (Memory T) Finished} {results : List Finished} {calls : List Call}

omit [LinearOrder T] [Add T] in
/-- What a thread has returned with takes the place of the thread. -/
lemma set_returned {q : Prog (Memory T) Finished} {result : Finished}
    (returned : p.threads = results.map .done) :
    (p.threads ++ [q]).set p.threads.length (.done result) =
      (results ++ [result]).map .done := by
  rw [List.set_append_right _ _ le_rfl, Nat.sub_self, List.map_append, returned]
  rfl

/-- A completion: the clock is read, and a thread executes the method without interruption. -/
lemma completes {t : T} {q : Prog (Memory T) Finished} {b : Breaker T}
    (run : Run (threaded β F R codes t₀ fun _ => True) past p)
    (returned : p.threads = results.map .done) (starts : Starts β q)
    (steps : ∃ n, q.Steps { p.memory with now := t } { p.memory with
      breaker := b, now := t, counting := n } (.done .completed)) :
    Matches β F R codes t₀ ⟨b, calls, t⟩ (results ++ [.completed]) := by
  obtain ⟨n, steps⟩ := steps
  have ticked := run.step (.outside ⟨t, trivial, rfl⟩)
  obtain ⟨past', run'⟩ := run_steps (ticked.step (.start starts)) List.getElem?_concat_length steps
  exact ⟨past', _, run', rfl, rfl, set_returned returned⟩

/-- A check: the clock is read twice, and nothing else happens in between. -/
lemma checks (run : Run (threaded β F R codes t₀ fun _ => True) past p)
    (returned : p.threads = results.map .done) (t₁ t₂ : T) (calls : List Call) :
    Matches β F R codes t₀ ⟨(p.memory.breaker.isOpenCircuit t₁ t₂).2, calls, t₂⟩
      (results ++ [.checked (p.memory.breaker.isOpenCircuit t₁ t₂).1]) := by
  have ticked := run.step (.outside ⟨t₁, trivial, rfl⟩)
  obtain ⟨_, first⟩ := run_steps (ticked.step (.start .check)) List.getElem?_concat_length
    (steps_isOpenCircuit t₂)
  have again := first.step (.outside ⟨t₂, trivial, rfl⟩)
  obtain ⟨past', second⟩ := run_steps again (List.getElem?_set_self (by simp)) steps_recheck
  rw [List.set_set] at second
  exact ⟨past', _, second, rfl, rfl, set_returned returned⟩

/-- Every run of atomic phases is an interleaving of accesses, with the same breaker and the same
    answers of the checks, in order. -/
theorem threads_simulate {s : Sys T} {past : History T β} (run : Run (interceptor F R codes) past s) :
    ∃ t₀, Matches β F R codes t₀ s (past.reverse.filterMap outcome) := by
  induction run with
  | init h =>
    obtain ⟨t, rfl⟩ := h
    exact ⟨t, [], _, .init rfl, rfl, rfl, rfl⟩
  | @step past s e s' _ st ih =>
    obtain ⟨t₀, past', p, run', breaker, now, returned⟩ := ih
    refine ⟨t₀, ?_⟩
    rw [List.reverse_cons, List.filterMap_append]
    cases st with
    | @reject kind t₁ t₂ _ =>
      have checked := checks run' returned t₁ t₂ s.calls
      rwa [breaker] at checked
    | @accept kind t₁ t₂ _ =>
      have checked := checks run' returned t₁ t₂ (s.calls ++ [⟨kind, kind.admitted⟩])
      rwa [breaker] at checked
    | @advance i kind t _ =>
      refine ⟨_, _, run'.step (.outside ⟨t, trivial, rfl⟩), breaker, rfl, ?_⟩
      exact returned.trans (congrArg _ (List.append_nil _).symm)
    | @unaryEnd i kind response t _ _ =>
      rw [← breaker]
      exact completes run' returned (.unary response)
        (steps_afterUnary (m := { p.memory with now := t }) response)
    | @streamEnd i kind response t _ _ =>
      rw [← breaker]
      exact completes run' returned (.stream response)
        (steps_afterStream (m := { p.memory with now := t }) response)

/-- Two checks admit a stream and a call, a third thread counts the call's failure. -/
theorem threads_simulate_startedLate :
    ∃ t₀, Matches Unit 1 5 [.unavailable] t₀ startedLate
      [.checked false, .checked false, .completed] :=
  threads_simulate startedLate_run.unrestrict

end

end Threaded

end GrpcSample
