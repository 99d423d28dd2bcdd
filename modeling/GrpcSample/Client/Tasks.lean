import GrpcSample.Breaker.Capacity
import GrpcSample.Client.Stack

/-!
# A thread on the client

A thread that makes calls through the retry handler and a breaker that others use as well. Within a
call it goes through the breaker as often as the handler's loop asks for it, and between two phases
of it the other threads go on, so that what the breaker is like then is not up to this thread.

The handler keeps nothing between calls, so a thread is the loop of its current call: the attempts
that have been recorded so far (`Task.attempts`) and how far the next one has got (`Stage`). Whether
there is a next one is decided by the loop's own iteration (`Retry.iteration`). `Heeds` is the
invariant of a thread: its attempts are those that the handler's code makes when it is given their
outcomes, and what it ends with is what that code returns then (`Heeds.exact`).
-/

namespace GrpcSample
open Lts

variable {T β : Type*}

/-- What an attempt comes back with behind the breaker: `None`, the outcome of a call with a single
    response, or what the consumer of the breaker's generator has got. -/
inductive Attempted (β : Type*) where
  | turnedDown
  | answered (response : Reply β)
  | consumed (delivery : Delivery β)

/-- What `_intercept_unary_call` of the handler gets. -/
def Attempted.reply : Attempted β → Option (Reply β)
  | .answered response => some response
  | .turnedDown | .consumed _ => none

/-- What `_intercept_stream_call` of the handler gets. -/
def Attempted.iterable {ω : Type*} : Attempted β → Iterable ω β
  | .consumed delivery => .generator fun w => (delivery, w)
  | .turnedDown | .answered _ => .none

/-- What a call through the handler returns. -/
inductive Returned (β : Type*) where
  | single (response : Option (Reply β))
  | stream (delivery : Delivery β)
  deriving DecidableEq

namespace Retry

/-- The handler's continuation when the attempts have been recorded. -/
def recordedUnary : List (Attempted β) → Option (Reply β) × List (Attempted β)
  | [] => (none, [])
  | a :: left => (a.reply, left)

/-- The same for response streams. -/
def recordedStream : List (Attempted β) → Iterable (List (Attempted β)) β × List (Attempted β)
  | [] => (.none, [])
  | a :: left => (a.iterable, left)

/-- What a stream comes back with when it is the attempt `a`. -/
def streamed (a : Attempted β) : Iterable (List (Attempted β)) β × Delivery β :=
  (a.iterable, (a.iterable.iterate ([] : List (Attempted β))).1)

/-- The handler's call over recorded attempts, and those of them that it does not ask for. -/
def handles (h : Retry) (kind : CallKind) (attempts : List (Attempted β)) :
    Returned β × List (Attempted β) :=
  if kind.streamsResponses then
    let (delivery, left) := h.interceptStreamCall (fun _ w => w) recordedStream attempts
    (.stream delivery, left)
  else
    let (response, left) := h.interceptUnaryCall (fun _ w => w) recordedUnary attempts
    (.single response, left)

/-- What iteration `i` of the handler's loop returns, if it does not go on. The iterations before it
    have yielded nothing, since an attempt that is tried again has delivered nothing. -/
def iteration (h : Retry) (kind : CallKind) (i : ℕ) (a : Attempted β) : Option (Returned β) :=
  if kind.streamsResponses then
    let (ended, yielded, _) := h.attemptStream (fun _ w => w) recordedStream i ([], [a])
    ended.map fun ending => .stream ⟨yielded, ending⟩
  else (h.attemptUnary (fun _ w => w) recordedUnary i [a]).1.map .single

/-- What the handler returns when its loop has no iteration left. -/
def exhausted (kind : CallKind) : Returned β :=
  if kind.streamsResponses then .stream ⟨[], .stopIteration⟩ else .single none

section
variable {h : Retry} {kind : CallKind} {i : ℕ} {a : Attempted β} {attempts : List (Attempted β)}

/-- Where there is a single response the iteration is that of `_intercept_unary_call`. -/
lemma iteration_single (single : kind.streamsResponses = false) :
    h.iteration kind i a = (h.attemptUnary (fun _ w => w) recordedUnary i [a]).1.map .single := by
  rw [iteration, single]
  rfl

/-- It goes on after an attempt that is retried. -/
lemma iteration_retries (single : kind.streamsResponses = false) (retries : h.Retries i a.reply) :
    h.iteration kind i a = none := by
  rw [iteration_single single, attemptUnary_retries (w := [a]) retries]
  rfl

/-- It returns what any other attempt comes back with. -/
lemma iteration_returns (single : kind.streamsResponses = false) (returns : ¬ h.Retries i a.reply) :
    h.iteration kind i a = some (.single a.reply) := by
  rw [iteration_single single, attemptUnary_returns (w := [a]) returns]
  rfl

/-- It goes on after no others. -/
lemma retries_of_iteration (single : kind.streamsResponses = false)
    (goes : h.iteration kind i a = none) : h.Retries i a.reply := by
  by_contra returns
  rw [iteration_returns single returns] at goes
  cases goes

/-- Behind the breaker nothing has a `code()`. -/
lemma not_retriesStream_recorded {w : List (Attempted β)} :
    ¬ h.RetriesStream i (consume recordedStream w).1 := by
  cases w with
  | nil => exact not_retriesStream_typeError rfl
  | cons a left =>
    cases a with
    | turnedDown => exact not_retriesStream_typeError rfl
    | answered _ => exact not_retriesStream_typeError rfl
    | consumed _ => exact not_retriesStream_generator

/-- Iterating an attempt uses it up. -/
lemma consume_recorded {rest : List (Attempted β)} :
    consume recordedStream (a :: rest) = (streamed a, rest) := by
  cases a <;> rfl

/-- The first iteration over a stream returns. -/
lemma iteration_stream (streams : kind.streamsResponses = true) :
    h.iteration kind i a =
      some (.stream ⟨(streamed a).2.messages, verdict (streamed a)⟩) := by
  rw [iteration, if_pos streams, attemptStream_returns not_retriesStream_recorded, consume_recorded]
  rfl

/-- The last iteration returns. -/
lemma iteration_more (goes : h.iteration kind i a = none) : (i : Int) ≠ h.maxAttempts - 1 := by
  cases streams : kind.streamsResponses with
  | false => exact (retries_of_iteration streams goes).1
  | true =>
    rw [iteration_stream streams] at goes
    cases goes

/-- The continuation takes the attempts one by one. -/
lemma recordedUnary_drop : recordedUnary (attempts.drop i) =
    (attempts[i]?.bind Attempted.reply, attempts.drop (i + 1)) := by
  rw [← List.tail_drop, ← List.head?_drop]
  cases attempts.drop i <;> rfl

/-- Before attempt `i` the first `i` attempts are used up. -/
lemma worlds_recordedUnary :
    worlds (fun _ w => w) recordedUnary attempts i = attempts.drop i := by
  refine worlds_eq (attempts.drop ·) rfl fun k => ?_
  rw [recordedUnary_drop]

/-- A call with a single response asks for the attempts up to the first one that returns. -/
lemma interceptUnaryCall_recorded {earlier rest : List (Attempted β)}
    (lt : earlier.length < h.maxAttempts)
    (goes : ∀ i b, earlier[i]? = some b → h.Retries i b.reply)
    (returns : ¬ h.Retries earlier.length a.reply) :
    h.interceptUnaryCall (fun _ w => w) recordedUnary (earlier ++ a :: rest) = (a.reply, rest) := by
  refine interceptUnaryCall_eq lt ?_ ?_ returns
  · intro i before
    obtain ⟨b, found⟩ : ∃ b, earlier[i]? = some b := ⟨_, List.getElem?_eq_getElem before⟩
    rw [worlds_recordedUnary, recordedUnary_drop, List.getElem?_append_left before, found]
    exact goes i b found
  · rw [worlds_recordedUnary, List.drop_left]
    rfl

/-- A stream asks for one attempt. -/
lemma interceptStreamCall_recorded {rest : List (Attempted β)} (positive : 0 < h.maxAttempts) :
    h.interceptStreamCall (fun _ w => w) recordedStream (a :: rest) =
      (⟨(streamed a).2.messages, verdict (streamed a)⟩, rest) := by
  have returns : ¬ h.RetriesStream 0 (consume recordedStream [a]).1 := not_retriesStream_recorded
  rw [consume_recorded] at returns
  exact interceptStreamCall_eq positive (fun i lt => absurd lt i.not_lt_zero) consume_recorded returns

/-- The handler asks for the attempts up to the first one after which it does not go on, and returns
    what the iteration over that one does. -/
lemma handles_ended {earlier rest : List (Attempted β)} {value : Returned β}
    (lt : earlier.length < h.maxAttempts)
    (goes : ∀ i b, earlier[i]? = some b → h.iteration kind i b = none)
    (last : h.iteration kind earlier.length a = some value) :
    h.handles kind (earlier ++ a :: rest) = (value, rest) := by
  cases streams : kind.streamsResponses with
  | false =>
    have returns : ¬ h.Retries earlier.length a.reply := by
      intro retries
      rw [iteration_retries streams retries] at last
      cases last
    rw [iteration_returns streams returns] at last
    cases last
    rw [handles, streams, interceptUnaryCall_recorded lt
      (fun i b found => retries_of_iteration streams (goes i b found)) returns]
    rfl
  | true =>
    obtain rfl : earlier = [] := by
      cases earlier with
      | nil => rfl
      | cons b earlier =>
        have goes := goes 0 b rfl
        rw [iteration_stream streams] at goes
        cases goes
    rw [iteration_stream streams] at last
    cases last
    rw [handles, if_pos streams, List.nil_append, interceptStreamCall_recorded lt]

/-- Without an attempt the handler asks for nothing. -/
lemma handles_none {rest : List (Attempted β)} (zero : h.maxAttempts ≤ 0) :
    h.handles kind rest = (exhausted kind, rest) := by
  cases streams : kind.streamsResponses with
  | false =>
    rw [handles, exhausted, streams, interceptUnaryCall_zero zero]
    rfl
  | true => rw [handles, exhausted, if_pos streams, if_pos streams, interceptStreamCall_zero zero]

end

end Retry

/-- How far a call of a thread has got: it will make another attempt, an attempt of it has been
    admitted as call `i` of the breaker and is in a phase, or it is over and returns `value`. -/
inductive Stage (β : Type*) where
  | ready
  | calling (i : ℕ) (phase : Phase)
  | ended (value : Returned β)
  deriving DecidableEq

/-- The number of calls in flight. -/
def Stage.inFlight : Stage β → ℕ
  | .calling _ _ => 1
  | .ready | .ended _ => 0

/-- The number of phases that an attempt has gone through. -/
def Stage.phases : Stage β → ℕ
  | .ready | .ended _ => 0
  | .calling _ .created => 1
  | .calling _ _ => 2

/-- A call of a thread, with what its attempts came back with, earliest first. -/
structure Task (β : Type*) where
  kind : CallKind
  attempts : List (Attempted β)
  stage : Stage β

/-- A thread has one call in flight at most. -/
lemma Stage.inFlight_le (stage : Stage β) : stage.inFlight ≤ 1 := by
  cases stage with
  | calling _ _ => exact Nat.le_refl 1
  | ready => exact Nat.zero_le 1
  | ended _ => exact Nat.zero_le 1

/-- An attempt that is under way has gone through two phases at most. -/
lemma Stage.phases_le (stage : Stage β) : stage.phases ≤ 2 := by
  cases stage with
  | calling i phase =>
    cases phase with
    | created => exact Nat.le_succ 1
    | running => exact Nat.le_refl 2
    | finished => exact Nat.le_refl 2
  | ready => exact Nat.zero_le 2
  | ended _ => exact Nat.zero_le 2

namespace Task

/-- The loop of the handler before its first iteration. -/
def begun (h : Retry) (kind : CallKind) : Task β :=
  ⟨kind, [], if 0 < h.maxAttempts then .ready else .ended (Retry.exhausted kind)⟩

/-- An iteration of the loop has got what it waits for. -/
def next (h : Retry) (task : Task β) (a : Attempted β) : Task β :=
  ⟨task.kind, task.attempts ++ [a],
    match h.iteration task.kind task.attempts.length a with
    | some value => .ended value
    | none =>
      if (task.attempts.length : Int) + 1 < h.maxAttempts then .ready
      else .ended (Retry.exhausted task.kind)⟩

section
variable [LinearOrder T] [Add T]

/-- What a phase of its own does to a thread's call, from a state `s` of the breaker. -/
inductive Moves (h : Retry) (s : Sys T) (task : Task β) : Event T β → Task β → Prop where
  | reject {t₁ t₂} :
    task.stage = .ready →
    (s.breaker.isOpenCircuit t₁ t₂).1 = true →
    Moves h s task (.attempt task.kind t₁ t₂) (task.next h .turnedDown)
  | accept {t₁ t₂} :
    task.stage = .ready →
    (s.breaker.isOpenCircuit t₁ t₂).1 = false →
    Moves h s task (.attempt task.kind t₁ t₂)
      { task with stage := .calling s.calls.length task.kind.admitted }
  | advance {i t} :
    task.stage = .calling i .created →
    Moves h s task (.advance i t) { task with stage := .calling i .running }
  | unaryEnd {i response t} :
    task.stage = .calling i .running →
    Moves h s task (.unaryEnd i response t) (task.next h (.answered response))
  | streamEnd {i response t} :
    task.stage = .calling i .running →
    Moves h s task (.streamEnd i response t)
      (task.next h (.consumed (s.breaker.afterStream response t).2))

end

/-- The number of its calls in flight, one at most. -/
def inFlight (task : Task β) : ℕ :=
  task.stage.inFlight

/-- The most phases that may have led there. -/
def phases (task : Task β) : ℕ :=
  3 * task.attempts.length + task.stage.phases

/-- The attempts so far are those that the loop of the handler makes, and the value is its own. -/
inductive Heeds (h : Retry) : Task β → Prop where
  | going {task} :
    (∀ value, task.stage ≠ .ended value) →
    task.attempts.length < h.maxAttempts →
    (∀ i a, task.attempts[i]? = some a → h.iteration task.kind i a = none) →
    Heeds h task
  | none {kind} :
    h.maxAttempts ≤ 0 →
    Heeds h ⟨kind, [], .ended (Retry.exhausted kind)⟩
  | ended {kind earlier a value} :
    earlier.length < h.maxAttempts →
    (∀ i b, earlier[i]? = some b → h.iteration kind i b = none) →
    h.iteration kind earlier.length a = some value →
    Heeds h ⟨kind, earlier ++ [a], .ended value⟩

variable {h : Retry} {task task' : Task β} {a : Attempted β} {kind : CallKind}

/-- A call begins without an attempt. -/
lemma Heeds.begun : Heeds h (begun h kind : Task β) := by
  unfold Task.begun
  split
  · next positive => exact .going nofun positive nofun
  · next zero => exact .none (not_lt.mp zero)

/-- One more attempt, which the loop has gone on to. -/
lemma Heeds.next (heeds : task.Heeds h) (more : ∀ value, task.stage ≠ .ended value) :
    (task.next h a).Heeds h := by
  cases heeds with
  | going _ room goes =>
    unfold Task.next
    cases iterated : h.iteration task.kind task.attempts.length a with
    | some value => exact .ended room goes iterated
    | none =>
      -- the loop has not come to its last iteration, which returns
      have last := Retry.iteration_more iterated
      have again : (task.attempts.length : Int) + 1 < h.maxAttempts := by omega
      rw [if_pos again]
      refine .going nofun ?_ ?_
      · rw [List.length_append]
        exact_mod_cast again
      · intro i b found
        rcases Nat.lt_or_ge i task.attempts.length with before | last
        · rw [List.getElem?_append_left before] at found
          exact goes i b found
        · rw [List.getElem?_append_right last, List.getElem?_singleton] at found
          split at found
          · next zero =>
            cases found
            have eq : i = task.attempts.length := by omega
            rw [eq]
            exact iterated
          · cases found
  | none _ => exact absurd rfl (more _)
  | ended _ _ _ => exact absurd rfl (more _)

/-- A call that is over returns what the handler's code does, which makes these attempts and no
    other one. -/
lemma Heeds.exact {value : Returned β} (heeds : task.Heeds h) (ended : task.stage = .ended value)
    (rest : List (Attempted β)) : h.handles task.kind (task.attempts ++ rest) = (value, rest) := by
  cases heeds with
  | going more _ _ => exact absurd ended (more value)
  | none zero =>
    cases ended
    exact Retry.handles_none zero
  | ended room goes last =>
    cases ended
    rw [List.append_assoc]
    exact Retry.handles_ended room goes last

/-- It has gone through three phases an attempt at most. -/
lemma Heeds.phases_le (heeds : task.Heeds h) : task.phases ≤ 3 * h.maxAttempts.toNat := by
  cases heeds with
  | @going task _ room _ =>
    have two : task.stage.phases ≤ 2 := task.stage.phases_le
    unfold phases
    omega
  | none _ => exact Nat.zero_le _
  | ended room _ _ =>
    show 3 * (_ ++ [_]).length + 0 ≤ _
    rw [List.length_append, List.length_singleton]
    omega

variable {h : Retry} {task task' : Task β} {a : Attempted β} {e : Event T β} {s s' : Sys T} {i : ℕ}
  {p : Phase}

/-- After an attempt the loop goes on or returns. -/
lemma next_stage (h : Retry) (task : Task β) (a : Attempted β) :
    (task.next h a).stage = .ready ∨ ∃ value, (task.next h a).stage = .ended value := by
  unfold next
  split
  · exact .inr ⟨_, rfl⟩
  · split
    · exact .inl rfl
    · exact .inr ⟨_, rfl⟩

/-- Between attempts the call is not out at the breaker. -/
lemma next_not_calling : (task.next h a).stage ≠ .calling i p := by
  intro calling
  rcases next_stage h task a with ready | ⟨value, ended⟩
  · rw [ready] at calling
    cases calling
  · rw [ended] at calling
    cases calling

/-- Between attempts the number of calls in flight is zero. -/
lemma next_inFlight : (task.next h a).inFlight = 0 := by
  rcases next_stage h task a with ready | ⟨value, ended⟩
  · rw [inFlight, ready, Stage.inFlight]
  · rw [inFlight, ended, Stage.inFlight]

/-- An attempt accounts for three phases, whether it has gone through them or not. -/
lemma next_phases : (task.next h a).phases = 3 * (task.attempts.length + 1) := by
  have length : (task.next h a).attempts.length = task.attempts.length + 1 := List.length_append
  rcases next_stage h task a with ready | ⟨value, ended⟩
  · rw [phases, length, ready, Stage.phases, Nat.add_zero]
  · rw [phases, length, ended, Stage.phases, Nat.add_zero]

variable [LinearOrder T] [Add T]

/-- A call that is over goes through no phase. -/
lemma Moves.more (moves : task.Moves h s e task') (value : Returned β) :
    task.stage ≠ .ended value := by
  cases moves with
  | reject ready _ => simp [ready]
  | accept ready _ => simp [ready]
  | advance calling => simp [calling]
  | unaryEnd calling => simp [calling]
  | streamEnd calling => simp [calling]

/-- A phase of the call keeps to the handler's loop. -/
lemma Moves.heeds (moves : task.Moves h s e task') (heeds : task.Heeds h) : task'.Heeds h := by
  have more := moves.more
  cases moves with
  | reject _ _ => exact heeds.next more
  | unaryEnd _ => exact heeds.next more
  | streamEnd _ => exact heeds.next more
  | accept _ _ =>
    cases heeds with
    | going _ room goes => exact .going nofun room goes
    | none _ => exact absurd rfl (more _)
    | ended _ _ _ => exact absurd rfl (more _)
  | advance _ =>
    cases heeds with
    | going _ room goes => exact .going nofun room goes
    | none _ => exact absurd rfl (more _)
    | ended _ _ _ => exact absurd rfl (more _)

/-- Each phase uses some of them up. -/
lemma Moves.phases_lt (moves : task.Moves h s e task') : task.phases < task'.phases := by
  have two := task.stage.phases_le
  cases moves with
  | reject _ _ =>
    rw [next_phases, phases]
    omega
  | accept ready _ =>
    have one : 1 ≤ (Stage.calling s.calls.length task.kind.admitted : Stage β).phases := by
      cases task.kind <;> simp [CallKind.admitted, CallKind.streamsResponses, Stage.phases]
    rw [phases, ready]
    exact Nat.add_lt_add_left one _
  | advance calling =>
    rw [phases, calling]
    exact Nat.lt_succ_self _
  | unaryEnd _ =>
    rw [next_phases, phases]
    omega
  | streamEnd _ =>
    rw [next_phases, phases]
    omega

/-- What a thread has in flight the breaker has. -/
lemma Moves.inFlight_eq (moves : task.Moves h s e task') (st : Step s e s') :
    GrpcSample.inFlight s' + task.inFlight = GrpcSample.inFlight s + task'.inFlight := by
  cases moves with
  | reject ready rejected =>
    cases st with
    | reject _ =>
      rw [next_inFlight, inFlight, ready]
      rfl
    | accept admitted =>
      rw [admitted] at rejected
      cases rejected
  | accept ready admitted =>
    cases st with
    | reject rejected =>
      rw [admitted] at rejected
      cases rejected
    | accept _ =>
      rw [inFlight, ready]
      exact pending_admitted
  | advance calling =>
    rw [inFlight, calling]
    cases st with
    | advance created => exact pending_set created
  | unaryEnd calling =>
    rw [next_inFlight, inFlight, calling]
    cases st with
    | unaryEnd running _ => exact pending_set running
  | streamEnd calling =>
    rw [next_inFlight, inFlight, calling]
    cases st with
    | streamEnd running _ => exact pending_set running

/-- The calls of the others stay as they are. -/
lemma Moves.frame {j : ℕ} {call : Call} (moves : task.Moves h s e task') (st : Step s e s')
    (found : s.calls[j]? = some call) (other : ∀ p, task.stage ≠ .calling j p) :
    s'.calls[j]? = some call := by
  have apart : ∀ {i p}, task.stage = .calling i p → i ≠ j := by
    rintro i p calling rfl
    exact other p calling
  cases moves with
  | reject _ rejected =>
    cases st with
    | reject _ => exact found
    | accept admitted =>
      rw [admitted] at rejected
      cases rejected
  | accept _ admitted =>
    cases st with
    | reject rejected =>
      rw [admitted] at rejected
      cases rejected
    | accept _ =>
      obtain ⟨before, _⟩ := List.getElem?_eq_some_iff.mp found
      exact (List.getElem?_append_left before).trans found
  | advance calling =>
    cases st with
    | advance _ => exact (List.getElem?_set_ne (apart calling)).trans found
  | unaryEnd calling =>
    cases st with
    | unaryEnd _ _ => exact (List.getElem?_set_ne (apart calling)).trans found
  | streamEnd calling =>
    cases st with
    | streamEnd _ _ => exact (List.getElem?_set_ne (apart calling)).trans found

/-- A thread that has a call in flight after a phase had it before, or it is a new one. -/
lemma Moves.owned (moves : task.Moves h s e task') (st : Step s e s')
    (owned : ∀ i p, task.stage = .calling i p → s.calls[i]? = some ⟨task.kind, p⟩)
    (calling : task'.stage = .calling i p) :
    p ≠ .finished ∧ s'.calls[i]? = some ⟨task'.kind, p⟩ ∧
      ((∃ p', task.stage = .calling i p') ∨ i = s.calls.length) := by
  cases moves with
  | reject _ _ => exact absurd calling next_not_calling
  | unaryEnd _ => exact absurd calling next_not_calling
  | streamEnd _ => exact absurd calling next_not_calling
  | accept _ admitted =>
    cases calling
    cases st with
    | reject rejected =>
      rw [admitted] at rejected
      cases rejected
    | accept _ =>
      refine ⟨?_, List.getElem?_concat_length, .inr rfl⟩
      cases task.kind <;> exact nofun
  | advance created =>
    cases calling
    cases st with
    | advance found =>
      obtain ⟨before, _⟩ := List.getElem?_eq_some_iff.mp found
      have same := (owned _ _ created).symm.trans found
      cases same
      exact ⟨nofun, List.getElem?_set_self before, .inl ⟨_, created⟩⟩

/-- A phase of a thread's call as a function, where it is possible. -/
def after [DecidableEq β] (h : Retry) (s : Sys T) (task : Task β) : Event T β → Option (Task β)
  | .attempt kind t₁ t₂ =>
    if task.stage = .ready ∧ kind = task.kind then
      if (s.breaker.isOpenCircuit t₁ t₂).1 then some (task.next h .turnedDown)
      else some { task with stage := .calling s.calls.length task.kind.admitted }
    else none
  | .advance i _ =>
    if task.stage = .calling i .created then some { task with stage := .calling i .running }
    else none
  | .unaryEnd i response _ =>
    if task.stage = .calling i .running then some (task.next h (.answered response)) else none
  | .streamEnd i response t =>
    if task.stage = .calling i .running then
      some (task.next h (.consumed (s.breaker.afterStream response t).2))
    else none

/-- What `after` makes of a phase is a move of the call. -/
lemma Moves.ofAfter [DecidableEq β] (after : task.after h s e = some task') :
    task.Moves h s e task' := by
  cases e with
  | attempt kind t₁ t₂ =>
    rw [Task.after] at after
    split at after
    · next ready =>
      obtain ⟨ready, rfl⟩ := ready
      split at after
      · next rejected =>
        cases after
        exact .reject ready rejected
      · next admitted =>
        cases after
        exact .accept ready (Bool.eq_false_iff.mpr admitted)
    · cases after
  | advance i t =>
    rw [Task.after] at after
    split at after
    · next created =>
      cases after
      exact .advance created
    · cases after
  | unaryEnd i response t =>
    rw [Task.after] at after
    split at after
    · next running =>
      cases after
      exact .unaryEnd running
    · cases after
  | streamEnd i response t =>
    rw [Task.after] at after
    split at after
    · next running =>
      cases after
      exact .streamEnd running
    · cases after

end Task

end GrpcSample
