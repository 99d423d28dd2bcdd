import GrpcSample.Lib.Lockout
import GrpcSample.Breaker.Inversion

/-!
# Concurrent calls on one breaker

The breaker as the transition system that its interleaved calls drive. A state `Sys` is the breaker,
the calls it has admitted in the order of their admission, and the latest clock reading. The phases
of any number of calls follow one another in any order:

* `attempt`: `intercept_*` runs the check. A call with a single response that is admitted invokes
  its continuation at once; a call with a response stream only creates its generator.
* `advance`: the iterator of an admitted stream is advanced for the first time, which is when the
  body of `_call_stream` starts and invokes the continuation.
* `unaryEnd`, `streamEnd`: the continuation's call is over (and a stream's messages are consumed).

`interceptor` leaves the clock arbitrary; `timedInterceptor` is the same system under a clock that
never goes back. What a phase can do to the breaker is `Change`, one constructor per effect; every
invariant is a case analysis on it. `lastOpening` and `failuresSinceClosed` read off a history the
two quantities that the breaker's law is about.
-/

namespace GrpcSample
open Lts Lockout

/-- How far an admitted call has got. -/
inductive Phase where
  | created | running | finished
  deriving DecidableEq, Repr

/-- A call that has been admitted: its kind and the phase it is in. -/
structure Call where
  kind : CallKind
  phase : Phase
  deriving DecidableEq, Repr

/-- The breaker, the calls that it has admitted, and the latest reading of the clock. -/
structure Sys (T : Type*) where
  breaker : Breaker T
  calls : List Call
  now : T

/-- A phase of a call, with the clock readings it makes; `i` is the call's place in `calls`. -/
inductive Event (T β : Type*) where
  | attempt (kind : CallKind) (t₁ t₂ : T)
  | advance (i : Nat) (t : T)
  | unaryEnd (i : Nat) (response : Reply β) (t : T)
  | streamEnd (i : Nat) (response : StreamCall β) (t : T)

variable {T β : Type*}

/-- The first reading of a phase. -/
@[simp] def Event.start : Event T β → T
  | .attempt _ t₁ _ => t₁
  | .advance _ t | .unaryEnd _ _ t | .streamEnd _ _ t => t

/-- The last reading of a phase. -/
@[simp] def Event.stop : Event T β → T
  | .attempt _ _ t₂ => t₂
  | .advance _ t | .unaryEnd _ _ t | .streamEnd _ _ t => t

/-- The phase executes `self.failure_count += 1`. -/
def Event.counted (b : Breaker T) : Event T β → Bool
  | .unaryEnd _ (.rpcError _) _ => true
  | .streamEnd _ ⟨[], some s⟩ _ => s ∈ b.statusForRetry
  | _ => false

/-- The phase is a counted failure whose assignment sets the state to `OPENED`. -/
def Event.opening (b : Breaker T) (e : Event T β) : Bool :=
  e.counted b ∧ b.Opens (b.failureCount + 1)

/-- An opening is a counted failure whose assignment opens. -/
lemma Event.opening_iff {b : Breaker T} {e : Event T β} :
    e.opening b = true ↔ e.counted b = true ∧ b.Opens (b.failureCount + 1) := by
  simp [Event.opening]

/-- What is not counted does not open. -/
lemma Event.opening_eq_false {b : Breaker T} {e : Event T β} (h : e.counted b = false) :
    e.opening b = false := by
  simp [Event.opening, h]

/-- A history of the interceptor, latest phase first. -/
abbrev History (T β : Type*) := List (Entry (Sys T) (Event T β))

/-- The time of the most recent opening. -/
def lastOpening : History T β → Option T
  | [] => none
  | x :: past => if x.event.opening x.before.breaker then some x.event.stop else lastOpening past

/-- The number of counted failures since the breaker last entered `CLOSED`, or was constructed. -/
def failuresSinceClosed : History T β → Int
  | [] => 0
  | x :: past =>
    if x.after.breaker.state = .closed ∧ x.before.breaker.state ≠ .closed then 0
    else if x.event.counted x.before.breaker then failuresSinceClosed past + 1
    else failuresSinceClosed past

/-- An opening is the last one. -/
lemma lastOpening_opens {x : Entry (Sys T) (Event T β)} {past : History T β}
    (h : x.event.opening x.before.breaker = true) :
    lastOpening (x :: past) = some x.event.stop := if_pos h

/-- Until the next. -/
lemma lastOpening_keeps {x : Entry (Sys T) (Event T β)} {past : History T β}
    (h : x.event.opening x.before.breaker = false) :
    lastOpening (x :: past) = lastOpening past := if_neg (by simp [h])

/-- Entering `CLOSED` starts the count. -/
lemma failuresSinceClosed_enters {x : Entry (Sys T) (Event T β)} {past : History T β}
    (before : x.before.breaker.state ≠ .closed) (after : x.after.breaker.state = .closed) :
    failuresSinceClosed (x :: past) = 0 := if_pos ⟨after, before⟩

/-- In `CLOSED` a counted failure adds one. -/
lemma failuresSinceClosed_counted {x : Entry (Sys T) (Event T β)} {past : History T β}
    (before : x.before.breaker.state = .closed) (h : x.event.counted x.before.breaker = true) :
    failuresSinceClosed (x :: past) = failuresSinceClosed past + 1 := by
  simp [failuresSinceClosed, before, h]

/-- And nothing else does. -/
lemma failuresSinceClosed_keeps {x : Entry (Sys T) (Event T β)} {past : History T β}
    (before : x.before.breaker.state = .closed) (h : x.event.counted x.before.breaker = false) :
    failuresSinceClosed (x :: past) = failuresSinceClosed past := by
  simp [failuresSinceClosed, before, h]

/-- The phase an admitted call starts in. -/
def CallKind.admitted (kind : CallKind) : Phase :=
  if kind.streamsResponses then .created else .running

section
variable [LinearOrder T] [Add T]

/-- What a phase does to the breaker. -/
def Event.effect (b : Breaker T) : Event T β → Breaker T
  | .attempt _ t₁ t₂ => (b.isOpenCircuit t₁ t₂).2
  | .advance _ _ => b
  | .unaryEnd _ response t => b.afterUnary response t
  | .streamEnd _ response t => (b.afterStream response t).1

/-- One phase of one call. -/
inductive Step : Sys T → Event T β → Sys T → Prop where
  | reject {s kind t₁ t₂} :
    (s.breaker.isOpenCircuit t₁ t₂).1 = true →
    Step s (.attempt kind t₁ t₂) ⟨(s.breaker.isOpenCircuit t₁ t₂).2, s.calls, t₂⟩
  | accept {s kind t₁ t₂} :
    (s.breaker.isOpenCircuit t₁ t₂).1 = false →
    Step s (.attempt kind t₁ t₂)
      ⟨(s.breaker.isOpenCircuit t₁ t₂).2, s.calls ++ [⟨kind, kind.admitted⟩], t₂⟩
  | advance {s i kind t} :
    s.calls[i]? = some ⟨kind, .created⟩ →
    Step s (.advance i t) ⟨s.breaker, s.calls.set i ⟨kind, .running⟩, t⟩
  | unaryEnd {s i kind response t} :
    s.calls[i]? = some ⟨kind, .running⟩ →
    kind.streamsResponses = false →
    Step s (.unaryEnd i response t)
      ⟨s.breaker.afterUnary response t, s.calls.set i ⟨kind, .finished⟩, t⟩
  | streamEnd {s i kind response t} :
    s.calls[i]? = some ⟨kind, .running⟩ →
    kind.streamsResponses = true →
    Step s (.streamEnd i response t)
      ⟨(s.breaker.afterStream response t).1, s.calls.set i ⟨kind, .finished⟩, t⟩

/-- The interceptor from its construction on, under an arbitrary clock. -/
def interceptor (failureThreshold : Int) (recoveryTimeout : T) (statusForRetry : List StatusCode) :
    System (Sys T) (Event T β) where
  init s := ∃ t, s = ⟨.init failureThreshold recoveryTimeout statusForRetry t, [], t⟩
  step := Step

/-- The readings of a phase do not go back behind the latest one, nor among themselves. -/
def Timely (s : Sys T) (e : Event T β) : Prop :=
  s.now ≤ e.start ∧ e.start ≤ e.stop

/-- The interceptor under a clock that never goes back. -/
def timedInterceptor (failureThreshold : Int) (recoveryTimeout : T)
    (statusForRetry : List StatusCode) : System (Sys T) (Event T β) :=
  (interceptor failureThreshold recoveryTimeout statusForRetry).restrict Timely

/-- What a phase can do to the breaker. -/
inductive Change (b : Breaker T) (e : Event T β) : Breaker T → Prop where
  | opens :
    e.opening b = true →
    Change b e (b.opened e.stop)
  | counts :
    e.counted b = true →
    e.opening b = false →
    Change b e { b with failureCount := b.failureCount + 1 }
  | closes :
    e.counted b = false →
    b.state = .halfOpened →
    Change b e b.closed
  | halfOpens {kind t₁ t₂} :
    e = .attempt kind t₁ t₂ →
    b.state = .opened →
    b.recoveryTime < t₁ →
    Change b e { b with state := .halfOpened }
  | keeps :
    e.counted b = false →
    Change b e b

/-- A counted failure is a change. -/
lemma Change.ofCounted {b : Breaker T} {e : Event T β} (h : e.counted b = true) :
    Change b e (b.setFailureCount (b.failureCount + 1) e.stop) := by
  by_cases o : b.Opens (b.failureCount + 1)
  · rw [Breaker.setFailureCount_opens o]
    exact .opens (Event.opening_iff.mpr ⟨h, o⟩)
  · rw [Breaker.setFailureCount_keeps o]
    exact .counts h (Bool.eq_false_iff.mpr fun h => o (Event.opening_iff.mp h).2)

/-- So is what a success does. -/
lemma Change.ofClosed {b : Breaker T} {e : Event T β} (h : e.counted b = false) :
    Change b e (if b.state = .halfOpened then b.closed else b) := by
  split
  · next half => exact .closes h half
  · exact .keeps h

/-- Every effect of a phase is one of the five changes. -/
theorem Event.change {b : Breaker T} (threshold : b.state = .halfOpened → 1 ≤ b.failureThreshold)
    (e : Event T β) : Change b e (e.effect b) := by
  cases e with
  | attempt kind t₁ t₂ =>
    rw [Event.effect, Breaker.isOpenCircuit_snd]
    split
    · next h => exact .halfOpens rfl h.2 h.1
    · exact .keeps rfl
  | advance i t => exact .keeps rfl
  | unaryEnd i response t =>
    cases response with
    | rpcError s => exact .ofCounted rfl
    | response m =>
      rw [Event.effect, Breaker.afterUnary_response threshold]
      exact .ofClosed rfl
  | streamEnd i response t =>
    obtain ⟨ms, error⟩ := response
    cases error with
    | none => cases ms <;> exact .keeps rfl
    | some s =>
      cases ms with
      | cons m ms =>
        rw [Event.effect, Breaker.afterStream_late]
        exact .keeps rfl
      | nil =>
        rw [Event.effect]
        by_cases h : s ∈ b.statusForRetry
        · rw [Breaker.afterStream_retryable h]
          exact .ofCounted (by simpa [Event.counted] using h)
        · rw [Breaker.afterStream_other threshold h]
          exact .ofClosed (by simpa [Event.counted] using h)

/-- What a phase does to the breaker is its effect. -/
lemma Step.breaker {s s' : Sys T} {e : Event T β} (st : Step s e s') :
    s'.breaker = e.effect s.breaker := by
  cases st <;> rfl

/-- It ends with the reading that it makes last. -/
lemma Step.now {s s' : Sys T} {e : Event T β} (st : Step s e s') : s'.now = e.stop := by
  cases st <;> rfl

/-- A phase changes the breaker in one of these ways. -/
lemma Step.change {s s' : Sys T} {e : Event T β}
    (threshold : s.breaker.state = .halfOpened → 1 ≤ s.breaker.failureThreshold)
    (st : Step s e s') : Change s.breaker e s'.breaker := by
  rw [st.breaker]
  exact e.change threshold

/-- No phase touches what the constructor was given. -/
lemma Change.config {b b' : Breaker T} {e : Event T β} (c : Change b e b') :
    b'.failureThreshold = b.failureThreshold ∧ b'.recoveryTimeout = b.recoveryTimeout ∧
      b'.statusForRetry = b.statusForRetry := by
  cases c <;> exact ⟨rfl, rfl, rfl⟩

/-- An opening leaves the breaker `OPENED`. -/
lemma Change.opened_after {b b' : Breaker T} (change : Change b e b') (o : e.opening b = true) :
    b'.state = .opened := by
  have counted := (Event.opening_iff.mp o).1
  cases change with
  | opens _ => rfl
  | counts _ quiet =>
    rw [o] at quiet
    cases quiet
  | closes uncounted _ =>
    rw [counted] at uncounted
    cases uncounted
  | halfOpens attempt _ _ =>
    rw [attempt] at counted
    cases counted
  | keeps uncounted =>
    rw [counted] at uncounted
    cases uncounted

variable {F : Int} {R : T} {codes : List StatusCode}

/-- The arguments of the constructor do not change. -/
lemma config_of_run (threshold : 1 ≤ F) {past : History T β} {s}
    (run : Run (interceptor F R codes) past s) :
    s.breaker.failureThreshold = F ∧ s.breaker.recoveryTimeout = R ∧
      s.breaker.statusForRetry = codes := by
  refine Run.invariant (I := fun (_ : History T β) s => s.breaker.failureThreshold = F ∧
    s.breaker.recoveryTimeout = R ∧ s.breaker.statusForRetry = codes) ?_ ?_ run
  · rintro s ⟨t, rfl⟩
    exact ⟨rfl, rfl, rfl⟩
  · rintro past s e s' _ ⟨h₁, h₂, h₃⟩ st
    obtain ⟨c₁, c₂, c₃⟩ := (st.change fun _ => by omega).config
    exact ⟨c₁.trans h₁, c₂.trans h₂, c₃.trans h₃⟩

/-- A step of a run makes one of the changes. -/
lemma change_of_run (threshold : 1 ≤ F) {past : History T β} {s s'} {e : Event T β}
    (run : Run (interceptor F R codes) past s) (st : Step s e s') :
    Change s.breaker e s'.breaker := by
  obtain ⟨h, _, _⟩ := config_of_run threshold run
  exact st.change fun _ => by omega

end

section
variable [LinearOrder T] [Add T]

/-- The phase as a function, where it is possible. -/
def Sys.next (s : Sys T) : Event T β → Option (Sys T)
  | .attempt kind t₁ t₂ =>
    match s.breaker.isOpenCircuit t₁ t₂ with
    | (true, b) => some ⟨b, s.calls, t₂⟩
    | (false, b) => some ⟨b, s.calls ++ [⟨kind, kind.admitted⟩], t₂⟩
  | .advance i t =>
    match s.calls[i]? with
    | some ⟨kind, .created⟩ => some ⟨s.breaker, s.calls.set i ⟨kind, .running⟩, t⟩
    | _ => none
  | .unaryEnd i response t =>
    match s.calls[i]? with
    | some ⟨kind, .running⟩ =>
      if kind.streamsResponses then none
      else some ⟨s.breaker.afterUnary response t, s.calls.set i ⟨kind, .finished⟩, t⟩
    | _ => none
  | .streamEnd i response t =>
    match s.calls[i]? with
    | some ⟨kind, .running⟩ =>
      if kind.streamsResponses then
        some ⟨(s.breaker.afterStream response t).1, s.calls.set i ⟨kind, .finished⟩, t⟩
      else none
    | _ => none

/-- What is executed is a phase. -/
lemma Step.ofNext {s s' : Sys T} {e : Event T β} (next : s.next e = some s') : Step s e s' := by
  cases e with
  | attempt kind t₁ t₂ =>
    rw [Sys.next] at next
    split at next
    · next b check =>
      cases next
      have b_eq : b = (s.breaker.isOpenCircuit t₁ t₂).2 := by rw [check]
      rw [b_eq]
      exact .reject (by rw [check])
    · next b check =>
      cases next
      have b_eq : b = (s.breaker.isOpenCircuit t₁ t₂).2 := by rw [check]
      rw [b_eq]
      exact .accept (by rw [check])
  | advance i t =>
    rw [Sys.next] at next
    split at next
    · next kind created =>
      cases next
      exact .advance created
    · cases next
  | unaryEnd i response t =>
    rw [Sys.next] at next
    split at next
    · next kind running =>
      split at next
      · cases next
      · next single =>
        cases next
        exact .unaryEnd running (Bool.eq_false_iff.mpr single)
    · cases next
  | streamEnd i response t =>
    rw [Sys.next] at next
    split at next
    · next kind running =>
      split at next
      · next streams =>
        cases next
        exact .streamEnd running streams
      · cases next
    · cases next

end

-- Two short runs for the examples of the modules that follow: with a threshold of one and a timeout
-- of five a call fails at 2, which opens the circuit, and a trial at 8 closes it at 9.

/-- A breaker before its first call. -/
def idle : Sys Int := ⟨.init 1 5 [.unavailable] 0, [], 0⟩

/-- The first call is under way. -/
def calling : Sys Int := ⟨idle.breaker, [⟨.unaryUnary, .running⟩], 1⟩

/-- The first call has failed, which opens the circuit. -/
def failedOnce : Sys Int := ⟨idle.breaker.opened 2, [⟨.unaryUnary, .finished⟩], 2⟩

/-- How the breaker got to `failedOnce`. -/
def failedOnceHistory : History Int Unit :=
  [⟨calling, .unaryEnd 0 (.rpcError .unavailable) 2, failedOnce⟩,
    ⟨idle, .attempt .unaryUnary 1 1, calling⟩]

/-- The call fails, and the circuit opens. -/
lemma failedOnce_run : Run (timedInterceptor 1 5 [.unavailable]) failedOnceHistory failedOnce :=
  .step (.step (.init ⟨0, rfl⟩) ⟨.accept (by decide), by decide, by decide⟩)
    ⟨.unaryEnd rfl rfl, by decide, by decide⟩

/-- A trial is under way. -/
def probing : Sys Int := ⟨{ failedOnce.breaker with state := .halfOpened },
  [⟨.unaryUnary, .finished⟩, ⟨.unaryUnary, .running⟩], 8⟩

/-- The trial has been answered. -/
def recovered : Sys Int := ⟨probing.breaker.closed,
  [⟨.unaryUnary, .finished⟩, ⟨.unaryUnary, .finished⟩], 9⟩

/-- How the breaker got from there to `recovered`. -/
def recoveredHistory : History Int Unit :=
  [⟨probing, .unaryEnd 1 (.response ()) 9, recovered⟩,
    ⟨failedOnce, .attempt .unaryUnary 8 8, probing⟩] ++ failedOnceHistory

/-- The trial is answered, and the circuit closes. -/
lemma recovered_run : Run (timedInterceptor 1 5 [.unavailable]) recoveredHistory recovered :=
  .step (.step failedOnce_run ⟨.accept (by decide), by decide, by decide⟩)
    ⟨.unaryEnd rfl rfl, by decide, by decide⟩

end GrpcSample
