import GrpcSample.Breaker.Admission
import GrpcSample.Breaker.Counter
import Mathlib.Algebra.Order.Group.Int

/-!
# The load of concurrent calls

`Load.lean` bounds the failures of calls made one after the other. A client with several threads has
calls in flight when the circuit opens, and these still reach the server and fail: the breaker turns
away attempts, it does not recall what it has admitted. `load_capacity` is the bound for a client
that makes an attempt only while at most `n` other calls are in flight, over all interleavings and
all four kinds of call: no closed window of the length of the recovery timeout holds more than `F +
2 * n` counted failures. For `n = 0` this is the bound of `Load.lean`, and it is attained
(`load_capacity_attained`).

The `2 * n` are the calls in flight at two openings. `Within` follows a window from its start on:
before an opening in it, it holds at most what the counter remembers and the `n` stragglers of the
opening before it (`allowance`); from then on each failure in it takes a call out of flight.
-/

namespace GrpcSample
open Lts Lockout

variable {T β : Type*}

/-- The number of calls that are not over. -/
def pending (calls : List Call) : ℕ :=
  calls.countP (·.phase ≠ .finished)

/-- The number of calls that have been admitted and are not finished. -/
def inFlight (s : Sys T) : ℕ :=
  pending s.calls

/-- The times at which counted failures were over, latest first. -/
def failureTimes : History T β → List T
  | [] => []
  | x :: past =>
    if x.event.counted x.before.breaker then x.event.stop :: failureTimes past
    else failureTimes past

/-- An attempt is made only while at most `n` calls are in flight. -/
def Spares (n : ℕ) (s : Sys T) : Event T β → Prop
  | .attempt _ _ _ => inFlight s ≤ n
  | .advance _ _ | .unaryEnd _ _ _ | .streamEnd _ _ _ => True

/-- Only an attempt has something to be compared. -/
instance (n : ℕ) (s : Sys T) (e : Event T β) : Decidable (Spares n s e) :=
  match e with
  | .attempt _ _ _ => inferInstanceAs (Decidable (inFlight s ≤ n))
  | .advance _ _ | .unaryEnd _ _ _ | .streamEnd _ _ _ => .isTrue trivial

/-- What a window may hold before an opening in it. -/
def allowance (n : ℕ) (s : Sys T) : Int :=
  match s.breaker.state with
  | .closed => n + s.breaker.failureCount
  | .opened => n - inFlight s
  | .halfOpened => n

/-- A counted failure is noted with its time. -/
lemma failureTimes_counted {x : Entry (Sys T) (Event T β)} {past : History T β}
    (h : x.event.counted x.before.breaker = true) :
    failureTimes (x :: past) = x.event.stop :: failureTimes past := if_pos h

/-- Nothing else is. -/
lemma failureTimes_keeps {x : Entry (Sys T) (Event T β)} {past : History T β}
    (h : x.event.counted x.before.breaker = false) :
    failureTimes (x :: past) = failureTimes past := if_neg (by simp [h])

/-- A call that changes its phase. -/
lemma pending_set {calls : List Call} {i : ℕ} {call call' : Call} (found : calls[i]? = some call) :
    pending (calls.set i call') + (if call.phase ≠ .finished then 1 else 0) =
      pending calls + if call'.phase ≠ .finished then 1 else 0 := by
  unfold pending
  induction calls generalizing i with
  | nil => cases found
  | cons c calls ih =>
    cases i with
    | zero =>
      cases found
      simp only [List.set_cons_zero, List.countP_cons, decide_eq_true_eq]
      omega
    | succ i =>
      have ih := ih found
      simp only [List.set_cons_succ, List.countP_cons]
      omega

/-- A call that is admitted. -/
lemma pending_admitted {calls : List Call} {kind : CallKind} :
    pending (calls ++ [⟨kind, kind.admitted⟩]) = pending calls + 1 := by
  rw [pending, List.countP_append]
  cases kind <;> rfl

variable {n : ℕ} {F : Int} {R a : T} {codes : List StatusCode} {past : History T β} {s s' : Sys T}
  {e : Event T β}

/-- What a window holds when it sees its first opening is what it may hold altogether. -/
lemma allowance_opens (threshold : s.breaker.failureThreshold = F) (positive : 1 ≤ F)
    (room : inFlight s ≤ n + 1) (opens : s.breaker.Opens (s.breaker.failureCount + 1)) :
    allowance n s + inFlight s ≤ F + 2 * n := by
  unfold allowance
  cases state : s.breaker.state with
  | closed =>
    rcases opens with reached | ⟨_, half⟩
    · simp only
      omega
    · rw [state] at half
      cases half
  | opened =>
    simp only
    omega
  | halfOpened =>
    simp only
    omega

/-- The allowance of a state is at most that of the law. -/
lemma allowance_le (count : Counter F past s) (positive : 1 ≤ F) : allowance n s ≤ F + 2 * n := by
  have lt := count.lt
  unfold allowance
  cases s.breaker.state <;> simp only <;> omega

section
variable [LinearOrder T]

/-- The failures of a history lie in the past. -/
lemma latest_step (latest : ∀ t ∈ failureTimes past, t ≤ s.now) (later : s.now ≤ e.stop) :
    ∀ t ∈ failureTimes (⟨s, e, s'⟩ :: past), t ≤ e.stop := by
  intro t mem
  cases counted : e.counted s.breaker with
  | true =>
    rw [failureTimes_counted counted] at mem
    rcases List.mem_cons.mp mem with rfl | mem
    · exact le_rfl
    · exact (latest t mem).trans later
  | false =>
    rw [failureTimes_keeps counted] at mem
    exact (latest t mem).trans later

/-- And so do its openings. -/
lemma opened_step (opened : ∀ τ ∈ lastOpening past, τ ≤ s.now) (later : s.now ≤ e.stop) :
    ∀ τ ∈ lastOpening (⟨s, e, s'⟩ :: past), τ ≤ e.stop := by
  intro τ mem
  cases o : e.opening s.breaker with
  | true =>
    rw [lastOpening_opens o] at mem
    cases mem
    exact le_rfl
  | false =>
    rw [lastOpening_keeps o] at mem
    exact (opened τ mem).trans later

end

variable [LinearOrder T] [Add T]

/-- The interceptor under such a client, and a clock that never goes back. -/
def sparingInterceptor (n : ℕ) (failureThreshold : Int) (recoveryTimeout : T)
    (statusForRetry : List StatusCode) : System (Sys T) (Event T β) :=
  (timedInterceptor failureThreshold recoveryTimeout statusForRetry).restrict (Spares n)

/-- A phase of it as a function, where it is possible. -/
def Sys.nextSparing (n : ℕ) (s : Sys T) (e : Event T β) : Option (Sys T) :=
  if (s.now ≤ e.start ∧ e.start ≤ e.stop) ∧ Spares n s e then s.next e else none

/-- Executing an event is a step of the system. -/
lemma sparing_next {s s' : Sys T} {e : Event T β} (next : s.nextSparing n e = some s') :
    (sparingInterceptor n F R codes).step s e s' := by
  rw [Sys.nextSparing] at next
  split at next
  · next allowed => exact ⟨⟨.ofNext next, allowed.1⟩, allowed.2⟩
  · cases next

/-- A counted failure takes a call out of flight. -/
lemma Step.inFlight_counted (st : Step s e s') (counted : e.counted s.breaker = true) :
    inFlight s' + 1 = inFlight s := by
  cases st with
  | reject _ => cases counted
  | accept _ => cases counted
  | advance _ => cases counted
  | unaryEnd running _ => exact pending_set running
  | streamEnd running _ => exact pending_set running

/-- Only an attempt that is not turned down adds a call to those in flight. -/
lemma Step.inFlight_le (st : Step s e s') :
    inFlight s' ≤ inFlight s ∨ ∃ kind t₁ t₂, e = .attempt kind t₁ t₂ ∧
      ¬ s.breaker.Rejects t₁ t₂ ∧ s'.breaker.state ≠ .opened ∧ inFlight s' = inFlight s + 1 := by
  cases st with
  | reject _ => exact .inl le_rfl
  | @accept kind t₁ t₂ admitted =>
    have admitted : ¬ s.breaker.Rejects t₁ t₂ := by simpa using admitted
    exact .inr ⟨kind, t₁, t₂, rfl, admitted, Breaker.checked_not_opened admitted,
      pending_admitted⟩
  | advance created => exact .inl (Nat.le_of_add_le_add_right (pending_set created).le)
  | unaryEnd running _ => exact .inl (Nat.le_of_succ_le (pending_set running).le)
  | streamEnd running _ => exact .inl (Nat.le_of_succ_le (pending_set running).le)

/-- Nothing is added while the breaker is `OPENED`. -/
lemma Step.inFlight_opened (st : Step s e s') (opened : s'.breaker.state = .opened) :
    inFlight s' ≤ inFlight s := by
  rcases st.inFlight_le with le | ⟨_, _, _, _, _, other, _⟩
  · exact le
  · exact absurd opened other

/-- A window that starts at `a`: once it has seen an opening, what it holds and what is in flight
    together are bounded until it is over; before that it holds no more than `allowance`. -/
structure Within (n : ℕ) (F : Int) (R a : T) (past : History T β) (s : Sys T) : Prop where
  room : inFlight s ≤ n + 1
  shut : s.breaker.state = .opened → inFlight s ≤ n
  latest : ∀ t ∈ failureTimes past, t ≤ s.now
  opened : ∀ τ ∈ lastOpening past, τ ≤ s.now
  held : (∃ τ ∈ lastOpening past, a ≤ τ) ∧
      (inWindow R a (failureTimes past) + inFlight s ≤ F + 2 * n ∨
        a + R < s.now ∧ inWindow R a (failureTimes past) ≤ F + 2 * n) ∨
    (∀ τ ∈ lastOpening past, τ < a) ∧ inWindow R a (failureTimes past) ≤ allowance n s

/-- What a phase adds to a window. -/
lemma inWindow_failureTimes :
    inWindow R a (failureTimes (⟨s, e, s'⟩ :: past)) = inWindow R a (failureTimes past) +
      if e.counted s.breaker = true ∧ a ≤ e.stop ∧ e.stop ≤ a + R then 1 else 0 := by
  cases counted : e.counted s.breaker with
  | true => simp [failureTimes_counted, counted, inWindow_cons]
  | false => simp [failureTimes_keeps, counted]

/-- What is not counted adds nothing to a window. -/
lemma inWindow_uncounted (h : e.counted s.breaker = false) :
    inWindow R a (failureTimes (⟨s, e, s'⟩ :: past)) = inWindow R a (failureTimes past) := by
  rw [failureTimes_keeps h]

/-- And what is counted adds one at most. -/
lemma inWindow_counted_le :
    inWindow R a (failureTimes (⟨s, e, s'⟩ :: past)) ≤ inWindow R a (failureTimes past) + 1 := by
  rw [inWindow_failureTimes]
  split <;> omega

/-- Each phase takes a call out of flight for each failure that it adds to a window, unless it is an
    attempt that is admitted. -/
lemma Step.exchange (st : Step s e s') (le : inFlight s' ≤ inFlight s) :
    inWindow R a (failureTimes (⟨s, e, s'⟩ :: past)) + inFlight s' ≤
      inWindow R a (failureTimes past) + inFlight s := by
  cases counted : e.counted s.breaker with
  | true =>
    have ended := st.inFlight_counted counted
    have added : inWindow R a (failureTimes (⟨s, e, s'⟩ :: past)) ≤
        inWindow R a (failureTimes past) + 1 := inWindow_counted_le
    omega
  | false =>
    rw [inWindow_uncounted counted]
    omega

/-- A phase that does not open the circuit, in a window that has not seen an opening. -/
lemma allowance_step (change : Change s.breaker e s'.breaker)
    (quiet : e.opening s.breaker = false) (st : Step s e s')
    (held : inWindow R a (failureTimes past) ≤ allowance n s) :
    inWindow R a (failureTimes (⟨s, e, s'⟩ :: past)) ≤ allowance n s' := by
  have added : inWindow R a (failureTimes (⟨s, e, s'⟩ :: past)) ≤
      inWindow R a (failureTimes past) + 1 := inWindow_counted_le
  unfold allowance at held ⊢
  generalize eq : s'.breaker = b' at change
  cases change with
  | opens o =>
    rw [quiet] at o
    cases o
  | counts counted _ =>
    have ended := st.inFlight_counted counted
    cases state : s.breaker.state with
    | closed =>
      rw [state] at held
      simp only at held ⊢
      omega
    | opened =>
      rw [state] at held
      simp only at held ⊢
      omega
    | halfOpened =>
      -- in `HALF_OPENED` every counted failure opens the circuit
      have o : e.opening s.breaker = true := Event.opening_iff.mpr ⟨counted, .inr ⟨by omega, state⟩⟩
      rw [quiet] at o
      cases o
  | closes c half =>
    rw [inWindow_uncounted c]
    rw [half] at held
    exact held.trans (by simp [Breaker.closed])
  | halfOpens attempt opened _ =>
    rw [inWindow_uncounted (by rw [attempt]; rfl)]
    rw [opened] at held
    simp only at held ⊢
    omega
  | keeps c =>
    rw [inWindow_uncounted c]
    cases state : s.breaker.state with
    | closed =>
      rw [state] at held
      exact held
    | opened =>
      have le := st.inFlight_opened (by rw [eq, state])
      rw [state] at held
      simp only at held ⊢
      omega
    | halfOpened =>
      rw [state] at held
      exact held

/-- Only a counted failure gets the breaker to `OPENED`. -/
lemma Change.opened_before {b b' : Breaker T} (change : Change b e b')
    (uncounted : e.counted b = false)
    (opened : b'.state = .opened) : b.state = .opened := by
  cases change with
  | opens o =>
    rw [Event.opening_eq_false uncounted] at o
    cases o
  | counts counted _ =>
    rw [uncounted] at counted
    cases counted
  | closes _ _ => cases opened
  | halfOpens _ _ _ => cases opened
  | keeps _ => exact opened

/-- When the circuit is open, at most `n` calls are in flight. -/
lemma Within.shut_step (within : Within n F R a past s) (change : Change s.breaker e s'.breaker)
    (st : Step s e s') (opened : s'.breaker.state = .opened) : inFlight s' ≤ n := by
  cases counted : e.counted s.breaker with
  | true =>
    have ended := st.inFlight_counted counted
    have room := within.room
    omega
  | false =>
    have before := within.shut (change.opened_before counted opened)
    exact (st.inFlight_opened opened).trans before

/-- The phase is one more failure in the window, or the first that opens the circuit there. -/
lemma Within.unseen_step (within : Within n F R a past s)
    (threshold : s.breaker.failureThreshold = F) (positive : 1 ≤ F)
    (change : Change s.breaker e s'.breaker) (st : Step s e s') (later : s.now ≤ e.stop)
    (before : ∀ τ ∈ lastOpening past, τ < a)
    (held : inWindow R a (failureTimes past) ≤ allowance n s) :
    ((∃ τ ∈ lastOpening (⟨s, e, s'⟩ :: past), a ≤ τ) ∧
        inWindow R a (failureTimes (⟨s, e, s'⟩ :: past)) + inFlight s' ≤ F + 2 * n) ∨
      (∀ τ ∈ lastOpening (⟨s, e, s'⟩ :: past), τ < a) ∧
        inWindow R a (failureTimes (⟨s, e, s'⟩ :: past)) ≤ allowance n s' := by
  cases o : e.opening s.breaker with
  | false =>
    refine .inr ⟨?_, allowance_step change o st held⟩
    rw [lastOpening_keeps o]
    exact before
  | true =>
    obtain ⟨counted, opens⟩ := Event.opening_iff.mp o
    have ended := st.inFlight_counted counted
    rw [lastOpening_opens o]
    rcases le_or_gt a e.stop with inside | outside
    · refine .inl ⟨⟨_, rfl, inside⟩, ?_⟩
      have exchange : inWindow R a (failureTimes (⟨s, e, s'⟩ :: past)) + inFlight s' ≤
          inWindow R a (failureTimes past) + inFlight s := st.exchange (by omega)
      have spent := allowance_opens threshold positive within.room opens
      omega
    · -- the window starts later than everything so far
      refine .inr ⟨fun τ mem => by cases mem; exact outside, ?_⟩
      have none : inWindow R a (failureTimes (⟨s, e, s'⟩ :: past)) = 0 :=
        inWindow_eq_zero fun t mem => (latest_step within.latest later t mem).trans_lt outside
      have opened := change.opened_after o
      have shut := within.shut_step change st opened
      rw [none, allowance, opened]
      simp only
      omega

/-- The invariant gives the bound. -/
lemma Within.inWindow_le (within : Within n F R a past s) (count : Counter F past s)
    (positive : 1 ≤ F) : inWindow R a (failureTimes past) ≤ F + 2 * n := by
  rcases within.held with ⟨_, load | ⟨_, load⟩⟩ | ⟨_, load⟩
  · omega
  · exact load
  · exact load.trans (allowance_le count positive)

section
variable [AddRightMono T]

/-- Once an opening has been seen no call is admitted before the window is over. -/
lemma Within.seen_step (within : Within n F R a past s) (win : Window R past s)
    (st : Step s e s') (timely : Timely s e) (seen : ∃ τ ∈ lastOpening past, a ≤ τ)
    (load : inWindow R a (failureTimes past) + inFlight s ≤ F + 2 * n ∨
      a + R < s.now ∧ inWindow R a (failureTimes past) ≤ F + 2 * n) :
    (∃ τ ∈ lastOpening (⟨s, e, s'⟩ :: past), a ≤ τ) ∧
      (inWindow R a (failureTimes (⟨s, e, s'⟩ :: past)) + inFlight s' ≤ F + 2 * n ∨
        a + R < s'.now ∧ inWindow R a (failureTimes (⟨s, e, s'⟩ :: past)) ≤ F + 2 * n) := by
  obtain ⟨start, stop⟩ := timely
  obtain ⟨τ, last, le⟩ := seen
  refine ⟨?_, ?_⟩
  · cases o : e.opening s.breaker with
    | true =>
      rw [lastOpening_opens o]
      exact ⟨_, rfl, (le.trans (within.opened τ last)).trans (start.trans stop)⟩
    | false =>
      rw [lastOpening_keeps o]
      exact ⟨τ, last, le⟩
  · rw [st.now]
    rcases load with load | ⟨ended, load⟩
    · rcases st.inFlight_le with fewer | ⟨kind, t₁, t₂, rfl, admitted, _, _⟩
      · have exchange : inWindow R a (failureTimes (⟨s, e, s'⟩ :: past)) + inFlight s' ≤
            inWindow R a (failureTimes past) + inFlight s := st.exchange fewer
        exact .inl (by omega)
      · have unlocked : τ + R < t₁ := by
          by_contra locked
          exact admitted ((win.rejects_iff start stop).mpr ⟨τ, last, not_lt.mp locked⟩)
        refine .inr ⟨(add_le_add_left le R).trans_lt (unlocked.trans_le stop), ?_⟩
        rw [inWindow_uncounted rfl]
        omega
    · have ended : a + R < e.stop := ended.trans_le (start.trans stop)
      refine .inr ⟨ended, ?_⟩
      rw [inWindow_failureTimes, if_neg fun h => absurd h.2.2 (not_le.mpr ended)]
      exact load

/-- A step keeps the invariant. -/
lemma Within.step (within : Within n F R a past s) (win : Window R past s)
    (threshold : s.breaker.failureThreshold = F) (positive : 1 ≤ F)
    (change : Change s.breaker e s'.breaker) (st : Step s e s') (timely : Timely s e)
    (spares : Spares n s e) : Within n F R a (⟨s, e, s'⟩ :: past) s' := by
  have later : s.now ≤ e.stop := timely.1.trans timely.2
  have now : s'.now = e.stop := st.now
  refine ⟨?_, within.shut_step change st, ?_, ?_, ?_⟩
  · rcases st.inFlight_le with le | ⟨kind, t₁, t₂, rfl, _, _, added⟩
    · exact le.trans within.room
    · have spares : inFlight s ≤ n := spares
      omega
  · rw [now]
    exact latest_step within.latest later
  · rw [now]
    exact opened_step within.opened later
  · rcases within.held with ⟨seen, load⟩ | ⟨before, load⟩
    · exact .inl (within.seen_step win st timely seen load)
    · rcases within.unseen_step threshold positive change st later before load with held | held
      · exact .inl ⟨held.1, .inl held.2⟩
      · exact .inr held

/-- Every run has it. -/
theorem within_of_run (positive : 1 ≤ F) (run : Run (sparingInterceptor n F R codes) past s) :
    Within n F R a past s := by
  refine Run.invariant (I := Within n F R a) ?_ ?_ run
  · rintro s ⟨t, rfl⟩
    refine ⟨Nat.zero_le _, fun _ => Nat.zero_le _, nofun, nofun, .inr ⟨nofun, ?_⟩⟩
    show (0 : Int) ≤ n + 0
    omega
  · rintro past s e s' run within ⟨⟨st, timely⟩, spares⟩
    have run := run.unrestrict
    obtain ⟨threshold, _, _⟩ := config_of_run positive run.unrestrict
    exact within.step (window_of_run positive run) threshold positive
      (change_of_run positive run.unrestrict st) st timely spares

/-- The breaker bounds the load of concurrent calls: when an attempt is made only while at most `n`
    calls are in flight, no closed window of length `R` holds more than `F + 2 * n` counted
    failures, whatever the interleaving. -/
theorem load_capacity (positive : 1 ≤ F) (run : Run (sparingInterceptor n F R codes) past s) (a : T) :
    ((failureTimes past).countP fun t => a ≤ t ∧ t ≤ a + R : Int) ≤ F + 2 * n :=
  (within_of_run positive run).inWindow_le (counter_of_run positive run.unrestrict.unrestrict) positive

end

-- Two calls in flight, a threshold of two, a timeout of ten: the circuit opens at 1 while a third
-- call is in flight, which fails at 10. A trial closes the circuit at 12, and of the calls that
-- follow three fail before 20, the last one after the circuit has opened again.

/-- The events of that run. -/
def capacityScript : List (Event Int Unit) :=
  [.attempt .unaryUnary 0 0, .attempt .streamUnary 0 0, .unaryEnd 0 (.rpcError .unavailable) 1,
    .attempt .unaryStream 1 1, .advance 2 1, .unaryEnd 1 (.rpcError .unavailable) 1,
    .streamEnd 2 ⟨[], some .unavailable⟩ 10, .attempt .unaryUnary 12 12,
    .unaryEnd 3 (.response ()) 12, .attempt .unaryUnary 12 12, .attempt .unaryUnary 12 12,
    .unaryEnd 4 (.rpcError .unavailable) 13, .attempt .unaryUnary 13 13,
    .unaryEnd 5 (.rpcError .unavailable) 13, .unaryEnd 6 (.rpcError .unavailable) 14]

/-- The bound is attained by a run with two calls in flight. -/
theorem load_capacity_attained : ∃ (past : History Int Unit) (s : Sys Int),
    Run (sparingInterceptor 1 2 10 [.unavailable]) past s ∧
      ((failureTimes past).countP fun t => 10 ≤ t ∧ t ≤ 10 + 10 : Int) = 2 + 2 * 1 := by
  have start : Run (sparingInterceptor 1 2 10 [.unavailable]) ([] : History Int Unit)
      ⟨.init 2 10 [.unavailable] 0, [], 0⟩ := .init ⟨0, rfl⟩
  obtain ⟨⟨past, s⟩, played⟩ := Option.isSome_iff_exists.mp (show (replay (Sys.nextSparing 1)
    capacityScript ([], ⟨.init 2 10 [.unavailable] 0, [], 0⟩)).isSome = true by decide)
  have times : (replay (Sys.nextSparing 1) capacityScript
      ([], ⟨.init 2 10 [.unavailable] 0, [], 0⟩)).map (failureTimes ·.1) =
        some [14, 13, 13, 10, 1, 1] := by decide
  have run := start.replay (fun _ _ _ => sparing_next) played
  rw [played] at times
  have times : failureTimes past = [14, 13, 13, 10, 1, 1] := Option.some.inj times
  refine ⟨past, s, run, le_antisymm (load_capacity (by decide) run 10) ?_⟩
  rw [times]
  decide

end GrpcSample
