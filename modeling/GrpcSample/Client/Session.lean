import GrpcSample.Breaker.Capacity
import GrpcSample.Client.Stack

/-!
# A session of the client

One client, one retry handler, one breaker: calls of all kinds made one after the other through the
stack, each with the attempts that the retry handler makes of it. What one call leaves of the
breaker the next one finds.

`Tracks` relates the code of the stack to the transition system of `System.lean`: an attempt is an
admission and a completion, with no other call in flight. `session_law`: every session is such a
run, and so its load is bounded as that of calls without retries is. Under a positive threshold,
however much is retried, the breaker counts at most that many failures in any window of the length
of the recovery timeout. A stream that fails after a message, or with a status that is not in the
list, is not counted, and there is no bound on those.
-/

namespace GrpcSample
open Lts Lockout

variable {T β : Type*}

/-- The server's answers to the attempts of a call, with a single response or with a response
    stream. -/
inductive Outcomes (β : Type*) where
  | unary (script : ℕ → Reply β)
  | stream (script : ℕ → StreamCall β)

/-- A call of the client: the readings of its passes through the breaker, what the server answers,
    and a time by which it is over. -/
structure ClientCall (T β : Type*) where
  clock : ℕ → Breaker.Readings T
  outcomes : Outcomes β
  finish : T

/-- The attempt is counted by the breaker. -/
def Outcomes.counted (codes : List StatusCode) (i : ℕ) : Outcomes β → Bool
  | .unary script =>
    match script i with
    | .rpcError _ => true
    | .response _ => false
  | .stream script =>
    match script i with
    | ⟨[], some status⟩ => status ∈ codes
    | _ => false

/-- The times of the failures that the breaker has counted, among the attempts that reached the
    server, earliest first. A failure that it does not count leaves no time here. -/
def ClientCall.failures (c : ClientCall T β) (codes : List StatusCode) (served : ℕ) : List T :=
  ((List.range served).filter (c.outcomes.counted codes)).map fun i => (c.clock i).done

/-- One more attempt adds its time if it is counted. -/
lemma ClientCall.failures_succ {c : ClientCall T β} {codes : List StatusCode} {i : ℕ} :
    c.failures codes (i + 1) =
      c.failures codes i ++ if c.outcomes.counted codes i then [(c.clock i).done] else [] := by
  rw [failures, List.range_succ, List.filter_append, List.map_append, List.filter_singleton]
  cases c.outcomes.counted codes i <;> rfl

/-- The readings of a call never go back, from `now` on. -/
structure Paced [LE T] (now : T) (clock : ℕ → Breaker.Readings T) : Prop where
  start : now ≤ (clock 0).first
  check : ∀ i, (clock i).first ≤ (clock i).second
  call : ∀ i, (clock i).second ≤ (clock i).done
  next : ∀ i, (clock i).done ≤ (clock (i + 1)).first

/-- Nor do those of successive calls. -/
def Sequenced [LE T] (h : Retry) (now : T) : List (ClientCall T β) → Prop
  | [] => True
  | c :: calls =>
    Paced now c.clock ∧ now ≤ c.finish ∧
      (∀ i : ℕ, i < h.maxAttempts → (c.clock i).done ≤ c.finish) ∧ Sequenced h c.finish calls

variable [LinearOrder T] [Add T]

/-- The breaker after the call, and the number of attempts that reached the server. -/
def ClientCall.through (h : Retry) (b : Breaker T) (c : ClientCall T β) : Breaker T × ℕ :=
  match c.outcomes with
  | .unary script => (h.stackedUnaryCall b c.clock script).2
  | .stream script => (h.stackedStreamCall b c.clock script).2

/-- The breaker after the calls, and the times of the failures that it has counted, earliest first.
    -/
def session (h : Retry) : List (ClientCall T β) → Breaker T → Breaker T × List T
  | [], b => (b, [])
  | c :: calls, b =>
    let (b', served) := c.through h b
    let (b'', times) := session h calls b'
    (b'', c.failures b.statusForRetry served ++ times)

variable {F : Int} {R now t₁ t₂ t : T} {codes : List StatusCode} {b : Breaker T} {ts : List T}

/-- The breaker is that of a run with no call in flight, in which failures have been counted at
    `ts`, latest first, and whose clock has not passed `now`. -/
def Tracks (β : Type*) (F : Int) (R : T) (codes : List StatusCode) (now : T) (b : Breaker T)
    (ts : List T) : Prop :=
  ∃ (past : History T β) (s : Sys T), Run (sparingInterceptor 0 F R codes) past s ∧
    s.breaker = b ∧ inFlight s = 0 ∧ failureTimes past = ts ∧ s.now ≤ now

/-- The same with one call in flight, which has been started. -/
def Engaged (β : Type*) (F : Int) (R : T) (codes : List StatusCode) (kind : CallKind) (now : T)
    (b : Breaker T) (ts : List T) : Prop :=
  ∃ (past : History T β) (s : Sys T) (i : ℕ), Run (sparingInterceptor 0 F R codes) past s ∧
    s.breaker = b ∧ s.calls[i]? = some ⟨kind, .running⟩ ∧ inFlight s = 1 ∧ failureTimes past = ts ∧
    s.now ≤ now

/-- Time may pass. -/
lemma Tracks.later (tracks : Tracks β F R codes now b ts) (later : now ≤ t) :
    Tracks β F R codes t b ts := by
  obtain ⟨past, s, run, breaker, idle, times, le⟩ := tracks
  exact ⟨past, s, run, breaker, idle, times, le.trans later⟩

/-- The breaker keeps the list that it was constructed with. -/
lemma Tracks.statusForRetry (positive : 1 ≤ F) (tracks : Tracks β F R codes now b ts) :
    b.statusForRetry = codes := by
  obtain ⟨past, s, run, rfl, _⟩ := tracks
  exact (config_of_run positive run.unrestrict.unrestrict).2.2

/-- It does so during a call. -/
lemma Engaged.statusForRetry {kind : CallKind} (positive : 1 ≤ F)
    (engaged : Engaged β F R codes kind now b ts) : b.statusForRetry = codes := by
  obtain ⟨past, s, i, run, rfl, _⟩ := engaged
  exact (config_of_run positive run.unrestrict.unrestrict).2.2

/-- An attempt that is turned down. -/
lemma Tracks.reject (tracks : Tracks β F R codes now b ts) (start : now ≤ t₁) (check : t₁ ≤ t₂)
    (rejected : b.Rejects t₁ t₂) : Tracks β F R codes t₂ (b.isOpenCircuit t₁ t₂).2 ts := by
  obtain ⟨past, s, run, rfl, idle, times, le⟩ := tracks
  have st : Step s (.attempt .unaryUnary t₁ t₂ : Event T β) _ := .reject (by simpa using rejected)
  exact ⟨_, _, run.step ⟨⟨st, le.trans start, check⟩, idle.le⟩, rfl, idle, times, le_rfl⟩

/-- One that is admitted; a stream is started at once, since its consumer waits for it. -/
lemma Tracks.admit (tracks : Tracks β F R codes now b ts) (start : now ≤ t₁) (check : t₁ ≤ t₂)
    (admitted : ¬ b.Rejects t₁ t₂) (kind : CallKind) :
    Engaged β F R codes kind t₂ (b.isOpenCircuit t₁ t₂).2 ts := by
  obtain ⟨past, s, run, rfl, idle, times, le⟩ := tracks
  have st : Step s (.attempt kind t₁ t₂ : Event T β) _ := .accept (by simpa using admitted)
  have run := run.step ⟨⟨st, le.trans start, check⟩, idle.le⟩
  have engaged : pending (s.calls ++ [⟨kind, kind.admitted⟩]) = 1 := by
    rw [pending_admitted, ← inFlight, idle]
  cases streams : kind.streamsResponses with
  | false =>
    refine ⟨_, _, s.calls.length, run, rfl, ?_, engaged, times, le_rfl⟩
    simp [CallKind.admitted, streams]
  | true =>
    have created : (s.calls ++ [⟨kind, kind.admitted⟩])[s.calls.length]? =
        some ⟨kind, .created⟩ := by simp [CallKind.admitted, streams]
    have running := run.step ⟨⟨.advance (t := t₂) created, le_rfl, le_rfl⟩, trivial⟩
    refine ⟨_, _, s.calls.length, running, rfl, ?_, ?_, times, le_rfl⟩
    · exact List.getElem?_set_self (by simp)
    · have moved : pending (List.set (s.calls ++ [⟨kind, kind.admitted⟩]) s.calls.length
          ⟨kind, .running⟩) + 1 = pending (s.calls ++ [⟨kind, kind.admitted⟩]) + 1 :=
        pending_set created
      exact (Nat.add_right_cancel moved).trans engaged

/-- A call with a single response is within. -/
lemma Engaged.unaryEnd (engaged : Engaged β F R codes .unaryUnary now b ts) (later : now ≤ t)
    (response : Reply β) :
    Tracks β F R codes t (b.afterUnary response t)
      (if (Event.unaryEnd 0 response t : Event T β).counted b then t :: ts else ts) := by
  obtain ⟨past, s, i, run, rfl, running, engaged, rfl, le⟩ := engaged
  have st : Step s (.unaryEnd i response t) _ := .unaryEnd running rfl
  have idle : pending (s.calls.set i ⟨.unaryUnary, .finished⟩) = 0 :=
    Nat.succ.inj ((pending_set running).trans engaged)
  refine ⟨_, _, run.step ⟨⟨st, le.trans later, le_rfl⟩, trivial⟩, rfl, idle, ?_, le_rfl⟩
  cases response <;> rfl

/-- A call with a response stream is within. -/
lemma Engaged.streamEnd (engaged : Engaged β F R codes .unaryStream now b ts) (later : now ≤ t)
    (response : StreamCall β) :
    Tracks β F R codes t (b.afterStream response t).1
      (if (Event.streamEnd 0 response t : Event T β).counted b then t :: ts else ts) := by
  obtain ⟨past, s, i, run, rfl, running, engaged, rfl, le⟩ := engaged
  have st : Step s (.streamEnd i response t) _ := .streamEnd running rfl
  have idle : pending (s.calls.set i ⟨.unaryStream, .finished⟩) = 0 :=
    Nat.succ.inj ((pending_set running).trans engaged)
  refine ⟨_, _, run.step ⟨⟨st, le.trans later, le_rfl⟩, trivial⟩, rfl, idle, ?_, le_rfl⟩
  obtain ⟨messages, error⟩ := response
  cases messages <;> cases error <;> rfl

variable {h : Retry} {c : ClientCall T β} {i : ℕ}

section
variable {script : ℕ → Reply β}

/-- Attempt `i` of a unary call, when the earlier ones have been tried again. -/
lemma tracks_attempt (unary : c.outcomes = .unary script) (paced : Paced now c.clock)
    (tracks : Tracks β F R codes (c.clock i).first (Retry.breakerAt b c.clock i)
      ((c.failures codes i).reverse ++ ts))
    (admitted : ¬ Retry.RejectedAt b c.clock i) :
    Tracks β F R codes (c.clock i).done
      (((Retry.breakerAt b c.clock i).isOpenCircuit (c.clock i).first (c.clock i).second).2.afterUnary
        (script i) (c.clock i).done)
      ((c.failures codes (i + 1)).reverse ++ ts) := by
  have engaged := tracks.admit le_rfl (paced.check i) admitted .unaryUnary
  have ended := engaged.unaryEnd (paced.call i) (script i)
  rw [ClientCall.failures_succ, unary]
  cases reply : script i with
  | response m =>
    rw [reply] at ended
    simpa [Outcomes.counted, reply, Event.counted] using ended
  | rpcError status =>
    rw [reply] at ended
    simpa [Outcomes.counted, reply, Event.counted] using ended

/-- The attempts of a unary call before attempt `i`, when all of them have been tried again. -/
lemma tracks_breakerAt (unary : c.outcomes = .unary script) (paced : Paced now c.clock)
    (tracks : Tracks β F R codes now b ts) (retries : ∀ k < i, h.Retries k (some (script k)))
    (admitted : ∀ k < i, ¬ Retry.RejectedAt b c.clock k) :
    Tracks β F R codes (c.clock i).first (Retry.breakerAt b c.clock i)
      ((c.failures codes i).reverse ++ ts) := by
  induction i with
  | zero => exact tracks.later paced.start
  | succ i ih =>
    have before := ih (fun k lt => retries k (Nat.lt_succ_of_lt lt))
      (fun k lt => admitted k (Nat.lt_succ_of_lt lt))
    have after := tracks_attempt unary paced before (admitted i i.lt_succ_self)
    obtain ⟨_, status, _, failed⟩ := retries i i.lt_succ_self
    rw [Option.some.inj failed] at after
    exact after.later (paced.next i)

/-- A whole unary call. -/
lemma tracks_unary (unary : c.outcomes = .unary script) (paced : Paced now c.clock)
    (ends : now ≤ c.finish) (within : ∀ i : ℕ, i < h.maxAttempts → (c.clock i).done ≤ c.finish)
    (tracks : Tracks β F R codes now b ts) :
    Tracks β F R codes c.finish (h.stackedUnaryCall b c.clock script).2.1
      ((c.failures codes (h.stackedUnaryCall b c.clock script).2.2).reverse ++ ts) := by
  rcases Int.lt_or_le 0 h.maxAttempts with positive | zero
  · obtain ⟨j, lt, retries, returns⟩ := Retry.exists_last positive
      fun i (retries : h.Retries i (some (script i))) => retries.1
    rcases Loop.first_or_none (Retry.RejectedAt b c.clock) (j + 1) with
      ⟨i, le, rejected, earlier⟩ | none
    · -- the attempt that is turned down is the end of the call
      have retries : ∀ k < i, h.Retries k (some (script k)) := fun k lt => retries k (by omega)
      have lt : (i : Int) < h.maxAttempts := by omega
      have before := tracks_breakerAt unary paced tracks retries earlier
      rw [Retry.stackedUnaryCall_eq lt retries earlier (Retry.pass_rejected rejected) nofun]
      exact (before.reject le_rfl (paced.check i) rejected).later
        ((paced.call i).trans (within i lt))
    · have admitted : ∀ i ≤ j, ¬ Retry.RejectedAt b c.clock i :=
        fun i le => none i (Nat.lt_succ_of_le le)
      have before := tracks_breakerAt unary paced tracks retries
        fun k lt => admitted k (Nat.le_of_lt lt)
      rw [Retry.stackedUnaryCall_eq lt retries (fun i lt => admitted i (Nat.le_of_lt lt))
        (Retry.pass_admitted (admitted j (Nat.le_refl j))) returns]
      exact (tracks_attempt unary paced before (admitted j (Nat.le_refl j))).later (within j lt)
  · rw [Retry.stackedUnaryCall, Retry.interceptUnaryCall_zero zero]
    exact tracks.later ends

end

section
variable {script : ℕ → StreamCall β}

omit [LinearOrder T] [Add T] in
/-- The run counts the end of a stream as the call does. -/
lemma counted_streamEnd : (Event.streamEnd 0 (script i) t : Event T β).counted b =
    (Outcomes.stream script).counted b.statusForRetry i := by
  rw [Event.counted.eq_def, Outcomes.counted]
  obtain ⟨messages, error⟩ := script i
  cases messages <;> cases error <;> rfl

/-- A whole call with a response stream, which is one attempt. -/
lemma tracks_stream (stream : c.outcomes = .stream script) (positive : 1 ≤ F)
    (paced : Paced now c.clock) (ends : now ≤ c.finish)
    (within : ∀ i : ℕ, i < h.maxAttempts → (c.clock i).done ≤ c.finish)
    (tracks : Tracks β F R codes now b ts) :
    Tracks β F R codes c.finish (h.stackedStreamCall b c.clock script).2.1
      ((c.failures codes (h.stackedStreamCall b c.clock script).2.2).reverse ++ ts) := by
  rcases Int.lt_or_le 0 h.maxAttempts with made | zero
  · have within := within 0 made
    rcases Classical.em (b.Rejects (c.clock 0).first (c.clock 0).second) with rejected | admitted
    · rw [Retry.stackedStreamCall_eq_rejected script made rejected]
      exact (tracks.reject paced.start (paced.check 0) rejected).later ((paced.call 0).trans within)
    · rw [Retry.stackedStreamCall_eq_admitted script made admitted]
      have engaged := tracks.admit paced.start (paced.check 0) admitted .unaryStream
      have ended := (engaged.streamEnd (paced.call 0) (script 0)).later within
      have counts : (Event.streamEnd 0 (script 0) (c.clock 0).done : Event T β).counted
          (b.isOpenCircuit (c.clock 0).first (c.clock 0).second).2 =
            c.outcomes.counted codes 0 := by
        rw [stream, ← engaged.statusForRetry positive]
        exact counted_streamEnd
      rw [counts] at ended
      rw [ClientCall.failures_succ]
      cases counted : c.outcomes.counted codes 0 with
      | true =>
        rw [counted] at ended
        exact ended
      | false =>
        rw [counted] at ended
        exact ended
  · rw [Retry.stackedStreamCall, Retry.interceptStreamCall_zero zero]
    exact tracks.later ends

end

/-- A call of either kind. -/
lemma tracks_through (positive : 1 ≤ F) (paced : Paced now c.clock) (ends : now ≤ c.finish)
    (within : ∀ i : ℕ, i < h.maxAttempts → (c.clock i).done ≤ c.finish)
    (tracks : Tracks β F R codes now b ts) :
    Tracks β F R codes c.finish (c.through h b).1
      ((c.failures codes (c.through h b).2).reverse ++ ts) := by
  unfold ClientCall.through
  cases outcomes : c.outcomes with
  | unary script => exact tracks_unary outcomes paced ends within tracks
  | stream script => exact tracks_stream outcomes positive paced ends within tracks

/-- Calls made one after the other. -/
lemma tracks_session (positive : 1 ≤ F) {calls : List (ClientCall T β)}
    (sequenced : Sequenced h now calls) (tracks : Tracks β F R codes now b ts) :
    ∃ t, Tracks β F R codes t (session h calls b).1 ((session h calls b).2.reverse ++ ts) := by
  induction calls generalizing now b ts with
  | nil => exact ⟨now, tracks⟩
  | cons c calls ih =>
    obtain ⟨paced, ends, within, sequenced⟩ := sequenced
    obtain ⟨t, rest⟩ := ih sequenced (tracks_through positive paced ends within tracks)
    refine ⟨t, ?_⟩
    simp only [session, List.reverse_append, List.append_assoc, tracks.statusForRetry positive]
    exact rest

/-- A session of calls made one after the other is a run of the interceptor in which no two calls
    are in flight, with the same breaker and the same counted failures; so within any closed window
    of length `R` at most `F` failures are counted, whatever is retried. -/
theorem session_law [AddRightMono T] (positive : 1 ≤ F) (R : T) (codes : List StatusCode)
    (h : Retry) {t₀ : T} {calls : List (ClientCall T β)} (sequenced : Sequenced h t₀ calls) :
    (∃ (past : History T β) (s : Sys T), Run (sparingInterceptor 0 F R codes) past s ∧
        s.breaker = (session h calls (.init F R codes t₀)).1 ∧
        failureTimes past = (session h calls (.init F R codes t₀)).2.reverse) ∧
      ∀ a, ((session h calls (.init F R codes t₀)).2.countP fun t => a ≤ t ∧ t ≤ a + R : Int) ≤
        F := by
  have start : Tracks β F R codes t₀ (.init F R codes t₀) [] :=
    ⟨[], _, .init ⟨t₀, rfl⟩, rfl, rfl, rfl, le_rfl⟩
  obtain ⟨_, past, s, run, breaker, _, times, _⟩ := tracks_session positive sequenced start
  rw [List.append_nil] at times
  refine ⟨⟨past, s, run, breaker, times⟩, fun a => ?_⟩
  have bound := (within_of_run (a := a) positive run).inWindow_le
    (counter_of_run positive run.unrestrict.unrestrict) positive
  rw [times, inWindow, List.countP_reverse] at bound
  exact bound.trans (by omega)

/-- A clock that moves on by one from attempt to attempt, from `t` on. -/
def eachUnit (t : Int) (i : ℕ) : Breaker.Readings Int :=
  ⟨t + i, t + i, t + i⟩

/-- An outage: the first call fails three times, which opens the circuit until 8; the second is
    turned down at 4; the third fails at 9, in the trial, and its next attempt is turned down. -/
def outage : List (ClientCall Int Unit) :=
  [⟨eachUnit 1, .unary fun _ => .rpcError .unavailable, 3⟩,
    ⟨eachUnit 4, .stream fun _ => ⟨[], some .unavailable⟩, 6⟩,
    ⟨eachUnit 9, .unary fun _ => .rpcError .unavailable, 11⟩]

/-- What is counted of it. -/
example : (session clientRetry outage (clientBreaker 0)).2 = [1, 2, 3, 9] := by decide

/-- The clock never goes back. -/
lemma paced_eachUnit {now t : Int} (start : now ≤ t) : Paced now (eachUnit t) := by
  constructor <;> intros <;> simp only [eachUnit] <;> omega

/-- A call of three attempts is over after two units. -/
lemma finish_eachUnit {t finish : Int} (le : t + 2 ≤ finish) (i : ℕ)
    (lt : i < clientRetry.maxAttempts) : (eachUnit t i).done ≤ finish := by
  have lt : (i : Int) < 3 := lt
  show t + i ≤ finish
  omega

/-- Three failures are counted within the recovery timeout from 1 on, and no more can be. -/
theorem session_law_outage :
    ((session clientRetry outage (clientBreaker 0)).2.countP fun t => 1 ≤ t ∧ t ≤ 1 + 5 : Int) ≤ 3 := by
  have sequenced : Sequenced clientRetry 0 outage := by
    refine ⟨paced_eachUnit (by decide), by decide, finish_eachUnit (by decide), ?_⟩
    refine ⟨paced_eachUnit (by decide), by decide, finish_eachUnit (by decide), ?_⟩
    exact ⟨paced_eachUnit (by decide), by decide, finish_eachUnit (by decide), trivial⟩
  exact (session_law (by decide) 5 statusForRetry clientRetry sequenced).2 1

end GrpcSample
