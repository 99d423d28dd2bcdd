import GrpcSample.Auth.Interop
import GrpcSample.Client.Outage
import GrpcSample.Client.Session

/-!
# A client that is refused

What becomes of a client whose calls the server refuses, as it does with a token that it does not
accept: `UNAUTHENTICATED` from the Java and Kotlin servers, and `UNKNOWN` from a server whose
interceptor raises. Neither status is in `status_for_retry`, so no call is tried again. But
`_call_unary` counts an error whatever its status is, while `_call_stream` counts only those in the
list. So calls with a single response open the client's own circuit, and calls with a response
stream do not; `refused_law` says which calls still get to the server, for any sequence of calls of
both kinds within the recovery timeout.
-/

namespace GrpcSample
open Retry

variable {T β : Type*}

/-- The status that a client sees when a JVM server's interceptor does not forward its call. -/
def Handling.refusal : Handling → Option StatusCode
  | .closed _ => some .unauthenticated
  | .threw _ => some .unknown
  | .forwarded _ | .ignored => none

/-- The status that it sees when the Python server's interceptor raises. -/
def Outcome.refusal {ρ ε : Type*} : Outcome ρ ε → Option StatusCode
  | .raised _ => some .unknown
  | .continued _ => none

/-- The client does not try a refused call again, and its breaker's stream path does not count it.
    -/
lemma refusal_not_retried {handling : Handling} {status : StatusCode}
    (refused : handling.refusal = some status) : status ∉ statusForRetry := by
  cases handling <;> cases refused <;> decide

/-- Every attempt of the call comes back with the status. -/
def Outcomes.Refused (status : StatusCode) : Outcomes β → Prop
  | .unary script => ∀ i, script i = .rpcError status
  | .stream script => ∀ i, script i = ⟨[], some status⟩

/-- A call with a single response. -/
def Outcomes.single : Outcomes β → Bool
  | .unary _ => true
  | .stream _ => false

variable [LinearOrder T] [Add T] {h : Retry} {b b' : Breaker T} {c : ClientCall T β} {n : ℕ}
  {status : StatusCode}

/-- The breaker when `n` calls with a single response have been refused, since it was `b`. -/
inductive After (b : Breaker T) (n : ℕ) : Breaker T → Prop where
  | counts :
    n < slack b →
    After b n (worn b n)
  | opened {o : Breaker T} :
    slack b ≤ n →
    o.state = .opened →
    b.recoveryTime + b.recoveryTimeout ≤ o.recoveryTime →
    After b n o

/-- An open circuit turns the call down, and stays as it is. -/
lemma through_opened (positive : 1 ≤ h.maxAttempts) (opened : b.state = .opened)
    (early : (c.clock 0).first ≤ b.recoveryTime) : c.through h b = (b, 0) := by
  have rejected : b.Rejects (c.clock 0).first (c.clock 0).second := .inl ⟨opened, early⟩
  have checked : (b.isOpenCircuit (c.clock 0).first (c.clock 0).second).2 = b :=
    Breaker.isOpenCircuit_snd_of_le fun _ => early
  unfold ClientCall.through
  cases c.outcomes with
  | unary script =>
    have stacked : h.stackedUnaryCall b c.clock script = _ :=
      stackedUnaryCall_eq (j := 0) positive nofun nofun (pass_rejected rejected) nofun
    simp only [stacked, breakerAt, checked]
  | stream script => simp only [stackedStreamCall_eq_rejected script positive rejected, checked]

/-- While the circuit is closed the call reaches the server, and is counted if it has a single
    response. -/
lemma through_closed (positive : 1 ≤ h.maxAttempts) (final : status ∉ h.statusForRetry)
    (uncounted : status ∉ b.statusForRetry) (closed : b.state = .closed)
    (refused : c.outcomes.Refused status) (onTime : b.recoveryTime ≤ (c.clock 0).second) :
    c.through h b = (if c.outcomes.single then
      b.setFailureCount (b.failureCount + 1) (c.clock 0).done else b, 1) := by
  have admitted : ¬ b.Rejects (c.clock 0).first (c.clock 0).second := by
    rw [rejects_iff_of_closed closed]
    exact not_lt.mpr onTime
  have checked : (b.isOpenCircuit (c.clock 0).first (c.clock 0).second).2 = b := by
    apply Breaker.isOpenCircuit_snd_of_le
    intro opened
    rw [closed] at opened
    cases opened
  unfold ClientCall.through
  cases outcomes : c.outcomes with
  | unary script =>
    rw [outcomes] at refused
    have returns : ¬ h.Retries 0 (some (script 0)) := by
      rw [refused 0]
      rintro ⟨_, status', mem, eq⟩
      cases eq
      exact final mem
    have stacked := stackedUnaryCall_eq positive (fun _ lt => absurd lt (Nat.not_lt_zero _))
      (fun _ lt => absurd lt (Nat.not_lt_zero _)) (pass_admitted admitted) returns
    simp only [stacked, breakerAt, checked, refused 0]
    rfl
  | stream script =>
    rw [outcomes] at refused
    have other : b.state ≠ .halfOpened := by
      intro half
      rw [closed] at half
      cases half
    have kept : (b.afterStream (script 0) (c.clock 0).done).1 = b := by
      rw [refused 0, Breaker.afterStream_other (fun half => absurd half other) uncounted,
        if_neg other]
    simp only [stackedStreamCall_eq_admitted script positive admitted, checked, kept]
    rfl

/-- A refused call reaches the server while there is room, and is counted if it has a single
    response. -/
lemma After.step [AddRightMono T] (positive : 1 ≤ h.maxAttempts) (final : status ∉ h.statusForRetry)
    (uncounted : status ∉ b.statusForRetry) (closed : b.state = .closed)
    (refused : c.outcomes.Refused status) (swift : Swift b c.clock) (after : After b n b') :
    (c.through h b').2 = (if n < slack b then 1 else 0) ∧
      After b (n + if c.outcomes.single then 1 else 0) (c.through h b').1 := by
  cases after with
  | counts lt =>
    have through := through_closed (b := worn b n) positive final uncounted closed refused
      (swift.second 0)
    rw [through, if_pos lt]
    refine ⟨rfl, ?_⟩
    cases single : c.outcomes.single with
    | false => exact .counts lt
    | true =>
      show After b (n + 1) ((worn b n).setFailureCount (b.failureCount + n + 1) (c.clock 0).done)
      rcases Nat.lt_or_ge (n + 1) (slack b) with fits | full
      · rw [Breaker.setFailureCount_keeps, Int.add_assoc]
        · exact .counts fits
        · rintro (reached | ⟨_, half⟩)
          · have reached : b.failureCount + n + 1 = b.failureThreshold := reached
            unfold slack at fits
            omega
          · have half : b.state = .halfOpened := half
            rw [closed] at half
            cases half
      · have opens : (worn b n).Opens (b.failureCount + n + 1) := by
          left
          show b.failureCount + n + 1 = b.failureThreshold
          unfold slack at lt full
          omega
        rw [Breaker.setFailureCount_opens opens]
        exact .opened full rfl (add_le_add_left (swift.done 0) _)
  | opened full opened late =>
    rw [through_opened positive opened ((swift.first 0).trans late), if_neg (Nat.not_lt.mpr full)]
    exact ⟨rfl, .opened (Nat.le_add_right_of_le full) opened late⟩

/-- So are the calls of a session, one after the other. -/
lemma After.session [AddRightMono T] (positive : 1 ≤ h.maxAttempts)
    (final : status ∉ h.statusForRetry) (uncounted : status ∉ b.statusForRetry)
    (closed : b.state = .closed) {calls : List (ClientCall T β)}
    (refused : ∀ c ∈ calls, c.outcomes.Refused status) (swift : ∀ c ∈ calls, Swift b c.clock)
    (after : After b n b') :
    After b (n + calls.countP (·.outcomes.single)) (session h calls b').1 := by
  induction calls generalizing n b' with
  | nil => exact after
  | cons c calls ih =>
    have next := (after.step positive final uncounted closed (refused c List.mem_cons_self)
      (swift c List.mem_cons_self)).2
    have rest := ih (fun c' mem => refused c' (List.mem_cons_of_mem c mem))
      (fun c' mem => swift c' (List.mem_cons_of_mem c mem)) next
    rw [List.countP_cons, Nat.add_comm (calls.countP _), ← Nat.add_assoc]
    exact rest

/-- A client that the server refuses, with a status that is in neither list, and whose breaker is
    `CLOSED` with room for a failure. Within the recovery timeout a call reaches the server, once,
    if and only if fewer calls with a single response have been made before it than there is room
    for, and after that many the circuit is open. Response streams do not count. -/
theorem refused_law [AddRightMono T] (positive : 1 ≤ h.maxAttempts)
    (final : status ∉ h.statusForRetry) (uncounted : status ∉ b.statusForRetry)
    (closed : b.state = .closed) (room : b.failureCount < b.failureThreshold)
    {calls : List (ClientCall T β)} (refused : ∀ c ∈ calls, c.outcomes.Refused status)
    (swift : ∀ c ∈ calls, Swift b c.clock) :
    (∀ before c later, calls = before ++ c :: later →
        (c.through h (session h before b).1).2 =
          if before.countP (·.outcomes.single) < slack b then 1 else 0) ∧
      (session h calls b).1.state =
        if calls.countP (·.outcomes.single) < slack b then .closed else .opened := by
  have start : After b 0 b := by
    have fresh : After b 0 (worn b 0) := .counts (by unfold slack; omega)
    simpa [worn] using fresh
  constructor
  · rintro before c later rfl
    have after := start.session positive final uncounted closed
      (fun c' mem => refused c' (List.mem_append_left _ mem))
      (fun c' mem => swift c' (List.mem_append_left _ mem))
    rw [Nat.zero_add] at after
    exact (after.step positive final uncounted closed (refused c (by simp)) (swift c (by simp))).1
  · have after := start.session positive final uncounted closed refused swift
    rw [Nat.zero_add] at after
    generalize (session h calls b).1 = b' at after ⊢
    cases after with
    | counts fits =>
      rw [if_pos fits]
      exact closed
    | opened full opened _ => rw [opened, if_neg (Nat.not_lt.mpr full)]

/-- A call that is refused in the first second. -/
def refusedCall (single : Bool) : ClientCall Int Unit where
  clock _ := ⟨1, 1, 1⟩
  outcomes :=
    if single then .unary fun _ => .rpcError .unauthenticated
    else .stream fun _ => ⟨[], some .unauthenticated⟩
  finish := 1

/-- Two calls with a single response, a stream and a third call with a single response are refused
    by the Java server. With the third failure the client's circuit is open, and the next stream
    does not reach the server. -/
theorem refused_law_unauthenticated :
    (Java.interceptCall (fun _ => .error (.jwtException "expired")) false
        (some "Bearer e30")).refusal = some .unauthenticated ∧
      (session clientRetry ([true, true, false, true].map refusedCall) (clientBreaker 0)).1.state =
        .opened ∧
      ((refusedCall false).through clientRetry (session clientRetry
        ([true, true, false, true].map refusedCall) (clientBreaker 0)).1).2 = 0 := by
  have refused : (Java.interceptCall (fun _ => .error (.jwtException "expired")) false
      (some "Bearer e30")).refusal = some .unauthenticated := rfl
  have final := refusal_not_retried refused
  have each : ∀ c ∈ [true, true, false, true, false].map refusedCall,
      c.outcomes.Refused .unauthenticated ∧ Swift (clientBreaker 0) c.clock := by
    intro c mem
    obtain ⟨single, _, rfl⟩ := List.mem_map.mp mem
    refine ⟨by cases single <;> exact fun _ => rfl, ?_⟩
    exact ⟨fun _ => show (1 : Int) ≤ 0 + 5 by decide, fun _ => Int.zero_le_ofNat 1,
      fun _ => Int.zero_le_ofNat 1⟩
  have law := refused_law (h := clientRetry) (b := clientBreaker 0) (by decide) final final rfl
    (by decide) (fun c mem => (each c mem).1) fun c mem => (each c mem).2
  obtain ⟨_, opened⟩ := refused_law (h := clientRetry) (b := clientBreaker 0) (by decide) final final
    rfl (by decide) (fun c mem => (each c (List.mem_of_mem_dropLast mem)).1)
    fun c mem => (each c (List.mem_of_mem_dropLast mem)).2
  exact ⟨refused, opened, law.1 ([true, true, false, true].map refusedCall) (refusedCall false) [] rfl⟩

end GrpcSample
