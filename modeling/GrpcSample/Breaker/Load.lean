import GrpcSample.Breaker.Admission
import GrpcSample.Breaker.Counter
import Mathlib.Algebra.Order.Group.Int

/-!
# The load on a failing server

Unary calls made one after the other, each over before the next is attempted; they may as well be
the attempts of a retry interceptor around the breaker. Whatever the outcomes, no closed window of
the length of the recovery timeout holds more failures that reached the server than the threshold.

Such a run of calls is a run of the interceptor (`System.lean`), two phases a call, so the admission
law and the counter law hold along it; without stragglers it is also a run of the abstract limiter
of `Lib/Lockout.lean`. `Sequential` is the simulation relation: the limiter's lock is the last
opening, its count is the counter while the breaker is `CLOSED` and zero otherwise.
`Sequential.pass` is the simulation step, and the bound is `window_bound` of the limiter.
-/

namespace GrpcSample
open Lts Lockout

variable {T β : Type*} [LinearOrder T] [Add T]

/-- A unary call: the readings of its pass and what the server answers, should it be reached. -/
structure UnaryCall (T β : Type*) where
  readings : Breaker.Readings T
  outcome : Reply β

/-- The call goes through the breaker. -/
def Breaker.pass (b : Breaker T) (c : UnaryCall T β) : Option (Reply β) × Breaker T :=
  let (answer, w) := interceptUnaryCall c.readings (fun (u : Unit) => (c.outcome, u)) (b, ())
  (answer, w.1)

/-- The times at which calls that reached the continuation were over with an `RpcError`. -/
def Breaker.failures (b : Breaker T) : List (UnaryCall T β) → List T
  | [] => []
  | c :: calls =>
    match b.pass c with
    | (some (.rpcError _), b') => c.readings.done :: b'.failures calls
    | (_, b') => b'.failures calls

/-- The readings of successive calls never go back, from `now` on. -/
def Orderly (now : T) : List (UnaryCall T β) → Prop
  | [] => True
  | c :: calls =>
    now ≤ c.readings.first ∧ c.readings.first ≤ c.readings.second ∧
      c.readings.second ≤ c.readings.done ∧ Orderly c.readings.done calls

variable {F : Int} {R : T} {codes : List StatusCode}

/-- A call that is rejected has no outcome. -/
lemma Breaker.pass_rejected {b : Breaker T} {c : UnaryCall T β}
    (h : b.Rejects c.readings.first c.readings.second) :
    b.pass c = (none, (b.isOpenCircuit c.readings.first c.readings.second).2) := by
  rw [pass, interceptUnaryCall_rejected (w := (b, ())) h]

/-- A call that is admitted has its own, and it is counted. -/
lemma Breaker.pass_accepted {b : Breaker T} {c : UnaryCall T β}
    (h : ¬ b.Rejects c.readings.first c.readings.second) :
    b.pass c = (some c.outcome,
      (b.isOpenCircuit c.readings.first c.readings.second).2.afterUnary c.outcome
        c.readings.done) := by
  rw [pass, interceptUnaryCall_accepted (w := (b, ())) h]

/-- A rejected call is no failure. -/
lemma Breaker.failures_none {b b' : Breaker T} {c : UnaryCall T β} {calls}
    (h : b.pass c = (none, b')) : b.failures (c :: calls) = b'.failures calls := by
  simp [failures, h]

/-- Nor is a response. -/
lemma Breaker.failures_response {b b' : Breaker T} {c : UnaryCall T β} {m calls}
    (h : b.pass c = (some (.response m), b')) :
    b.failures (c :: calls) = b'.failures calls := by
  simp [failures, h]

/-- An error is one. -/
lemma Breaker.failures_rpcError {b b' : Breaker T} {c : UnaryCall T β} {status calls}
    (h : b.pass c = (some (.rpcError status), b')) :
    b.failures (c :: calls) = c.readings.done :: b'.failures calls := by
  simp [failures, h]

/-- The breaker's run and the limiter's, side by side. -/
structure Sequential (F : Int) (R : T) (codes : List StatusCode) (past : History T β) (s : Sys T)
    (locks : List (Entry (Limiter T) (Mark T))) (ℓ : Limiter T) : Prop where
  run : Run (timedInterceptor F R codes) past s
  limited : Run (limiter F.toNat R) locks ℓ
  last : ℓ.last = lastOpening past
  used : (ℓ.used : Int) = if s.breaker.state = .closed then s.breaker.failureCount else 0
  sorted : (times locks).Pairwise (· ≥ ·)
  latest : ∀ t ∈ times locks, t ≤ s.now

section
variable {past : History T β} {s : Sys T} {locks : List (Entry (Limiter T) (Mark T))}
  {ℓ : Limiter T} {t₁ t₂ t : T} {i : Nat}

/-- A rejected attempt changes neither side. -/
lemma Sequential.reject (seq : Sequential F R codes past s locks ℓ) (positive : 1 ≤ F)
    (h₁ : s.now ≤ t₁) (h₂ : t₁ ≤ t₂) (h : s.breaker.Rejects t₁ t₂) :
    ∃ past' : History T β, Sequential F R codes past' ⟨s.breaker, s.calls, t₂⟩ locks ℓ := by
  have win := window_of_run positive seq.run
  have st : Step s (.attempt .unaryUnary t₁ t₂ : Event T β) _ := .reject (by simp [h])
  rw [win.rejects_keeps h₁ h₂ h] at st
  refine ⟨_, seq.run.step ⟨st, h₁, h₂⟩, seq.limited, ?_, seq.used, seq.sorted, ?_⟩
  · exact seq.last
  · exact fun t ht => (seq.latest t ht).trans (h₁.trans h₂)

/-- An accepted attempt finds the lock over, and leaves the breaker `CLOSED` or `HALF_OPENED`. -/
lemma Sequential.accept (seq : Sequential F R codes past s locks ℓ) (positive : 1 ≤ F)
    (h₁ : s.now ≤ t₁) (h₂ : t₁ ≤ t₂) (h : ¬ s.breaker.Rejects t₁ t₂) :
    ∃ (past' : History T β) (s' : Sys T), Sequential F R codes past' s' locks ℓ ∧
      s'.breaker = (s.breaker.isOpenCircuit t₁ t₂).2 ∧ s'.now = t₂ ∧
      s'.calls[s.calls.length]? = some ⟨.unaryUnary, .running⟩ ∧
      s'.breaker.state ≠ .opened ∧ ¬ Locked R ℓ.last t₁ := by
  have win := window_of_run positive seq.run
  have st : Step s (.attempt .unaryUnary t₁ t₂ : Event T β) _ := .accept (by simp [h])
  have used := seq.used
  refine ⟨_, _, ⟨seq.run.step ⟨st, h₁, h₂⟩, seq.limited, seq.last, ?_, seq.sorted, ?_⟩,
    rfl, rfl, ?_, ?_, ?_⟩
  · rw [Breaker.isOpenCircuit_snd]
    split
    · next passed =>
      rw [passed.2] at used
      exact used
    · exact used
  · exact fun t ht => (seq.latest t ht).trans (h₁.trans h₂)
  · simp [CallKind.admitted, CallKind.streamsResponses]
  · exact Breaker.checked_not_opened h
  · rw [seq.last]
    exact mt (win.rejects_iff h₁ h₂).mpr h

/-- A response closes a half-open circuit and leaves the limiter alone. -/
lemma Sequential.response (seq : Sequential F R codes past s locks ℓ) (positive : 1 ≤ F)
    (later : s.now ≤ t) (running : s.calls[i]? = some ⟨.unaryUnary, .running⟩) (m : β) :
    ∃ (past' : History T β) (s' : Sys T), Sequential F R codes past' s' locks ℓ ∧
      s'.breaker = s.breaker.afterUnary (.response m) t ∧ s'.now = t := by
  obtain ⟨threshold, _, _⟩ := config_of_run positive seq.run.unrestrict
  have st : Step s (.unaryEnd i (.response m) t) _ := .unaryEnd running rfl
  have used := seq.used
  refine ⟨_, _, ⟨seq.run.step ⟨st, later, le_rfl⟩, seq.limited, seq.last, ?_, seq.sorted, ?_⟩,
    rfl, rfl⟩
  · rw [Breaker.afterUnary_response (by omega)]
    split
    · next half =>
      rw [half] at used
      exact used
    · exact used
  · exact fun t ht => (seq.latest t ht).trans later

/-- A failure takes one of the limiter's failures, or its lock. -/
lemma Sequential.rpcError (seq : Sequential F R codes past s locks ℓ) (positive : 1 ≤ F)
    (later : s.now ≤ t) (running : s.calls[i]? = some ⟨.unaryUnary, .running⟩)
    (shut : s.breaker.state ≠ .opened) (unlocked : ¬ Locked R ℓ.last t) (status : StatusCode) :
    ∃ (past' : History T β) (s' : Sys T) (locks' : List (Entry (Limiter T) (Mark T)))
      (ℓ' : Limiter T), Sequential F R codes past' s' locks' ℓ' ∧
      s'.breaker = s.breaker.afterUnary (.rpcError status : Reply β) t ∧ s'.now = t ∧
      times locks' = t :: times locks := by
  have count := counter_of_run positive seq.run.unrestrict
  have st : Step s (.unaryEnd i (.rpcError status) t : Event T β) _ := .unaryEnd running rfl
  have used := seq.used
  have room : ℓ.used < F.toNat := by
    have lt := count.lt
    split at used <;> omega
  have sorted : (t :: times locks).Pairwise (· ≥ ·) :=
    List.pairwise_cons.mpr ⟨fun t' ht' => (seq.latest t' ht').trans later, seq.sorted⟩
  have latest : ∀ t' ∈ t :: times locks, t' ≤ t := by
    intro t' ht'
    rcases List.mem_cons.mp ht' with rfl | ht'
    · exact le_rfl
    · exact (seq.latest t' ht').trans later
  by_cases o : s.breaker.Opens (s.breaker.failureCount + 1)
  · -- an opening is the limiter's lock; both counts start again from zero
    have lock : (limiter F.toNat R).step ℓ (.lock t) ⟨some t, 0⟩ := ⟨unlocked, room, rfl⟩
    refine ⟨_, _, _, _, ⟨seq.run.step ⟨st, later, le_rfl⟩, seq.limited.step lock, ?_, ?_, sorted,
      latest⟩, rfl, rfl, rfl⟩
    · exact Eq.symm (lastOpening_opens (Event.opening_iff.mpr ⟨rfl, o⟩))
    · rw [Breaker.afterUnary_rpcError, Breaker.setFailureCount_opens o]
      rfl
  · -- a failure that opens nothing leaves only `CLOSED`: in `HALF_OPENED` every failure opens
    have closed : s.breaker.state = .closed := by
      cases state : s.breaker.state with
      | closed => rfl
      | opened => exact absurd state shut
      | halfOpened => exact absurd (.inr ⟨by omega, state⟩) o
    have failure : (limiter F.toNat R).step ℓ (.failure t) { ℓ with used := ℓ.used + 1 } :=
      ⟨unlocked, room, rfl⟩
    refine ⟨_, _, _, _, ⟨seq.run.step ⟨st, later, le_rfl⟩, seq.limited.step failure, ?_, ?_, sorted,
      latest⟩, rfl, rfl, rfl⟩
    · refine seq.last.trans (lastOpening_keeps (Bool.eq_false_iff.mpr ?_)).symm
      exact fun h => o (Event.opening_iff.mp h).2
    · rw [Breaker.afterUnary_rpcError, Breaker.setFailureCount_keeps o]
      rw [if_pos closed] at used ⊢
      simp [used]

/-- One call, on both sides: the limiter sees a failure when the call failed at the server. -/
lemma Sequential.pass (seq : Sequential F R codes past s locks ℓ) (positive : 1 ≤ F)
    (c : UnaryCall T β) (h₁ : s.now ≤ c.readings.first)
    (h₂ : c.readings.first ≤ c.readings.second) (h₃ : c.readings.second ≤ c.readings.done)
    (calls : List (UnaryCall T β)) :
    ∃ (past' : History T β) (s' : Sys T) (locks' : List (Entry (Limiter T) (Mark T)))
      (ℓ' : Limiter T), Sequential F R codes past' s' locks' ℓ' ∧ s'.now ≤ c.readings.done ∧
      (s.breaker.failures (c :: calls)).reverse ++ times locks =
        (s'.breaker.failures calls).reverse ++ times locks' := by
  by_cases h : s.breaker.Rejects c.readings.first c.readings.second
  · obtain ⟨past', seq'⟩ := seq.reject positive h₁ h₂ h
    have keeps := (window_of_run positive seq.run).rejects_keeps h₁ h₂ h
    refine ⟨_, _, _, _, seq', h₃, ?_⟩
    rw [Breaker.failures_none (Breaker.pass_rejected h), keeps]
  · obtain ⟨past', s', seq', breaker, now, running, shut, unlocked⟩ := seq.accept positive h₁ h₂ h
    have pass := Breaker.pass_accepted h
    rw [← breaker] at pass
    have later : s'.now ≤ c.readings.done := now ▸ h₃
    cases outcome : c.outcome with
    | response m =>
      rw [outcome] at pass
      obtain ⟨_, s'', seq'', breaker', now'⟩ := seq'.response positive later running m
      refine ⟨_, _, _, _, seq'', now'.le, ?_⟩
      rw [Breaker.failures_response pass, breaker']
    | rpcError status =>
      rw [outcome] at pass
      have unlocked' : ¬ Locked R ℓ.last c.readings.done := by
        rintro ⟨τ, hτ, le⟩
        exact unlocked ⟨τ, hτ, (h₂.trans h₃).trans le⟩
      obtain ⟨_, s'', _, _, seq'', breaker', now', ts⟩ :=
        seq'.rpcError positive later running shut unlocked' status
      refine ⟨_, _, _, _, seq'', now'.le, ?_⟩
      rw [Breaker.failures_rpcError pass, breaker', ts]
      simp

/-- A whole sequence of calls, on both sides. -/
lemma Sequential.passes (positive : 1 ≤ F) {calls : List (UnaryCall T β)} {now : T}
    (seq : Sequential F R codes past s locks ℓ) (le : s.now ≤ now) (orderly : Orderly now calls) :
    ∃ (locks' : List (Entry (Limiter T) (Mark T))) (ℓ' : Limiter T),
      Run (limiter F.toNat R) locks' ℓ' ∧ (times locks').Pairwise (· ≥ ·) ∧
      (s.breaker.failures calls).reverse ++ times locks = times locks' := by
  induction calls generalizing past s locks ℓ now with
  | nil => exact ⟨_, _, seq.limited, seq.sorted, rfl⟩
  | cons c calls ih =>
    obtain ⟨h₁, h₂, h₃, orderly⟩ := orderly
    obtain ⟨_, s', locks', ℓ', seq', le', ts⟩ := seq.pass positive c (le.trans h₁) h₂ h₃ calls
    rw [ts]
    exact ih seq' le' orderly

end

/-- The breaker bounds the load on a failing server: in a run of unary calls made one after the
    other, at most `F` calls that reached the server fail within any closed window of length `R`. -/
theorem load_bound [AddRightMono T] (positive : 1 ≤ F) (R : T) (codes : List StatusCode) {t₀ : T}
    {calls : List (UnaryCall T β)} (orderly : Orderly t₀ calls) (a : T) :
    (((Breaker.init F R codes t₀).failures calls).countP fun t => a ≤ t ∧ t ≤ a + R : Int) ≤ F := by
  have seq : Sequential F R codes ([] : History T β) ⟨.init F R codes t₀, [], t₀⟩ [] ⟨none, 0⟩ := by
    refine ⟨.init ⟨t₀, rfl⟩, .init rfl, rfl, rfl, .nil, nofun⟩
  obtain ⟨locks, ℓ, limited, sorted, ts⟩ := seq.passes positive le_rfl orderly
  have bound := window_bound limited sorted a
  rw [← ts, inWindow, List.countP_append, List.countP_reverse] at bound
  simp only [times, List.map_nil, List.countP_nil, Nat.add_zero] at bound
  omega

/-- A call that fails at 2, one that is rejected at 7, one that fails at 9. -/
def threeCalls : List (UnaryCall Int Unit) :=
  [⟨⟨1, 1, 2⟩, .rpcError .unavailable⟩, ⟨⟨7, 7, 7⟩, .rpcError .unavailable⟩,
    ⟨⟨8, 8, 9⟩, .rpcError .unavailable⟩]

example : (Breaker.init 1 5 [.unavailable] 0).failures threeCalls = [2, 9] := by decide

/-- The failure at 2 opens the circuit, and the one at 9 is outside its window. -/
theorem load_bound_threeCalls :
    (((Breaker.init 1 5 [.unavailable] 0).failures threeCalls).countP
      fun t => 2 ≤ t ∧ t ≤ 2 + 5 : Int) ≤ 1 :=
  load_bound (by decide) 5 [.unavailable] (by simp [Orderly, threeCalls]) 2

end GrpcSample
