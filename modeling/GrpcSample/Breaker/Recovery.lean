import GrpcSample.Breaker.Counter

/-!
# Half-open recovery

A call that succeeds while the breaker is `HALF_OPENED` is to close the circuit. `_call_unary` does
so; `_call_stream` has that branch only in its `except` clause, so a stream that ends with status
OK, whatever it delivered, leaves the breaker `HALF_OPENED`.
-/

namespace GrpcSample
open Lts

variable {T β : Type*}

/-- The phase ends call `i` with status OK, all response messages being consumed. -/
def Event.EndsOk (i : Nat) : Event T β → Prop
  | .unaryEnd j (.response _) _ => j = i
  | .streamEnd j ⟨_, none⟩ _ => j = i
  | _ => False

variable [LinearOrder T] [Add T]
  {F : Int} {R : T} {codes : List StatusCode} {past : History T β} {s s' : Sys T} {e : Event T β}

/-- In `HALF_OPENED` a call that ends with status OK closes the circuit if and only if it has a
    single response. -/
theorem recovers_iff (positive : 1 ≤ F) (run : Run (interceptor F R codes) past s)
    (half : s.breaker.state = .halfOpened) {i : Nat} {kind : CallKind}
    (running : s.calls[i]? = some ⟨kind, .running⟩) (ok : e.EndsOk i) (st : Step s e s') :
    (s'.breaker.state = .closed ∧ s'.breaker.failureCount = 0) ↔ kind.streamsResponses = false := by
  obtain ⟨threshold, _, _⟩ := config_of_run positive run
  cases st with
  | reject _ => cases ok
  | accept _ => cases ok
  | advance _ => cases ok
  | @unaryEnd j kind' response t found unary =>
    cases response with
    | rpcError _ => cases ok
    | response m =>
      cases ok
      rw [found] at running
      cases running
      rw [Breaker.afterUnary_response (by omega), if_pos half]
      exact ⟨fun _ => unary, fun _ => ⟨rfl, rfl⟩⟩
  | @streamEnd j kind' response t found stream =>
    obtain ⟨ms, error⟩ := response
    cases error with
    | some _ => cases ok
    | none =>
      cases ok
      rw [found] at running
      cases running
      rw [Breaker.afterStream_ok, stream]
      refine ⟨?_, nofun⟩
      rintro ⟨h, _⟩
      rw [half] at h
      cases h

-- After the run of `failedOnce` a stream is admitted at 8, which makes the breaker `HALF_OPENED`;
-- it delivers one message and ends with status OK at 9.

/-- The stream is under way. -/
def trying : Sys Int := ⟨{ failedOnce.breaker with state := .halfOpened },
  [⟨.unaryUnary, .finished⟩, ⟨.unaryStream, .running⟩], 8⟩

/-- How the breaker got to `trying`. -/
def tryingHistory : History Int Unit :=
  [⟨⟨{ failedOnce.breaker with state := .halfOpened },
      [⟨.unaryUnary, .finished⟩, ⟨.unaryStream, .created⟩], 8⟩, .advance 1 8, trying⟩,
    ⟨failedOnce, .attempt .unaryStream 8 8, ⟨{ failedOnce.breaker with state := .halfOpened },
      [⟨.unaryUnary, .finished⟩, ⟨.unaryStream, .created⟩], 8⟩⟩] ++ failedOnceHistory

/-- The stream is admitted at 8, as the trial, and advanced. -/
lemma trying_run : Run (timedInterceptor 1 5 [.unavailable]) tryingHistory trying :=
  .step (.step failedOnce_run ⟨.accept (by decide), by decide, by decide⟩)
    ⟨.advance rfl, by decide, by decide⟩

/-- The stream ends with status OK. -/
def delivered : Event Int Unit := .streamEnd 1 ⟨[()], none⟩ 9

/-- The stream is over, and the breaker is as it was. -/
def tried : Sys Int := ⟨trying.breaker, [⟨.unaryUnary, .finished⟩, ⟨.unaryStream, .finished⟩], 9⟩

/-- The end of the stream is a step. -/
lemma delivered_step : Step trying delivered tried := .streamEnd rfl rfl

/-- The stream leaves the breaker `HALF_OPENED`. -/
theorem stream_not_recovering :
    ¬ ∀ (past : History Int Unit) (s s' : Sys Int) (e : Event Int Unit) (i : Nat) (kind : CallKind),
      Run (timedInterceptor 1 5 [.unavailable]) past s → s.breaker.state = .halfOpened →
      s.calls[i]? = some ⟨kind, .running⟩ → e.EndsOk i → Step s e s' →
      s'.breaker.state = .closed ∧ s'.breaker.failureCount = 0 := by
  intro recovers
  have ok : delivered.EndsOk 1 := rfl
  obtain ⟨closed, _⟩ := recovers _ _ _ _ 1 .unaryStream trying_run rfl rfl ok delivered_step
  exact absurd closed (by decide)

/-- The stream does not close the circuit, as it has more than one response. -/
theorem recovers_iff_delivered :
    (tried.breaker.state = .closed ∧ tried.breaker.failureCount = 0) ↔
      CallKind.unaryStream.streamsResponses = false :=
  have ok : delivered.EndsOk 1 := rfl
  recovers_iff (by decide) trying_run.unrestrict rfl rfl ok delivered_step

end GrpcSample
