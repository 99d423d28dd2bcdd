import GrpcSample.Breaker.System

/-!
# The counter and the transitions

What holds of `failure_count` and of the state under any interleaving and any clock. The code opens
the circuit on `==`, not on `>=`, so everything rests on the counter never skipping the threshold:
`Counter` keeps it in `[0, threshold)` in all three states, also while stragglers raise it in
`OPENED`, and identifies it in `CLOSED` with the number of counted failures since the breaker
entered that state. `Transition` lists what one phase may do to the state; `counter_law` has both
for every reachable state and every phase on the way to it.
-/

namespace GrpcSample
open Lts

variable {T β : Type*} [LinearOrder T] [Add T]
  {F : Int} {R : T} {codes : List StatusCode} {past : History T β} {s s' : Sys T} {e : Event T β}

/-- The counter is in its range, and in `CLOSED` it is the number of failures since then. -/
structure Counter (F : Int) (past : History T β) (s : Sys T) : Prop where
  nonneg : 0 ≤ s.breaker.failureCount
  lt : s.breaker.failureCount < F
  closed : s.breaker.state = .closed → s.breaker.failureCount = failuresSinceClosed past

/-- A step keeps it so. -/
lemma Counter.step (count : Counter F past s) (threshold : s.breaker.failureThreshold = F)
    (positive : 1 ≤ F) (change : Change s.breaker e s'.breaker) :
    Counter F (⟨s, e, s'⟩ :: past) s' := by
  obtain ⟨nonneg, lt, closed⟩ := count
  generalize eq : s'.breaker = b' at change
  cases change with
  | opens o =>
    refine ⟨?_, ?_, ?_⟩ <;> rw [eq]
    · exact le_rfl
    · exact positive
    · exact nofun
  | counts c o =>
    have ne : s.breaker.failureCount + 1 ≠ F := by
      intro h
      have := Event.opening_iff.mpr ⟨c, .inl (h.trans threshold.symm)⟩
      rw [o] at this
      cases this
    refine ⟨?_, ?_, ?_⟩ <;> rw [eq]
    · exact Int.add_nonneg nonneg (by decide)
    · show s.breaker.failureCount + 1 < F
      omega
    · intro h
      rw [failuresSinceClosed_counted h c, ← closed h]
  | closes c half =>
    have before : s.breaker.state ≠ .closed := by
      rw [half]
      exact nofun
    refine ⟨?_, ?_, ?_⟩ <;> rw [eq]
    · exact le_rfl
    · exact positive
    · intro _
      rw [failuresSinceClosed_enters before (by rw [eq]; rfl)]
      rfl
  | halfOpens attempt open' passed =>
    refine ⟨?_, ?_, ?_⟩ <;> rw [eq]
    · exact nonneg
    · exact lt
    · exact nofun
  | keeps c =>
    refine ⟨?_, ?_, ?_⟩ <;> rw [eq]
    · exact nonneg
    · exact lt
    · intro h
      rw [failuresSinceClosed_keeps h c]
      exact closed h

/-- It is so in every run. -/
theorem counter_of_run (positive : 1 ≤ F) (run : Run (interceptor F R codes) past s) :
    Counter F past s := by
  refine Run.invariant (I := Counter F) ?_ ?_ run
  · rintro s ⟨t, rfl⟩
    exact ⟨le_rfl, positive, fun _ => rfl⟩
  · intro past s e s' run count st
    obtain ⟨threshold, _, _⟩ := config_of_run positive run
    exact count.step threshold positive (change_of_run positive run st)

section
variable {b b' : Breaker T}

/-- The counter is zero when the breaker enters `CLOSED`. -/
lemma Change.entersClosed (change : Change b e b') (before : b.state ≠ .closed)
    (after : b'.state = .closed) : b'.failureCount = 0 := by
  cases change with
  | opens _ => rfl
  | counts _ _ => exact absurd after before
  | closes _ _ => rfl
  | halfOpens _ _ _ => cases after
  | keeps _ => exact absurd after before

/-- `CLOSED` goes to `OPENED` exactly at an opening. -/
lemma Change.opened_iff (change : Change b e b') (before : b.state = .closed) :
    b'.state = .opened ↔ e.opening b = true := by
  have other : b.state ≠ .opened := by
    rw [before]
    exact nofun
  cases change with
  | opens o => exact ⟨fun _ => o, fun _ => rfl⟩
  | counts _ o => exact ⟨fun after => absurd after other, fun h => by rw [o] at h; cases h⟩
  | closes _ half =>
    rw [before] at half
    cases half
  | halfOpens _ open' _ => exact absurd open' other
  | keeps c =>
    refine ⟨fun after => absurd after other, fun h => ?_⟩
    rw [Event.opening_eq_false c] at h
    cases h

/-- A counted failure in `HALF_OPENED` opens the circuit. -/
lemma Change.reopens (change : Change b e b') (half : b.state = .halfOpened)
    (counted : e.counted b = true) : b'.state = .opened := by
  have opening : e.opening b = true := Event.opening_iff.mpr ⟨counted, .inr ⟨by omega, half⟩⟩
  cases change with
  | opens _ => rfl
  | counts _ o =>
    rw [o] at opening
    cases opening
  | closes c _ =>
    rw [c] at counted
    cases counted
  | halfOpens _ open' _ =>
    rw [half] at open'
    cases open'
  | keeps c =>
    rw [c] at counted
    cases counted

/-- `HALF_OPENED` is entered only from `OPENED`, and by an admission. -/
lemma Change.entersHalfOpened (change : Change b e b') (before : b.state ≠ .halfOpened)
    (after : b'.state = .halfOpened) :
    b.state = .opened ∧ ∃ kind t₁ t₂, e = .attempt kind t₁ t₂ := by
  cases change with
  | opens _ => cases after
  | counts _ _ => exact absurd after before
  | closes _ _ => cases after
  | @halfOpens kind t₁ t₂ attempt open' _ => exact ⟨open', kind, t₁, t₂, attempt⟩
  | keeps _ => exact absurd after before

/-- From `OPENED` a phase leads to `HALF_OPENED`, if it leads out of it at all. -/
lemma Change.ofOpened (change : Change b e b') (open' : b.state = .opened) :
    b'.state = .opened ∨ b'.state = .halfOpened := by
  cases change with
  | opens _ => exact .inl rfl
  | counts _ _ => exact .inl open'
  | closes _ half =>
    rw [open'] at half
    cases half
  | halfOpens _ _ _ => exact .inr rfl
  | keeps _ => exact .inl open'

end

/-- What a phase may do to the state; `older` is the history before it. -/
structure Transition (F : Int) (older : History T β) (x : Entry (Sys T) (Event T β)) : Prop where
  /-- The counter is zero when the breaker enters `CLOSED`. -/
  entersClosed : x.before.breaker.state ≠ .closed → x.after.breaker.state = .closed →
    x.after.breaker.failureCount = 0
  /-- `CLOSED` goes to `OPENED` exactly at the counted failure that is the threshold-th. -/
  opensAtThreshold : x.before.breaker.state = .closed →
    (x.after.breaker.state = .opened ↔
      x.event.counted x.before.breaker = true ∧ failuresSinceClosed older + 1 = F)
  /-- A counted failure in `HALF_OPENED` opens the circuit. -/
  reopens : x.before.breaker.state = .halfOpened → x.event.counted x.before.breaker = true →
    x.after.breaker.state = .opened
  /-- `HALF_OPENED` is entered only from `OPENED`, and by an admission. -/
  entersHalfOpened : x.before.breaker.state ≠ .halfOpened → x.after.breaker.state = .halfOpened →
    x.before.breaker.state = .opened ∧ ∃ kind t₁ t₂, x.event = .attempt kind t₁ t₂
  /-- `OPENED` does not become `CLOSED` in one phase. -/
  leavesOpened : x.before.breaker.state = .opened → x.after.breaker.state ≠ .closed

/-- With such a counter a change is one of the transitions. -/
lemma Counter.transition (count : Counter F past s) (threshold : s.breaker.failureThreshold = F)
    (change : Change s.breaker e s'.breaker) : Transition F past ⟨s, e, s'⟩ where
  entersClosed := change.entersClosed
  opensAtThreshold before := by
    -- in `CLOSED` an assignment opens the circuit by reaching the threshold, in no other way
    have opens : s.breaker.Opens (s.breaker.failureCount + 1) ↔
        failuresSinceClosed past + 1 = F := by
      rw [← count.closed before, ← threshold]
      refine ⟨fun o => o.resolve_right ?_, .inl⟩
      rintro ⟨_, half⟩
      rw [before] at half
      cases half
    exact (change.opened_iff before).trans (Event.opening_iff.trans (and_congr_right' opens))
  reopens := change.reopens
  entersHalfOpened := change.entersHalfOpened
  leavesOpened open' closed := by
    rcases change.ofOpened open' with after | after
    · rw [closed] at after
      cases after
    · rw [closed] at after
      cases after

/-- Every phase of a run is one of the transitions. -/
theorem transition_of_run (positive : 1 ≤ F) (run : Run (interceptor F R codes) past s)
    {x : Entry (Sys T) (Event T β)} {older} (suffix : x :: older <:+ past) :
    Transition F older x := by
  obtain ⟨run, st⟩ := run.of_suffix suffix
  obtain ⟨threshold, _, _⟩ := config_of_run positive run
  exact (counter_of_run positive run).transition threshold (change_of_run positive run st)

/-- From `OPENED` a run gets to `CLOSED` only through `HALF_OPENED`. -/
theorem halfOpened_between (positive : 1 ≤ F) {x : Entry (Sys T) (Event T β)} {newer older}
    (run : Run (interceptor F R codes) (newer ++ x :: older) s)
    (opened : x.after.breaker.state = .opened) (closed : s.breaker.state = .closed) :
    ∃ y ∈ newer, y.after.breaker.state = .halfOpened := by
  have passes := run.passes (P := fun s => s.breaker.state = .opened)
    (Q := fun s => s.breaker.state = .halfOpened)
    (fun _ _ _ _ run st => (change_of_run positive run st).ofOpened) opened
  rcases passes with opened | half
  · rw [closed] at opened
    cases opened
  · exact half

/-- The counter law: the counter stays below the threshold and counts the failures since `CLOSED`
    was entered, every phase is one of the transitions, and `OPENED` is left through
    `HALF_OPENED`. -/
theorem counter_law (positive : 1 ≤ F) (run : Run (interceptor F R codes) past s) :
    (0 ≤ s.breaker.failureCount ∧ s.breaker.failureCount < F) ∧
      (s.breaker.state = .closed → s.breaker.failureCount = failuresSinceClosed past) ∧
      (∀ x older, x :: older <:+ past → Transition F older x) ∧
      (∀ newer x older, past = newer ++ x :: older → x.after.breaker.state = .opened →
        s.breaker.state = .closed → ∃ y ∈ newer, y.after.breaker.state = .halfOpened) := by
  have count := counter_of_run positive run
  refine ⟨⟨count.nonneg, count.lt⟩, count.closed, ?_, ?_⟩
  · exact fun x older suffix => transition_of_run positive run suffix
  · rintro newer x older rfl opened closed
    exact halfOpened_between positive run opened closed

/-- The circuit that opens at 2 is closed at 9, by way of the trial at 8. -/
theorem counter_law_recovered :
    (0 ≤ recovered.breaker.failureCount ∧ recovered.breaker.failureCount < 1) ∧
      recovered.breaker.failureCount = failuresSinceClosed recoveredHistory ∧
      (∀ x older, x :: older <:+ recoveredHistory → Transition 1 older x) ∧
      ∃ y ∈ recoveredHistory.take 2, y.after.breaker.state = .halfOpened := by
  obtain ⟨bounds, count, transitions, between⟩ := counter_law (by decide) recovered_run.unrestrict
  exact ⟨bounds, count rfl, transitions, between (recoveredHistory.take 2) _ _ rfl rfl rfl⟩

end GrpcSample
