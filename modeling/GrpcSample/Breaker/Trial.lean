import GrpcSample.Breaker.Clock
import GrpcSample.Breaker.Start

/-!
# What the state stands for

The breaker keeps one of three states and nothing of how it got there. `state_law` reads the state
off the history, for every run under an arbitrary clock and for every threshold. The circuit is

* `CLOSED` before the first opening, and again when since the last opening a trial was made and
  later some call was over in a way that closes a half-open circuit (`Healed`);
* `OPENED` until an attempt reads a time past the last opening's window (`Tried`);
* `HALF_OPENED` in between.

The check of `_is_open_circuit` and the two completions each look at a part of this. `Event.target`
is what a phase that opens nothing makes of the state it finds; `Means` is carried along the run.
-/

namespace GrpcSample
open Lts

variable {T β : Type*}

/-- The part of a history since the last opening; all of it if there was none. -/
def sinceOpening (past : History T β) : History T β :=
  past.takeWhile fun x => !x.event.opening x.before.breaker

/-- The phase executes `self.state = self.CLOSED` if the circuit is half-open. -/
def Event.heals (b : Breaker T) : Event T β → Bool
  | .unaryEnd _ (.response _) _ => true
  | .streamEnd _ ⟨[], some s⟩ _ => s ∉ b.statusForRetry
  | _ => false

/-- The phase is an attempt that first reads a time later than `unlock`. -/
def Event.Tries [LT T] (unlock : T) : Event T β → Prop
  | .attempt _ t₁ _ => unlock < t₁
  | .advance _ _ | .unaryEnd _ _ _ | .streamEnd _ _ _ => False

/-- It is decided by one comparison. -/
instance [LinearOrder T] (unlock : T) (e : Event T β) : Decidable (e.Tries unlock) :=
  match e with
  | .attempt _ t₁ _ => inferInstanceAs (Decidable (unlock < t₁))
  | .advance _ _ | .unaryEnd _ _ _ | .streamEnd _ _ _ => .isFalse id

/-- An attempt has read a time later than `unlock`. -/
def Tried [LT T] (unlock : T) (recent : History T β) : Prop :=
  ∃ x ∈ recent, x.event.Tries unlock

/-- After such an attempt a call was over that closes a half-open circuit. -/
def Healed [LT T] (unlock : T) (recent : History T β) : Prop :=
  ∃ x older, x :: older <:+ recent ∧ x.event.heals x.before.breaker = true ∧ Tried unlock older

/-- What the state says about the history since the opening whose window ends at `unlock`. -/
def Means [LT T] (unlock : T) (recent : History T β) : CircuitState → Prop
  | .closed => Healed unlock recent
  | .opened => ¬ Tried unlock recent
  | .halfOpened => Tried unlock recent ∧ ¬ Healed unlock recent

/-- An opening starts the recent history. -/
lemma sinceOpening_opens {x : Entry (Sys T) (Event T β)} {past : History T β}
    (h : x.event.opening x.before.breaker = true) : sinceOpening (x :: past) = [] := by
  simp [sinceOpening, h]

/-- Anything else goes on with it. -/
lemma sinceOpening_keeps {x : Entry (Sys T) (Event T β)} {past : History T β}
    (h : x.event.opening x.before.breaker = false) :
    sinceOpening (x :: past) = x :: sinceOpening past := by
  simp [sinceOpening, h]

section
variable [LT T] {unlock : T} {recent : History T β} {x : Entry (Sys T) (Event T β)}

/-- There has been a trial if this is one or if there was one. -/
lemma tried_cons : Tried unlock (x :: recent) ↔ x.event.Tries unlock ∨ Tried unlock recent :=
  List.exists_mem_cons_iff _ _ _

/-- The circuit has healed if this closes it after a trial or if it had. -/
lemma healed_cons : Healed unlock (x :: recent) ↔
    x.event.heals x.before.breaker = true ∧ Tried unlock recent ∨ Healed unlock recent := by
  constructor
  · rintro ⟨y, older, suffix, heals, tried⟩
    rcases List.suffix_cons_iff.mp suffix with eq | suffix
    · cases eq
      exact .inl ⟨heals, tried⟩
    · exact .inr ⟨y, older, suffix, heals, tried⟩
  · rintro (⟨heals, tried⟩ | ⟨y, older, suffix, heals, tried⟩)
    · exact ⟨x, recent, List.suffix_rfl, heals, tried⟩
    · exact ⟨y, older, suffix.trans (List.suffix_cons x recent), heals, tried⟩

/-- A circuit does not heal without a trial. -/
lemma Healed.tried (healed : Healed unlock recent) : Tried unlock recent := by
  obtain ⟨x, older, suffix, _, y, mem, tries⟩ := healed
  exact ⟨y, suffix.subset (List.mem_cons_of_mem x mem), tries⟩

end

/-- What a phase that does not open the circuit makes of the state. -/
def Event.target [LinearOrder T] (b : Breaker T) (e : Event T β) : CircuitState :=
  match b.state with
  | .closed => .closed
  | .opened => if e.Tries b.recoveryTime then .halfOpened else .opened
  | .halfOpened => if e.heals b then .closed else .halfOpened

section
variable [LinearOrder T] {b : Breaker T} {e : Event T β}

/-- A phase that neither tries nor heals. -/
lemma Event.target_keeps (tries : ¬ e.Tries b.recoveryTime) (heals : e.heals b = false) :
    e.target b = b.state := by
  rw [Event.target, if_neg tries, heals]
  cases b.state <;> rfl

/-- A completion that heals. -/
lemma Event.target_heals (tries : ¬ e.Tries b.recoveryTime) (heals : e.heals b = true) :
    e.target b = if b.state = .halfOpened then .closed else b.state := by
  rw [Event.target, if_neg tries, heals]
  cases b.state <;> rfl

/-- An attempt. -/
lemma Event.target_attempt {kind : CallKind} {t₁ t₂ : T} :
    (Event.attempt kind t₁ t₂ : Event T β).target b =
      if b.recoveryTime < t₁ ∧ b.state = .opened then .halfOpened else b.state := by
  have tries : (Event.attempt kind t₁ t₂ : Event T β).Tries b.recoveryTime ↔
      b.recoveryTime < t₁ := Iff.rfl
  have heals : (Event.attempt kind t₁ t₂ : Event T β).heals b = false := rfl
  rw [Event.target, heals]
  cases b.state with
  | closed => simp
  | halfOpened => simp
  | opened => simp [tries]

end

/-- A counted failure that does not open the circuit leaves the state alone. -/
lemma Event.state_counted [Add T] {b : Breaker T} {e : Event T β} (counted : e.counted b = true)
    (quiet : e.opening b = false) (t : T) :
    (b.setFailureCount (b.failureCount + 1) t).state = b.state := by
  rw [Breaker.setFailureCount_keeps]
  intro opens
  rw [Event.opening_iff.mpr ⟨counted, opens⟩] at quiet
  cases quiet

variable [LinearOrder T] [Add T]
  {F : Int} {R : T} {codes : List StatusCode} {past : History T β} {s s' : Sys T} {e : Event T β}

/-- The three methods make of the state what `target` says. -/
theorem Event.effect_state {b : Breaker T}
    (threshold : b.state = .halfOpened → 1 ≤ b.failureThreshold) (quiet : e.opening b = false) :
    (e.effect b).state = e.target b := by
  cases e with
  | attempt kind t₁ t₂ =>
    rw [Event.effect, Breaker.isOpenCircuit_snd, Event.target_attempt]
    split <;> rfl
  | advance i t => exact (Event.target_keeps id rfl).symm
  | unaryEnd i response t =>
    cases response with
    | rpcError s =>
      rw [Event.target_keeps id rfl]
      exact Event.state_counted rfl quiet t
    | response m =>
      rw [Event.target_heals id rfl, Event.effect, Breaker.afterUnary_response threshold]
      split <;> rfl
  | streamEnd i response t =>
    obtain ⟨ms, error⟩ := response
    cases error with
    | none =>
      have heals : (Event.streamEnd i ⟨ms, none⟩ t : Event T β).heals b = false := by
        cases ms <;> rfl
      rw [Event.target_keeps id heals, Event.effect, Breaker.afterStream_ok]
    | some status =>
      cases ms with
      | cons m ms => rw [Event.target_keeps id rfl, Event.effect, Breaker.afterStream_late]
      | nil =>
        rw [Event.effect]
        by_cases retryable : status ∈ b.statusForRetry
        · have heals : (Event.streamEnd i ⟨[], some status⟩ t : Event T β).heals b = false := by
            simpa [Event.heals] using retryable
          have counted : (Event.streamEnd i ⟨[], some status⟩ t : Event T β).counted b = true := by
            simpa [Event.counted] using retryable
          rw [Event.target_keeps id heals, Breaker.afterStream_retryable retryable]
          exact Event.state_counted counted quiet t
        · have heals : (Event.streamEnd i ⟨[], some status⟩ t : Event T β).heals b = true := by
            simpa [Event.heals] using retryable
          rw [Event.target_heals id heals, Breaker.afterStream_other threshold retryable]
          split <;> rfl

omit [Add T] in
/-- A phase that opens nothing keeps what the state says. -/
lemma Means.step {recent : History T β}
    (means : Means s.breaker.recoveryTime recent s.breaker.state) :
    Means s.breaker.recoveryTime (⟨s, e, s'⟩ :: recent) (e.target s.breaker) := by
  unfold Event.target
  cases state : s.breaker.state with
  | closed =>
    rw [state] at means
    exact healed_cons.mpr (.inr means)
  | opened =>
    rw [state] at means
    have untried : ¬ Tried s.breaker.recoveryTime recent := means
    show Means _ _ (if _ then _ else _)
    split
    · next tries =>
      refine ⟨tried_cons.mpr (.inl tries), fun healed => ?_⟩
      rcases healed_cons.mp healed with ⟨_, tried⟩ | healed
      · exact untried tried
      · exact untried healed.tried
    · next tries => exact fun tried => (tried_cons.mp tried).elim tries untried
  | halfOpened =>
    rw [state] at means
    obtain ⟨tried, unhealed⟩ := means
    show Means _ _ (if _ then _ else _)
    split
    · next heals => exact healed_cons.mpr (.inl ⟨heals, tried⟩)
    · next heals =>
      refine ⟨tried_cons.mpr (.inr tried), fun healed => ?_⟩
      rcases healed_cons.mp healed with ⟨heals', _⟩ | healed
      · exact heals heals'
      · exact unhealed healed

/-- Before the first opening the circuit is closed, from then on the state says what has happened
    since the last one. -/
def Tells (R : T) (past : History T β) (s : Sys T) : Prop :=
  match lastOpening past with
  | none => s.breaker.state = .closed
  | some τ => s.breaker.recoveryTime = τ + R ∧ Means (τ + R) (sinceOpening past) s.breaker.state

/-- An opening is the start of a window. -/
lemma Tells.opens (o : e.opening s.breaker = true) (time : s'.breaker.recoveryTime = e.stop + R)
    (state : s'.breaker.state = .opened) : Tells R (⟨s, e, s'⟩ :: past) s' := by
  unfold Tells
  rw [lastOpening_opens o, sinceOpening_opens o, state]
  refine ⟨time, ?_⟩
  rintro ⟨x, mem, _⟩
  cases mem

/-- Anything else moves the state along. -/
lemma Tells.step (tells : Tells R past s) (quiet : e.opening s.breaker = false)
    (time : s'.breaker.recoveryTime = s.breaker.recoveryTime)
    (state : s'.breaker.state = e.target s.breaker) : Tells R (⟨s, e, s'⟩ :: past) s' := by
  unfold Tells at tells ⊢
  rw [lastOpening_keeps quiet, sinceOpening_keeps quiet, state, time]
  cases last : lastOpening past with
  | none =>
    rw [last] at tells
    have closed : s.breaker.state = .closed := tells
    show e.target s.breaker = .closed
    rw [Event.target, closed]
  | some τ =>
    rw [last] at tells
    obtain ⟨ends, means⟩ := tells
    refine ⟨ends, ?_⟩
    rw [← ends] at means ⊢
    exact means.step

/-- A threshold of zero or less is never reached. -/
lemma tells_of_run (run : Run (interceptor F R codes) past s) : Tells R past s := by
  rcases lt_or_ge 0 F with positive | never
  · refine Run.invariant (I := Tells R) ?_ ?_ run
    · rintro s ⟨t, rfl⟩
      rfl
    · intro past s e s' run tells st
      obtain ⟨threshold, _, _⟩ := config_of_run positive run
      have before := recoveryTime_of_run positive run
      have after := recoveryTime_of_run positive (run.step st)
      cases o : e.opening s.breaker with
      | true =>
        rw [unlockTime_opens o] at after
        exact .opens o after ((change_of_run positive run st).opened_after o)
      | false =>
        rw [unlockTime_keeps o, ← before] at after
        refine tells.step o after ?_
        rw [st.breaker]
        exact Event.effect_state (fun _ => by omega) o
  · obtain ⟨dormant, none⟩ := dormant_of_run never run
    unfold Tells
    rw [none]
    exact dormant.closed

/-- The state law: the circuit is `OPENED` as long as no attempt has read a time later than the
    window of the last opening, `CLOSED` if there was no opening or if such an attempt and then a
    completion that closes a half-open circuit have followed the last one, and else `HALF_OPENED`.
    -/
theorem state_law (run : Run (interceptor F R codes) past s) :
    (s.breaker.state = .opened ↔
        ∃ τ, lastOpening past = some τ ∧ ¬ Tried (τ + R) (sinceOpening past)) ∧
      (s.breaker.state = .halfOpened ↔ ∃ τ, lastOpening past = some τ ∧
        Tried (τ + R) (sinceOpening past) ∧ ¬ Healed (τ + R) (sinceOpening past)) ∧
      (s.breaker.state = .closed ↔
        ∀ τ, lastOpening past = some τ → Healed (τ + R) (sinceOpening past)) := by
  have tells := tells_of_run run
  unfold Tells at tells
  cases last : lastOpening past with
  | none =>
    rw [last] at tells
    have closed : s.breaker.state = .closed := tells
    simp [closed]
  | some τ =>
    rw [last] at tells
    obtain ⟨_, means⟩ := tells
    cases state : s.breaker.state with
    | closed =>
      rw [state] at means
      have healed : Healed (τ + R) (sinceOpening past) := means
      simp [healed, healed.tried]
    | opened =>
      rw [state] at means
      have untried : ¬ Tried (τ + R) (sinceOpening past) := means
      simp [untried, mt Healed.tried untried]
    | halfOpened =>
      rw [state] at means
      obtain ⟨tried, unhealed⟩ := means
      simp [tried, unhealed]

/-- After the opening at 2 a trial was made at 8, and its response closed the circuit. -/
theorem state_law_recovered : Healed (2 + 5) (sinceOpening recoveredHistory) :=
  (state_law recovered_run.unrestrict).2.2.mp rfl 2 rfl

-- The constructor takes any number for `failure_threshold`, and `failure_count` is compared with it
-- for equality. With zero or a negative number the first failure has already gone past it.

/-- A breaker that counts what it will never act on. -/
structure Idle (past : History T β) (s : Sys T) : Prop where
  dormant : Dormant s.breaker
  count : s.breaker.failureCount = past.countP fun x => x.event.counted x.before.breaker
  time : s.breaker.recoveryTime = constructedAt past s

/-- A phase that is not an opening can only count in a `CLOSED` breaker. -/
lemma Change.ofQuiet {b b' : Breaker T} (closed : b.state = .closed) (quiet : e.opening b = false)
    (change : Change b e b') :
    e.counted b = true ∧ b' = { b with failureCount := b.failureCount + 1 } ∨
      e.counted b = false ∧ b' = b := by
  cases change with
  | opens opening =>
    rw [quiet] at opening
    cases opening
  | counts counted _ => exact .inl ⟨counted, rfl⟩
  | closes _ half =>
    rw [closed] at half
    cases half
  | halfOpens _ opened _ =>
    rw [closed] at opened
    cases opened
  | keeps uncounted => exact .inr ⟨uncounted, rfl⟩

/-- A breaker that counts for nothing goes on counting. -/
lemma Idle.step (idle : Idle past s) (dormant : Dormant s'.breaker)
    (quiet : e.opening s.breaker = false) (change : Change s.breaker e s'.breaker) :
    Idle (⟨s, e, s'⟩ :: past) s' := by
  obtain ⟨counted, eq⟩ | ⟨uncounted, eq⟩ := change.ofQuiet idle.dormant.closed quiet
  · refine ⟨dormant, ?_, ?_⟩
    · rw [eq, List.countP_cons, if_pos counted, idle.count]
      rfl
    · rw [eq]
      exact idle.time
  · refine ⟨dormant, ?_, ?_⟩
    · rw [eq, List.countP_cons, if_neg (by simp [uncounted]), idle.count]
      rfl
    · rw [eq]
      exact idle.time

/-- A breaker whose threshold is not positive is one. -/
lemma idle_of_run (never : F ≤ 0) (run : Run (interceptor F R codes) past s) : Idle past s := by
  refine Run.invariant (I := Idle) ?_ ?_ run
  · rintro s ⟨t, rfl⟩
    exact ⟨⟨rfl, le_rfl, never⟩, rfl, rfl⟩
  · intro past s e s' _ idle st
    have change := st.change fun half => by
      rw [idle.dormant.closed] at half
      cases half
    obtain ⟨dormant, quiet⟩ := idle.dormant.step change
    exact idle.step dormant quiet change

/-- With a threshold of zero or less the breaker is switched off: it counts failures and stays
    `CLOSED`, whatever the calls and the clock do, and turns down only calls that read a time before
    its construction. -/
theorem dormant_law (never : F ≤ 0) (run : Run (interceptor F R codes) past s) :
    s.breaker.state = .closed ∧
      s.breaker.failureCount = past.countP (fun x => x.event.counted x.before.breaker) ∧
      ∀ (kind : CallKind) (t₁ t₂ : T) (s' : Sys T), Step s (.attempt kind t₁ t₂ : Event T β) s' →
        (Admits (⟨s, .attempt kind t₁ t₂, s'⟩ : Entry (Sys T) (Event T β)) ↔
          constructedAt past s ≤ t₂) := by
  have idle := idle_of_run never run
  refine ⟨idle.dormant.closed, idle.count, ?_⟩
  intro kind t₁ t₂ s' st
  have other : s.breaker.state ≠ .opened := by
    rw [idle.dormant.closed]
    exact nofun
  rw [st.admits_iff, Breaker.rejects_iff_of_not_opened other, not_lt, idle.time]

/-- With a threshold of zero a failure is counted and nothing follows from it. -/
theorem dormant_law_failing : ∃ (past : History Int Unit) (s : Sys Int),
    Run (interceptor 0 5 [.unavailable]) past s ∧ s.breaker.state = .closed ∧
      s.breaker.failureCount = 1 := by
  have start : Run (interceptor 0 5 [.unavailable]) ([] : History Int Unit)
      ⟨.init 0 5 [.unavailable] 0, [], 0⟩ := .init ⟨0, rfl⟩
  have admitted : Step ⟨.init 0 5 [.unavailable] 0, [], 0⟩ (.attempt .unaryUnary 1 1 : Event Int Unit)
      ⟨.init 0 5 [.unavailable] 0, [⟨.unaryUnary, .running⟩], 1⟩ := .accept (by decide)
  have failed : Step ⟨.init 0 5 [.unavailable] 0, [⟨.unaryUnary, .running⟩], 1⟩
      (.unaryEnd 0 (.rpcError .unavailable) 2 : Event Int Unit)
      ⟨(Breaker.init 0 5 [.unavailable] 0).afterUnary (.rpcError .unavailable : Reply Unit) 2,
        [⟨.unaryUnary, .finished⟩], 2⟩ := .unaryEnd rfl rfl
  have run := (start.step admitted).step failed
  obtain ⟨closed, count, _⟩ := dormant_law (by decide) run
  exact ⟨_, _, run, closed, count⟩

end GrpcSample
