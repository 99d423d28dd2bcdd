import GrpcSample.Client.Tasks

/-!
# Threads that share the client

Any number of threads may use the channel of one client, and with it one retry handler and one
breaker. Each of them makes one call after the other, and their phases follow one another in any
order. `Owns` is the invariant: a call that the breaker has in flight belongs to one thread.

`sharing_law`: what `n + 1` threads do is a run of the breaker in which an attempt is made only
while at most `n` calls are in flight, so the bound of `Capacity.lean` is that of the client,
retries or not (`sharing_law_attained`). `sharing_progress`: a thread never waits for another one,
and a call of it that is over returns what the handler's code returns over the attempts of that
call.
-/

namespace GrpcSample
open Lts

variable {T β : Type*}

/-- The breaker with its calls, and the threads: `none` between two calls. -/
structure Shared (T β : Type*) where
  sys : Sys T
  threads : List (Option (Task β))

/-- What thread `k` does: it starts a call, goes through a phase of an attempt, or gets the value of
    the call back. -/
inductive Act (T β : Type*) where
  | begins (k : ℕ) (kind : CallKind)
  | phase (k : ℕ) (e : Event T β)
  | returns (k : ℕ) (value : Returned β)

/-- The thread that does it. -/
def Act.thread : Act T β → ℕ
  | .begins k _ | .phase k _ | .returns k _ => k

/-- What the threads have done, most recent first. -/
abbrev SharedHistory (T β : Type*) := List (Entry (Shared T β) (Act T β))

/-- The history as the breaker sees it. -/
def onBreaker : SharedHistory T β → History T β
  | [] => []
  | ⟨c, .phase _ e, c'⟩ :: past => ⟨c.sys, e, c'.sys⟩ :: onBreaker past
  | ⟨_, .begins _ _, _⟩ :: past | ⟨_, .returns _ _, _⟩ :: past => onBreaker past

/-- The number of phases that thread `k` has gone through since it last started a call. -/
def phasesOf (k : ℕ) : SharedHistory T β → ℕ
  | [] => 0
  | ⟨_, .begins j _, _⟩ :: past => if j = k then 0 else phasesOf k past
  | ⟨_, .phase j _, _⟩ :: past => if j = k then phasesOf k past + 1 else phasesOf k past
  | ⟨_, .returns _ _, _⟩ :: past => phasesOf k past

/-- The number of threads with a call in flight. -/
def flights : List (Option (Task β)) → ℕ
  | [] => 0
  | thread :: threads => thread.elim 0 Task.inFlight + flights threads

section
variable [LinearOrder T] [Add T]

/-- What the threads can do. -/
inductive Acts (h : Retry) : Shared T β → Act T β → Shared T β → Prop where
  | begins {c k kind} :
    c.threads[k]? = some none →
    Acts h c (.begins k kind) ⟨c.sys, c.threads.set k (some (.begun h kind))⟩
  | phase {c k task e task' s'} :
    c.threads[k]? = some (some task) →
    task.Moves h c.sys e task' →
    Step c.sys e s' →
    Timely c.sys e →
    Acts h c (.phase k e) ⟨s', c.threads.set k (some task')⟩
  | returns {c k task value} :
    c.threads[k]? = some (some task) →
    task.stage = .ended value →
    Acts h c (.returns k value) ⟨c.sys, c.threads.set k none⟩

/-- `n + 1` threads on one client, under a clock that never goes back. -/
def sharedClient (h : Retry) (n : ℕ) (failureThreshold : Int) (recoveryTimeout : T)
    (statusForRetry : List StatusCode) : System (Shared T β) (Act T β) where
  init c := ∃ t, c = ⟨⟨.init failureThreshold recoveryTimeout statusForRetry t, [], t⟩,
    List.replicate (n + 1) none⟩
  step := Acts h

end

section
variable {threads : List (Option (Task β))} {thread : Option (Task β)} {k : ℕ}

/-- What one thread turns to changes the number by that thread's own. -/
lemma flights_set (thread' : Option (Task β)) (found : threads[k]? = some thread) :
    flights (threads.set k thread') + thread.elim 0 Task.inFlight =
      flights threads + thread'.elim 0 Task.inFlight := by
  induction threads generalizing k with
  | nil => cases found
  | cons first threads ih =>
    cases k with
    | zero =>
      cases found
      simp only [List.set_cons_zero, flights]
      omega
    | succ k =>
      have ih := ih found
      simp only [List.set_cons_succ, flights]
      omega

/-- Between calls nothing is in flight. -/
lemma flights_replicate {n : ℕ} : flights (List.replicate n none : List (Option (Task β))) = 0 := by
  induction n with
  | zero => rfl
  | succ n ih => rw [List.replicate_succ, flights, ih, Option.elim_none]

/-- A thread has one call in flight at most. -/
lemma flights_le : flights threads ≤ threads.length := by
  induction threads with
  | nil => exact Nat.le_refl 0
  | cons first threads ih =>
    have one : first.elim 0 Task.inFlight ≤ 1 := by
      cases first with
      | none => exact Nat.zero_le 1
      | some task => exact task.stage.inFlight_le
    simp only [flights, List.length_cons]
    omega

/-- A thread without a call in flight leaves room for one. -/
lemma flights_lt (found : threads[k]? = some thread) (idle : thread.elim 0 Task.inFlight = 0) :
    flights threads < threads.length := by
  have set := flights_set (some ⟨.unaryUnary, [], .calling 0 .running⟩) found
  have le : flights (threads.set k (some ⟨.unaryUnary, [], .calling 0 .running⟩)) ≤ _ := flights_le
  rw [List.length_set] at le
  have one : (some (⟨.unaryUnary, [], .calling 0 .running⟩ : Task β)).elim 0 Task.inFlight = 1 := rfl
  omega

end

/-- Thread `k` is in a phase of the breaker's call `i`. -/
structure Holds (c : Shared T β) (k : ℕ) (task : Task β) (i : ℕ) (p : Phase) : Prop where
  found : c.threads[k]? = some (some task)
  calling : task.stage = .calling i p

/-- A call in flight belongs to one thread, which knows what phase it is in. -/
structure Owns (c : Shared T β) : Prop where
  inFlight : inFlight c.sys = flights c.threads
  owned : ∀ {k task i p}, Holds c k task i p →
    p ≠ .finished ∧ c.sys.calls[i]? = some ⟨task.kind, p⟩
  apart : ∀ {k k' task task' i p p'}, Holds c k task i p → Holds c k' task' i p' → k = k'

section
variable {h : Retry} {n k : ℕ} {F : Int} {R : T} {codes : List StatusCode} {c c' : Shared T β}
  {past : SharedHistory T β} {thread thread' : Option (Task β)} {act : Act T β}

/-- What is found after thread `k` has changed. -/
lemma found_set {threads : List (Option (Task β))} {j : ℕ} {x : Option (Task β)}
    (found : (threads.set k thread)[j]? = some x) :
    j = k ∧ x = thread ∨ j ≠ k ∧ threads[j]? = some x := by
  rcases eq_or_ne j k with rfl | ne
  · rw [List.getElem?_set] at found
    split at found
    · split at found
      · exact .inl ⟨rfl, (Option.some.inj found).symm⟩
      · cases found
    · next ne => exact absurd rfl ne
  · rw [List.getElem?_set_ne ne.symm] at found
    exact .inr ⟨ne, found⟩

/-- Calls begin and return without a phase of the breaker. -/
lemma Owns.idle (owns : Owns c) (found : c.threads[k]? = some thread)
    (before : thread.elim 0 Task.inFlight = 0)
    (after : ∀ task, thread' = some task → ∀ i p, task.stage ≠ .calling i p) :
    Owns ⟨c.sys, c.threads.set k thread'⟩ := by
  constructor
  · have set := flights_set thread' found
    have free : thread'.elim 0 Task.inFlight = 0 := by
      cases thread' with
      | none => rfl
      | some task =>
        show task.stage.inFlight = 0
        cases stage : task.stage with
        | calling i p => exact absurd stage (after task rfl i p)
        | ready => rfl
        | ended _ => rfl
    have inFlight := owns.inFlight
    show GrpcSample.inFlight c.sys = flights (c.threads.set k thread')
    omega
  · rintro j task i p ⟨found, calling⟩
    rcases found_set found with ⟨rfl, eq⟩ | ⟨_, found⟩
    · exact absurd calling (after task eq.symm i p)
    · exact owns.owned ⟨found, calling⟩
  · rintro j j' task task' i p p' ⟨found, calling⟩ ⟨found', calling'⟩
    rcases found_set found with ⟨rfl, eq⟩ | ⟨_, found⟩
    · exact absurd calling (after task eq.symm i p)
    · rcases found_set found' with ⟨rfl, eq⟩ | ⟨_, found'⟩
      · exact absurd calling' (after task' eq.symm i p')
      · exact owns.apart ⟨found, calling⟩ ⟨found', calling'⟩

variable [LinearOrder T] [Add T]

/-- A phase of one thread leaves the calls of the others to them. -/
lemma Owns.phase {task task' : Task β} {e : Event T β} {s' : Sys T} (owns : Owns c)
    (found : c.threads[k]? = some (some task)) (moves : task.Moves h c.sys e task')
    (st : Step c.sys e s') : Owns ⟨s', c.threads.set k (some task')⟩ := by
  have owned : ∀ {i p}, task'.stage = .calling i p → p ≠ .finished ∧
      s'.calls[i]? = some ⟨task'.kind, p⟩ ∧
        ((∃ p', task.stage = .calling i p') ∨ i = c.sys.calls.length) :=
    moves.owned st fun i p calling => (owns.owned ⟨found, calling⟩).2
  -- a call of another thread is none of this one's, neither before the phase nor after it
  have other : ∀ {j taskj i p}, j ≠ k → Holds c j taskj i p → ∀ p', task.stage ≠ .calling i p' :=
    fun ne holds _ calling => ne (owns.apart holds ⟨found, calling⟩)
  have other' : ∀ {j taskj i p}, j ≠ k → Holds c j taskj i p →
      ∀ p', task'.stage ≠ .calling i p' := by
    intro j taskj i p ne holds p' calling
    obtain ⟨_, _, ⟨p'', before⟩ | fresh⟩ := owned calling
    · exact other ne holds p'' before
    · obtain ⟨lt, _⟩ := List.getElem?_eq_some_iff.mp (owns.owned holds).2
      omega
  constructor
  · have set := flights_set (some task') found
    have eq := moves.inFlight_eq st
    have inFlight := owns.inFlight
    simp only [Option.elim_some] at set
    show GrpcSample.inFlight s' = flights (c.threads.set k (some task'))
    omega
  · rintro j taskj i p ⟨foundj, calling⟩
    rcases found_set foundj with ⟨rfl, eq⟩ | ⟨ne, foundj⟩
    · cases eq
      exact ⟨(owned calling).1, (owned calling).2.1⟩
    · obtain ⟨unfinished, call⟩ := owns.owned ⟨foundj, calling⟩
      exact ⟨unfinished, moves.frame st call (other ne ⟨foundj, calling⟩)⟩
  · rintro j j' taskj taskj' i p p' ⟨foundj, calling⟩ ⟨foundj', calling'⟩
    rcases found_set foundj with ⟨rfl, eq⟩ | ⟨ne, kept⟩
    · rcases found_set foundj' with ⟨rfl, _⟩ | ⟨ne', kept'⟩
      · rfl
      · cases eq
        exact absurd calling (other' ne' ⟨kept', calling'⟩ p)
    · rcases found_set foundj' with ⟨rfl, eq⟩ | ⟨_, kept'⟩
      · cases eq
        exact absurd calling' (other' ne ⟨kept, calling⟩ p')
      · exact owns.apart ⟨kept, calling⟩ ⟨kept', calling'⟩

/-- The invariant holds throughout a run. -/
lemma owns_of_run (run : Run (sharedClient h n F R codes) past c) : Owns c := by
  induction run with
  | init start =>
    obtain ⟨t, rfl⟩ := start
    have empty : ∀ {k : ℕ} {task : Task β}, (List.replicate (n + 1) none)[k]? ≠
        some (some task) := by
      intro k task found
      cases List.eq_of_mem_replicate (List.mem_of_getElem? found)
    refine ⟨?_, fun holds => absurd holds.found empty,
      fun holds => absurd holds.found empty⟩
    exact flights_replicate.symm
  | step _ act ih =>
    cases act with
    | begins found =>
      refine ih.idle found rfl ?_
      rintro task ⟨⟩ i p
      unfold Task.begun
      split <;> exact nofun
    | phase found moves st _ => exact ih.phase found moves st
    | returns found ended =>
      refine ih.idle found ?_ nofun
      show Stage.inFlight _ = 0
      rw [ended]
      rfl

/-- A call of a thread is always one of the handler's. -/
lemma heeds_of_run (run : Run (sharedClient h n F R codes) past c) {task : Task β}
    (found : c.threads[k]? = some (some task)) : task.Heeds h := by
  induction run generalizing k task with
  | init start =>
    obtain ⟨t, rfl⟩ := start
    cases List.eq_of_mem_replicate (List.mem_of_getElem? found)
  | step _ act ih =>
    cases act with
    | begins _ =>
      rcases found_set found with ⟨_, eq⟩ | ⟨_, found⟩
      · cases eq
        exact .begun
      · exact ih found
    | phase before moves _ _ =>
      rcases found_set found with ⟨_, eq⟩ | ⟨_, found⟩
      · cases eq
        exact moves.heeds (ih before)
      · exact ih found
    | returns _ _ =>
      rcases found_set found with ⟨_, eq⟩ | ⟨_, found⟩
      · cases eq
      · exact ih found

/-- No thread is lost. -/
lemma threads_of_run (run : Run (sharedClient h n F R codes) past c) :
    c.threads.length = n + 1 := by
  induction run with
  | init start =>
    obtain ⟨t, rfl⟩ := start
    exact List.length_replicate
  | step _ act ih => cases act <;> exact List.length_set.trans ih

/-- The breaker of the client sees a run of its own, in which a thread that makes an attempt leaves
    at most the other `n` in flight. -/
lemma onBreaker_run (run : Run (sharedClient h n F R codes) past c) :
    Run (sparingInterceptor n F R codes) (onBreaker past) c.sys := by
  induction run with
  | init start =>
    obtain ⟨t, rfl⟩ := start
    exact .init ⟨t, rfl⟩
  | step run act ih =>
    cases act with
    | begins _ => exact ih
    | returns _ _ => exact ih
    | @phase k task e task' s' found moves st timely =>
      refine ih.step ⟨⟨st, timely⟩, ?_⟩
      cases e with
      | attempt kind t₁ t₂ =>
        have idle : task.inFlight = 0 := by
          cases moves with
          | reject ready _ => rw [Task.inFlight, ready, Stage.inFlight]
          | accept ready _ => rw [Task.inFlight, ready, Stage.inFlight]
        have lt := flights_lt found idle
        rw [threads_of_run run, ← (owns_of_run run).inFlight] at lt
        exact Nat.le_of_lt_succ lt
      | advance _ _ => trivial
      | unaryEnd _ _ _ => trivial
      | streamEnd _ _ _ => trivial

/-- The phases since a call began are at most those that its attempts account for. -/
lemma phasesOf_le (run : Run (sharedClient h n F R codes) past c) {task : Task β}
    (found : c.threads[k]? = some (some task)) : phasesOf k past ≤ task.phases := by
  induction run generalizing k task with
  | init _ => exact Nat.zero_le _
  | step _ act ih =>
    cases act with
    | begins _ =>
      rw [phasesOf]
      rcases found_set found with ⟨eq, _⟩ | ⟨ne, found⟩
      · rw [if_pos eq.symm]
        exact Nat.zero_le _
      · rw [if_neg ne.symm]
        exact ih found
    | phase before moves _ _ =>
      rw [phasesOf]
      rcases found_set found with ⟨rfl, eq⟩ | ⟨ne, found⟩
      · cases eq
        rw [if_pos rfl]
        exact (Nat.succ_le_succ (ih before)).trans moves.phases_lt
      · rw [if_neg ne.symm]
        exact ih found
    | returns _ _ =>
      rw [phasesOf]
      rcases found_set found with ⟨_, eq⟩ | ⟨_, found⟩
      · cases eq
      · exact ih found

/-- A thread can always go on, whatever the others do. -/
lemma exists_act (owns : Owns c) (lt : k < c.threads.length) :
    ∃ act c', act.thread = k ∧ Acts h c act c' := by
  obtain ⟨thread, found⟩ : ∃ thread, c.threads[k]? = some thread :=
    ⟨_, List.getElem?_eq_getElem lt⟩
  cases thread with
  | none =>
    have begins : Acts h c (.begins k .unaryUnary) _ := .begins found
    exact ⟨_, _, rfl, begins⟩
  | some task =>
    have now : Timely c.sys (.advance 0 c.sys.now : Event T β) := ⟨le_rfl, le_rfl⟩
    cases stage : task.stage with
    | ended value => exact ⟨.returns k value, _, rfl, .returns found stage⟩
    | ready =>
      cases check : (c.sys.breaker.isOpenCircuit c.sys.now c.sys.now).1 with
      | true => exact ⟨_, _, rfl, .phase found (.reject stage check) (.reject check) now⟩
      | false => exact ⟨_, _, rfl, .phase found (.accept stage check) (.accept check) now⟩
    | calling i p =>
      obtain ⟨unfinished, call⟩ := owns.owned ⟨found, stage⟩
      cases p with
      | finished => exact absurd rfl unfinished
      | created => exact ⟨_, _, rfl, .phase found (.advance stage) (.advance call) now⟩
      | running =>
        cases streams : task.kind.streamsResponses with
        | false =>
          have moves : task.Moves h c.sys (.unaryEnd i (.rpcError .unavailable) c.sys.now) _ :=
            .unaryEnd stage
          exact ⟨_, _, rfl, .phase found moves (.unaryEnd call streams) now⟩
        | true =>
          have moves : task.Moves h c.sys (.streamEnd i ⟨[], none⟩ c.sys.now) _ := .streamEnd stage
          exact ⟨_, _, rfl, .phase found moves (.streamEnd call streams) now⟩

/-- Threads that share the client, however they are interleaved, put no more load on the server than
    the breaker allows for that many calls in flight: what the breaker sees is a run of its own in
    which an attempt is made while at most `n` calls are in flight, and so no closed window of
    length `R` holds more than `F + 2 * n` counted failures, whatever is retried. -/
theorem sharing_law [AddRightMono T] (positive : 1 ≤ F)
    (run : Run (sharedClient h n F R codes) past c) :
    Run (sparingInterceptor n F R codes) (onBreaker past) c.sys ∧
      ∀ a, ((failureTimes (onBreaker past)).countP fun t => a ≤ t ∧ t ≤ a + R : Int) ≤
        F + 2 * n := by
  have seen := onBreaker_run run
  exact ⟨seen, fun a => (within_of_run positive seen).inWindow_le
    (counter_of_run positive seen.unrestrict.unrestrict) positive⟩

/-- A thread never waits for another one: in every state it can go on, it has gone through at most
    three phases for each attempt that the handler may make, no other thread holds its call of the
    breaker, and what it gets back is the value that the handler's code returns over the attempts
    that were made, of which it makes no more. -/
theorem sharing_progress (run : Run (sharedClient h n F R codes) past c) (thread : k ≤ n) :
    (∃ act c', act.thread = k ∧ (sharedClient h n F R codes).step c act c') ∧
      ∀ task, c.threads[k]? = some (some task) →
        phasesOf k past ≤ 3 * h.maxAttempts.toNat ∧
        (∀ k' task' i p p', Holds c k task i p → Holds c k' task' i p' → k' = k) ∧
        (∀ value, task.stage = .ended value →
          ∀ rest, h.handles task.kind (task.attempts ++ rest) = (value, rest)) ∧
        ∀ value c', (sharedClient h n F R codes).step c (.returns k value) c' →
          ∀ rest, h.handles task.kind (task.attempts ++ rest) = (value, rest) := by
  have owns := owns_of_run run
  constructor
  · refine exists_act owns ?_
    rw [threads_of_run run]
    exact Nat.lt_succ_of_le thread
  · intro task found
    have heeds := heeds_of_run run found
    refine ⟨(phasesOf_le run found).trans heeds.phases_le,
      fun _ _ _ _ _ holds holds' => owns.apart holds' holds, fun _ => heeds.exact, ?_⟩
    intro value c' returned
    cases returned with
    | returns found' ended =>
      rw [found] at found'
      cases found'
      exact heeds.exact ended

end

section
variable [LinearOrder T] [Add T] [DecidableEq β]

/-- What a thread does as a function, where it is possible. -/
def Shared.next (h : Retry) (c : Shared T β) : Act T β → Option (Shared T β)
  | .begins k kind =>
    match c.threads[k]? with
    | some none => some ⟨c.sys, c.threads.set k (some (.begun h kind))⟩
    | _ => none
  | .phase k e =>
    match c.threads[k]? with
    | some (some task) =>
      match task.after h c.sys e, c.sys.next e with
      | some task', some s' =>
        if c.sys.now ≤ e.start ∧ e.start ≤ e.stop then some ⟨s', c.threads.set k (some task')⟩
        else none
      | _, _ => none
    | _ => none
  | .returns k value =>
    match c.threads[k]? with
    | some (some task) =>
      if task.stage = .ended value then some ⟨c.sys, c.threads.set k none⟩ else none
    | _ => none

/-- What `Shared.next` makes of an act is a step of the threads. -/
lemma Acts.ofNext {h : Retry} {c c' : Shared T β} {act : Act T β}
    (next : c.next h act = some c') : Acts h c act c' := by
  cases act with
  | begins k kind =>
    rw [Shared.next] at next
    split at next
    · next found =>
      cases next
      exact .begins found
    · cases next
  | phase k e =>
    rw [Shared.next] at next
    split at next
    · next task found =>
      split at next
      · next task' s' after st =>
        split at next
        · next timely =>
          cases next
          exact .phase found (.ofAfter after) (.ofNext st) timely
        · cases next
      · cases next
    · cases next
  | returns k value =>
    rw [Shared.next] at next
    split at next
    · next task found =>
      split at next
      · next ended =>
        cases next
        exact .returns found ended
      · cases next
    · cases next

end

/-- Two threads between calls; a threshold of two, and a timeout of ten. -/
def twoThreads : Shared Int Unit :=
  ⟨⟨.init 2 10 [.unavailable] 0, [], 0⟩, [none, none]⟩

/-- Both threads fail at 1, which opens the circuit while the first of them is trying again, and
    this fails at 10. Its third attempt closes the circuit at 12, and of the attempts that follow
    three fail before 20, the last one after the circuit has opened again. -/
def sharedScript : List (Act Int Unit) :=
  [.begins 0 .unaryUnary, .begins 1 .streamUnary, .phase 0 (.attempt .unaryUnary 0 0),
    .phase 1 (.attempt .streamUnary 0 0), .phase 0 (.unaryEnd 0 (.rpcError .unavailable) 1),
    .phase 0 (.attempt .unaryUnary 1 1), .phase 1 (.unaryEnd 1 (.rpcError .unavailable) 1),
    .phase 0 (.unaryEnd 2 (.rpcError .unavailable) 10), .phase 0 (.attempt .unaryUnary 12 12),
    .phase 0 (.unaryEnd 3 (.response ()) 12), .returns 0 (.single (some (.response ()))),
    .begins 0 .unaryUnary, .phase 0 (.attempt .unaryUnary 12 12),
    .phase 1 (.attempt .streamUnary 12 12),
    .phase 0 (.unaryEnd 4 (.rpcError .unavailable) 13), .phase 0 (.attempt .unaryUnary 13 13),
    .phase 1 (.unaryEnd 5 (.rpcError .unavailable) 13),
    .phase 0 (.unaryEnd 6 (.rpcError .unavailable) 14)]

/-- A script that can be played from there is a run. -/
lemma twoThreads_run {script : List (Act Int Unit)} {past : SharedHistory Int Unit}
    {c : Shared Int Unit}
    (played : replay (Shared.next clientRetry) script ([], twoThreads) = some (past, c)) :
    Run (sharedClient clientRetry 1 2 10 [.unavailable]) past c := by
  have start : Run (sharedClient clientRetry 1 2 10 [.unavailable]) ([] : SharedHistory Int Unit)
      twoThreads := .init ⟨0, rfl⟩
  exact start.replay (fun _ _ _ => Acts.ofNext) played

/-- The bound is attained by calls that are tried again. -/
theorem sharing_law_attained : ∃ (past : SharedHistory Int Unit) (c : Shared Int Unit),
    Run (sharedClient clientRetry 1 2 10 [.unavailable]) past c ∧
      ((failureTimes (onBreaker past)).countP fun t => 10 ≤ t ∧ t ≤ 10 + 10 : Int) =
        2 + 2 * 1 := by
  have times : (replay (Shared.next clientRetry) sharedScript ([], twoThreads)).map
      (fun x => failureTimes (onBreaker x.1)) = some [14, 13, 13, 10, 1, 1] := by
    decide +kernel
  obtain ⟨⟨past, c⟩, played, times⟩ := Option.map_eq_some_iff.mp times
  have run := twoThreads_run played
  refine ⟨past, c, run, le_antisymm ((sharing_law (by decide) run).2 10) ?_⟩
  rw [times]
  decide

/-- The first thread's call is over after three attempts, and it returns the response that the third
    one got; the second thread is about to try again. -/
theorem sharing_progress_answered : ∃ (past : SharedHistory Int Unit) (c : Shared Int Unit)
      (task : Task Unit), Run (sharedClient clientRetry 1 2 10 [.unavailable]) past c ∧
    c.threads[0]? = some (some task) ∧ task.attempts.length = 3 ∧ phasesOf 0 past = 6 ∧
      (∀ rest, clientRetry.handles task.kind (task.attempts ++ rest) =
        (.single (some (.response ())), rest)) ∧
      ∃ act c', act.thread = 1 ∧ (sharedClient clientRetry 1 2 10 [.unavailable]).step c act c' := by
  have reached : (replay (Shared.next clientRetry) (sharedScript.take 10) ([], twoThreads)).map
      (fun x => (phasesOf 0 x.1, x.2.threads[0]?.join.map fun task =>
        (task.attempts.length, task.stage))) =
      some (6, some (3, .ended (.single (some (.response ()))))) := by
    decide +kernel
  obtain ⟨⟨past, c⟩, played, reached⟩ := Option.map_eq_some_iff.mp reached
  obtain ⟨phases, thread⟩ := Prod.mk.inj reached
  obtain ⟨task, found, state⟩ := Option.map_eq_some_iff.mp thread
  obtain ⟨attempts, ended⟩ := Prod.mk.inj state
  have found := Option.join_eq_some_iff.mp found
  have run := twoThreads_run played
  obtain ⟨_, _, returns, _⟩ := (sharing_progress run (Nat.zero_le 1)).2 task found
  exact ⟨past, c, task, run, found, attempts, phases, returns _ ended,
    (sharing_progress run (Nat.le_refl 1)).1⟩

end GrpcSample
