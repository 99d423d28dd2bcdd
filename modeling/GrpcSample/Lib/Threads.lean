import GrpcSample.Lib.Run
import Mathlib.Data.List.Basic

/-!
# Threads over a shared memory

Programs that read and write one memory, an atomic action at a time, and their interleavings. A
`Prog` is the tree of what a thread does: each `act` changes the memory and goes on with what it has
read, which other threads may have changed by the time of the next action. `get` and `put` are the
actions that only read and only write; programs are put together by saying what comes after them.

`Discipline` is what the threads agree on, in the manner of rely and guarantee: a preorder along
which the memory evolves, an invariant, and what a result means. `Prog.Holds` says of a program that
it keeps the agreement from some memory on, *however the others change the memory in between*: each
action may start from any memory that is later and satisfies the invariant. `Discipline.of_run` is
the rule: if every program that is started holds, then every interleaving keeps the invariant and
every result means what it should.

`Prog.Steps` is a thread that runs undisturbed for a while; `run_steps` embeds it into the
interleavings.
-/

namespace Threads
open Lts

/-- What a thread still has to do. -/
inductive Prog (σ α : Type*) where
  | done (result : α)
  | act (effect : σ → σ) (next : σ → Prog σ α)

/-- A memory and the threads over it. -/
structure Pool (σ α : Type*) where
  memory : σ
  threads : List (Prog σ α)

/-- The steps by name: thread `p` is started, thread `i` acts, or the memory becomes `m`. -/
inductive Event (σ α : Type*) where
  | start (p : Prog σ α)
  | act (i : ℕ)
  | outside (m : σ)

variable {σ α γ : Type*}

/-- Read something of the memory. -/
def get (read : σ → γ) (next : γ → Prog σ α) : Prog σ α :=
  .act id fun m => next (read m)

/-- Write to the memory. -/
def put (write : σ → σ) (next : Prog σ α) : Prog σ α :=
  .act write fun _ => next

/-- A thread is started, a thread does its next action, or something else changes the memory. -/
inductive Step (starts : Prog σ α → Prop) (outside : σ → σ → Prop) :
    Pool σ α → Event σ α → Pool σ α → Prop where
  | start {s p} :
    starts p →
    Step starts outside s (.start p) ⟨s.memory, s.threads ++ [p]⟩
  | act {s i effect next} :
    s.threads[i]? = some (.act effect next) →
    Step starts outside s (.act i) ⟨effect s.memory, s.threads.set i (next s.memory)⟩
  | outside {s m} :
    outside s.memory m →
    Step starts outside s (.outside m) ⟨m, s.threads⟩

/-- All interleavings, from a memory without threads. -/
def interleavings (m : σ) (starts : Prog σ α → Prop) (outside : σ → σ → Prop) :
    System (Pool σ α) (Event σ α) where
  init s := s = ⟨m, []⟩
  step := Step starts outside

/-- What the threads agree on. -/
structure Discipline (σ α : Type*) where
  later : σ → σ → Prop
  refl : ∀ m, later m m
  trans : ∀ {m₁ m₂ m₃}, later m₁ m₂ → later m₂ m₃ → later m₁ m₃
  inv : σ → Prop
  post : α → σ → Prop

/-- From `m` on the program keeps the agreement, whatever happens between its actions. -/
def Prog.Holds (d : Discipline σ α) : Prog σ α → σ → Prop
  | .done result, m => ∀ m', d.later m m' → d.inv m' → d.post result m'
  | .act effect next, m => ∀ m', d.later m m' → d.inv m' →
      d.inv (effect m') ∧ d.later m' (effect m') ∧ (next m').Holds d (effect m')

section
variable {d : Discipline σ α} {p : Prog σ α} {m m' : σ}

/-- What holds goes on to hold while others act. -/
lemma Prog.Holds.later (holds : p.Holds d m) (later : d.later m m') : p.Holds d m' := by
  cases p with
  | done result => exact fun m'' later' => holds m'' (d.trans later later')
  | act effect next => exact fun m'' later' => holds m'' (d.trans later later')

/-- A read holds if what follows it does, whatever others have done before. -/
lemma holds_get {read : σ → γ} {next : γ → Prog σ α}
    (holds : ∀ m', d.later m m' → d.inv m' → (next (read m')).Holds d m') :
    (get read next).Holds d m :=
  fun m' later inv => ⟨inv, d.refl m', holds m' later inv⟩

/-- A write holds if it keeps the invariant and what follows it holds. -/
lemma holds_put {write : σ → σ} {next : Prog σ α}
    (keeps : ∀ m', d.later m m' → d.inv m' → d.inv (write m') ∧ d.later m' (write m'))
    (holds : ∀ m', d.later m m' → d.inv m' → next.Holds d (write m')) :
    (put write next).Holds d m :=
  fun m' later inv => ⟨(keeps m' later inv).1, (keeps m' later inv).2, holds m' later inv⟩

variable {starts : Prog σ α → Prop} {outside : σ → σ → Prop} {s s' : Pool σ α} {e : Event σ α}
  {past : List (Entry (Pool σ α) (Event σ α))} {m₀ : σ}

/-- The invariant, and that every thread keeps the agreement. -/
structure Discipline.Kept (d : Discipline σ α) (s : Pool σ α) : Prop where
  inv : d.inv s.memory
  threads : ∀ p ∈ s.threads, p.Holds d s.memory

/-- A step keeps the discipline. -/
lemma Discipline.Kept.step (kept : d.Kept s)
    (holds : ∀ p, starts p → ∀ m, d.inv m → p.Holds d m)
    (env : ∀ m m', outside m m' → d.inv m → d.inv m' ∧ d.later m m')
    (st : Step starts outside s e s') : d.Kept s' := by
  obtain ⟨inv, threads⟩ := kept
  cases st with
  | @start p started =>
    refine ⟨inv, fun q mem => ?_⟩
    rcases List.mem_append.mp mem with mem | mem
    · exact threads q mem
    · rw [List.mem_singleton.mp mem]
      exact holds p started s.memory inv
  | @act i effect next found =>
    obtain ⟨inv', later, holds'⟩ :=
      threads _ (List.mem_of_getElem? found) s.memory (d.refl _) inv
    refine ⟨inv', fun q mem => ?_⟩
    rcases List.mem_or_eq_of_mem_set mem with mem | rfl
    · exact (threads q mem).later later
    · exact holds'
  | outside changed =>
    obtain ⟨inv', later⟩ := env _ _ changed inv
    exact ⟨inv', fun q mem => (threads q mem).later later⟩

/-- In every interleaving the invariant is kept, and every result means what was agreed. -/
theorem Discipline.of_run (init : d.inv m₀) (holds : ∀ p, starts p → ∀ m, d.inv m → p.Holds d m)
    (env : ∀ m m', outside m m' → d.inv m → d.inv m' ∧ d.later m m')
    (run : Run (interleavings m₀ starts outside) past s) :
    d.inv s.memory ∧ ∀ result, .done result ∈ s.threads → d.post result s.memory := by
  have kept : d.Kept s := by
    induction run with
    | init h =>
      cases h
      exact ⟨init, nofun⟩
    | step _ st kept => exact kept.step holds env st
  exact ⟨kept.inv, fun result mem => kept.threads _ mem _ (d.refl _) kept.inv⟩

end

/-- Some actions of a program in a row. -/
inductive Prog.Steps : σ → Prog σ α → σ → Prog σ α → Prop where
  | refl {m p} :
    Steps m p m p
  | act {m effect next m' p'} :
    Steps (effect m) (next m) m' p' →
    Steps m (.act effect next) m' p'

section
variable {p p' p'' : Prog σ α} {m m' m'' : σ} {starts : Prog σ α → Prop} {outside : σ → σ → Prop}
  {m₀ : σ} {past : List (Entry (Pool σ α) (Event σ α))} {s : Pool σ α} {i : ℕ}

/-- Steps follow one another. -/
lemma Prog.Steps.trans (first : Steps m p m' p') (then' : Steps m' p' m'' p'') :
    Steps m p m'' p'' := by
  induction first with
  | refl => exact then'
  | act _ ih => exact .act (ih then')

/-- A read is the first of them. -/
lemma Prog.Steps.get {read : σ → γ} {next : γ → Prog σ α} (steps : Steps m (next (read m)) m' p') :
    Steps m (get read next) m' p' := .act steps

/-- So is a write. -/
lemma Prog.Steps.put {write : σ → σ} {next : Prog σ α} (steps : Steps (write m) next m' p') :
    Steps m (put write next) m' p' := .act steps

/-- What a thread can do undisturbed it can do in a pool, and the other threads stay as they are. -/
theorem run_steps (run : Run (interleavings m₀ starts outside) past s)
    (found : s.threads[i]? = some p) (steps : p.Steps s.memory m' p') :
    ∃ past', Run (interleavings m₀ starts outside) past' ⟨m', s.threads.set i p'⟩ := by
  generalize eq : s.memory = m at steps
  induction steps generalizing s past with
  | refl =>
    subst eq
    obtain ⟨lt, rfl⟩ := List.getElem?_eq_some_iff.mp found
    refine ⟨past, ?_⟩
    rwa [List.set_getElem_self]
  | @act m effect next m' p' steps ih =>
    subst eq
    have found' : (s.threads.set i (next s.memory))[i]? = some (next s.memory) := by
      obtain ⟨lt, _⟩ := List.getElem?_eq_some_iff.mp found
      exact List.getElem?_set_self lt
    obtain ⟨past', run'⟩ := ih (run.step (.act found)) found' rfl
    rw [List.set_set] at run'
    exact ⟨past', run'⟩

end

end Threads
