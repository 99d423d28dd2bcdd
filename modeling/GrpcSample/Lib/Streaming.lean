import Mathlib.Data.List.Basic
import Mathlib.Tactic.Common

/-!
# Handlers of streams

A handler takes a stream of inputs and emits a stream of responses, in one of two styles.

* A `Generator` pulls. It is the tree of what its body does: it takes an input, finds its input
  broken, yields a response, ends, or raises. At a `yield` the consumer may go on or close the
  generator, which raises an exception at that very point, so a `yield` has two continuations.
  `drain` is a consumer that takes every response, `closeAfter n` one that takes `n` of them and then
  closes.
* An `Observer` is pushed: it has a method for each signal of the input side, and sends what it likes
  from each of them.

Both leave a trace of what is `Seen` of them, in which the responses stand in their order among the
inputs. `SilentAfter` says of a trace that nothing is emitted any more after an entry of some kind.
-/

namespace Streaming

/-- What is seen of a handler. -/
inductive Seen (α β ε : Type*) where
  | input (a : α)
  | broke
  | closed
  | emitted (r : β)
  | completed
  | failed (e : ε)
  deriving DecidableEq, Repr

variable {α β ε σ : Type*}

/-- The response of an entry. -/
def Seen.response : Seen α β ε → Option β
  | .emitted r => some r
  | .input _ | .broke | .closed | .completed | .failed _ => none

/-- The responses of a trace. -/
def emissions (trace : List (Seen α β ε)) : List β :=
  trace.filterMap Seen.response

/-- No response follows an entry that satisfies `breaks`. -/
def SilentAfter (breaks : Seen α β ε → Prop) (trace : List (Seen α β ε)) : Prop :=
  ∀ earlier x later, trace = earlier ++ x :: later → breaks x → emissions later = []

section
variable {breaks : Seen α β ε → Prop} {x : Seen α β ε} {trace rest : List (Seen α β ε)}

/-- An empty trace emits nothing. -/
@[simp] lemma emissions_nil : emissions ([] : List (Seen α β ε)) = [] := rfl

/-- An output is emitted. -/
@[simp] lemma emissions_emitted {r : β} : emissions (.emitted r :: trace) = r :: emissions trace :=
  rfl

/-- An input is not. -/
@[simp] lemma emissions_input {a : α} : emissions (.input a :: trace) = emissions trace := rfl

/-- Nor is the break of the inputs. -/
@[simp] lemma emissions_broke : emissions (.broke :: trace) = emissions trace := rfl

/-- Nor is the close. -/
@[simp] lemma emissions_closed : emissions (.closed :: trace) = emissions trace := rfl

/-- Nor is the normal end. -/
@[simp] lemma emissions_completed : emissions (.completed :: trace) = emissions trace := rfl

/-- Nor is a failure. -/
@[simp] lemma emissions_failed {e : ε} : emissions (.failed e :: trace) = emissions trace := rfl

/-- Traces emit one after the other. -/
@[simp] lemma emissions_append :
    emissions (trace ++ rest) = emissions trace ++ emissions rest := List.filterMap_append

/-- An empty trace is silent. -/
@[simp] lemma silentAfter_nil : SilentAfter breaks [] := by
  intro earlier x later eq
  exact absurd eq.symm (by simp)

/-- A trace is silent after an entry if the rest is, and empty of responses if the entry breaks. -/
lemma silentAfter_cons :
    SilentAfter breaks (x :: rest) ↔ (breaks x → emissions rest = []) ∧ SilentAfter breaks rest := by
  constructor
  · intro silent
    refine ⟨silent [] x rest rfl, fun earlier y later eq => ?_⟩
    exact silent (x :: earlier) y later (by rw [eq]; rfl)
  · rintro ⟨here, there⟩ earlier y later eq
    cases earlier with
    | nil =>
      obtain ⟨rfl, rfl⟩ := List.cons.inj eq
      exact here
    | cons z earlier => exact there earlier y later (List.cons.inj eq).2

/-- What does not break does not matter. -/
lemma silentAfter_cons_of_not (h : ¬ breaks x) :
    SilentAfter breaks (x :: rest) ↔ SilentAfter breaks rest := by
  rw [silentAfter_cons]
  exact ⟨And.right, fun silent => ⟨fun b => absurd b h, silent⟩⟩

/-- Nor does a trace without a break. -/
lemma silentAfter_append_of_not (h : ∀ x ∈ trace, ¬ breaks x) :
    SilentAfter breaks (trace ++ rest) ↔ SilentAfter breaks rest := by
  induction trace with
  | nil => rfl
  | cons x trace ih =>
    rw [List.cons_append, silentAfter_cons_of_not (h x List.mem_cons_self)]
    exact ih fun y mem => h y (List.mem_cons_of_mem _ mem)

/-- A trace that emits nothing is silent. -/
lemma silentAfter_of_emissions (none : emissions trace = []) : SilentAfter breaks trace := by
  rintro earlier x later rfl _
  rw [emissions_append, List.append_eq_nil_iff] at none
  have silent := List.filterMap_eq_nil_iff.mp none.2
  exact List.filterMap_eq_nil_iff.mpr fun y mem => silent y (List.mem_cons_of_mem x mem)

end

/-- The body of a generator. -/
inductive Generator (α β ε : Type*) where
  | stop
  | raise (e : ε)
  | took (a : α) (next : Generator α β ε)
  | broke (next : Generator α β ε)
  | yield (r : β) (resume close : Generator α β ε)

namespace Generator

/-- A consumer that takes every response. -/
def drain : Generator α β ε → List (Seen α β ε)
  | stop => [.completed]
  | raise e => [.failed e]
  | took a next => .input a :: next.drain
  | broke next => .broke :: next.drain
  | yield r resume _ => .emitted r :: resume.drain

/-- What a generator still does when it is closed. A response that it yields then is the last that
    is seen of it: `close` refuses it. -/
def closing : Generator α β ε → List (Seen α β ε)
  | stop | raise _ => []
  | took a next => .input a :: next.closing
  | broke next => .broke :: next.closing
  | yield r _ _ => [.emitted r]

/-- A consumer that asks for `n` responses and then closes. Closing a generator that has not
    started, or has ended, runs nothing. -/
def closeAfter : ℕ → Generator α β ε → List (Seen α β ε)
  | 0, _ => [.closed]
  | _ + 1, stop => [.completed, .closed]
  | _ + 1, raise e => [.failed e, .closed]
  | n + 1, took a next => .input a :: closeAfter (n + 1) next
  | n + 1, broke next => .broke :: closeAfter (n + 1) next
  | 1, yield r _ close => .emitted r :: .closed :: close.closing
  | n + 2, yield r resume _ => .emitted r :: closeAfter (n + 1) resume

/-- Closing a generator that has not started runs nothing. -/
lemma closeAfter_zero {g : Generator α β ε} : g.closeAfter 0 = [.closed] := by
  cases g <;> rfl

end Generator

/-- A signal of the input side. -/
inductive Signal (α : Type*) where
  | next (a : α)
  | error
  | completed

/-- What an observer sends to the response side. -/
inductive Sent (β : Type*) where
  | next (r : β)
  | completed

/-- What is seen of it. -/
def Sent.seen : Sent β → Seen α β ε
  | .next r => .emitted r
  | .completed => .completed

/-- An observer of inputs, with the fields `σ` of its object. -/
structure Observer (σ α β : Type*) where
  start : σ
  onNext : σ → α → σ × List (Sent β)
  onError : σ → σ × List (Sent β)
  onCompleted : σ → σ × List (Sent β)

/-- What is seen of it; the end of the inputs cannot be seen. -/
def Signal.seen : Signal α → List (Seen α β ε)
  | .next a => [.input a]
  | .error => [.broke]
  | .completed => []

namespace Observer

/-- The method that a signal calls. -/
def react (o : Observer σ α β) (s : σ) : Signal α → σ × List (Sent β)
  | .next a => o.onNext s a
  | .error => o.onError s
  | .completed => o.onCompleted s

/-- The trace of a sequence of signals. -/
def run (o : Observer σ α β) : σ → List (Signal α) → List (Seen α β ε)
  | _, [] => []
  | s, x :: signals =>
    x.seen ++ (o.react s x).2.map Sent.seen ++ o.run (o.react s x).1 signals

/-- The fields after a sequence of signals. -/
def after (o : Observer σ α β) (s : σ) (signals : List (Signal α)) : σ :=
  signals.foldl (fun s x => (o.react s x).1) s

variable {o : Observer σ α β} {s : σ}

/-- A run continues with the fields that it has come to. -/
lemma run_append {xs ys : List (Signal α)} :
    (o.run s (xs ++ ys) : List (Seen α β ε)) = o.run s xs ++ o.run (o.after s xs) ys := by
  induction xs generalizing s with
  | nil => rfl
  | cons x xs ih =>
    have step : o.after s (x :: xs) = o.after (o.react s x).1 xs := rfl
    rw [List.cons_append, run, ih, run, step]
    simp only [List.append_assoc]

/-- Inputs alone do not break. -/
lemma broke_not_mem_run {inputs : List α} :
    (.broke : Seen α β ε) ∉ o.run s (inputs.map .next) := by
  induction inputs generalizing s with
  | nil => exact List.not_mem_nil
  | cons a inputs ih =>
    rw [List.map_cons, run]
    intro mem
    rcases List.mem_append.mp mem with mem | mem
    · rcases List.mem_append.mp mem with mem | mem
      · cases List.mem_singleton.mp mem
      · obtain ⟨r, _, eq⟩ := List.mem_map.mp mem
        cases r <;> cases eq
    · exact ih mem

/-- An observer that sends nothing when its input breaks is silent from then on. -/
theorem silentAfter_error (quiet : ∀ s, (o.onError s).2 = []) {inputs : List α} :
    SilentAfter (· = .broke) (o.run s (inputs.map .next ++ [.error]) : List (Seen α β ε)) := by
  rw [run_append, silentAfter_append_of_not]
  · apply silentAfter_of_emissions
    rw [run, run, react, quiet]
    rfl
  · rintro _ mem rfl
    exact broke_not_mem_run mem

end Observer

end Streaming
