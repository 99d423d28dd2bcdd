import Mathlib.Data.List.Infix
import Mathlib.Tactic.Common

/-!
# Runs of a labelled transition system

A `System` says where it may start and what one event may do. `Run M past s` is a finite run of `M`
that has reached `s`; `past` is its history, one `Entry` a step, *latest first*, so that a quantity
that the run accumulates (the last event of a kind, a number of events since another) is a function
on `past` by structural recursion, and a history up to some step is a suffix of `past`.

`Run.invariant` packages the induction on runs once, `Run.of_suffix` recovers the run up to an entry
of its history, and `Run.passes` is the rule for statements of the form "`P` is left only through
`Q`". `System.restrict` keeps the steps that satisfy a guard; a run of the restricted system is a
run of the system. `replay` computes a run from its events, for systems whose steps are a partial
function.
-/

namespace Lts

/-- A labelled transition system: its initial states and its steps. -/
structure System (σ ε : Type*) where
  init : σ → Prop
  step : σ → ε → σ → Prop

/-- One step as a history records it. -/
structure Entry (σ ε : Type*) where
  before : σ
  event : ε
  after : σ

variable {σ ε : Type*} {M : System σ ε}

/-- `M` reaches `s` from an initial state by the steps of `past`, latest first. -/
inductive Run (M : System σ ε) : List (Entry σ ε) → σ → Prop where
  | init {s} :
    M.init s →
    Run M [] s
  | step {past s e s'} :
    Run M past s →
    M.step s e s' →
    Run M (⟨s, e, s'⟩ :: past) s'

/-- The system with only those steps whose state and event satisfy `guard`. -/
def System.restrict (M : System σ ε) (guard : σ → ε → Prop) : System σ ε where
  init := M.init
  step s e s' := M.step s e s' ∧ guard s e

/-- A run under a guard is a run. -/
lemma Run.unrestrict {guard : σ → ε → Prop} {past s} (run : Run (M.restrict guard) past s) :
    Run M past s := by
  induction run with
  | init h => exact .init h
  | step _ h ih => exact .step ih h.1

/-- A property of history and state that holds initially and is kept by every step of a run holds
    after every run. -/
theorem Run.invariant {I : List (Entry σ ε) → σ → Prop}
    (init : ∀ s, M.init s → I [] s)
    (step : ∀ past s e s', Run M past s → I past s → M.step s e s' → I (⟨s, e, s'⟩ :: past) s')
    {past s} (run : Run M past s) : I past s := by
  induction run with
  | init h => exact init _ h
  | step run h ih => exact step _ _ _ _ run ih h

/-- The last entry of a history is a step of the system, made after the rest of the history. -/
lemma Run.of_cons {x : Entry σ ε} {past s} (run : Run M (x :: past) s) :
    Run M past x.before ∧ M.step x.before x.event x.after ∧ s = x.after := by
  cases run with
  | step run h => exact ⟨run, h, rfl⟩

/-- Every entry of a history is a step of the system, made after the older part of the history. -/
lemma Run.of_suffix {x : Entry σ ε} {older past s} (run : Run M past s)
    (suffix : x :: older <:+ past) :
    Run M older x.before ∧ M.step x.before x.event x.after := by
  induction run with
  | init _ => exact absurd (List.suffix_nil.mp suffix) (List.cons_ne_nil _ _)
  | step run h ih =>
    rcases List.suffix_cons_iff.mp suffix with e | suffix
    · cases e
      exact ⟨run, h⟩
    · exact ih suffix

/-- A property of all entries and their histories, entry by entry. -/
lemma forall_suffix_cons {P : Entry σ ε → List (Entry σ ε) → Prop} {y : Entry σ ε} {past} :
    (∀ x older, x :: older <:+ y :: past → P x older) ↔
      P y past ∧ ∀ x older, x :: older <:+ past → P x older := by
  constructor
  · intro all
    exact ⟨all y past List.suffix_rfl, fun x older suffix =>
      all x older (suffix.trans (List.suffix_cons y past))⟩
  · rintro ⟨last, earlier⟩ x older suffix
    rcases List.suffix_cons_iff.mp suffix with eq | suffix
    · cases eq
      exact last
    · exact earlier x older suffix

/-- Nothing has happened in an empty history. -/
lemma forall_suffix_nil {P : Entry σ ε → List (Entry σ ε) → Prop} :
    ∀ x older, x :: older <:+ [] → P x older := by
  intro x older suffix
  exact absurd (List.suffix_nil.mp suffix) (List.cons_ne_nil _ _)

/-- If every step of a run from `P` stays in `P` or enters `Q`, then a run that was in `P` after
    some step is still there or has entered `Q` since. -/
theorem Run.passes {P Q : σ → Prop}
    (leave : ∀ past s e s', Run M past s → M.step s e s' → P s → P s' ∨ Q s')
    {x : Entry σ ε} {newer older s} (run : Run M (newer ++ x :: older) s) (start : P x.after) :
    P s ∨ ∃ y ∈ newer, Q y.after := by
  induction newer generalizing s with
  | nil =>
    obtain ⟨_, _, rfl⟩ := run.of_cons
    exact .inl start
  | cons y newer ih =>
    obtain ⟨run', h, rfl⟩ := run.of_cons
    rcases ih run' with inP | ⟨z, hz, inQ⟩
    · rcases leave _ _ _ _ run' h inP with inP' | inQ
      · exact .inl inP'
      · exact .inr ⟨y, List.mem_cons_self, inQ⟩
    · exact .inr ⟨z, List.mem_cons_of_mem _ hz, inQ⟩

/-- The run that goes on from `past` and `s` by the given events, earliest first. -/
def replay (next : σ → ε → Option σ) : List ε → List (Entry σ ε) × σ → Option (List (Entry σ ε) × σ)
  | [], x => some x
  | e :: es, (past, s) =>
    match next s e with
    | some s' => replay next es (⟨s, e, s'⟩ :: past, s')
    | none => none

/-- Replaying events with a function that stays within the steps goes on with the run. -/
lemma Run.replay {next : σ → ε → Option σ} (sound : ∀ s e s', next s e = some s' → M.step s e s')
    {es : List ε} {past past' s s'} (run : Run M past s)
    (played : Lts.replay next es (past, s) = some (past', s')) : Run M past' s' := by
  induction es generalizing past s with
  | nil =>
    cases played
    exact run
  | cons e es ih =>
    rw [Lts.replay] at played
    split at played
    · next found => exact ih (run.step (sound _ _ _ found)) played
    · cases played

end Lts
