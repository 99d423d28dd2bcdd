import Mathlib.Tactic.Common

/-!
# Counted loops that may return

`for i in range(n)` in a function whose loop body may execute `return`: an iteration acts on the
state and either passes on to the next (`none`) or returns a value, which ends the loop. `before` is
the sequence of states that the iterations start in as long as none of them returns. `run_returns`
says that the loop is its first iteration that returns; `run_of_states` is the form in which it is
used, with the states given from outside.
-/

namespace Loop

variable {σ ρ : Type*}

/-- The iterations `i`, `i + 1`, .. of the loop, `n` of them. -/
def runFrom (body : ℕ → σ → Option ρ × σ) : ℕ → ℕ → σ → Option ρ × σ
  | _, 0, s => (none, s)
  | i, n + 1, s =>
    match body i s with
    | (some r, s) => (some r, s)
    | (none, s) => runFrom body (i + 1) n s

/-- `for i in range(n): body`. -/
def run (body : ℕ → σ → Option ρ × σ) (n : ℕ) (s : σ) : Option ρ × σ :=
  runFrom body 0 n s

/-- The state that iteration `i` starts in when no earlier one has returned. -/
def before (body : ℕ → σ → Option ρ × σ) (s : σ) : ℕ → σ
  | 0 => s
  | i + 1 => (body i (before body s i)).2

/-- Iteration `i` does not return. -/
def Passes (body : ℕ → σ → Option ρ × σ) (s : σ) (i : ℕ) : Prop :=
  (body i (before body s i)).1 = none

variable {body : ℕ → σ → Option ρ × σ} {s : σ} {i j n : ℕ}

/-- An iteration that passes leaves the loop to the next one. -/
lemma runFrom_passes (h : Passes body s i) :
    runFrom body i (n + 1) (before body s i) = runFrom body (i + 1) n (before body s (i + 1)) := by
  rw [runFrom, before]
  split
  · next r s' eq =>
    rw [Passes, eq] at h
    cases h
  · next s' eq => rw [eq]

/-- An iteration that returns ends the loop. -/
lemma runFrom_returns (h : ¬ Passes body s i) :
    runFrom body i (n + 1) (before body s i) = body i (before body s i) := by
  rw [runFrom]
  split
  · next r s' eq => rw [eq]
  · next s' eq =>
    rw [Passes, eq] at h
    exact absurd rfl h

/-- As long as the iterations pass, the loop is what remains of it. -/
lemma run_of_passes (h : ∀ k < i, Passes body s k) :
    run body (i + n) s = runFrom body i n (before body s i) := by
  induction i generalizing n with
  | zero =>
    rw [Nat.zero_add]
    rfl
  | succ i ih =>
    have earlier := ih (n := n + 1) fun k lt => h k (Nat.lt_succ_of_lt lt)
    rw [Nat.add_right_comm, Nat.add_assoc, earlier, runFrom_passes (h i i.lt_succ_self)]

/-- The first iteration that returns is the outcome of the loop. -/
theorem run_returns (lt : j < n) (h : ∀ k < j, Passes body s k) (returns : ¬ Passes body s j) :
    run body n s = body j (before body s j) := by
  obtain ⟨m, rfl⟩ := Nat.exists_eq_add_of_lt lt
  rw [Nat.add_assoc, run_of_passes h, runFrom_returns returns]

/-- The same, with the sequence of states given: the iterations before `j` lead from one to the
    next, and iteration `j` returns. -/
theorem run_of_states (states : ℕ → σ) {r : ρ} {s' : σ} (start : states 0 = s) (lt : j < n)
    (steps : ∀ k < j, body k (states k) = (none, states (k + 1)))
    (last : body j (states j) = (some r, s')) : run body n s = (some r, s') := by
  have eq : ∀ k ≤ j, before body s k = states k := by
    intro k le
    induction k with
    | zero => exact start.symm
    | succ k ih => rw [before, ih (Nat.le_of_succ_le le), steps k le]
  have passes : ∀ k < j, Passes body s k := by
    intro k lt
    rw [Passes, eq k (Nat.le_of_lt lt), steps k lt]
  have returns : ¬ Passes body s j := by
    rw [Passes, eq j (Nat.le_refl j), last]
    exact Option.some_ne_none r
  rw [run_returns lt passes returns, eq j (Nat.le_refl j), last]

/-- Of the first `n` numbers either one is the first with the property, or none has it. -/
lemma first_or_none (P : ℕ → Prop) (n : ℕ) :
    (∃ j < n, P j ∧ ∀ i < j, ¬ P i) ∨ ∀ i < n, ¬ P i := by
  induction n with
  | zero => exact .inr fun i lt => absurd lt (Nat.not_lt_zero i)
  | succ n ih =>
    rcases ih with ⟨j, lt, h⟩ | none
    · exact .inl ⟨j, Nat.lt_succ_of_lt lt, h⟩
    · by_cases h : P n
      · exact .inl ⟨n, n.lt_succ_self, h, none⟩
      · refine .inr fun i lt => ?_
        rcases Nat.lt_succ_iff_lt_or_eq.mp lt with lt | rfl
        · exact none i lt
        · exact h

/-- There is only one number that is the first without a property. -/
lemma first_unique {P : ℕ → Prop} (before : ∀ k < i, P k) (first : ¬ P i) (before' : ∀ k < j, P k)
    (first' : ¬ P j) : i = j := by
  rcases Nat.lt_trichotomy i j with lt | eq | lt
  · exact absurd (before' i lt) first
  · exact eq
  · exact absurd (before j lt) first'

end Loop
