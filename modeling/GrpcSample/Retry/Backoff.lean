import GrpcSample.Lib.Growth
import GrpcSample.Retry.Journal
import Mathlib.Algebra.Order.BigOperators.Ring.Finset

/-!
# Exponential backoff

`ExponentialBackoff` of `python/src/interceptor/grpc_client_retry_handler.py`, the sleeping policy
of the client. What `randint` draws is taken from a number that is reduced to the range it is asked
for, so that all numbers give all draws. The parameters are natural numbers, for which no range is
empty and `randint` does not raise. A sleep is recorded in milliseconds.

The upper end of the sleeps is a geometric growth under a cap (`Lib/Growth.lean`) that starts with
the number drawn by `__init__`, once for all calls. `grows_iff`: it grows to the cap unless that
number is zero, and then no retry sleeps at all.
-/

namespace GrpcSample

/-- `randint(0, b)`, with the number it is drawn from. -/
def randint (b draw : ℕ) : ℕ :=
  draw % (b + 1)

/-- A draw does not leave its range. -/
lemma randint_le {b draw : ℕ} : randint b draw ≤ b :=
  Nat.le_of_lt_succ (Nat.mod_lt draw b.succ_pos)

/-- Every number of the range is drawn. -/
lemma randint_of_le {b draw : ℕ} (le : draw ≤ b) : randint b draw = draw :=
  Nat.mod_eq_of_lt (Nat.lt_succ_of_le le)

/-- The attributes of `ExponentialBackoff`. -/
structure ExponentialBackoff where
  initBackoff : ℕ
  maxBackoff : ℕ
  multiplier : ℕ

namespace ExponentialBackoff

/-- `__init__`. -/
def init (initBackoffMs maxBackoffMs multiplier draw : ℕ) : ExponentialBackoff where
  initBackoff := randint initBackoffMs draw
  maxBackoff := maxBackoffMs
  multiplier := multiplier

/-- The upper end of the range that `sleep` draws from. -/
def sleepRange (b : ExponentialBackoff) (try_i : ℕ) : ℕ :=
  min (b.initBackoff * b.multiplier ^ try_i) b.maxBackoff

/-- `sleep`: the milliseconds that are slept. -/
def sleep (b : ExponentialBackoff) (try_i draw : ℕ) : ℕ :=
  randint (b.sleepRange try_i) draw

/-- `sleep` as a policy whose state is the sleeps so far; each takes the next of the draws. -/
def asPolicy (b : ExponentialBackoff) (draws : ℕ → ℕ) (try_i : ℕ) (slept : List ℕ) : List ℕ :=
  slept ++ [b.sleep try_i (draws slept.length)]

variable {b : ExponentialBackoff} {draws : ℕ → ℕ} {i : ℕ}

/-- The policy's state is the list of the times slept so far. -/
lemma policyAt_eq :
    policyAt (b.asPolicy draws) [] i = (List.range i).map fun k => b.sleep k (draws k) := by
  induction i with
  | zero => rfl
  | succ i ih =>
    rw [policyAt, ih, asPolicy, List.length_map, List.length_range, List.range_succ, List.map_append]
    rfl

/-- A sleep is in its range. -/
lemma sleep_le {draw : ℕ} : b.sleep i draw ≤ b.sleepRange i := randint_le

/-- What bounds the sleeps of a call: each its range, all of them the sum of the ranges, and
    `max_backoff` as many times. -/
structure Within (b : ExponentialBackoff) (slept : List ℕ) : Prop where
  each : ∀ i ms, slept[i]? = some ms → ms ≤ min (b.initBackoff * b.multiplier ^ i) b.maxBackoff
  total : slept.sum ≤ ∑ i ∈ Finset.range slept.length, b.sleepRange i
  capped : slept.sum ≤ slept.length * b.maxBackoff

/-- The whole time slept is at most the sum of the ranges. -/
lemma sum_policyAt_le :
    (policyAt (b.asPolicy draws) [] i).sum ≤ ∑ k ∈ Finset.range i, b.sleepRange k := by
  induction i with
  | zero => exact Nat.zero_le _
  | succ i ih =>
    rw [policyAt, asPolicy, List.sum_append, List.sum_singleton, Finset.sum_range_succ]
    apply Nat.add_le_add ih
    rw [policyAt_eq, List.length_map, List.length_range]
    exact sleep_le

/-- And that is at most the cap for each sleep. -/
lemma sum_sleepRange_le : ∑ k ∈ Finset.range i, b.sleepRange k ≤ i * b.maxBackoff := by
  have bound : ∀ k ∈ Finset.range i, b.sleepRange k ≤ b.maxBackoff := fun k _ => min_le_right _ _
  simpa using Finset.sum_le_card_nsmul _ _ _ bound

/-- There is one sleep before each attempt but the first. -/
lemma policyAt_length : (policyAt (b.asPolicy draws) [] i).length = i := by
  rw [policyAt_eq, List.length_map, List.length_range]

/-- Every run of the policy is within its bounds. -/
theorem within_policyAt : b.Within (policyAt (b.asPolicy draws) [] i) := by
  constructor
  · intro k ms slept
    rw [policyAt_eq, List.getElem?_map] at slept
    obtain ⟨k', drawn, rfl⟩ := Option.map_eq_some_iff.mp slept
    obtain rfl : k = k' := by simpa using (List.getElem?_eq_some_iff.mp drawn).2
    exact sleep_le
  · rw [policyAt_length]
    exact sum_policyAt_le
  · rw [policyAt_length]
    exact sum_policyAt_le.trans sum_sleepRange_le

/-- The upper end of the sleeps grows to the limit. -/
structure Grows (b : ExponentialBackoff) : Prop where
  monotone : Monotone b.sleepRange
  limited : ∀ i, b.sleepRange i ≤ b.maxBackoff
  reaches : ∃ n, ∀ i, n ≤ i → b.sleepRange i = b.maxBackoff

/-- The ranges are levels of capped geometric growth. -/
lemma sleepRange_eq :
    b.sleepRange i = Growth.level b.initBackoff b.multiplier b.maxBackoff i := rfl

/-- Without a base there is nothing to sleep. -/
lemma sleep_eq_zero {draw : ℕ} (base : b.initBackoff = 0) : b.sleep i draw = 0 := by
  have range : b.sleepRange i = 0 := by
    rw [sleepRange_eq, base]
    exact Growth.level_zero (Nat.zero_le _)
  exact Nat.le_zero.mp (range ▸ sleep_le)

/-- A policy grows to its cap if and only if it starts above zero. -/
lemma grows_iff_base (max : 1 ≤ b.maxBackoff) (factor : 2 ≤ b.multiplier) :
    b.Grows ↔ 0 < b.initBackoff := by
  rw [← Growth.reaches_iff (Nat.zero_le _) factor max]
  constructor
  · exact Grows.reaches
  · intro reaches
    refine ⟨?_, fun i => Growth.level_le, reaches⟩
    exact Growth.level_monotone (Nat.zero_le _) (Nat.le_of_succ_le factor)

/-- The upper end of the sleeps grows to `max_backoff_ms` if and only if `__init__` has not drawn
    zero. -/
theorem grows_iff {initBackoffMs maxBackoffMs multiplier drawn : ℕ} (max : 1 ≤ maxBackoffMs)
    (factor : 2 ≤ multiplier) (possible : drawn ≤ initBackoffMs) :
    (init initBackoffMs maxBackoffMs multiplier drawn).Grows ↔ drawn ≠ 0 := by
  have base : (init initBackoffMs maxBackoffMs multiplier drawn).initBackoff = drawn :=
    randint_of_le possible
  rw [grows_iff_base max factor, base]
  exact Nat.pos_iff_ne_zero

/-- The client's backoff, with a zero drawn, does not grow, and no retry sleeps. -/
theorem zero_drawn_stays :
    (¬ ∀ drawn ≤ 500, (init 500 5000 2 drawn).Grows) ∧
      ∀ i draw, (init 500 5000 2 0).sleep i draw = 0 := by
  refine ⟨fun grows => ?_, fun i draw => sleep_eq_zero rfl⟩
  have positive := (grows_iff_base (by decide) (by decide)).mp (grows 0 (Nat.zero_le _))
  exact absurd positive (Nat.lt_irrefl 0)

/-- With one millisecond drawn it does. -/
theorem grows_iff_one : (init 500 5000 2 1).Grows :=
  (grows_iff (by decide) (by decide) (by decide)).mpr (by decide)

end ExponentialBackoff

end GrpcSample
