import Mathlib.Algebra.Order.Archimedean.Basic

/-!
# Geometric growth under a cap

`a`, `a * m`, `a * m ^ 2`, .., cut off at a cap: the bound of an exponential backoff and of whatever
else doubles until it is large enough. With a factor of at least one the sequence is monotone
(`level_monotone`), so once it has reached the cap it stays there. With a factor above one it
reaches the cap if and only if it starts above zero (`reaches_iff`): a sequence that starts at zero
stays there.
-/

namespace Growth

variable {R : Type*} [Semiring R] [LinearOrder R]

/-- The sequence that starts with `a`, grows by the factor `m` and is cut off at `cap`. -/
def level (a m cap : R) (i : ℕ) : R :=
  min (a * m ^ i) cap

variable {a m cap : R} {i j : ℕ}

/-- The cap is never exceeded. -/
lemma level_le : level a m cap i ≤ cap := min_le_right _ _

/-- The cap is reached where the power reaches it. -/
lemma level_eq_cap_iff : level a m cap i = cap ↔ cap ≤ a * m ^ i := min_eq_right_iff

/-- From nothing nothing grows. -/
lemma level_zero (nonneg : 0 ≤ cap) : level 0 m cap i = 0 := by
  rw [level, zero_mul]
  exact min_eq_left nonneg

variable [IsStrictOrderedRing R]

/-- The levels never go down. -/
lemma level_monotone (nonneg : 0 ≤ a) (factor : 1 ≤ m) : Monotone (level a m cap) := by
  intro i j le
  apply min_le_min_right
  apply mul_le_mul_of_nonneg_left _ nonneg
  exact pow_le_pow_right₀ factor le

/-- The cap is not left again. -/
lemma level_eq_cap_of_le (nonneg : 0 ≤ a) (factor : 1 ≤ m) (reached : level a m cap i = cap)
    (le : i ≤ j) : level a m cap j = cap := by
  have above : cap ≤ level a m cap j := by
    calc cap = level a m cap i := reached.symm
      _ ≤ level a m cap j := level_monotone nonneg factor le
  exact le_antisymm level_le above

/-- A sequence that starts above zero reaches the cap. -/
lemma exists_level_eq_cap [Archimedean R] [ExistsAddOfLE R] (positive : 0 < a) (factor : 1 < m) :
    ∃ i, level a m cap i = cap := by
  obtain ⟨n, enough⟩ := Archimedean.arch cap positive
  obtain ⟨i, large⟩ := pow_unbounded_of_one_lt (n : R) factor
  refine ⟨i, level_eq_cap_iff.mpr ?_⟩
  calc cap ≤ n • a := enough
    _ = a * n := nsmul_eq_mul' a n
    _ ≤ a * m ^ i := mul_le_mul_of_nonneg_left large.le positive.le

/-- From some point on the sequence is at the cap if and only if it starts above zero. -/
theorem reaches_iff [Archimedean R] [ExistsAddOfLE R] (nonneg : 0 ≤ a) (factor : 1 < m)
    (positive : 0 < cap) : (∃ n, ∀ i, n ≤ i → level a m cap i = cap) ↔ 0 < a := by
  constructor
  · rintro ⟨n, atCap⟩
    rcases nonneg.lt_or_eq with above | rfl
    · exact above
    · -- at zero the sequence stays below the cap
      have zero : cap = 0 := by
        rw [← atCap n le_rfl]
        exact level_zero positive.le
      exact absurd zero positive.ne'
  · intro above
    obtain ⟨n, reached⟩ := exists_level_eq_cap above factor
    exact ⟨n, fun i le => level_eq_cap_of_le nonneg factor.le reached le⟩

end Growth
