import GrpcSample.Lib.Run
import Mathlib.Algebra.Order.Monoid.Unbundled.Basic
import Mathlib.Data.List.Pairwise
import Mathlib.Data.Option.Basic
import Mathlib.Order.Defs.LinearOrder

/-!
# Lockouts and the failures they let through

What a circuit breaker is for, apart from any implementation. Time is any linear order with an
addition: the end of a lock is *computed* as `τ + R`, and nothing asks that addition to be exact, so
a rounded sum of clock readings is an instance as well.

`Locked R last t` says that the latest lock still holds at `t`; the window is closed on the right.
A `Limiter F R` remembers its latest lock and the failures since. It lets a failure happen only
outside the lock and only while it has seen fewer than `F`, and it may lock at any failure. The
result is `window_bound`: when failures come in the order of their times, no closed window
`[a, a + R]` holds more than `F` of them. It needs that adding `R` is monotone.
-/

namespace Lockout
open Lts

variable {T : Type*} [LinearOrder T] [Add T]

/-- The lock taken last, if there was one, still holds at `t`. -/
def Locked (R : T) (last : Option T) (t : T) : Prop :=
  ∃ τ ∈ last, t ≤ τ + R

/-- Whether a time is locked can be decided. -/
instance (R : T) (last : Option T) (t : T) : Decidable (Locked R last t) :=
  match last with
  | none => .isFalse (by rintro ⟨τ, h, _⟩; cases h)
  | some τ => decidable_of_iff (t ≤ τ + R) (by simp [Locked])

/-- Without a mark nothing is locked. -/
@[simp] lemma locked_none {R t : T} : ¬ Locked R none t := by
  rintro ⟨τ, h, _⟩
  cases h

/-- After a mark its window is. -/
@[simp] lemma locked_some {R τ t : T} : Locked R (some τ) t ↔ t ≤ τ + R := by
  simp [Locked]

/-- The latest lock and the number of failures since. -/
structure Limiter (T : Type*) where
  last : Option T
  used : Nat

/-- A failure that the limiter lets pass, or one at which it locks. -/
inductive Mark (T : Type*) where
  | failure (t : T)
  | lock (t : T)

/-- The time of the failure. -/
@[simp] def Mark.time : Mark T → T
  | .failure t => t
  | .lock t => t

/-- The limiter after a failure. -/
@[simp] def Limiter.after (ℓ : Limiter T) : Mark T → Limiter T
  | .failure _ => { ℓ with used := ℓ.used + 1 }
  | .lock t => ⟨some t, 0⟩

/-- At most `F` failures from one lock to the next, none of them while locked. -/
def limiter (F : Nat) (R : T) : System (Limiter T) (Mark T) where
  init ℓ := ℓ = ⟨none, 0⟩
  step ℓ e ℓ' := ¬ Locked R ℓ.last e.time ∧ ℓ.used < F ∧ ℓ' = ℓ.after e

/-- The times of the failures of a history, latest first. -/
def times (past : List (Entry (Limiter T) (Mark T))) : List T :=
  past.map (·.event.time)

/-- The number of failures in the closed window of length `R` from `a` on. -/
def inWindow (R a : T) (ts : List T) : Nat :=
  ts.countP fun t => a ≤ t ∧ t ≤ a + R

/-- No time lies in an empty window. -/
@[simp] lemma inWindow_nil {R a : T} : inWindow R a [] = 0 := rfl

/-- One more time counts if it lies in the window. -/
lemma inWindow_cons {R a t : T} {ts : List T} :
    inWindow R a (t :: ts) = inWindow R a ts + if a ≤ t ∧ t ≤ a + R then 1 else 0 := by
  simp [inWindow, List.countP_cons]

/-- It adds one at most. -/
lemma inWindow_cons_le {R a t : T} {ts : List T} :
    inWindow R a (t :: ts) ≤ inWindow R a ts + 1 := by
  rw [inWindow_cons]
  split <;> omega

/-- A window that starts after every failure is empty. -/
lemma inWindow_eq_zero {R a : T} {ts : List T} (late : ∀ t ∈ ts, t < a) : inWindow R a ts = 0 := by
  simp only [inWindow, List.countP_eq_zero, decide_eq_true_eq, not_and]
  intro t ht start
  exact absurd (late t ht) (not_lt.mpr start)

/-- What a window that starts at `a` holds: at most `F` failures once a lock was taken in it, and
    before that no more than the limiter remembers. -/
def Bounded (F : Nat) (R : T) (ℓ : Limiter T) (ts : List T) (a : T) : Prop :=
  (∃ τ ∈ ℓ.last, a ≤ τ) ∧ inWindow R a ts ≤ F ∨ inWindow R a ts ≤ ℓ.used

variable {F : Nat} {R : T}

/-- A limiter never remembers more than `F` failures. -/
lemma used_le {past ℓ} (run : Run (limiter F R) past ℓ) : ℓ.used ≤ F := by
  induction run with
  | init h => cases h; exact Nat.zero_le F
  | @step _ _ e _ _ h _ =>
    obtain ⟨_, room, rfl⟩ := h
    cases e with
    | failure t => exact room
    | lock t => exact Nat.zero_le F

section
variable [AddRightMono T]

/-- Outside the lock a failure is too late for every window that already saw the lock. -/
lemma inWindow_locked {last : Option T} {a t : T} {ts : List T}
    (unlocked : ¬ Locked R last t) (seen : ∃ τ ∈ last, a ≤ τ) :
    inWindow R a (t :: ts) = inWindow R a ts := by
  obtain ⟨τ, hτ, start⟩ := seen
  have h : a + R < t := by
    apply lt_of_le_of_lt (add_le_add_left start R)
    exact not_le.mp fun h => unlocked ⟨τ, hτ, h⟩
  rw [inWindow_cons, if_neg (fun w => absurd w.2 (not_le.mpr h)), Nat.add_zero]

/-- A mark that the limiter admits keeps the bound. -/
lemma Bounded.step {ℓ : Limiter T} {e : Mark T} {ts : List T} {a : T}
    (bound : Bounded F R ℓ ts a) (unlocked : ¬ Locked R ℓ.last e.time) (room : ℓ.used < F)
    (sorted : ∀ t ∈ ts, t ≤ e.time) :
    Bounded F R (ℓ.after e) (e.time :: ts) a := by
  cases e with
  | failure t =>
    rcases bound with ⟨seen, h⟩ | h
    · exact .inl ⟨seen, (inWindow_locked unlocked seen).trans_le h⟩
    · exact .inr (inWindow_cons_le.trans (by simpa using h))
  | lock t =>
    rcases le_or_gt a t with start | start
    · refine .inl ⟨⟨t, rfl, start⟩, ?_⟩
      rcases bound with ⟨seen, h⟩ | h
      · exact (inWindow_locked unlocked seen).trans_le h
      · exact inWindow_cons_le.trans (by omega)
    · refine .inr (le_of_eq (inWindow_eq_zero ?_))
      intro t' ht'
      rcases List.mem_cons.mp ht' with rfl | ht'
      · exact start
      · exact lt_of_le_of_lt (sorted t' ht') start

/-- No closed window of length `R` holds more than `F` failures. -/
theorem window_bound {past ℓ} (run : Run (limiter F R) past ℓ)
    (sorted : (times past).Pairwise (· ≥ ·)) (a : T) : inWindow R a (times past) ≤ F := by
  have bound : Bounded F R ℓ (times past) a := by
    induction run with
    | init h => exact .inr (by simp [times])
    | step run h ih =>
      obtain ⟨unlocked, room, rfl⟩ := h
      obtain ⟨latest, sorted⟩ := List.pairwise_cons.mp sorted
      exact (ih sorted).step unlocked room latest
  rcases bound with ⟨_, h⟩ | h
  · exact h
  · exact h.trans (used_le run)

end

end Lockout
