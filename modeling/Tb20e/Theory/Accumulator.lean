/-
# Theory.Accumulator -- an accumulator clamped at zero is a maximum over windows

`accumulate` adds increments and never goes below zero.  Its value exceeds a
nonnegative threshold exactly when the increments of some window ending now sum
to more than the threshold (`lt_accumulate_iff`): surplus in one part of a
stream is not cancelled by slack before it, and slack is not banked.

`accumulateUpTo` is the same accumulator over the first terms of a sequence, with
its windows as intervals of indices; merging neighbouring terms into one that is
no larger than their sum never raises it (`accumulateUpTo_merge_le`).
-/
import Mathlib.Algebra.Order.Group.Defs
import Mathlib.Algebra.BigOperators.Group.List.Basic
import Mathlib.Algebra.BigOperators.Intervals
import Mathlib.Algebra.Order.BigOperators.Group.Finset
import Mathlib.Data.List.Induction
import Mathlib.Tactic.Linarith

namespace Tb20e.Theory

set_option autoImplicit false

variable {K : Type*} [AddCommGroup K] [LinearOrder K]

/-- Add the increments in order, going back to zero whenever the sum is negative. -/
def accumulate (increments : List K) : K :=
  increments.foldl (fun excess increment => max 0 (excess + increment)) 0

@[simp] theorem accumulate_nil : accumulate ([] : List K) = 0 := rfl

theorem accumulate_concat (increments : List K) (increment : K) :
    accumulate (increments ++ [increment]) = max 0 (accumulate increments + increment) := by
  simp [accumulate, List.foldl_append]

theorem accumulate_nonneg (increments : List K) : 0 ≤ accumulate increments := by
  rcases List.eq_nil_or_concat increments with rfl | ⟨init, last, rfl⟩
  · exact le_rfl
  · rw [List.concat_eq_append, accumulate_concat]
    exact le_max_left _ _

/-- The accumulator is the sum of some window that ends now. -/
theorem exists_window_sum_eq (increments : List K) :
    ∃ earlier window, increments = earlier ++ window ∧ accumulate increments = window.sum := by
  induction increments using List.reverseRecOn with
  | nil => exact ⟨[], [], rfl, rfl⟩
  | append_singleton increments increment ih =>
      obtain ⟨earlier, window, rfl, same⟩ := ih
      rw [accumulate_concat, same]
      rcases le_total (window.sum + increment) 0 with negative | positive
      · exact ⟨earlier ++ window ++ [increment], [], by simp, by simp [max_eq_left negative]⟩
      · exact ⟨earlier, window ++ [increment], by simp, by simp [max_eq_right positive]⟩

variable [IsOrderedAddMonoid K]

/-- The accumulator is at least the sum of every window that ends now. -/
theorem sum_le_accumulate (earlier window : List K) :
    window.sum ≤ accumulate (earlier ++ window) := by
  induction window using List.reverseRecOn with
  | nil => simpa using accumulate_nonneg earlier
  | append_singleton window increment ih =>
      rw [← List.append_assoc, accumulate_concat, List.sum_append, List.sum_singleton]
      exact (add_le_add_left ih increment).trans (le_max_right _ _)

/-- **The sliding-window reading of the accumulator.** -/
theorem lt_accumulate_iff (threshold : K) (increments : List K) :
    threshold < accumulate increments ↔
      ∃ earlier window, increments = earlier ++ window ∧ threshold < window.sum := by
  constructor
  · intro exceeded
    obtain ⟨earlier, window, split, same⟩ := exists_window_sum_eq increments
    exact ⟨earlier, window, split, same ▸ exceeded⟩
  · rintro ⟨earlier, window, rfl, exceeded⟩
    exact exceeded.trans_le (sum_le_accumulate earlier window)

/-! ## Over the terms of a sequence -/

omit [IsOrderedAddMonoid K]

/-- The accumulator of the first `n` terms. -/
def accumulateUpTo (increment : ℕ → K) (n : ℕ) : K :=
  accumulate ((List.range n).map increment)

@[simp] theorem accumulateUpTo_zero (increment : ℕ → K) : accumulateUpTo increment 0 = 0 := rfl

theorem accumulateUpTo_succ (increment : ℕ → K) (n : ℕ) :
    accumulateUpTo increment (n + 1) = max 0 (accumulateUpTo increment n + increment n) := by
  rw [accumulateUpTo, List.range_succ, List.map_append, List.map_singleton, accumulate_concat]
  rfl

/-- Without a positive increment nothing accumulates. -/
theorem accumulateUpTo_eq_zero {increment : ℕ → K} {n : ℕ}
    (nonpos : ∀ i < n, increment i ≤ 0) : accumulateUpTo increment n = 0 := by
  induction n with
  | zero => rfl
  | succ n ih =>
      rw [accumulateUpTo_succ, ih fun i below => nonpos i (below.trans n.lt_succ_self), zero_add]
      exact max_eq_left (nonpos n n.lt_succ_self)

theorem accumulateUpTo_nonneg (increment : ℕ → K) (n : ℕ) : 0 ≤ accumulateUpTo increment n :=
  accumulate_nonneg _

theorem accumulateUpTo_congr {first second : ℕ → K} {n : ℕ}
    (same : ∀ i < n, first i = second i) : accumulateUpTo first n = accumulateUpTo second n :=
  congrArg accumulate (List.map_congr_left fun i member => same i (List.mem_range.mp member))

/-- The accumulator is the sum of the terms from some index on. -/
theorem exists_sum_Ico_eq (increment : ℕ → K) (n : ℕ) :
    ∃ k ≤ n, accumulateUpTo increment n = ∑ i ∈ Finset.Ico k n, increment i := by
  induction n with
  | zero => exact ⟨0, le_rfl, by simp⟩
  | succ n ih =>
      obtain ⟨k, upTo, same⟩ := ih
      rw [accumulateUpTo_succ]
      rcases le_total (accumulateUpTo increment n + increment n) 0 with negative | positive
      · exact ⟨n + 1, le_rfl, by simp [max_eq_left negative]⟩
      · refine ⟨k, upTo.trans n.le_succ, ?_⟩
        rw [max_eq_right positive, same, Finset.sum_Ico_succ_top upTo]

variable [IsOrderedAddMonoid K]

/-- From an earlier value, the accumulator gains at least the terms in between. -/
theorem add_sum_Ico_le (increment : ℕ → K) {k n : ℕ} (upTo : k ≤ n) :
    accumulateUpTo increment k + ∑ i ∈ Finset.Ico k n, increment i ≤ accumulateUpTo increment n := by
  induction n, upTo using Nat.le_induction with
  | base => simp
  | succ n upTo ih =>
      rw [accumulateUpTo_succ, Finset.sum_Ico_succ_top upTo, ← add_assoc]
      exact (add_le_add_left ih (increment n)).trans (le_max_right _ _)

/-- **The sliding-window reading**, by indices. -/
theorem lt_accumulateUpTo_iff (threshold : K) (increment : ℕ → K) (n : ℕ) :
    threshold < accumulateUpTo increment n ↔
      ∃ k ≤ n, threshold < ∑ i ∈ Finset.Ico k n, increment i := by
  constructor
  · intro exceeded
    obtain ⟨k, upTo, same⟩ := exists_sum_Ico_eq increment n
    exact ⟨k, upTo, same ▸ exceeded⟩
  · rintro ⟨k, upTo, exceeded⟩
    calc threshold < ∑ i ∈ Finset.Ico k n, increment i := exceeded
      _ ≤ accumulateUpTo increment k + ∑ i ∈ Finset.Ico k n, increment i :=
          le_add_of_nonneg_left (accumulateUpTo_nonneg increment k)
      _ ≤ accumulateUpTo increment n := add_sum_Ico_le increment upTo

/-- **Merging terms never raises the accumulator**: `merged m` stands for the
terms from `index m` up to `index (m + 1)`. -/
theorem accumulateUpTo_merge_le {increment merged : ℕ → K} {index : ℕ → ℕ} {m : ℕ}
    (ordered : ∀ i < m, index i ≤ index (i + 1))
    (small : ∀ i < m, merged i ≤ ∑ j ∈ Finset.Ico (index i) (index (i + 1)), increment j) :
    accumulateUpTo merged m ≤ accumulateUpTo increment (index m) := by
  induction m with
  | zero => exact accumulateUpTo_nonneg increment _
  | succ m ih =>
      have before := ih (fun i below => ordered i (below.trans m.lt_succ_self))
        fun i below => small i (below.trans m.lt_succ_self)
      rw [accumulateUpTo_succ]
      refine max_le (accumulateUpTo_nonneg increment _) ?_
      calc accumulateUpTo merged m + merged m
          ≤ accumulateUpTo increment (index m) +
              ∑ j ∈ Finset.Ico (index m) (index (m + 1)), increment j :=
            add_le_add before (small m m.lt_succ_self)
        _ ≤ accumulateUpTo increment (index (m + 1)) :=
            add_sum_Ico_le increment (ordered m m.lt_succ_self)

end Tb20e.Theory
