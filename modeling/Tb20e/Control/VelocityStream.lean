/-
# Control.VelocityStream -- the speed estimator over whole streams of samples

A stream is a sequence of positions and a sequence of stamps; sample `0` is the
one the estimator is reset with.  `estimator` is the state after sample `n` and
`faultAt` the verdict on sample `n + 1`.

* `fault_iff_window`: a verdict is a sliding-window speed test, whatever verdicts
  came before it and however often a sample is repeated;
* `wrapped_eq_linear`: on a wrapped angle the estimator answers as a linear one
  does on the angle that was wrapped, if that moves less than half a turn a time;
* `skipping_keeps_excess_below`: an estimator that sees only some of the samples
  never holds more excess than one that sees them all;
* `first_fault_is_plain`: it finds no fault before the check of two samples alone does.
-/
import Mathlib.Tactic.LinearCombination
import Tb20e.Control.FeedbackVelocity

namespace Tb20e.Control

set_option autoImplicit false

open Tb20e.Theory
open Tb20e.Theory (Double)

section Stream

variable (continuous : Bool) (limit jitter : Double) (check : Bool) (position : ℕ → Double)
  (stamp : ℕ → Time)

/-- The estimator after sample `n`. -/
def estimator : ℕ → FeedbackVelocity
  | 0 => FeedbackVelocity.reset (position 0) (stamp 0)
  | n + 1 => ((estimator n).update (position (n + 1)) (stamp (n + 1)) continuous limit jitter
      check).1

/-- Whether sample `n + 1` is a fault. -/
def faultAt (n : ℕ) : Bool :=
  ((estimator continuous limit jitter check position stamp n).update (position (n + 1))
    (stamp (n + 1)) continuous limit jitter check).2

/-- The estimator after sample `n`, each sample being followed by calls that carry
its stamp again. -/
def estimatorRepeating (repeats : ℕ → List Double) : ℕ → FeedbackVelocity
  | 0 => again 0 (FeedbackVelocity.reset (position 0) (stamp 0))
  | n + 1 => again (n + 1) ((estimatorRepeating repeats n).update (position (n + 1))
      (stamp (n + 1)) continuous limit jitter check).1
where
  again (n : ℕ) (self : FeedbackVelocity) : FeedbackVelocity :=
    (repeats n).foldl
      (fun self position => (self.update position (stamp n) continuous limit jitter check).1) self

end Stream

/-! ## The estimator of a finite stream -/

section Finite

variable {continuous : Bool} {limit jitter : ℚ} {position : ℕ → ℚ} {stamp : ℕ → Time}

/-- The movement from sample `i` to the next. -/
def movementAt (continuous : Bool) (position : ℕ → ℚ) (i : ℕ) : ℚ :=
  movement continuous (position (i + 1)) (position i)

/-- What sample `i + 1` adds to the excess. -/
def incrementAt (continuous : Bool) (limit : ℚ) (position : ℕ → ℚ) (stamp : ℕ → Time) (i : ℕ) :
    ℚ :=
  |movementAt continuous position i| - limit * (stamp (i + 1) - stamp i)

/-- What the estimator holds after sample `n`. -/
structure HoldsSample (continuous : Bool) (limit : ℚ) (check : Bool) (position : ℕ → ℚ)
    (stamp : ℕ → Time) (n : ℕ) (held : FeedbackVelocity) : Prop where
  atPosition : held.position = position n
  atStamp : held.stamp = stamp n
  excess : held.excessDistance =
    (if check then accumulateUpTo (incrementAt continuous limit position stamp) n else 0 : ℚ)

theorem holdsSample_reset (check : Bool) :
    HoldsSample continuous limit check position stamp 0
      (FeedbackVelocity.reset (position 0) (stamp 0)) :=
  ⟨rfl, rfl, by simp [FeedbackVelocity.reset]⟩

/-- **One sample of a checked stream.** -/
theorem update_sample {n : ℕ} {held : FeedbackVelocity} (limitPos : 0 < limit)
    (jitterNonneg : 0 ≤ jitter) (check : Bool) (later : stamp n < stamp (n + 1))
    (holds : HoldsSample continuous limit check position stamp n held) :
    let answer := held.update (position (n + 1)) (stamp (n + 1)) continuous limit jitter check
    HoldsSample continuous limit check position stamp (n + 1) answer.1 ∧
      (answer.2 = true ↔ check = true ∧ limit * jitter <
        accumulateUpTo (incrementAt continuous limit position stamp) (n + 1)) ∧
      answer.1.velocity = (if answer.2 then 0 else
        movementAt continuous position n / (stamp (n + 1) - stamp n) : ℚ) := by
  have later' : held.stamp < stamp (n + 1) := holds.atStamp ▸ later
  cases check with
  | false =>
      rw [FeedbackVelocity.update_of_unchecked holds.atPosition later' limitPos jitterNonneg]
      exact ⟨⟨rfl, rfl, rfl⟩, by simp, by rw [holds.atStamp]; rfl⟩
  | true =>
      have next : accumulateUpTo (incrementAt continuous limit position stamp) (n + 1) =
          max 0 (accumulateUpTo (incrementAt continuous limit position stamp) n +
            (|movement continuous (position (n + 1)) (position n)| -
              limit * (stamp (n + 1) - held.stamp))) := by
        rw [accumulateUpTo_succ, holds.atStamp]
        rfl
      rw [FeedbackVelocity.update_of_checked holds.atPosition holds.excess later' limitPos
        jitterNonneg]
      simp only [if_true, ← next]
      refine ⟨⟨rfl, rfl, rfl⟩, by simp, ?_⟩
      by_cases fault : limit * jitter <
          accumulateUpTo (incrementAt continuous limit position stamp) (n + 1)
      · simp [fault]
      · simp [fault, holds.atStamp, movementAt]

theorem holdsSample_estimator (continuous : Bool) (position : ℕ → ℚ) (limitPos : 0 < limit)
    (jitterNonneg : 0 ≤ jitter) (check : Bool) {n : ℕ}
    (increasing : ∀ i < n, stamp i < stamp (i + 1)) :
    HoldsSample continuous limit check position stamp n
      (estimator continuous limit jitter check (fun i => position i) stamp n) := by
  induction n with
  | zero => exact holdsSample_reset check
  | succ n ih =>
      exact (update_sample limitPos jitterNonneg check (increasing n n.lt_succ_self)
        (ih fun i below => increasing i (below.trans n.lt_succ_self))).1

/-! ## A sliding-window speed test -/

theorem sum_incrementAt {k n : ℕ} (upTo : k ≤ n) :
    ∑ i ∈ Finset.Ico k n, incrementAt continuous limit position stamp i =
      ∑ i ∈ Finset.Ico k n, |movementAt continuous position i| - limit * (stamp n - stamp k) := by
  induction n, upTo using Nat.le_induction with
  | base => simp
  | succ n upTo ih =>
      rw [Finset.sum_Ico_succ_top upTo, Finset.sum_Ico_succ_top upTo, ih, incrementAt]
      ring

/-- The excess after a sample is above a threshold exactly when some window that
ends there moved further than the limit allows. -/
theorem exceeds_iff_window_at (jitterNonneg : 0 ≤ jitter) (limitPos : 0 < limit) (n : ℕ) :
    limit * jitter < accumulateUpTo (incrementAt continuous limit position stamp) (n + 1) ↔
      ∃ k ≤ n, limit * (stamp (n + 1) - stamp k + jitter) <
        ∑ i ∈ Finset.Ico k (n + 1), |movementAt continuous position i| := by
  have window {k : ℕ} (upTo : k ≤ n + 1) :
      limit * jitter < ∑ i ∈ Finset.Ico k (n + 1), incrementAt continuous limit position stamp i ↔
        limit * (stamp (n + 1) - stamp k + jitter) <
          ∑ i ∈ Finset.Ico k (n + 1), |movementAt continuous position i| := by
    rw [sum_incrementAt upTo, lt_sub_iff_add_lt', mul_add]
  rw [lt_accumulateUpTo_iff]
  constructor
  · rintro ⟨k, upTo, exceeded⟩
    rcases Nat.lt_or_eq_of_le upTo with below | rfl
    · exact ⟨k, Nat.lt_succ_iff.mp below, (window upTo).mp exceeded⟩
    · -- The empty window does not exceed anything.
      rw [Finset.Ico_self, Finset.sum_empty] at exceeded
      exact absurd exceeded (not_lt.mpr (mul_nonneg limitPos.le jitterNonneg))
  · rintro ⟨k, upTo, exceeded⟩
    have upTo' := upTo.trans n.le_succ
    exact ⟨k, upTo', (window upTo').mpr exceeded⟩

/-- Calls that carry the held stamp again change nothing. -/
theorem again_eq_self {check : Bool} {repeats : ℕ → List Double} {n : ℕ} {held : FeedbackVelocity}
    (same : held.stamp = stamp n) :
    estimatorRepeating.again continuous limit jitter check stamp repeats n held = held := by
  unfold estimatorRepeating.again
  induction repeats n with
  | nil => rfl
  | cons position rest ih => rwa [List.foldl_cons, ← same, FeedbackVelocity.update_same_stamp, same]

theorem estimatorRepeating_eq (continuous : Bool) (position : ℕ → ℚ) (limitPos : 0 < limit)
    (jitterNonneg : 0 ≤ jitter) (check : Bool) (repeats : ℕ → List Double) {n : ℕ}
    (increasing : ∀ i < n, stamp i < stamp (i + 1)) :
    estimatorRepeating continuous limit jitter check (fun i => position i) stamp repeats n =
      estimator continuous limit jitter check (fun i => position i) stamp n := by
  have held := holdsSample_estimator continuous position limitPos jitterNonneg check increasing
  induction n with
  | zero => exact again_eq_self rfl
  | succ n ih =>
      have before (i : ℕ) (below : i < n) := increasing i (below.trans n.lt_succ_self)
      rw [estimatorRepeating, ih before
        (holdsSample_estimator continuous position limitPos jitterNonneg check before)]
      exact again_eq_self held.atStamp

/-- **The verdict and the velocity of a stream's next sample.** -/
theorem estimator_sample (continuous : Bool) (position : ℕ → ℚ) (limitPos : 0 < limit)
    (jitterNonneg : 0 ≤ jitter) (check : Bool) {n : ℕ}
    (increasing : ∀ i ≤ n, stamp i < stamp (i + 1)) :
    (faultAt continuous limit jitter check (fun i => position i) stamp n = true ↔ check = true ∧
        limit * jitter < accumulateUpTo (incrementAt continuous limit position stamp) (n + 1)) ∧
      (estimator continuous limit jitter check (fun i => position i) stamp (n + 1)).velocity =
        (if faultAt continuous limit jitter check (fun i => position i) stamp n then 0 else
          movementAt continuous position n / (stamp (n + 1) - stamp n) : ℚ) :=
  (update_sample limitPos jitterNonneg check (increasing n le_rfl)
    (holdsSample_estimator continuous position limitPos jitterNonneg check
      fun i below => increasing i below.le)).2

/-- **A verdict is a sliding-window speed test.**  The estimator is reset with
sample `0` and given samples `1` to `n + 1` with later and later stamps, each of
them any number of times again.  Sample `n + 1` is a fault exactly when the
movement summed over some window that ends with it is more than the limit allows
in the time of the window and the jitter tolerance; the velocity is then zero, and
else the last movement by the time it took.  Calls that carry the stamp of sample `n`
or `n + 1` again answer false and change nothing. -/
theorem fault_iff_window (continuous : Bool) {limit jitter : ℚ} (limitPos : 0 < limit)
    (jitterNonneg : 0 ≤ jitter) (position : ℕ → ℚ) (stamp : ℕ → Time)
    (repeats : ℕ → List Double) (n : ℕ) (increasing : ∀ i ≤ n, stamp i < stamp (i + 1)) :
    let self := estimatorRepeating continuous limit jitter true (fun i => position i) stamp
      repeats n
    let answer := self.update (position (n + 1)) (stamp (n + 1)) continuous limit jitter true
    (answer.2 = true ↔ ∃ k ≤ n, limit * (stamp (n + 1) - stamp k + jitter) <
        ∑ i ∈ Finset.Ico k (n + 1), |movement continuous (position (i + 1)) (position i)|) ∧
      answer.1.velocity = (if answer.2 then 0 else
        movement continuous (position (n + 1)) (position n) /
          (stamp (n + 1) - stamp n) : ℚ) ∧
      ∀ again : Double,
        self.update again (stamp n) continuous limit jitter true = (self, false) ∧
        answer.1.update again (stamp (n + 1)) continuous limit jitter true = (answer.1, false) := by
  intro self answer
  have before (i : ℕ) (below : i < n) := increasing i below.le
  have same := estimatorRepeating_eq continuous position limitPos jitterNonneg true repeats before
  have held := holdsSample_estimator continuous position limitPos jitterNonneg true before
  rw [← same] at held
  obtain ⟨holds, verdict, velocity⟩ := update_sample limitPos jitterNonneg true
    (increasing n le_rfl) held
  refine ⟨?_, velocity, ?_⟩
  · rw [verdict, exceeds_iff_window_at jitterNonneg limitPos]
    simp [movementAt]
  · intro again
    have atStamp : self.stamp = stamp n := held.atStamp
    have atStamp' : answer.1.stamp = stamp (n + 1) := holds.atStamp
    rw [← atStamp, ← atStamp']
    exact ⟨FeedbackVelocity.update_same_stamp .., FeedbackVelocity.update_same_stamp ..⟩

/-- A joint that moves two radians and back in two seconds is a fault at a limit
of one, though it is back where it started. -/
theorem fault_iff_window_reversal :
    ((estimatorRepeating false (1 : ℚ) (0 : ℚ) true (fun i => (if i = 1 then 2 else 0 : ℚ))
      (fun i => (i : ℚ)) (fun _ => [.nan, (7 : ℚ)]) 1).update (0 : ℚ) 2 false (1 : ℚ) (0 : ℚ)
        true).2 = true := by
  have window := (fault_iff_window false one_pos le_rfl (fun i => if i = 1 then 2 else 0)
    (fun i => (i : ℚ)) (fun _ => [.nan, (7 : ℚ)]) 1 (fun i _ => by push_cast; linarith)).1
  norm_num at window
  exact window.mpr ⟨0, by norm_num, by norm_num [Finset.sum_range_succ, movement]⟩

/-! ## Wrapped and linear angles -/

/-- A sensor's angle, counted in any number of whole turns, as the callback stores it. -/
def wrappedAt (degrees : ℕ → ℚ) (turns : ℕ → ℤ) (i : ℕ) : ℚ :=
  remainder ((degrees i + 360 * turns i) * kDegreesToRadians) kTwoPi

theorem wrapToPi_degreesToRadians (degrees : ℕ → ℚ) (turns : ℕ → ℤ) (i : ℕ) :
    wrapToPi (degreesToRadians (degrees i + 360 * turns i : ℚ)) = wrappedAt degrees turns i := by
  simp [wrappedAt]

/-- The shortest way between two wrapped angles is the movement of the angle. -/
theorem movementAt_wrapped {degrees : ℕ → ℚ} (turns : ℕ → ℤ) {i : ℕ}
    (small : |degrees (i + 1) - degrees i| < 180) :
    movementAt true (wrappedAt degrees turns) i =
      movementAt false (fun i => degrees i * kDegreesToRadians) i := by
  have turn : 360 * kDegreesToRadians = kTwoPi := by norm_num [kDegreesToRadians, kTwoPi]; ring
  have half : 180 * kDegreesToRadians = kTwoPi / 2 := by rw [← turn]; ring
  have near : |(degrees (i + 1) - degrees i) * kDegreesToRadians| < kTwoPi / 2 := by
    rw [abs_mul, abs_of_pos kDegreesToRadians_pos, ← half]
    exact mul_lt_mul_of_pos_right small kDegreesToRadians_pos
  have wraps (j : ℕ) : ∃ m : ℤ, wrappedAt degrees turns j =
      degrees j * kDegreesToRadians + m * kTwoPi := by
    obtain ⟨m, split⟩ := remainder_add_int_mul_eq
      ((degrees j + 360 * turns j) * kDegreesToRadians) kTwoPi
    refine ⟨turns j - m, ?_⟩
    push_cast
    unfold wrappedAt
    linear_combination -split + (turns j : ℚ) * turn
  obtain ⟨m, before⟩ := wraps i
  obtain ⟨m', after⟩ := wraps (i + 1)
  have apart : wrappedAt degrees turns (i + 1) - wrappedAt degrees turns i =
      (degrees (i + 1) - degrees i) * kDegreesToRadians + (m' - m : ℤ) * kTwoPi := by
    rw [before, after]
    push_cast
    ring
  calc movementAt true (wrappedAt degrees turns) i
      = remainder ((degrees (i + 1) - degrees i) * kDegreesToRadians + (m' - m : ℤ) * kTwoPi)
          kTwoPi := by rw [← apart]; rfl
    _ = (degrees (i + 1) - degrees i) * kDegreesToRadians := remainder_add_int_mul_of_lt near _
    _ = movementAt false (fun i => degrees i * kDegreesToRadians) i := sub_mul ..

/-- **The wrapped estimator is the linear one on the unwrapped angle.**  Whatever
whole turns the sensor adds to an angle that moves less than half a turn from
sample to sample, the verdict and the velocity are those of the angle itself: the
true velocity unless the sample is a fault, and zero if it is one. -/
theorem wrapped_eq_linear {limit jitter : ℚ} (limitPos : 0 < limit) (jitterNonneg : 0 ≤ jitter)
    (check : Bool) (degrees : ℕ → ℚ) (turns : ℕ → ℤ) (stamp : ℕ → Time) (n : ℕ)
    (small : ∀ i ≤ n, |degrees (i + 1) - degrees i| < 180)
    (increasing : ∀ i ≤ n, stamp i < stamp (i + 1)) :
    let wrapped (i : ℕ) : Double := wrapToPi (degreesToRadians (degrees i + 360 * turns i : ℚ))
    let linear (i : ℕ) : Double := degreesToRadians (degrees i)
    faultAt true limit jitter check wrapped stamp n =
        faultAt false limit jitter check linear stamp n ∧
      (estimator true limit jitter check wrapped stamp (n + 1)).velocity =
        (estimator false limit jitter check linear stamp (n + 1)).velocity ∧
      (faultAt true limit jitter check wrapped stamp n = false →
        (estimator true limit jitter check wrapped stamp (n + 1)).velocity =
          ((degrees (n + 1) - degrees n) * kDegreesToRadians / (stamp (n + 1) - stamp n) : ℚ)) ∧
      (faultAt true limit jitter check wrapped stamp n = true →
        (estimator true limit jitter check wrapped stamp (n + 1)).velocity = 0 ∧
          (estimator false limit jitter check linear stamp (n + 1)).velocity = 0) := by
  intro wrapped linear
  have isWrapped : wrapped = fun i => (wrappedAt degrees turns i : Double) :=
    funext (wrapToPi_degreesToRadians degrees turns)
  have isLinear : linear = fun i => ((degrees i * kDegreesToRadians : ℚ) : Double) := rfl
  have sameMovement (i : ℕ) (upTo : i ≤ n) := movementAt_wrapped turns (small i upTo)
  have sameExcess : accumulateUpTo
        (incrementAt true limit (wrappedAt degrees turns) stamp) (n + 1) =
      accumulateUpTo
        (incrementAt false limit (fun i => degrees i * kDegreesToRadians) stamp) (n + 1) := by
    refine accumulateUpTo_congr ?_
    intro i below
    rw [incrementAt, sameMovement i (Nat.lt_succ_iff.mp below)]
    rfl
  obtain ⟨verdict, velocity⟩ := estimator_sample true (wrappedAt degrees turns) limitPos
    jitterNonneg check increasing
  obtain ⟨verdict', velocity'⟩ := estimator_sample false
    (fun i => degrees i * kDegreesToRadians) limitPos jitterNonneg check increasing
  rw [isWrapped, isLinear]
  have sameVerdict := Bool.eq_iff_iff.mpr (verdict.trans (sameExcess ▸ verdict'.symm))
  refine ⟨sameVerdict, ?_, fun taken => ?_, fun fault => ?_⟩
  · rw [velocity, velocity', sameVerdict, sameMovement n le_rfl]
  · rw [velocity, taken, sameMovement n le_rfl, movementAt, movement, sub_mul]
    rfl
  · rw [velocity, velocity', ← sameVerdict, fault]
    exact ⟨rfl, rfl⟩

/-- An angle that grows by 20 degrees a second, which the sensor counts a turn
down at every sample. -/
theorem wrapped_eq_linear_across_turns :
    (estimator true (1 : ℚ) (0 : ℚ) true
      (fun i => wrapToPi (degreesToRadians (170 + 20 * (i : ℚ) + 360 * (-(i : ℤ) : ℤ) : ℚ)))
      (fun i => (i : ℚ)) 1).velocity = (20 * kDegreesToRadians : ℚ) := by
  have true_velocity := (wrapped_eq_linear one_pos le_rfl true (fun i => 170 + 20 * (i : ℚ))
    (fun i => -(i : ℤ)) (fun i => (i : ℚ)) 0
    (fun i _ => by rw [abs_lt]; push_cast; constructor <;> linarith)
    (fun i _ => by push_cast; linarith)).2.2.1 (by decide +kernel)
  rw [zero_add] at true_velocity
  rw [true_velocity]
  norm_num

/-- At a fault the velocity is zero, not the true one. -/
theorem wrapped_velocity_zero_at_fault :
    ¬ ∀ (limit jitter : ℚ) (check : Bool) (degrees : ℕ → ℚ) (turns : ℕ → ℤ) (stamp : ℕ → Time)
      (n : ℕ), 0 < limit → 0 ≤ jitter → (∀ i, |degrees (i + 1) - degrees i| < 180) →
        (∀ i, stamp i < stamp (i + 1)) →
        (estimator true limit jitter check
          (fun i => wrapToPi (degreesToRadians (degrees i + 360 * turns i : ℚ))) stamp
          (n + 1)).velocity =
        ((degrees (n + 1) - degrees n) * kDegreesToRadians / (stamp (n + 1) - stamp n) : ℚ) := by
  intro always
  have velocity := always 1 0 true (fun i => 90 * (i : ℚ)) (fun _ => 0) (fun i => (i : ℚ)) 0
    one_pos le_rfl (fun i => by rw [abs_lt]; push_cast; constructor <;> linarith)
    (fun i => by push_cast; linarith)
  revert velocity
  decide +kernel

/-! ## Skipped samples -/

/-- The movement between two samples is no longer than the way past the samples
in between. -/
theorem abs_movement_le_sum (continuous : Bool) (position : ℕ → ℚ) {k n : ℕ} (upTo : k ≤ n) :
    |movement continuous (position n) (position k)| ≤
      ∑ i ∈ Finset.Ico k n, |movementAt continuous position i| := by
  have triangle (a b c : ℚ) :
      |movement continuous a c| ≤ |movement continuous a b| + |movement continuous b c| := by
    cases continuous with
    | true => exact abs_remainder_sub_le kTwoPi_pos a b c
    | false => exact abs_sub_le a b c
  induction n, upTo using Nat.le_induction with
  | base => cases continuous <;> simp [movement, remainder, roundTiesEven]
  | succ n upTo ih =>
      have next : |movementAt continuous position n| =
          |movement continuous (position (n + 1)) (position n)| := rfl
      rw [Finset.sum_Ico_succ_top upTo, next]
      linarith [triangle (position (n + 1)) (position n) (position k)]

/-- What one sample of the sparse stream adds is at most what the samples up to
it added. -/
theorem incrementAt_skipping_le (continuous : Bool) (limit : ℚ) (position : ℕ → ℚ)
    (stamp : ℕ → Time) {index : ℕ → ℕ} {i : ℕ} (ordered : index i ≤ index (i + 1)) :
    incrementAt continuous limit (fun i => position (index i)) (fun i => stamp (index i)) i ≤
      ∑ j ∈ Finset.Ico (index i) (index (i + 1)),
        incrementAt continuous limit position stamp j := by
  have way := abs_movement_le_sum continuous position ordered
  calc incrementAt continuous limit (fun i => position (index i)) (fun i => stamp (index i)) i
      = |movement continuous (position (index (i + 1))) (position (index i))| -
          limit * (stamp (index (i + 1)) - stamp (index i)) := rfl
    _ ≤ ∑ j ∈ Finset.Ico (index i) (index (i + 1)), |movementAt continuous position j| -
          limit * (stamp (index (i + 1)) - stamp (index i)) := by linarith
    _ = _ := (sum_incrementAt ordered).symm

theorem strictMonoOn_of_increasing {α : Type*} [Preorder α] {f : ℕ → α} {n : ℕ}
    (increasing : ∀ j < n, f j < f (j + 1)) : StrictMonoOn f (Set.Iic n) :=
  strictMonoOn_of_lt_succ Set.ordConnected_Iic fun j _ _ upTo =>
    increasing j (Nat.lt_of_succ_le upTo)

/-- **Skipping samples never creates a fault.**  An estimator that is given only
the samples of a selection holds, at each of them, at most the excess of one that
is given every sample; where the full stream has no fault, neither has the
selection.  The two need not be reset with the same sample. -/
theorem skipping_keeps_excess_below (continuous : Bool) {limit jitter : ℚ} (limitPos : 0 < limit)
    (jitterNonneg : 0 ≤ jitter) (position : ℕ → ℚ) (stamp : ℕ → Time) (index : ℕ → ℕ) (m : ℕ)
    (ordered : ∀ i < m, index i < index (i + 1))
    (increasing : ∀ j < index m, stamp j < stamp (j + 1)) :
    let full := estimator continuous limit jitter true (fun j => position j) stamp
    let sparse := estimator continuous limit jitter true (fun i => position (index i))
      fun i => stamp (index i)
    (sparse m).excessDistance ≤ (full (index m)).excessDistance ∧
      ((∀ j < index m, faultAt continuous limit jitter true (fun j => position j) stamp j = false) →
        ∀ i < m, faultAt continuous limit jitter true (fun i => position (index i))
          (fun i => stamp (index i)) i = false) := by
  intro full sparse
  have ordered' (i : ℕ) (below : i < m) := (ordered i below).le
  have inside (i : ℕ) (below : i < m) : index (i + 1) ≤ index m :=
    (strictMonoOn_of_increasing ordered).monotoneOn below (le_refl m) below
  have increasing' (i : ℕ) (below : i < m) : stamp (index i) < stamp (index (i + 1)) :=
    strictMonoOn_of_increasing increasing ((ordered' i below).trans (inside i below))
      (inside i below) (ordered i below)
  have merged (k : ℕ) (upTo : k ≤ m) :
      accumulateUpTo (incrementAt continuous limit (fun i => position (index i))
        fun i => stamp (index i)) k ≤
      accumulateUpTo (incrementAt continuous limit position stamp) (index k) :=
    accumulateUpTo_merge_le (fun i below => ordered' i (below.trans_le upTo)) fun i below =>
      incrementAt_skipping_le continuous limit position stamp (ordered' i (below.trans_le upTo))
  constructor
  · rw [(holdsSample_estimator continuous _ limitPos jitterNonneg true increasing').excess,
      (holdsSample_estimator continuous _ limitPos jitterNonneg true increasing).excess]
    simpa using merged m le_rfl
  · intro quiet i below
    rw [Bool.eq_false_iff, Ne, (estimator_sample continuous _ limitPos jitterNonneg true
      fun j upTo => increasing' j (upTo.trans_lt below)).1]
    rintro ⟨-, exceeded⟩
    -- The selected sample is a sample of the full stream, with at least that excess.
    obtain ⟨j, isNext⟩ := Nat.exists_eq_succ_of_ne_zero (Nat.ne_zero_of_lt (ordered i below))
    have reach : j < index m := by
      have := inside i below
      omega
    have fault := (estimator_sample continuous position limitPos jitterNonneg true
      fun l upTo => increasing l (upTo.trans_lt reach)).1.mpr
        ⟨rfl, exceeded.trans_le ((merged (i + 1) below).trans_eq (by rw [isNext]))⟩
    rw [quiet j reach] at fault
    cases fault

/-- A joint that swings to and fro, seen at every second sample only. -/
theorem skipping_keeps_excess_below_swinging :
    (estimator false (1 : ℚ) (0 : ℚ) true (fun i => ((2 * i % 4 : ℕ) : ℚ))
        (fun i => ((2 * i : ℕ) : ℚ)) 2).excessDistance ≤
      (estimator false (1 : ℚ) (0 : ℚ) true (fun i => ((i % 4 : ℕ) : ℚ))
        (fun i => (i : ℚ)) 4).excessDistance :=
  (skipping_keeps_excess_below false one_pos le_rfl (fun i => ((i % 4 : ℕ) : ℚ))
    (fun i => (i : ℚ)) (fun i => 2 * i) 2 (fun i _ => by omega)
    (fun i _ => by push_cast; linarith)).1

/-! ## The check of two samples alone -/

/-- What `velocity_exceeds_limit` says of sample `n + 1` and the one before. -/
def plainFaultAt (continuous : Bool) (limit : ℚ) (position : ℕ → ℚ) (stamp : ℕ → Time) (n : ℕ) :
    Bool :=
  velocityExceedsLimit (movementAt continuous position n) ((stamp (n + 1) - stamp n : ℚ) : Double)
    limit

/-- It is a fault exactly when the sample adds to the excess. -/
theorem plainFaultAt_iff (continuous : Bool) (position : ℕ → ℚ) (limitPos : 0 < limit) {n : ℕ}
    (later : stamp n < stamp (n + 1)) :
    plainFaultAt continuous limit position stamp n = true ↔
      0 < incrementAt continuous limit position stamp n := by
  have period : 0 < stamp (n + 1) - stamp n := sub_pos.mpr later
  simp only [plainFaultAt, velocityExceedsLimit, Double.div_finite _ period.ne', incrementAt]
  simp [limitPos, later, abs_div, abs_of_pos period, lt_div_iff₀ period]

/-- **The estimator and the two-sample check.**  On a stream of finite samples with later
and later stamps the estimator finds no fault before `velocity_exceeds_limit` does, whatever
the jitter tolerance; without tolerance the first fault of the one is the first fault of
the other. -/
theorem first_fault_is_plain (continuous : Bool) {limit jitter : ℚ} (limitPos : 0 < limit)
    (jitterNonneg : 0 ≤ jitter) (position : ℕ → ℚ) (stamp : ℕ → Time) (n : ℕ)
    (increasing : ∀ i ≤ n, stamp i < stamp (i + 1)) :
    (faultAt continuous limit jitter true (fun i => position i) stamp n = true →
      ∃ i ≤ n, plainFaultAt continuous limit position stamp i = true) ∧
    ((∀ i < n, plainFaultAt continuous limit position stamp i = false) →
      faultAt continuous limit (0 : ℚ) true (fun i => position i) stamp n =
        plainFaultAt continuous limit position stamp n) := by
  have slow {i : ℕ} (upTo : i ≤ n) (quiet : plainFaultAt continuous limit position stamp i = false) :
      incrementAt continuous limit position stamp i ≤ 0 := by
    rw [← not_lt, ← plainFaultAt_iff continuous position limitPos (increasing i upTo), quiet]
    exact Bool.false_ne_true
  constructor
  · intro fault
    by_contra quiet
    push Not at quiet
    have exceeded := ((estimator_sample continuous position limitPos jitterNonneg true
      increasing).1.mp fault).2
    rw [accumulateUpTo_eq_zero fun i below => slow (Nat.lt_succ_iff.mp below)
      ((Bool.not_eq_true _).mp (quiet i (Nat.lt_succ_iff.mp below)))] at exceeded
    exact absurd exceeded (not_lt.mpr (mul_nonneg limitPos.le jitterNonneg))
  · intro quiet
    rw [Bool.eq_iff_iff, (estimator_sample continuous position limitPos le_rfl true increasing).1,
      plainFaultAt_iff continuous position limitPos (increasing n le_rfl), accumulateUpTo_succ,
      accumulateUpTo_eq_zero fun i below => slow below.le (quiet i below)]
    simp

/-- A joint that speeds up. -/
theorem first_fault_is_plain_rushing :
    faultAt false (1 : ℚ) (0 : ℚ) true (fun i => ((i * i : ℚ) : Double)) (fun i => (2 * i : ℚ)) 1 =
      plainFaultAt false 1 (fun i => (i * i : ℚ)) (fun i => (2 * i : ℚ)) 1 :=
  (first_fault_is_plain false one_pos le_rfl (fun i => (i * i : ℚ)) (fun i => (2 * i : ℚ)) 1
    (fun i _ => by push_cast; linarith)).2 fun i first => by
      obtain rfl : i = 0 := by omega
      decide +kernel

end Finite

end Tb20e.Control
