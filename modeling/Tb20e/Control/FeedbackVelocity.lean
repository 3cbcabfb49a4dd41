/-
# Control.FeedbackVelocity -- the feedback speed estimator and its limit check

`feedback_velocity.hpp`: an estimator holds the last sample it was given, the
velocity between its last two samples and the distance by which the movement so
far exceeds what the speed limit allows.  The excess is carried from sample to
sample and goes back to zero when it would be negative, so

* `update_of_checked` says what one update of a finite sample does;
* `exceeds_iff_window` says that the clamped accumulator of a stream's increments
  is above a threshold exactly when the samples of some window ending with the
  last one moved further than the limit allows.

Samples carry no sender time; a sample's stamp is the instant it was received.
-/
import Tb20e.Theory.Accumulator
import Tb20e.Control.MathUtils

namespace Tb20e.Control

set_option autoImplicit false

open Tb20e.Theory
open Tb20e.Theory (Double)

structure FeedbackVelocity where
  position : Double := 0
  stamp : Time := 0
  velocity : Double := 0
  excessDistance : Double := 0
  deriving DecidableEq, Repr

namespace FeedbackVelocity

def reset (position : Double) (stamp : Time) : FeedbackVelocity where
  position := position
  stamp := stamp
  velocity := 0
  excessDistance := 0

/-- Take a sample: the estimator after it, and whether it is a fault. -/
def update (self : FeedbackVelocity) (position : Double) (stamp : Time) (continuous : Bool)
    (limit jitterToleranceSec : Double) (limitCheckEnabled : Bool) : FeedbackVelocity × Bool :=
  -- The same sample again keeps the velocity until new feedback arrives.
  if stamp = self.stamp then (self, false)
  else
    let dt : Double := ((stamp - self.stamp : ℚ) : Double)
    let delta :=
      if continuous then shortestAngularDelta position self.position
      else position - self.position
    if !delta.isFinite || dt ≤ 0 || !limit.isFinite || limit ≤ 0 ||
        !jitterToleranceSec.isFinite || jitterToleranceSec < 0 then
      ({ self with velocity := 0 }, true)
    else if !limitCheckEnabled then
      ({ position, stamp, velocity := delta / dt, excessDistance := 0 }, false)
    else
      let excessDistance := stdMax 0 (self.excessDistance + delta.abs - limit * dt)
      let fault : Bool := excessDistance > limit * jitterToleranceSec
      ({ position, stamp, velocity := if fault then 0 else delta / dt, excessDistance }, fault)

@[simp] theorem update_same_stamp (self : FeedbackVelocity) (position : Double)
    (continuous : Bool) (limit jitter : Double) (check : Bool) :
    self.update position self.stamp continuous limit jitter check = (self, false) := by
  simp [update]

/-- The estimator holds the sample it held or the one it was given. -/
theorem update_holds (self : FeedbackVelocity) (position : Double) (stamp : Time)
    (continuous : Bool) (limit jitter : Double) (check : Bool) :
    let next := (self.update position stamp continuous limit jitter check).1
    (next.position = self.position ∧ next.stamp = self.stamp) ∨
      (next.position = position ∧ next.stamp = stamp) := by
  by_cases same : stamp = self.stamp
  · simp [update, same]
  · simp only [update, same, if_false]
    generalize (if continuous then shortestAngularDelta position self.position
      else position - self.position) = delta
    split
    · exact .inl ⟨rfl, rfl⟩
    · split <;> exact .inr ⟨rfl, rfl⟩

end FeedbackVelocity

/-! ## One update of a finite sample -/

/-- How far an axis moved between two samples. -/
def movement (continuous : Bool) (current previous : ℚ) : ℚ :=
  if continuous then remainder (current - previous) kTwoPi else current - previous

namespace FeedbackVelocity

variable {self : FeedbackVelocity} {held position limit jitter : ℚ} {stamp : Time}
  {continuous : Bool}

theorem delta_finite (holds : self.position = held) :
    (if continuous then shortestAngularDelta position self.position
      else (position : Double) - self.position) = (movement continuous position held : ℚ) := by
  unfold movement
  cases continuous <;> simp [holds]

/-- A later finite sample passes the guard of `update`. -/
theorem guard_passes (delta : ℚ) {dt : ℚ} (dtPos : 0 < dt) (limitPos : 0 < limit)
    (jitterNonneg : 0 ≤ jitter) :
    (!(delta : Double).isFinite || decide ((dt : Double) ≤ 0) || !(limit : Double).isFinite ||
      decide ((limit : Double) ≤ 0) || !(jitter : Double).isFinite ||
      decide ((jitter : Double) < 0)) = false := by
  simp [dtPos, limitPos, jitterNonneg]

/-- With the check disabled a later finite sample is always taken. -/
theorem update_of_unchecked (holds : self.position = held) (later : self.stamp < stamp)
    (limitPos : 0 < limit) (jitterNonneg : 0 ≤ jitter) :
    self.update position stamp continuous limit jitter false =
      ({ position := position, stamp := stamp,
         velocity := (movement continuous position held / (stamp - self.stamp) : ℚ),
         excessDistance := 0 }, false) := by
  have dtPos : 0 < stamp - self.stamp := sub_pos.mpr later
  unfold update
  rw [if_neg later.ne', delta_finite holds]
  simp only [guard_passes _ dtPos limitPos jitterNonneg, Double.div_finite _ dtPos.ne']
  simp

/-- With the check enabled a later finite sample is always taken, and it is a
fault exactly when the excess it leaves is more than the jitter allows. -/
theorem update_of_checked {excess : ℚ} (holds : self.position = held)
    (carries : self.excessDistance = excess) (later : self.stamp < stamp)
    (limitPos : 0 < limit) (jitterNonneg : 0 ≤ jitter) :
    self.update position stamp continuous limit jitter true =
      (let dt := stamp - self.stamp
       let delta := movement continuous position held
       let excess' := max 0 (excess + (|delta| - limit * dt))
       ({ position := position, stamp := stamp,
          velocity := if limit * jitter < excess' then 0 else ((delta / dt : ℚ) : Double),
          excessDistance := excess' }, decide (limit * jitter < excess'))) := by
  have dtPos : 0 < stamp - self.stamp := sub_pos.mpr later
  unfold update
  rw [if_neg later.ne', delta_finite holds]
  simp only [guard_passes _ dtPos limitPos jitterNonneg, Double.div_finite _ dtPos.ne', carries]
  simp [stdMax_eq_max, add_sub_assoc]

end FeedbackVelocity

/-! ## Streams of samples -/

/-- A finite sample and the instant it was received. -/
structure Sample where
  position : ℚ
  stamp : Time
  deriving DecidableEq, Repr

/-- The movement of a stream, summed sample by sample, so that reversals add. -/
def travelled (continuous : Bool) : Sample → List Sample → ℚ
  | _, [] => 0
  | previous, sample :: rest =>
      |movement continuous sample.position previous.position| + travelled continuous sample rest

/-- The last sample of a nonempty stream. -/
def lastSample : Sample → List Sample → Sample
  | previous, [] => previous
  | _, sample :: rest => lastSample sample rest

/-- What each sample adds to the excess: its movement less what the limit allows. -/
def increments (continuous : Bool) (limit : ℚ) : Sample → List Sample → List ℚ
  | _, [] => []
  | previous, sample :: rest =>
      (|movement continuous sample.position previous.position| -
        limit * (sample.stamp - previous.stamp)) :: increments continuous limit sample rest

@[simp] theorem lastSample_concat (first : Sample) (later : List Sample) (sample : Sample) :
    lastSample first (later ++ [sample]) = sample := by
  induction later generalizing first with
  | nil => rfl
  | cons head rest ih => exact ih head

theorem increments_append_cons (continuous : Bool) (limit : ℚ) (first : Sample)
    (earlier : List Sample) (sample : Sample) (later : List Sample) :
    increments continuous limit first (earlier ++ sample :: later) =
      increments continuous limit first (earlier ++ [sample]) ++
        increments continuous limit sample later := by
  induction earlier generalizing first with
  | nil => rfl
  | cons head rest ih => simp [increments, ih]

theorem increments_concat (continuous : Bool) (limit : ℚ) (first : Sample) (later : List Sample)
    (sample : Sample) :
    increments continuous limit first (later ++ [sample]) =
      increments continuous limit first later ++
        [|movement continuous sample.position (lastSample first later).position| -
          limit * (sample.stamp - (lastSample first later).stamp)] := by
  induction later generalizing first with
  | nil => rfl
  | cons head rest ih => simp [increments, ih, lastSample]

theorem sum_increments (continuous : Bool) (limit : ℚ) (first : Sample) (later : List Sample) :
    (increments continuous limit first later).sum =
      travelled continuous first later -
        limit * ((lastSample first later).stamp - first.stamp) := by
  induction later generalizing first with
  | nil => simp [increments, travelled, lastSample]
  | cons sample rest ih =>
      simp only [increments, travelled, lastSample, List.sum_cons, ih]
      ring

/-- Some window of the stream that ends with its last sample moved further than
the limit allows in its time plus the jitter tolerance. -/
def WindowExceeds (continuous : Bool) (limit jitter : ℚ) (first : Sample)
    (later : List Sample) : Prop :=
  ∃ earlier start window, first :: later = earlier ++ start :: window ∧
    limit * ((lastSample start window).stamp - start.stamp + jitter) <
      travelled continuous start window

/-- A suffix of the increments is the increments of a window that ends now. -/
theorem exists_increments_eq {continuous : Bool} {limit : ℚ} {first : Sample}
    {later : List Sample} {before suffix : List ℚ}
    (split : increments continuous limit first later = before ++ suffix) :
    ∃ earlier start window, first :: later = earlier ++ start :: window ∧
      suffix = increments continuous limit start window := by
  induction later generalizing first before with
  | nil =>
      have none : before ++ suffix = [] := split.symm
      exact ⟨[], first, [], rfl, (List.append_eq_nil_iff.mp none).2⟩
  | cons sample rest ih =>
      cases before with
      | nil => exact ⟨[], first, sample :: rest, rfl, split.symm⟩
      | cons head tail =>
          simp only [increments, List.cons_append, List.cons.injEq] at split
          obtain ⟨earlier, start, window, whole, same⟩ := ih split.2
          exact ⟨first :: earlier, start, window, by simp [whole], same⟩

/-- The excess is above the tolerance exactly when some window that ends now is. -/
theorem exceeds_iff_window (continuous : Bool) {limit jitter : ℚ}
    (first : Sample) (later : List Sample) :
    limit * jitter < accumulate (increments continuous limit first later) ↔
      WindowExceeds continuous limit jitter first later := by
  rw [lt_accumulate_iff]
  constructor
  · rintro ⟨before, suffix, split, exceeded⟩
    obtain ⟨earlier, start, window, whole, same⟩ := exists_increments_eq split
    refine ⟨earlier, start, window, whole, ?_⟩
    rw [same, sum_increments] at exceeded
    linarith
  · rintro ⟨earlier, start, window, whole, exceeded⟩
    have total : (increments continuous limit start window).sum =
        travelled continuous start window -
          limit * ((lastSample start window).stamp - start.stamp) := sum_increments ..
    cases earlier with
    | nil =>
        simp only [List.nil_append, List.cons.injEq] at whole
        obtain ⟨rfl, rfl⟩ := whole
        exact ⟨[], _, rfl, by rw [total]; linarith⟩
    | cons head earlier =>
        simp only [List.cons_append, List.cons.injEq] at whole
        obtain ⟨rfl, rfl⟩ := whole
        exact ⟨_, _, increments_append_cons .., by rw [total]; linarith⟩

end Tb20e.Control
