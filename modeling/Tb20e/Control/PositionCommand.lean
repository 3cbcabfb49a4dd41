/-
# Control.PositionCommand -- integrating lever commands into joint targets

`position_command.hpp`: one step moves each target by the lever's share of the
axis's full speed, wraps the swing and clamps the other axes to their range.
`advanceAxis_swing` and `advanceAxis_clamped` are the step on finite targets, and
`abs_clamp_add_sub_le_iff` says when the clamp makes a step longer than asked.
-/
import Tb20e.Control.MathUtils
import Mathlib.Tactic.Linarith

namespace Tb20e.Control.PositionCommand

set_option autoImplicit false

open Tb20e.Theory
open Tb20e.Theory (Double)

structure Config where
  fullSpeedRadS : Axis → Double := fun _ => degreesToRadians (50 : ℚ)
  lowerRad : Axis → Double := fun
    | 0 => (-kPi : ℚ)
    | 1 => degreesToRadians (-83 : ℚ)
    | 2 => degreesToRadians (32 : ℚ)
    | 3 => degreesToRadians (-31 : ℚ)
  upperRad : Axis → Double := fun
    | 0 => kPi
    | 1 => degreesToRadians (48 : ℚ)
    | 2 => degreesToRadians (155 : ℚ)
    | 3 => degreesToRadians (159 : ℚ)

/-- The loop body of `advance`. -/
def advanceAxis (config : Config) (periodSec : Double) (axis : Axis) (target lever : Double) :
    Double :=
  if !target.isFinite || !lever.isFinite || !(config.fullSpeedRadS axis).isFinite then target
  else
    let boundedLever := clamp lever ((-100 : ℚ) : Double) ((100 : ℚ) : Double)
    let moved :=
      target + boundedLever / ((100 : ℚ) : Double) * config.fullSpeedRadS axis * periodSec
    if axis = 0 then wrapToPi moved
    else clamp moved (config.lowerRad axis) (config.upperRad axis)

/-- The joint ranges as rationals: the limits of `Config`. -/
def jointLower : Axis → ℚ
  | 0 => -kPi
  | 1 => -83 * kDegreesToRadians
  | 2 => 32 * kDegreesToRadians
  | 3 => -31 * kDegreesToRadians

def jointUpper : Axis → ℚ
  | 0 => kPi
  | 1 => 48 * kDegreesToRadians
  | 2 => 155 * kDegreesToRadians
  | 3 => 159 * kDegreesToRadians

theorem jointLower_le_jointUpper (axis : Axis) : jointLower axis ≤ jointUpper axis := by
  have pi := kPi_pos
  have degree := kDegreesToRadians_pos
  fin_cases axis <;> simp [jointLower, jointUpper] <;> linarith

def advance (currentTarget leverPercent : Axis → Double) (config : Config) (periodSec : Double) :
    Axis → Double :=
  if !periodSec.isFinite || periodSec ≤ 0 then currentTarget
  else fun axis => advanceAxis config periodSec axis (currentTarget axis) (leverPercent axis)

/-! ## Advancing finite targets -/

/-- The move a lever asks for in a period. -/
def move (fullSpeed lever period : ℚ) : ℚ := clamp lever (-100) 100 / 100 * fullSpeed * period

@[simp] theorem move_zero (fullSpeed period : ℚ) : move fullSpeed 0 period = 0 := by
  norm_num [move, clamp]

section Advance

variable {config : Config} {speed : ℚ} {period : ℚ} {axis : Axis}

theorem advance_of_not_pos (target lever : Axis → Double) (still : period ≤ 0) :
    advance target lever config (period : Double) = target := by
  simp [advance, still]

theorem advance_of_pos (target lever : Axis → Double) (positive : 0 < period) (axis : Axis) :
    advance target lever config (period : Double) axis =
      advanceAxis config (period : Double) axis (target axis) (lever axis) := by
  simp [advance, not_le.mpr positive]

theorem advanceAxis_swing (isSpeed : config.fullSpeedRadS 0 = speed) (target lever : ℚ) :
    advanceAxis config (period : Double) 0 target lever =
      Double.finite (remainder (target + move speed lever period) kTwoPi) := by
  have hundred : (100 : ℚ) ≠ 0 := by norm_num
  simp [advanceAxis, isSpeed, move, Double.div_finite _ hundred]

/-- Off the swing a finite target is clamped to the axis's range, whatever the range is. -/
theorem advanceAxis_notSwing (isSpeed : config.fullSpeedRadS axis = speed) (notSwing : axis ≠ 0)
    (target lever : ℚ) :
    advanceAxis config (period : Double) axis target lever =
      clamp (Double.finite (target + move speed lever period)) (config.lowerRad axis)
        (config.upperRad axis) := by
  have hundred : (100 : ℚ) ≠ 0 := by norm_num
  simp [advanceAxis, isSpeed, notSwing, move, Double.div_finite _ hundred]

theorem advanceAxis_clamped (isSpeed : config.fullSpeedRadS axis = speed) (notSwing : axis ≠ 0)
    {lower upper : ℚ} (isLower : config.lowerRad axis = lower) (isUpper : config.upperRad axis = upper)
    (target lever : ℚ) :
    advanceAxis config (period : Double) axis target lever =
      Double.finite (clamp (target + move speed lever period) lower upper) := by
  rw [advanceAxis_notSwing isSpeed notSwing, isLower, isUpper, Double.clamp_finite]

/-- An axis with a target or a lever that is not finite keeps its target. -/
theorem advance_idle {target lever : Axis → Double} {axis : Axis}
    (idle : (target axis).isFinite = false ∨ (lever axis).isFinite = false) (period : Double) :
    advance target lever config period axis = target axis := by
  unfold advance
  split
  · rfl
  · rcases idle with idle | idle <;> simp [advanceAxis, idle]

end Advance

/-- How far a lever within its scale moves a target. -/
theorem abs_move {fullSpeed lever period : ℚ} (speedNonneg : 0 ≤ fullSpeed)
    (periodNonneg : 0 ≤ period) (small : |lever| ≤ 100) :
    |move fullSpeed lever period| = |lever| / 100 * fullSpeed * period := by
  obtain ⟨above, below⟩ := abs_le.mp small
  rw [move, clamp_eq_self above below, abs_mul, abs_mul, abs_div, abs_of_nonneg speedNonneg,
    abs_of_nonneg periodNonneg]
  norm_num

/-- A clamped move is no longer than the move asked for exactly when the point was
within that move of the range. -/
theorem abs_clamp_add_sub_le_iff {lower upper : ℚ} (ordered : lower ≤ upper) (x move : ℚ) :
    |clamp (x + move) lower upper - x| ≤ |move| ↔ lower - |move| ≤ x ∧ x ≤ upper + |move| := by
  have up := le_abs_self move
  have down := neg_abs_le move
  unfold clamp
  split_ifs with below above
  · rw [abs_le]
    constructor
    · rintro ⟨-, reach⟩; constructor <;> linarith
    · rintro ⟨reach, -⟩; constructor <;> linarith
  · rw [abs_le]
    constructor
    · rintro ⟨reach, -⟩; constructor <;> linarith
    · rintro ⟨-, reach⟩; constructor <;> linarith
  · rw [add_sub_cancel_left]
    exact ⟨fun _ => ⟨by linarith, by linarith⟩, fun _ => le_rfl⟩

end Tb20e.Control.PositionCommand
