/-
# Control.MathUtils -- the arithmetic shared by the hardware and the gamepad

The functions of `math_utils.hpp`, on exact doubles.  Each carries the guards of
the source; the lemmas that follow it say what it computes once its arguments
are finite, which is all the rest of the development uses.
-/
import Tb20e.Control.Axes
import Tb20e.Theory.ExactDouble

namespace Tb20e.Control

set_option autoImplicit false

open Tb20e.Theory
open Tb20e.Theory (Double)

def kPi : ℚ := 3.14159265358979323846
def kTwoPi : ℚ := 2 * kPi
def kDegreesToRadians : ℚ := kPi / 180

theorem kPi_pos : 0 < kPi := by norm_num [kPi]

theorem kTwoPi_pos : 0 < kTwoPi := mul_pos two_pos kPi_pos

theorem kDegreesToRadians_pos : 0 < kDegreesToRadians := div_pos kPi_pos (by norm_num)

def degreesToRadians (degrees : Double) : Double := degrees * kDegreesToRadians

def wrapToPi (radians : Double) : Double := Double.remainder radians kTwoPi

def shortestAngularDelta (current previous : Double) : Double :=
  Double.remainder (current - previous) kTwoPi

def boundedLeverCommand
    (controllerCommand leverSign leverMin leverMax : Double) : Double :=
  if !controllerCommand.isFinite || !leverSign.isFinite || !leverMin.isFinite ||
      !leverMax.isFinite then 0
  else clamp (leverSign * controllerCommand) leverMin leverMax

/-- The lever for a bounded command and the direction the compensation is left
in.  Thresholds are signed lever percentages; a reversal has to cross the start
threshold again. -/
def compensatedLeverCommand
    (command positiveMin negativeMin start stop : Double) (activeDirection : ℤ) : Double × ℤ :=
  if !command.isFinite || !positiveMin.isFinite || !negativeMin.isFinite ||
      !start.isFinite || !stop.isFinite ||
      positiveMin < 0 || negativeMin < 0 || stop < 0 || start ≤ stop then (0, 0)
  else
    let direction : ℤ := (if command > 0 then 1 else 0) - (if command < 0 then 1 else 0)
    let minimum := if direction > 0 then positiveMin else negativeMin
    if minimum = 0 then (command, 0)
    else
      let magnitude := command.abs
      if magnitude ≤ stop || (activeDirection ≠ direction && magnitude < start) then (0, 0)
      else (((direction : ℚ) : Double) * stdMax minimum magnitude, direction)

def positionOutsideLimits (position positionMin positionMax tolerance : Double) : Bool :=
  position < positionMin - tolerance || position > positionMax + tolerance

def commandPointsOutsideLimit
    (position controllerCommand positionMin positionMax : Double) : Bool :=
  (position ≤ positionMin && controllerCommand < 0) ||
    (position ≥ positionMax && controllerCommand > 0)

def velocityExceedsLimit (positionDelta periodSec velocityLimit : Double) : Bool :=
  if !positionDelta.isFinite || !periodSec.isFinite || !velocityLimit.isFinite ||
      periodSec ≤ 0 || velocityLimit ≤ 0 then true
  else (positionDelta / periodSec).abs > velocityLimit

/-! ## What the functions compute on finite arguments -/

/-- The sign of a finite command: what the compensation calls its direction. -/
def directionOf (command : ℚ) : ℤ := (if command > 0 then 1 else 0) - (if command < 0 then 1 else 0)

@[simp] theorem degreesToRadians_finite (degrees : ℚ) :
    degreesToRadians degrees = Double.finite (degrees * kDegreesToRadians) := rfl

@[simp] theorem wrapToPi_finite (radians : ℚ) :
    wrapToPi radians = Double.finite (remainder radians kTwoPi) :=
  Double.remainder_finite radians kTwoPi_pos.ne'

@[simp] theorem shortestAngularDelta_finite (current previous : ℚ) :
    shortestAngularDelta current previous =
      Double.finite (remainder (current - previous) kTwoPi) := by
  simp only [shortestAngularDelta, Double.sub_finite, Double.remainder_finite _ kTwoPi_pos.ne']

@[simp] theorem boundedLeverCommand_finite (command sign lower upper : ℚ) :
    boundedLeverCommand command sign lower upper =
      Double.finite (clamp (sign * command) lower upper) := by
  simp [boundedLeverCommand]

theorem directionOf_of_pos {command : ℚ} (pos : 0 < command) : directionOf command = 1 := by
  simp [directionOf, pos, not_lt.mpr pos.le]

theorem directionOf_of_neg {command : ℚ} (neg : command < 0) : directionOf command = -1 := by
  simp [directionOf, neg, not_lt.mpr neg.le]

@[simp] theorem directionOf_zero : directionOf 0 = 0 := by simp [directionOf]

theorem directionOf_pos_iff {command : ℚ} : 0 < directionOf command ↔ 0 < command := by
  rcases lt_trichotomy command 0 with neg | rfl | pos
  · simp [directionOf_of_neg neg, neg.le]
  · simp
  · simp [directionOf_of_pos pos, pos]

theorem directionOf_mul_abs (command : ℚ) : (directionOf command : ℚ) * |command| = command := by
  rcases lt_trichotomy command 0 with neg | rfl | pos
  · simp [directionOf_of_neg neg, abs_of_neg neg]
  · simp
  · simp [directionOf_of_pos pos, abs_of_pos pos]

/-- The compensation on finite, ordered settings: pass a command through in a
direction without a minimum, else output nothing until the start threshold and
again from the stop threshold down. -/
theorem compensatedLeverCommand_finite {positiveMin negativeMin start stop : ℚ}
    (positive : 0 ≤ positiveMin) (negative : 0 ≤ negativeMin) (nonneg : 0 ≤ stop)
    (ordered : stop < start) (command : ℚ) (activeDirection : ℤ) :
    compensatedLeverCommand command positiveMin negativeMin start stop activeDirection =
      (let minimum := if 0 < command then positiveMin else negativeMin
       if minimum = 0 then (Double.finite command, 0)
       else if |command| ≤ stop ∨ (activeDirection ≠ directionOf command ∧ |command| < start) then
         (0, 0)
       else (Double.finite (directionOf command * max minimum |command|), directionOf command)) := by
  have guard : (!(command : Double).isFinite || !(positiveMin : Double).isFinite ||
      !(negativeMin : Double).isFinite || !(start : Double).isFinite ||
      !(stop : Double).isFinite || decide ((positiveMin : Double) < 0) ||
      decide ((negativeMin : Double) < 0) || decide ((stop : Double) < 0) ||
      decide ((start : Double) ≤ stop)) = false := by
    simp [positive, negative, nonneg, ordered]
  have direction : ((if (command : Double) > 0 then 1 else 0) -
      (if (command : Double) < 0 then 1 else 0) : ℤ) = directionOf command := by
    simp [directionOf]
  rw [compensatedLeverCommand, if_neg (by rw [guard]; exact Bool.false_ne_true)]
  simp only [direction]
  simp only [gt_iff_lt, directionOf_pos_iff, ← apply_ite Double.finite,
    Double.finite.injEq, Double.zero_eq, Double.abs_finite, Double.stdMax_finite,
    Double.mul_finite, Double.finite_le_finite, Double.finite_lt_finite, stdMax_eq_max,
    Bool.or_eq_true, Bool.and_eq_true, decide_eq_true_eq]

end Tb20e.Control
