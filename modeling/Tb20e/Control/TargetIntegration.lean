/-
# Control.TargetIntegration -- integrating a held lever over any ticks

`advanceOver` advances the targets once for each of some periods, the lever
being held.  Moves in one direction saturate at most once, so an axis that is
clamped ends where one advance by the whole time would take it
(`advanceOver_notSwing`); wrapping loses whole turns only, so the swing ends at
the same angle (`advanceOver_swing`).
-/
import Mathlib.Data.List.Induction
import Mathlib.Algebra.Order.BigOperators.Group.List
import Tb20e.Control.PositionCommand

namespace Tb20e.Control.PositionCommand

set_option autoImplicit false

open Tb20e.Theory
open Tb20e.Theory (Double)

/-- The targets after one advance for each period. -/
def advanceOver (target lever : Axis → Double) (config : Config) (periods : List ℚ) :
    Axis → Double :=
  periods.foldl (fun target period => advance target lever config (period : Double)) target

theorem advanceOver_concat (target lever : Axis → Double) (config : Config) (periods : List ℚ)
    (period : ℚ) :
    advanceOver target lever config (periods ++ [period]) =
      advance (advanceOver target lever config periods) lever config (period : Double) := by
  simp [advanceOver]

theorem move_add (fullSpeed lever first second : ℚ) :
    move fullSpeed lever (first + second) = move fullSpeed lever first + move fullSpeed lever second :=
  mul_add ..

/-- A held lever moves a target in one direction only. -/
theorem move_oneWay (fullSpeed lever : ℚ) {first second : ℚ} (nonneg : 0 ≤ first)
    (nonneg' : 0 ≤ second) :
    (0 ≤ move fullSpeed lever first ∧ 0 ≤ move fullSpeed lever second) ∨
      (move fullSpeed lever first ≤ 0 ∧ move fullSpeed lever second ≤ 0) := by
  rcases le_total 0 (clamp lever (-100) 100 / 100 * fullSpeed) with up | down
  · exact .inl ⟨mul_nonneg up nonneg, mul_nonneg up nonneg'⟩
  · exact .inr ⟨mul_nonpos_of_nonpos_of_nonneg down nonneg,
      mul_nonpos_of_nonpos_of_nonneg down nonneg'⟩

section Over

variable {config : Config} {target lever : Axis → Double} {periods : List ℚ}

theorem advanceOver_idle {axis : Axis}
    (idle : (target axis).isFinite = false ∨ (lever axis).isFinite = false) :
    advanceOver target lever config periods axis = target axis := by
  induction periods using List.reverseRecOn with
  | nil => rfl
  | append_singleton periods period ih =>
      rw [advanceOver_concat, advance_idle (by rwa [ih]), ih]

/-- **Clamped axes**: advancing period by period is advancing once. -/
theorem advanceOver_notSwing {axis : Axis} {speed x held : ℚ}
    (isSpeed : config.fullSpeedRadS axis = speed) (notSwing : axis ≠ 0) (isTarget : target axis = x)
    (isLever : lever axis = held) (above : config.lowerRad axis ≤ Double.finite x)
    (below : Double.finite x ≤ config.upperRad axis) (positive : ∀ period ∈ periods, 0 < period) :
    advanceOver target lever config periods axis =
      clamp (Double.finite (x + move speed held periods.sum)) (config.lowerRad axis)
        (config.upperRad axis) := by
  induction periods using List.reverseRecOn with
  | nil =>
      have still : move speed held 0 = 0 := mul_zero _
      rw [List.sum_nil, still, add_zero, Double.clamp_eq_self above below]
      exact isTarget
  | append_singleton periods period ih =>
      have earlier (p : ℚ) (member : p ∈ periods) := positive p (List.mem_append_left _ member)
      have last : 0 < period := positive period (by simp)
      obtain ⟨y, isY, whole⟩ := Double.clamp_clamp_add above below
        (move_oneWay speed held (List.sum_nonneg fun p member => (earlier p member).le) last.le)
      rw [advanceOver_concat, advance_of_pos _ _ last, ih earlier, isY, isLever,
        advanceAxis_notSwing isSpeed notSwing, whole, List.sum_append, List.sum_singleton,
        move_add, add_assoc]

/-- **The swing**: advancing period by period ends whole turns away. -/
theorem advanceOver_swing {speed x held : ℚ} (isSpeed : config.fullSpeedRadS 0 = speed)
    (isTarget : target 0 = x) (isLever : lever 0 = held)
    (positive : ∀ period ∈ periods, 0 < period) :
    ∃ a : ℚ, advanceOver target lever config periods 0 = a ∧
      (∃ turns : ℤ, a = x + move speed held periods.sum + turns * kTwoPi) ∧
      (periods ≠ [] → ∃ turns : ℤ,
        a = remainder (x + move speed held periods.sum + turns * kTwoPi) kTwoPi) := by
  induction periods using List.reverseRecOn with
  | nil => exact ⟨x, isTarget, ⟨0, by simp [move]⟩, fun empty => absurd rfl empty⟩
  | append_singleton periods period ih =>
      have last : 0 < period := positive period (by simp)
      obtain ⟨a, isA, ⟨turns, apart⟩, -⟩ := ih fun p member =>
        positive p (List.mem_append_left _ member)
      have next : a + move speed held period =
          x + move speed held (periods ++ [period]).sum + turns * kTwoPi := by
        rw [apart, List.sum_append, List.sum_singleton, move_add]
        ring
      refine ⟨remainder (a + move speed held period) kTwoPi, ?_, ?_, fun _ => ⟨turns, by rw [next]⟩⟩
      · rw [advanceOver_concat, advance_of_pos _ _ last, isA, isLever, advanceAxis_swing isSpeed]
      · obtain ⟨n, split⟩ := remainder_add_int_mul_eq (a + move speed held period) kTwoPi
        refine ⟨turns - n, ?_⟩
        push_cast
        linarith

theorem advanceOver_inRange {axis : Axis} (isSpeed : (config.fullSpeedRadS axis).isFinite = true)
    (notSwing : axis ≠ 0)
    (inside : config.lowerRad axis ≤ target axis ∧ target axis ≤ config.upperRad axis)
    (positive : ∀ period ∈ periods, 0 < period) :
    config.lowerRad axis ≤ advanceOver target lever config periods axis ∧
      advanceOver target lever config periods axis ≤ config.upperRad axis := by
  obtain ⟨speed, isSpeed⟩ := Double.isFinite_iff.mp isSpeed
  by_cases idle : (target axis).isFinite = false ∨ (lever axis).isFinite = false
  · rwa [advanceOver_idle idle]
  · simp only [not_or, Bool.not_eq_false, Double.isFinite_iff] at idle
    obtain ⟨⟨x, isTarget⟩, held, isLever⟩ := idle
    rw [isTarget] at inside
    obtain ⟨y, isY, range⟩ := Double.exists_clamp_eq inside.1 inside.2
      (x + move speed held periods.sum)
    rw [advanceOver_notSwing isSpeed notSwing isTarget isLever inside.1 inside.2 positive, isY]
    exact range

/-- **The targets do not depend on the tick rate.**  Advancing period by period
with a held lever takes every clamped axis exactly where one advance by the whole
time takes it, and the swing to the same angle: the same value, unless that is
half a turn.  On the way every clamped axis stays in its range and the swing within
half a turn, and an axis whose lever is not finite keeps its target. -/
theorem advanceOver_eq_advance (config : Config) (target lever : Axis → Double)
    {periods : List ℚ}
    (finiteSpeeds : ∀ axis, (config.fullSpeedRadS axis).isFinite = true)
    (inside : ∀ axis, axis ≠ 0 →
      config.lowerRad axis ≤ target axis ∧ target axis ≤ config.upperRad axis)
    (swingFinite : (target 0).isFinite = true) (nonempty : periods ≠ [])
    (positive : ∀ period ∈ periods, 0 < period) :
    let after := advanceOver target lever config
    let once := advance target lever config (periods.sum : ℚ)
    (∀ axis, axis ≠ 0 → after periods axis = once axis) ∧
      (∃ a b : ℚ, after periods 0 = a ∧ once 0 = b ∧ (∃ turns : ℤ, a = b + turns * kTwoPi) ∧
        (|b| ≠ kPi → a = b)) ∧
      ∀ earlier, earlier <+: periods →
        (∀ axis, axis ≠ 0 →
          config.lowerRad axis ≤ after earlier axis ∧ after earlier axis ≤ config.upperRad axis) ∧
        (earlier ≠ [] → (lever 0).isFinite = true → ∃ a : ℚ, after earlier 0 = a ∧ |a| ≤ kPi) ∧
        ∀ axis, (lever axis).isFinite = false → after earlier axis = target axis := by
  intro after once
  have total : 0 < periods.sum := List.sum_pos _ positive nonempty
  have half : kTwoPi / 2 = kPi := mul_div_cancel_left₀ kPi two_ne_zero
  obtain ⟨x, isTarget⟩ := Double.isFinite_iff.mp swingFinite
  obtain ⟨speed, isSpeed⟩ := Double.isFinite_iff.mp (finiteSpeeds 0)
  refine ⟨?_, ?_, ?_⟩
  · intro axis notSwing
    by_cases idle : (target axis).isFinite = false ∨ (lever axis).isFinite = false
    · exact (advanceOver_idle idle).trans (advance_idle idle _).symm
    · simp only [not_or, Bool.not_eq_false, Double.isFinite_iff] at idle
      obtain ⟨⟨x, isTarget⟩, held, isLever⟩ := idle
      obtain ⟨speed, isSpeed⟩ := Double.isFinite_iff.mp (finiteSpeeds axis)
      obtain ⟨above, below⟩ := isTarget ▸ inside axis notSwing
      show advanceOver target lever config periods axis = advance target lever config _ axis
      rw [advanceOver_notSwing isSpeed notSwing isTarget isLever above below positive,
        advance_of_pos _ _ total, isTarget, isLever, advanceAxis_notSwing isSpeed notSwing]
  · cases isLever : lever 0 with
    | finite held =>
        obtain ⟨a, isA, -, wrapped⟩ := advanceOver_swing isSpeed isTarget isLever positive
        obtain ⟨turns, rfl⟩ := wrapped nonempty
        have isOnce : once 0 = (remainder (x + move speed held periods.sum) kTwoPi : ℚ) := by
          show advance target lever config (periods.sum : ℚ) 0 = _
          rw [advance_of_pos _ _ total, isTarget, isLever, advanceAxis_swing isSpeed]
        have congruent := remainder_congr kTwoPi_pos
          (rfl : x + move speed held periods.sum + turns * kTwoPi = _)
        exact ⟨_, _, isA, isOnce, congruent.1, half ▸ congruent.2⟩
    | inf | nan =>
        have idle : (lever 0).isFinite = false := by rw [isLever]; rfl
        exact ⟨x, x, (advanceOver_idle (.inr idle)).trans isTarget,
          (advance_idle (.inr idle) _).trans isTarget, ⟨0, by simp⟩, fun _ => rfl⟩
  · intro earlier upTo
    have positive' (period : ℚ) (member : period ∈ earlier) := positive period (upTo.subset member)
    refine ⟨?_, ?_, ?_⟩
    · intro axis notSwing
      exact advanceOver_inRange (finiteSpeeds axis) notSwing (inside axis notSwing) positive'
    · intro started leverFinite
      obtain ⟨held, isLever⟩ := Double.isFinite_iff.mp leverFinite
      obtain ⟨a, isA, -, wrapped⟩ := advanceOver_swing isSpeed isTarget isLever positive'
      obtain ⟨turns, rfl⟩ := wrapped started
      exact ⟨_, isA, half ▸ abs_remainder_le kTwoPi_pos _⟩
    · intro axis notFinite
      exact advanceOver_idle (.inr notFinite)

end Over

/-- The boom pushed up past its limit and the arm left alone, in three ticks. -/
theorem advanceOver_eq_advance_boom :
    advanceOver (fun axis => if axis = 2 then (1 : ℚ) else (0 : ℚ))
        (fun axis => if axis = 1 then (150 : ℚ) else .nan) {} [1 / 2, 1, 2] 1 =
      advance (fun axis => if axis = 2 then (1 : ℚ) else (0 : ℚ))
        (fun axis => if axis = 1 then (150 : ℚ) else .nan) {}
        (([1 / 2, 1, 2] : List ℚ).sum : ℚ) 1 :=
  (advanceOver_eq_advance {} _ _ (fun _ => rfl)
    (fun axis notSwing => by revert axis; decide +kernel) rfl (by simp)
    (by norm_num)).1 1 (by decide)

end Tb20e.Control.PositionCommand
