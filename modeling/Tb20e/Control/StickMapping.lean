/-
# Control.StickMapping -- the commands are zero exactly when the gate sees neutral

Two pieces of code decide whether a stick is centred.  The gate compares the raw
value with the dead zone; the mapping clamps it first, cuts the dead zone out and
rescales what is left.  The dead zone is odd, and on positive sticks it is a ramp
between two constants (`deadzoneCurve_of_nonneg`): it joins at both ends, so it is
monotone, and it is zero on the dead zone only.

`neutral_iff_zero_command` puts this together with the gate: an update does with a
message what it does with a neutral one exactly when the message maps to zero.
-/
import Mathlib.Order.Monotone.Odd
import Tb20e.Control.GamepadSafety

namespace Tb20e.Control

set_option autoImplicit false

open Tb20e.Theory
open Tb20e.Theory (Double)

/-! ## The dead zone -/

section Curve

variable {deadzone : ℚ}

theorem deadzoneCurve_neg (nonneg : 0 ≤ deadzone) (value : ℚ) :
    deadzoneCurve deadzone (-value) = -deadzoneCurve deadzone value := by
  simp only [deadzoneCurve, clamp_neg zero_le_one value, abs_neg, Left.neg_neg_iff]
  split_ifs with inside positive negative negative
  · rw [neg_zero]
  · exact absurd negative (not_lt.mpr positive.le)
  · rfl
  · rw [neg_neg]
  · -- A clamped value that is neither positive nor negative is in the dead zone.
    have zero : clamp value (-1) 1 = 0 := le_antisymm (not_lt.mp positive) (not_lt.mp negative)
    rw [zero, abs_zero] at inside
    exact absurd nonneg inside

/-- On positive sticks: zero on the dead zone, then a ramp, then one. -/
theorem deadzoneCurve_of_nonneg (below : deadzone < 1) {value : ℚ} (positive : 0 ≤ value) :
    deadzoneCurve deadzone value = max 0 ((min value 1 - deadzone) / (1 - deadzone)) := by
  have room : 0 < 1 - deadzone := sub_pos.mpr below
  have bounded : 0 ≤ min value 1 := le_min positive zero_le_one
  have clamped : clamp value (-1) 1 = min value 1 := by
    rw [clamp_eq_max_min (by norm_num)]
    exact max_eq_right (by linarith)
  simp only [deadzoneCurve, clamped, abs_of_nonneg bounded, not_lt.mpr bounded, if_false]
  split
  · next inside =>
      exact (max_eq_left (div_nonpos_of_nonpos_of_nonneg (by linarith) room.le)).symm
  · next outside =>
      exact (max_eq_right (div_nonneg (by linarith) room.le)).symm

theorem deadzoneCurve_monotone (nonneg : 0 ≤ deadzone) (below : deadzone < 1) :
    Monotone (deadzoneCurve deadzone) := by
  have room : 0 < 1 - deadzone := sub_pos.mpr below
  apply monotone_of_odd_of_monotoneOn_nonneg (deadzoneCurve_neg nonneg)
  intro value positive value' positive' le
  rw [deadzoneCurve_of_nonneg below positive, deadzoneCurve_of_nonneg below positive']
  have capped : min value 1 ≤ min value' 1 := min_le_min_right 1 le
  gcongr

theorem deadzoneCurve_of_one_le (below : deadzone < 1) {value : ℚ} (full : 1 ≤ value) :
    deadzoneCurve deadzone value = 1 := by
  have room : 1 - deadzone ≠ 0 := (sub_pos.mpr below).ne'
  rw [deadzoneCurve_of_nonneg below (zero_le_one.trans full), min_eq_right full,
    div_self room]
  exact max_eq_right zero_le_one

theorem deadzoneCurve_eq_zero_iff (nonneg : 0 ≤ deadzone) (below : deadzone < 1) (value : ℚ) :
    deadzoneCurve deadzone value = 0 ↔ |value| ≤ deadzone := by
  have room : 0 < 1 - deadzone := sub_pos.mpr below
  have onPositive {stick : ℚ} (positive : 0 ≤ stick) :
      deadzoneCurve deadzone stick = 0 ↔ stick ≤ deadzone := by
    rw [deadzoneCurve_of_nonneg below positive, max_eq_left_iff, div_le_iff₀ room, zero_mul,
      sub_nonpos, min_le_iff]
    exact or_iff_left (not_le.mpr below)
  rcases le_total 0 value with positive | negative
  · rw [abs_of_nonneg positive, onPositive positive]
  · have mirrored := onPositive (neg_nonneg.mpr negative)
    rw [deadzoneCurve_neg nonneg, neg_eq_zero] at mirrored
    rw [abs_of_nonpos negative, mirrored]

end Curve

/-- What the dead zone does to finite sticks. -/
structure DeadzoneLaw (deadzone : ℚ) : Prop where
  odd : ∀ value : ℚ,
    applyDeadzone (-value : ℚ) deadzone = -applyDeadzone value deadzone
  monotone : ∀ value value' : ℚ, value ≤ value' →
    applyDeadzone value deadzone ≤ applyDeadzone value' deadzone
  bounded : ∀ value : ℚ,
    -1 ≤ applyDeadzone value deadzone ∧ applyDeadzone value deadzone ≤ 1
  saturates : ∀ value : ℚ, 1 ≤ value →
    applyDeadzone value deadzone = 1 ∧ applyDeadzone (-value : ℚ) deadzone = -1
  zero_iff : ∀ value : ℚ, applyDeadzone value deadzone = 0 ↔ |value| ≤ deadzone

theorem deadzoneLaw {deadzone : ℚ} (nonneg : 0 ≤ deadzone) (below : deadzone < 1) :
    DeadzoneLaw deadzone := by
  constructor
  · intro value
    rw [applyDeadzone_finite below, applyDeadzone_finite below, deadzoneCurve_neg nonneg]
    rfl
  · intro value value' le
    rw [applyDeadzone_finite below, applyDeadzone_finite below, Double.finite_le_finite]
    exact deadzoneCurve_monotone nonneg below le
  · intro value
    rw [applyDeadzone_finite below]
    obtain ⟨above, upTo⟩ := abs_le.mp (abs_deadzoneCurve_le below value)
    exact ⟨(Double.finite_le_finite _ _).mpr above, (Double.finite_le_finite _ _).mpr upTo⟩
  · intro value full
    rw [applyDeadzone_finite below, applyDeadzone_finite below, deadzoneCurve_neg nonneg,
      deadzoneCurve_of_one_le below full]
    exact ⟨rfl, rfl⟩
  · intro value
    rw [applyDeadzone_finite below, ← deadzoneCurve_eq_zero_iff nonneg below]
    simp

/-! ## The mapping and the gate -/

/-- The message has a finite value for every entry that the mapping names. -/
structure HasSticks (axes : List Double) (mapping : Mapping) : Prop where
  indexed : axisIndicesAreValid axes mapping = true
  finite : ∀ index ∈ mapping.indices, (axisValue axes index).isFinite = true

section Mapping

variable {deadzone : ℚ} {mapping : Mapping} {scale : Axis → ℚ} {axes : List Double}

theorem HasSticks.isReadable (sticks : HasSticks axes mapping) (now : Time) :
    NeutralToggleGate.isReadable axes mapping now = true := by
  simpa [NeutralToggleGate.isReadable, sticks.indexed] using sticks.finite

/-- A command is its own stick, through the dead zone and scaled. -/
theorem HasSticks.exists_mapAxes_eq (sticks : HasSticks axes mapping) (below : deadzone < 1)
    (hasDeadzone : mapping.deadzone = deadzone) (hasScale : ∀ axis, mapping.scale axis = scale axis)
    (axis : Axis) : ∃ stick : ℚ, axisValue axes (mapping.index axis) = stick ∧
      mapAxes axes mapping axis = Double.finite (deadzoneCurve deadzone stick * scale axis) := by
  obtain ⟨stick, isStick⟩ :=
    Double.isFinite_iff.mp (sticks.finite _ (mapping.index_mem_indices axis))
  refine ⟨stick, isStick, ?_⟩
  rw [mapAxes, sticks.indexed, isStick, hasDeadzone, applyDeadzone_finite below, hasScale]
  rfl

/-- The command of an axis is zero exactly when its stick is in the dead zone. -/
theorem HasSticks.mapAxes_eq_zero_iff (sticks : HasSticks axes mapping) (nonneg : 0 ≤ deadzone)
    (below : deadzone < 1) (hasDeadzone : mapping.deadzone = deadzone)
    (hasScale : ∀ axis, mapping.scale axis = scale axis) {axis : Axis} (nonzero : scale axis ≠ 0) :
    mapAxes axes mapping axis = 0 ↔
      (axisValue axes (mapping.index axis)).abs ≤ mapping.deadzone := by
  obtain ⟨stick, isStick, command⟩ := sticks.exists_mapAxes_eq below hasDeadzone hasScale axis
  rw [command, isStick, hasDeadzone, Double.abs_finite, Double.finite_le_finite,
    ← deadzoneCurve_eq_zero_iff nonneg below, Double.zero_eq, Double.finite.injEq, mul_eq_zero]
  exact or_iff_left nonzero

theorem isNeutral_iff (axes : List Double) (mapping : Mapping) :
    NeutralToggleGate.isNeutral axes mapping = true ↔
      ∀ axis, (axisValue axes (mapping.index axis)).abs ≤ mapping.deadzone := by
  simp [NeutralToggleGate.isNeutral, Mapping.indices, mem_axes]

/-- A readable message is a sample of the gate, or of the gate reset after a gap. -/
theorem HasSticks.update_eq (sticks : HasSticks axes mapping) (gate : NeutralToggleGate)
    (buttonPressed : Bool) (now : Time) :
    gate.update axes mapping buttonPressed now =
      (if gate.isGap now then gate.reset else gate).sample
        (NeutralToggleGate.isNeutral axes mapping) buttonPressed now := by
  cases gap : gate.isGap now with
  | false => exact gate.update_of_sample (sticks.isReadable now) gap
  | true =>
      rw [gate.update_of_gap gap]
      exact gate.reset.update_of_sample (sticks.isReadable now) gate.isGap_reset

end Mapping

/-- **The commands are zero exactly when the gate sees neutral.**  A dead zone from
zero up to one is odd and monotone, bounded by one and one from there on, and zero on
the dead zone only.  So for a mapping with nonzero scales and a message with a finite
value for every entry it names, the message is neutral exactly when every command is
zero, and that is how every gate takes it.  No command is larger than its scale, and
each goes with its own stick alone, in the direction of its scale. -/
theorem neutral_iff_zero_command {deadzone : ℚ} (nonneg : 0 ≤ deadzone) (below : deadzone < 1) :
    DeadzoneLaw deadzone ∧
    ∀ (mapping : Mapping) (scale : Axis → ℚ), mapping.deadzone = deadzone →
      (∀ axis, mapping.scale axis = scale axis) → (∀ axis, scale axis ≠ 0) →
      ∀ axes, HasSticks axes mapping →
        (NeutralToggleGate.isNeutral axes mapping = true ↔
          ∀ axis, mapAxes axes mapping axis = 0) ∧
        (∀ (gate : NeutralToggleGate) (buttonPressed : Bool) (now : Time),
          gate.update axes mapping buttonPressed now =
            (if gate.isGap now then gate.reset else gate).sample
              (decide (∀ axis, mapAxes axes mapping axis = 0)) buttonPressed now) ∧
        (∀ axis, (mapAxes axes mapping axis).abs ≤ Double.finite |scale axis|) ∧
        ∀ axes', HasSticks axes' mapping → ∀ axis,
          axisValue axes (mapping.index axis) ≤ axisValue axes' (mapping.index axis) →
            (0 < scale axis → mapAxes axes mapping axis ≤ mapAxes axes' mapping axis) ∧
            (scale axis < 0 → mapAxes axes' mapping axis ≤ mapAxes axes mapping axis) := by
  refine ⟨deadzoneLaw nonneg below, ?_⟩
  intro mapping scale hasDeadzone hasScale nonzero axes sticks
  have neutral : NeutralToggleGate.isNeutral axes mapping = true ↔
      ∀ axis, mapAxes axes mapping axis = 0 := by
    rw [isNeutral_iff]
    apply forall_congr'
    intro axis
    exact (sticks.mapAxes_eq_zero_iff nonneg below hasDeadzone hasScale (nonzero axis)).symm
  refine ⟨neutral, ?_, ?_, ?_⟩
  · intro gate buttonPressed now
    have sameTest : NeutralToggleGate.isNeutral axes mapping =
        decide (∀ axis, mapAxes axes mapping axis = 0) := by
      rw [Bool.eq_iff_iff, neutral, decide_eq_true_eq]
    rw [← sameTest]
    exact sticks.update_eq gate buttonPressed now
  · intro axis
    obtain ⟨stick, -, command⟩ := sticks.exists_mapAxes_eq below hasDeadzone hasScale axis
    rw [command, Double.abs_finite, Double.finite_le_finite, abs_mul]
    exact mul_le_of_le_one_left (abs_nonneg _) (abs_deadzoneCurve_le below stick)
  · intro axes' sticks' axis further
    obtain ⟨stick, isStick, command⟩ := sticks.exists_mapAxes_eq below hasDeadzone hasScale axis
    obtain ⟨stick', isStick', command'⟩ :=
      sticks'.exists_mapAxes_eq below hasDeadzone hasScale axis
    rw [isStick, isStick', Double.finite_le_finite] at further
    have grows := deadzoneCurve_monotone nonneg below further
    rw [command, command', Double.finite_le_finite, Double.finite_le_finite]
    constructor
    · intro forward
      exact mul_le_mul_of_nonneg_right grows forward.le
    · intro backward
      exact mul_le_mul_of_nonpos_right grows backward.le

/-- Sticks that are just in the dead zone command nothing, and the arm's stick pushed on
from there moves it backward. -/
theorem neutral_iff_zero_command_edge :
    (∀ axis, mapAxes [(1 / 10 : ℚ), (-1 / 10 : ℚ), (0 : ℚ), (1 / 20 : ℚ)] {} axis = 0) ∧
      mapAxes [(0 : ℚ), (2 : ℚ), (0 : ℚ), (0 : ℚ)] {} 2 ≤
        mapAxes [(1 / 10 : ℚ), (-1 / 10 : ℚ), (0 : ℚ), (1 / 20 : ℚ)] {} 2 := by
  have law := (@neutral_iff_zero_command (1 / 10) (by norm_num) (by norm_num)).2 {}
    (fun axis => if axis = 2 then -100 else 100) rfl (by decide) (by decide)
    [(1 / 10 : ℚ), (-1 / 10 : ℚ), (0 : ℚ), (1 / 20 : ℚ)] ⟨by decide +kernel, by decide +kernel⟩
  refine ⟨law.1.mp (by decide +kernel), ?_⟩
  exact (law.2.2.2 [(0 : ℚ), (2 : ℚ), (0 : ℚ), (0 : ℚ)] ⟨by decide +kernel, by decide +kernel⟩ 2
    (by decide +kernel)).2 (by decide +kernel)

end Tb20e.Control
