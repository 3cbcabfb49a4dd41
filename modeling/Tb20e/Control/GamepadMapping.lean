/-
# Control.GamepadMapping -- from stick positions to lever commands

`gamepad_mapping.hpp`.  A Joy message carries its stick positions as a vector of
any length; the mapping says which entry drives which axis and how far.  Three
facts are used later: which entries the mapping reads (`Mapping.indices`), what
the dead zone is on rationals (`applyDeadzone_finite`), and that finite entries
are mapped to commands within the scales (`exists_mapAxes_eq`).
-/
import Tb20e.Control.MathUtils

namespace Tb20e.Control

set_option autoImplicit false

open Tb20e.Theory
open Tb20e.Theory (Double)

structure Mapping where
  swingAxis : ℤ := 0
  armAxis : ℤ := 1
  bucketAxis : ℤ := 2
  boomAxis : ℤ := 3
  swingScale : Double := (100 : ℚ)
  armScale : Double := (-100 : ℚ)
  bucketScale : Double := (100 : ℚ)
  boomScale : Double := (100 : ℚ)
  deadzone : Double := (1 / 10 : ℚ)
  deriving DecidableEq, Repr

namespace Mapping

/-- The entry of the message that drives an axis. -/
def index (mapping : Mapping) : Axis → ℤ
  | 0 => mapping.swingAxis
  | 1 => mapping.boomAxis
  | 2 => mapping.armAxis
  | 3 => mapping.bucketAxis

def scale (mapping : Mapping) : Axis → Double
  | 0 => mapping.swingScale
  | 1 => mapping.boomScale
  | 2 => mapping.armScale
  | 3 => mapping.bucketScale

/-- The entries in the order the source lists them. -/
def indices (mapping : Mapping) : List ℤ := axes.map mapping.index

theorem index_mem_indices (mapping : Mapping) (axis : Axis) :
    mapping.index axis ∈ mapping.indices :=
  List.mem_map_of_mem (mem_axes axis)

end Mapping

def applyDeadzone (value deadzone : Double) : Double :=
  let bounded := clamp value (-1) 1
  let magnitude := bounded.abs
  if magnitude ≤ deadzone then 0
  else
    let rescaled := (magnitude - deadzone) / (1 - deadzone)
    Double.copysign rescaled bounded

def axisIndicesAreValid (axes : List Double) (mapping : Mapping) : Bool :=
  mapping.indices.all fun index => 0 ≤ index && index.toNat < axes.length

/-- `axes[index]`, for an index that is valid. -/
def axisValue (axes : List Double) (index : ℤ) : Double := axes.getD index.toNat 0

def mapAxes (axes : List Double) (mapping : Mapping) (axis : Axis) : Double :=
  if !axisIndicesAreValid axes mapping then 0
  else applyDeadzone (axisValue axes (mapping.index axis)) mapping.deadzone * mapping.scale axis

/-! ## Finite sticks -/

/-- The dead zone on rationals. -/
def deadzoneCurve (deadzone value : ℚ) : ℚ :=
  let bounded := clamp value (-1) 1
  if |bounded| ≤ deadzone then 0
  else
    let rescaled := (|bounded| - deadzone) / (1 - deadzone)
    if bounded < 0 then -rescaled else rescaled

theorem applyDeadzone_finite {deadzone : ℚ} (below : deadzone < 1) (value : ℚ) :
    applyDeadzone value deadzone = Double.finite (deadzoneCurve deadzone value) := by
  have room : 0 < 1 - deadzone := sub_pos.mpr below
  simp only [applyDeadzone, deadzoneCurve, Double.one_eq, Double.neg_finite, Double.clamp_finite,
    Double.abs_finite, Double.finite_le_finite, Double.sub_finite, Double.div_finite _ room.ne',
    Double.copysign, Double.isNegative_finite, decide_eq_true_eq, Double.zero_eq]
  split
  · rfl
  · next outside =>
      have rescaled : 0 ≤ (|clamp value (-1) 1| - deadzone) / (1 - deadzone) :=
        div_nonneg (by linarith) room.le
      rw [abs_of_nonneg rescaled]
      split <;> rfl

theorem abs_deadzoneCurve_le {deadzone : ℚ} (below : deadzone < 1) (value : ℚ) :
    |deadzoneCurve deadzone value| ≤ 1 := by
  have bounds : |clamp value (-1) 1| ≤ 1 :=
    abs_le.mpr ⟨le_clamp (by norm_num) value, clamp_le (by norm_num) value⟩
  simp only [deadzoneCurve]
  split
  · simp
  · next outside =>
      have room : 0 < 1 - deadzone := sub_pos.mpr below
      have unit : |(|clamp value (-1) 1| - deadzone) / (1 - deadzone)| ≤ 1 := by
        rw [abs_of_nonneg (div_nonneg (by linarith) room.le), div_le_one room]
        linarith
      split
      · rwa [abs_neg]
      · exact unit

/-- The dead zone maps a finite stick position into the unit interval. -/
theorem exists_applyDeadzone_eq {deadzone : ℚ} (below : deadzone < 1) (value : ℚ) :
    ∃ q : ℚ, applyDeadzone value deadzone = Double.finite q ∧ |q| ≤ 1 :=
  ⟨_, applyDeadzone_finite below value, abs_deadzoneCurve_le below value⟩

/-- Finite sticks are mapped to finite commands within the scales. -/
theorem exists_mapAxes_eq {mapping : Mapping} {deadzone : ℚ} {scale : Axis → ℚ}
    (hasDeadzone : mapping.deadzone = deadzone) (below : deadzone < 1)
    (hasScale : ∀ axis, mapping.scale axis = scale axis) {axes : List Double}
    (finite : ∀ index ∈ mapping.indices, (axisValue axes index).isFinite = true) (axis : Axis) :
    ∃ q : ℚ, mapAxes axes mapping axis = Double.finite q ∧ |q| ≤ |scale axis| := by
  unfold mapAxes
  split
  · exact ⟨0, rfl, by simp⟩
  · obtain ⟨stick, isStick⟩ := Double.isFinite_iff.mp (finite _ (mapping.index_mem_indices axis))
    obtain ⟨unit, mapped, small⟩ := exists_applyDeadzone_eq below stick
    refine ⟨unit * scale axis, ?_, ?_⟩
    · rw [isStick, hasDeadzone, mapped, hasScale, Double.mul_finite]
    · calc |unit * scale axis| = |unit| * |scale axis| := abs_mul ..
        _ ≤ 1 * |scale axis| := mul_le_mul_of_nonneg_right small (abs_nonneg _)
        _ = |scale axis| := one_mul _

end Tb20e.Control
