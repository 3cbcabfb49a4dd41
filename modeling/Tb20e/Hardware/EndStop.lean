/-
# Hardware.EndStop -- which joint ranges the end-stop guard leaves drivable

The guard suppresses an effort that points outward within half a degree of an
end of the joint's range.  The two bands are measured inward from both ends, and
the loader only asks for a nonempty range, so the bands of a narrow joint
overlap: an inward effort is then suppressed too, and in the overlap every effort
is.  `endStopGuard_iff` says from which width on neither happens.
-/
import Tb20e.Hardware.LeverMessage

namespace Tb20e.Hardware

set_option autoImplicit false

open Tb20e.Theory Tb20e.Control
open Tb20e.Theory (Double)

variable {P : Parameters} {axis : Axis}

/-- On a finite joint the guard is `pushesPastEndStop`. -/
theorem movesOutsideEndStop_iff (finiteJoint : (P.axisConfigs axis).continuous = false)
    (position effort : ℚ) :
    movesOutsideEndStop P axis position effort = true ↔
      pushesPastEndStop (P.axisConfigs axis) position effort := by
  simp [movesOutsideEndStop, finiteJoint, commandPointsOutsideLimit, pushesPastEndStop]

/-- The positions stored for a finite joint are those of its range. -/
theorem exists_acceptedPosition_iff (valid : P.Valid)
    (finiteJoint : (P.axisConfigs axis).continuous = false) (position : ℚ) :
    (∃ degrees : ℚ, acceptedPosition P axis (some degrees) = some (position : Double)) ↔
      (P.axisConfigs axis).positionMinRad ≤ position ∧
        position ≤ (P.axisConfigs axis).positionMaxRad := by
  have ordered := ((valid.axis axis).position_lt finiteJoint).le
  constructor
  · rintro ⟨degrees, accepted⟩
    obtain ⟨degrees', -, stored⟩ := acceptedPosition_eq_some P accepted
    simp only [storedPosition, finiteJoint, Bool.false_eq_true, if_false,
      Double.finite.injEq] at stored
    rw [stored]
    exact ⟨le_clamp ordered _, clamp_le ordered _⟩
  · rintro ⟨above, below⟩
    have back : position / kDegreesToRadians * kDegreesToRadians = position :=
      div_mul_cancel₀ position kDegreesToRadians_pos.ne'
    have tolerance := valid.tolerance_nonneg
    have inside : positionOutsideLimits position (P.axisConfigs axis).positionMinRad
        (P.axisConfigs axis).positionMaxRad P.feedbackLimitToleranceRad = false := by
      simp only [positionOutsideLimits, Double.sub_finite, Double.add_finite, gt_iff_lt,
        Double.finite_lt_finite, Bool.or_eq_false_iff, decide_eq_false_iff_not, not_lt]
      constructor <;> linarith
    refine ⟨position / kDegreesToRadians, ?_⟩
    simp [acceptedPosition, finiteJoint, back, inside, clamp_eq_self above below]

/-- The effort points from the position strictly toward the middle of the range. -/
def PointsInward (config : AxisConfig) (position effort : ℚ) : Prop :=
  ((config.positionMinRad + config.positionMaxRad) / 2 < position ∧ effort < 0) ∨
    (position < (config.positionMinRad + config.positionMaxRad) / 2 ∧ 0 < effort)

/-- No effort that points inward from a stored position is suppressed. -/
def InwardFree (P : Parameters) (axis : Axis) : Prop :=
  ∀ degrees position effort : ℚ,
    acceptedPosition P axis (some degrees) = some (position : Double) →
    PointsInward (P.axisConfigs axis) position effort →
    movesOutsideEndStop P axis position effort = false

/-- From no stored position is every effort suppressed. -/
def NeverStuck (P : Parameters) (axis : Axis) : Prop :=
  ∀ degrees position : ℚ, acceptedPosition P axis (some degrees) = some (position : Double) →
    ¬ ∀ effort : ℚ, effort ≠ 0 → movesOutsideEndStop P axis position effort = true

theorem inwardFree_iff (valid : P.Valid) (finiteJoint : (P.axisConfigs axis).continuous = false) :
    InwardFree P axis ↔ 2 * kEndStopGuardRadians ≤
      (P.axisConfigs axis).positionMaxRad - (P.axisConfigs axis).positionMinRad := by
  have ordered := (valid.axis axis).position_lt finiteJoint
  constructor
  · intro free
    by_contra narrow
    -- The middle of a narrow range lies in the lower band, and so does a point above it.
    let top := min (P.axisConfigs axis).positionMaxRad
      ((P.axisConfigs axis).positionMinRad + kEndStopGuardRadians)
    have aboveMiddle :
        ((P.axisConfigs axis).positionMinRad + (P.axisConfigs axis).positionMaxRad) / 2 < top :=
      lt_min (by linarith) (by linarith)
    have inside := (exists_acceptedPosition_iff valid finiteJoint top).mpr
      ⟨by linarith, min_le_left _ _⟩
    obtain ⟨degrees, accepted⟩ := inside
    have suppressed := (movesOutsideEndStop_iff finiteJoint top (-1)).mpr
      (.inl ⟨min_le_right _ _, by norm_num⟩)
    rw [free degrees top (-1) accepted (.inl ⟨aboveMiddle, by norm_num⟩)] at suppressed
    cases suppressed
  · intro wide degrees position effort accepted inward
    rw [Bool.eq_false_iff, Ne, movesOutsideEndStop_iff finiteJoint]
    rintro (⟨low, down⟩ | ⟨high, up⟩)
    · rcases inward with ⟨above, -⟩ | ⟨-, up⟩ <;> linarith
    · rcases inward with ⟨-, down⟩ | ⟨below, -⟩ <;> linarith

theorem neverStuck_iff (valid : P.Valid) (finiteJoint : (P.axisConfigs axis).continuous = false) :
    NeverStuck P axis ↔ 2 * kEndStopGuardRadians <
      (P.axisConfigs axis).positionMaxRad - (P.axisConfigs axis).positionMinRad := by
  have ordered := (valid.axis axis).position_lt finiteJoint
  constructor
  · intro drivable
    by_contra narrow
    -- The middle of the range lies in both bands.
    let middle := ((P.axisConfigs axis).positionMinRad + (P.axisConfigs axis).positionMaxRad) / 2
    have isMiddle : 2 * middle =
        (P.axisConfigs axis).positionMinRad + (P.axisConfigs axis).positionMaxRad :=
      mul_div_cancel₀ _ two_ne_zero
    obtain ⟨degrees, accepted⟩ := (exists_acceptedPosition_iff valid finiteJoint middle).mpr
      ⟨by linarith, by linarith⟩
    refine drivable degrees middle accepted ?_
    intro effort moving
    rw [movesOutsideEndStop_iff finiteJoint]
    rcases lt_or_gt_of_ne moving with down | up
    · exact .inl ⟨by linarith, down⟩
    · exact .inr ⟨by linarith, up⟩
  · intro wide degrees position accepted stuck
    have down := (movesOutsideEndStop_iff finiteJoint position (-1)).mp (stuck (-1) (by norm_num))
    have up := (movesOutsideEndStop_iff finiteJoint position 1).mp (stuck 1 one_ne_zero)
    simp only [pushesPastEndStop] at down up
    norm_num at down up
    linarith

/-- **When the end-stop guard suppresses outward efforts only.**  On an accepted
finite joint, every inward effort passes and no position is stuck exactly when the
range is wider than the two guard bands together; inward efforts alone pass from
that width on. -/
theorem endStopGuard_iff {stod : Stod} {info : HardwareInfo}
    (loaded : loadHardwareParameters stod info = .ok P)
    (finiteJoint : (P.axisConfigs axis).continuous = false) :
    (InwardFree P axis ∧ NeverStuck P axis ↔ 2 * kEndStopGuardRadians <
      (P.axisConfigs axis).positionMaxRad - (P.axisConfigs axis).positionMinRad) ∧
    (InwardFree P axis ↔ 2 * kEndStopGuardRadians ≤
      (P.axisConfigs axis).positionMaxRad - (P.axisConfigs axis).positionMinRad) := by
  have valid := loadHardwareParameters_valid loaded
  rw [inwardFree_iff valid finiteJoint, neverStuck_iff valid finiteJoint]
  exact ⟨⟨And.right, fun wide => ⟨wide.le, wide⟩⟩, Iff.rfl⟩

/-- The default boom can be driven inward from everywhere. -/
theorem endStopGuard_iff_default :
    InwardFree defaultParameters 1 ∧ NeverStuck defaultParameters 1 := by
  have loaded : loadHardwareParameters (fun _ => .error "stod") (standardInfo fun _ => none) =
      .ok defaultParameters := loadHardwareParameters_unset fun _ => rfl
  exact (endStopGuard_iff loaded rfl).1.mpr (by decide +kernel)

/-- A description whose boom has a range of half a degree. -/
def narrowBoomInfo : HardwareInfo :=
  standardInfo fun key =>
    if key = "boom_position_min_deg" then some "0"
    else if key = "boom_position_max_deg" then some "0.5"
    else none

def narrowBoomParameters : Parameters :=
  { defaultParameters with
    axisConfigs := fun
      | 0 => defaultAxisConfigs 0
      | 1 => { defaultAxisConfigs 1 with
          positionMinRad := 0, positionMaxRad := 1 / 2 * kDegreesToRadians }
      | 2 => defaultAxisConfigs 2
      | 3 => defaultAxisConfigs 3 }

/-- The narrow boom is accepted.  At 0.4 degrees, above the middle of its range, a
negative effort is suppressed, and so is every other one. -/
theorem endStopGuard_suppresses_inward :
    loadHardwareParameters
        (fun text => if text = "0" then .ok ((0 : ℚ), 1)
          else if text = "0.5" then .ok ((1 / 2 : ℚ), 3) else .error "stod") narrowBoomInfo =
      .ok narrowBoomParameters ∧
    acceptedPosition narrowBoomParameters 1 (some (2 / 5 : ℚ)) =
      some ((2 / 5 * kDegreesToRadians : ℚ) : Double) ∧
    PointsInward (narrowBoomParameters.axisConfigs 1) (2 / 5 * kDegreesToRadians) (-1) ∧
    movesOutsideEndStop narrowBoomParameters 1 (2 / 5 * kDegreesToRadians : ℚ) (-1 : ℚ) = true ∧
    ∀ effort : ℚ, effort ≠ 0 →
      movesOutsideEndStop narrowBoomParameters 1 (2 / 5 * kDegreesToRadians : ℚ) effort = true := by
  have finiteJoint : (narrowBoomParameters.axisConfigs 1).continuous = false := rfl
  refine ⟨by decide +kernel, by decide +kernel, ?_, by decide +kernel, ?_⟩
  · left
    decide +kernel
  · intro effort moving
    rw [movesOutsideEndStop_iff finiteJoint]
    rcases lt_or_gt_of_ne moving with down | up
    · exact .inl ⟨by decide +kernel, down⟩
    · exact .inr ⟨by decide +kernel, up⟩

end Tb20e.Hardware
