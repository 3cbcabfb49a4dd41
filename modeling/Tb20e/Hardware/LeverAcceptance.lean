/-
# Hardware.LeverAcceptance -- which lever parameters `load_hardware_parameters` accepts

A description is compared with the same one without its lever parameters, which the
hardware accepts: topics, signs, position limits and everything that is not an axis's
are then right.  What is left are the checks of the lever range and of the dead-band
compensation, which the source makes in two places; `LeverValues.Consistent` is what
they come to.
-/
import Tb20e.Hardware.Parameters

namespace Tb20e.Hardware

set_option autoImplicit false

open Tb20e.Theory Tb20e.Control
open Tb20e.Theory (Double)

/-- The lever parameters of an axis, the maxima as magnitudes. -/
structure LeverValues where
  positiveMax : ℚ
  negativeMax : ℚ
  positiveMin : ℚ
  negativeMin : ℚ
  start : ℚ
  stop : ℚ
  deriving DecidableEq

/-- The lever parameters fit each other. -/
def LeverValues.Consistent (v : LeverValues) : Prop :=
  (0 ≤ v.positiveMin ∧ v.positiveMin ≤ v.positiveMax) ∧
    (0 ≤ v.negativeMin ∧ v.negativeMin ≤ v.negativeMax) ∧
    (0 ≤ v.stop ∧ v.stop < v.start) ∧
    (0 < v.positiveMin → v.start ≤ v.positiveMax) ∧
    (0 < v.negativeMin → v.start ≤ v.negativeMax) ∧
    0 < v.positiveMax + v.negativeMax

/-- The hardware reads these lever parameters for an axis, the negative maximum as a
minimum; its own defaults do not matter. -/
structure Receives (stod : Stod) (info : HardwareInfo) (axis : String) (v : LeverValues) :
    Prop where
  leverMin : ∀ d, parseFiniteDouble stod info (axis ++ "_" ++ "lever_min") d = .ok (-v.negativeMax)
  leverMax : ∀ d, parseFiniteDouble stod info (axis ++ "_" ++ "lever_max") d = .ok v.positiveMax
  positiveMin : ∀ d,
    parseFiniteDouble stod info (axis ++ "_" ++ "lever_positive_min") d = .ok v.positiveMin
  negativeMin : ∀ d,
    parseFiniteDouble stod info (axis ++ "_" ++ "lever_negative_min") d = .ok v.negativeMin
  start : ∀ d, parseFiniteDouble stod info (axis ++ "_" ++ "lever_start") d = .ok v.start
  stop : ∀ d, parseFiniteDouble stod info (axis ++ "_" ++ "lever_stop") d = .ok v.stop

/-- The parameters of an axis that are not about its lever's range and compensation. -/
def otherAxisParameters : List String :=
  ["state_topic", "command_topic", "feedback_limit_check_enabled", "lever_sign",
    "position_min_deg", "position_max_deg"]

section Congruence

variable {stod : Stod} {info info' : HardwareInfo} {key : String}
  (same : info.hardwareParameters key = info'.hardwareParameters key)
include same

theorem parseFiniteDouble_congr (defaultValue : ℚ) :
    parseFiniteDouble stod info key defaultValue =
      parseFiniteDouble stod info' key defaultValue := by
  simp only [parseFiniteDouble, same]

theorem stringParameter_congr (defaultValue : String) :
    stringParameter info key defaultValue = stringParameter info' key defaultValue := by
  simp only [stringParameter, same]

theorem parseBoolParameter_congr (defaultValue : Bool) :
    parseBoolParameter info key defaultValue = parseBoolParameter info' key defaultValue := by
  simp only [parseBoolParameter, same]

theorem parseBounded_congr (defaultValue : ℚ) (accept : ℚ → Bool) (complaint : String) :
    parseBounded stod info key defaultValue accept complaint =
      parseBounded stod info' key defaultValue accept complaint := by
  simp only [parseBounded, parseFiniteDouble_congr same]

end Congruence

section Axis

variable {stod : Stod} {info info' : HardwareInfo} {v : LeverValues}

/-- The position limits that an axis loads do not depend on its lever. -/
theorem loadPositionLimits_transfer {key : String} {axis other limited : AxisConfig}
    (low : info.hardwareParameters (key ++ "position_min_deg") =
      info'.hardwareParameters (key ++ "position_min_deg"))
    (high : info.hardwareParameters (key ++ "position_max_deg") =
      info'.hardwareParameters (key ++ "position_max_deg"))
    (loaded : loadPositionLimits stod info' key axis = .ok limited)
    (kind : other.continuous = axis.continuous)
    (min : other.positionMinRad = axis.positionMinRad)
    (max : other.positionMaxRad = axis.positionMaxRad) :
    loadPositionLimits stod info key other =
      .ok { other with
        positionMinRad := limited.positionMinRad, positionMaxRad := limited.positionMaxRad } := by
  unfold loadPositionLimits at loaded ⊢
  by_cases continuous : axis.continuous = true
  · simp only [continuous, if_true, Except.ok.injEq] at loaded
    subst loaded
    rw [if_pos (kind.trans continuous), ← min, ← max]
  · simp only [continuous, Bool.false_eq_true, if_false, Load.bind_eq_ok, refuseIf_eq_ok,
      Load.pure_eq_ok] at loaded
    obtain ⟨lowDeg, lowRead, highDeg, highRead, -, ordered, rfl⟩ := loaded
    simp only [kind, continuous, Bool.false_eq_true, if_false, parseFiniteDouble_congr low,
      parseFiniteDouble_congr high, min, max, lowRead, highRead, Load.bind_eq_ok, refuseIf_eq_ok,
      Load.pure_eq_ok, Except.ok.injEq, exists_eq_left']
    exact ⟨(), ordered, trivial⟩

/-- The lever parameters of a configuration. -/
def AxisConfig.leverValues (config : AxisConfig) : LeverValues where
  positiveMax := config.leverMax
  negativeMax := -config.leverMin
  positiveMin := config.leverPositiveMin
  negativeMin := config.leverNegativeMin
  start := config.leverStart
  stop := config.leverStop

/-- The two groups of checks, the compensation's and the range's, together. -/
theorem leverChecks_iff (config : AxisConfig) :
    compensationRefused config = false ∧
        (config.leverMin > 0 || config.leverMax < 0 || config.leverMin ≥ config.leverMax) = false ↔
      config.leverValues.Consistent := by
  simp only [compensationRefused_eq_false, LeverValues.Consistent, AxisConfig.leverValues,
    Bool.or_eq_false_iff, decide_eq_false_iff_not, not_lt, not_le, gt_iff_lt, ge_iff_le]
  constructor
  · rintro ⟨⟨positiveMin, negativeMin, hysteresis, startMax, startMin⟩, -, range⟩
    exact ⟨positiveMin, negativeMin, hysteresis, startMax, startMin, by linarith⟩
  · rintro ⟨positiveMin, negativeMin, hysteresis, startMax, startMin, range⟩
    have minNonpos : config.leverMin ≤ 0 := by linarith [negativeMin.1, negativeMin.2]
    have maxNonneg : 0 ≤ config.leverMax := positiveMin.1.trans positiveMin.2
    exact ⟨⟨positiveMin, negativeMin, hysteresis, startMax, startMin⟩, ⟨minNonpos, maxNonneg⟩,
      by linarith⟩

/-- **One axis**: with everything else right, what is checked of its lever is that the
values fit each other. -/
theorem loadAxis_ok_iff {axis accepted : AxisConfig} (receives : Receives stod info axis.name v)
    (others : ∀ name ∈ otherAxisParameters, info.hardwareParameters (axis.name ++ "_" ++ name) =
      info'.hardwareParameters (axis.name ++ "_" ++ name))
    (loaded : loadAxis stod info' axis = .ok accepted) :
    (∃ config, loadAxis stod info axis = .ok config) ↔ v.Consistent := by
  simp only [otherAxisParameters, List.forall_mem_cons, List.not_mem_nil, false_imp_iff,
    implies_true, and_true] at others
  obtain ⟨stateTopic, commandTopic, check, sign, low, high⟩ := others
  simp only [loadAxis, Load.bind_eq_ok, refuseIf_eq_ok, Load.pure_eq_ok] at loaded
  obtain ⟨checkRead, checkIs, signRead, signIs, _, _, _, _, _, _, _, _, _, _, _, _, -, -, limited,
    positions, -, topics, -, unit, -⟩ := loaded
  simp only [loadAxis, stringParameter_congr stateTopic, stringParameter_congr commandTopic,
    parseBoolParameter_congr check, checkIs, parseFiniteDouble_congr sign, signIs,
    receives.leverMin, receives.leverMax, receives.positiveMin, receives.negativeMin,
    receives.start, receives.stop, Load.bind_eq_ok, Load.pure_eq_ok, refuseIf_eq_ok,
    Except.ok.injEq, exists_eq_left']
  obtain ⟨lowRad, highRad, -, rfl⟩ := loadPositionLimits_eq_ok positions
  constructor
  · rintro ⟨config, -, compensation, limited', positions', -, -, -, -, -, range, rfl⟩
    obtain ⟨_, _, -, rfl⟩ := loadPositionLimits_eq_ok positions'
    have values := (leverChecks_iff _).mp ⟨compensation, range⟩
    simpa [AxisConfig.leverValues] using values
  · intro consistent
    obtain ⟨compensation, range⟩ := (leverChecks_iff { axis with
      leverMin := -v.negativeMax, leverMax := v.positiveMax, leverPositiveMin := v.positiveMin,
      leverNegativeMin := v.negativeMin, leverStart := v.start, leverStop := v.stop }).mpr
      (by simpa [AxisConfig.leverValues] using consistent)
    exact ⟨_, (), compensation, _, loadPositionLimits_transfer low high positions rfl rfl rfl, (),
      topics, (), unit, (), range, rfl⟩

end Axis

/-! ## All axes -/

/-- The names of the lever parameters of all axes. -/
def leverParameters : List String :=
  axes.flatMap fun a =>
    ["lever_min", "lever_max", "lever_positive_min", "lever_negative_min", "lever_start",
      "lever_stop"].map fun name => (defaultAxisConfigs a).name ++ "_" ++ name

theorem otherAxisParameters_apart : ∀ a ∈ axes, ∀ name ∈ otherAxisParameters,
    (defaultAxisConfigs a).name ++ "_" ++ name ∉ leverParameters := by
  decide +kernel

/-- **The lever part of `load_hardware_parameters`**: if the hardware accepts a
description without these parameters, it accepts it with them exactly when every
axis's fit each other. -/
theorem loadHardwareParameters_ok_iff {stod : Stod} {info info' : HardwareInfo}
    {v : Axis → LeverValues} {accepted : Parameters}
    (receives : ∀ a, Receives stod info (defaultAxisConfigs a).name (v a))
    (others : ∀ key, key ∉ leverParameters →
      info.hardwareParameters key = info'.hardwareParameters key)
    (loaded : loadHardwareParameters stod info' = .ok accepted) :
    (∃ P, loadHardwareParameters stod info = .ok P) ↔ ∀ a, (v a).Consistent := by
  have axis (a : Axis) :
      (∃ config, loadAxis stod info (defaultAxisConfigs a) = .ok config) ↔ (v a).Consistent := by
    apply loadAxis_ok_iff (receives a) ?_ (loadAxis_of_loaded loaded a)
    intro name member
    exact others _ (otherAxisParameters_apart a (mem_axes a) name member)
  constructor
  · rintro ⟨P, found⟩ a
    exact (axis a).mp ⟨_, loadAxis_of_loaded found a⟩
  · intro consistent
    choose config accepted using fun a => (axis a).mpr (consistent a)
    simp only [loadHardwareParameters, Load.bind_eq_ok] at loaded
    obtain ⟨output, outputIs, check, checkIs, timeout, timeoutIs, wait, waitIs, tolerance,
      toleranceIs, jitter, jitterIs, speed, speedIs, -⟩ := loaded
    rw [← parseBoolParameter_congr (others _ (by decide +kernel))] at outputIs checkIs
    rw [← parseBounded_congr (others _ (by decide +kernel))] at timeoutIs waitIs toleranceIs
    rw [← parseBounded_congr (others _ (by decide +kernel))] at jitterIs speedIs
    simp only [loadHardwareParameters, outputIs, checkIs, timeoutIs, waitIs, toleranceIs,
      jitterIs, speedIs, accepted, Load.bind_eq_ok, Load.pure_eq_ok, Except.ok.injEq,
      exists_eq_left', exists_eq']

end Tb20e.Hardware
