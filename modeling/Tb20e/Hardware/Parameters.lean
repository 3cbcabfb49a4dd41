/-
# Hardware.Parameters -- what `load_hardware_parameters` accepts

The hardware parameters arrive as text.  `loadHardwareParameters` parses and
checks them in the order of the source and returns the configuration or the
lines logged before it gives up.  A number that was accepted is finite, so the
configuration holds rationals; the rest of what acceptance means for one axis
is `AxisConfig.Valid`, for the whole configuration `Parameters.Valid`, and
`loadHardwareParameters_valid` is the only fact about the parser that the
safety proofs use.

`stod` stands for `std::stod`: the text of the failure, or the parsed value and
the number of bytes it took.  Nothing here depends on how it reads a number.
-/
import Tb20e.Control.MathUtils

namespace Tb20e.Hardware

set_option autoImplicit false

open Tb20e.Theory Tb20e.Control
open Tb20e.Theory (Double)

structure InterfaceInfo where
  name : String

structure JointInfo where
  name : String
  commandInterfaces : List InterfaceInfo
  stateInterfaces : List InterfaceInfo

/-- The part of `hardware_interface::HardwareInfo` that this hardware reads. -/
structure HardwareInfo where
  hardwareParameters : String → Option String
  joints : List JointInfo

/-- `std::stod`: its exception's text, or the value and the bytes it took. -/
abbrev Stod := String → Except String (Double × ℕ)

/-- A check of the configuration: its value, or the lines logged on refusal. -/
abbrev Load := Except (List String)

/-- The configuration of one axis.  The direction that the dead-band
compensation is in, which the source keeps beside these, is run-time state. -/
structure AxisConfig where
  name : String
  jointName : String
  stateTopic : String
  commandTopic : String
  leverSign : ℚ := 1
  leverMin : ℚ := -100
  leverMax : ℚ := 100
  continuous : Bool := false
  positionMinRad : ℚ := 0
  positionMaxRad : ℚ := 0
  leverPositiveMin : ℚ := 0
  leverNegativeMin : ℚ := 0
  leverStart : ℚ := 2
  leverStop : ℚ := 1
  feedbackLimitCheckEnabled : Bool := true
  deriving DecidableEq

structure Parameters where
  activeAxisMaskTopic : String
  commandOutputEnabled : Bool
  feedbackVelocityLimitCheckEnabled : Bool
  stateTimeoutSec : ℚ
  initialFeedbackWaitSec : ℚ
  feedbackLimitToleranceRad : ℚ
  feedbackVelocityJitterToleranceSec : ℚ
  maxFeedbackVelocityRadS : ℚ
  axisConfigs : Axis → AxisConfig
  deriving DecidableEq

/-! ## Parsing one parameter -/

def parseFiniteDouble (stod : Stod) (info : HardwareInfo) (key : String) (defaultValue : ℚ) :
    Load ℚ :=
  match info.hardwareParameters key with
  | none => .ok defaultValue
  | some text =>
      let invalid (what : String) : List String :=
        ["Hardware parameter '" ++ key ++ "' has invalid value '" ++ text ++ "': " ++ what]
      match stod text with
      | .error what => .error (invalid what)
      | .ok (.finite result, parsedCharacters) =>
          if parsedCharacters = text.utf8ByteSize then .ok result
          else .error (invalid "not a finite number")
      | .ok _ => .error (invalid "not a finite number")

def stringParameter (info : HardwareInfo) (key defaultValue : String) : String :=
  (info.hardwareParameters key).getD defaultValue

def parseBoolParameter (info : HardwareInfo) (key : String) (defaultValue : Bool) : Load Bool :=
  match info.hardwareParameters key with
  | none => .ok defaultValue
  | some text =>
      if text = "true" ∨ text = "1" then .ok true
      else if text = "false" ∨ text = "0" then .ok false
      else .error ["Hardware parameter '" ++ key ++ "' must be true or false, got '" ++ text ++ "'"]

/-- A number that must also satisfy `accept`; its complaint is logged whether the
text or the value is refused. -/
def parseBounded (stod : Stod) (info : HardwareInfo) (key : String) (defaultValue : ℚ)
    (accept : ℚ → Bool) (complaint : String) : Load ℚ :=
  match parseFiniteDouble stod info key defaultValue with
  | .error lines => .error (lines ++ ["Hardware parameter '" ++ key ++ "' " ++ complaint])
  | .ok value =>
      if accept value then .ok value
      else .error ["Hardware parameter '" ++ key ++ "' " ++ complaint]

/-! ## The axes -/

/-- `std::numeric_limits<double>::epsilon()`. -/
def kEpsilon : ℚ := 1 / 2 ^ 52

/-- The configuration of the axes before any parameter is read. -/
def defaultAxisConfigs : Axis → AxisConfig
  | 0 =>
      { name := "swing", jointName := "swing_joint", stateTopic := "/current_swing_angle",
        commandTopic := "/manipulated_swing_lever", leverSign := 1, leverMin := -100,
        leverMax := 100, continuous := true, positionMinRad := 0, positionMaxRad := 0 }
  | 1 =>
      { name := "boom", jointName := "boom_joint", stateTopic := "/current_boom_angle",
        commandTopic := "/manipulated_boom_lever", leverSign := -1, leverMin := -100,
        leverMax := 100, continuous := false, positionMinRad := -83 * kDegreesToRadians,
        positionMaxRad := 48 * kDegreesToRadians }
  | 2 =>
      { name := "arm", jointName := "arm_joint", stateTopic := "/current_arm_angle",
        commandTopic := "/manipulated_arm_lever", leverSign := 1, leverMin := -100,
        leverMax := 100, continuous := false, positionMinRad := 32 * kDegreesToRadians,
        positionMaxRad := 155 * kDegreesToRadians }
  | 3 =>
      { name := "bucket", jointName := "bucket_joint", stateTopic := "/current_bucket_angle",
        commandTopic := "/manipulated_bucket_lever", leverSign := 1, leverMin := -100,
        leverMax := 100, continuous := false, positionMinRad := -31 * kDegreesToRadians,
        positionMaxRad := 159 * kDegreesToRadians }

/-- The checks of the dead-band compensation, before the sign of the bounds is known. -/
def compensationRefused (axis : AxisConfig) : Bool :=
  axis.leverPositiveMin < 0 || axis.leverPositiveMin > axis.leverMax ||
    axis.leverNegativeMin < 0 || axis.leverNegativeMin > -axis.leverMin ||
    axis.leverStop < 0 || axis.leverStart ≤ axis.leverStop ||
    (axis.leverPositiveMin > 0 && axis.leverStart > axis.leverMax) ||
    (axis.leverNegativeMin > 0 && axis.leverStart > -axis.leverMin)

/-- Refuse with one line when a check fails. -/
def refuseIf (refused : Bool) (line : String) : Load Unit :=
  if refused then .error [line] else .ok ()

/-- The position limits of a finite joint, read in degrees; a continuous one has none. -/
def loadPositionLimits (stod : Stod) (info : HardwareInfo) (key : String) (axis : AxisConfig) :
    Load AxisConfig :=
  if axis.continuous then .ok axis
  else do
    let positionMinDeg ← parseFiniteDouble stod info (key ++ "position_min_deg")
      (axis.positionMinRad / kDegreesToRadians)
    let positionMaxDeg ← parseFiniteDouble stod info (key ++ "position_max_deg")
      (axis.positionMaxRad / kDegreesToRadians)
    let axis := { axis with
      positionMinRad := positionMinDeg * kDegreesToRadians
      positionMaxRad := positionMaxDeg * kDegreesToRadians }
    refuseIf (axis.positionMinRad ≥ axis.positionMaxRad)
      ("Position limits for axis '" ++ axis.name ++ "' must satisfy min < max")
    return axis

/-- The parameters of one axis, in the order of the source's loop body. -/
def loadAxis (stod : Stod) (info : HardwareInfo) (axis : AxisConfig) : Load AxisConfig := do
  let key := axis.name ++ "_"
  let stateTopic := stringParameter info (key ++ "state_topic") axis.stateTopic
  let commandTopic := stringParameter info (key ++ "command_topic") axis.commandTopic
  let feedbackLimitCheckEnabled ←
    parseBoolParameter info (key ++ "feedback_limit_check_enabled") true
  let leverSign ← parseFiniteDouble stod info (key ++ "lever_sign") axis.leverSign
  let leverMin ← parseFiniteDouble stod info (key ++ "lever_min") axis.leverMin
  let leverMax ← parseFiniteDouble stod info (key ++ "lever_max") axis.leverMax
  let leverPositiveMin ← parseFiniteDouble stod info (key ++ "lever_positive_min") 0
  let leverNegativeMin ← parseFiniteDouble stod info (key ++ "lever_negative_min") 0
  let leverStart ← parseFiniteDouble stod info (key ++ "lever_start") 2
  let leverStop ← parseFiniteDouble stod info (key ++ "lever_stop") 1
  let axis := { axis with
    stateTopic, commandTopic, feedbackLimitCheckEnabled, leverSign, leverMin, leverMax,
    leverPositiveMin, leverNegativeMin, leverStart, leverStop }
  refuseIf (compensationRefused axis)
    ("Invalid lever compensation limits or hysteresis for axis '" ++ axis.name ++ "'")
  let axis ← loadPositionLimits stod info key axis
  refuseIf (axis.stateTopic.isEmpty || axis.commandTopic.isEmpty)
    ("Topics for axis '" ++ axis.name ++ "' must not be empty")
  refuseIf (|(|axis.leverSign| - 1)| > kEpsilon)
    ("Hardware parameter '" ++ key ++ "lever_sign' must be either -1.0 or 1.0")
  refuseIf (axis.leverMin > 0 || axis.leverMax < 0 || axis.leverMin ≥ axis.leverMax)
    ("Lever limits for axis '" ++ axis.name ++ "' must satisfy min <= 0 <= max and min < max")
  return axis

def loadHardwareParameters (stod : Stod) (info : HardwareInfo) : Load Parameters := do
  let activeAxisMaskTopic := stringParameter info "active_axis_mask_topic" ""
  let commandOutputEnabled ← parseBoolParameter info "command_output_enabled" true
  let feedbackVelocityLimitCheckEnabled ←
    parseBoolParameter info "feedback_velocity_limit_check_enabled" false
  let stateTimeoutSec ← parseBounded stod info "state_timeout_sec" (1 / 10) (0 < ·)
    "must be greater than zero"
  let initialFeedbackWaitSec ← parseBounded stod info "initial_feedback_wait_sec" 2 (0 < ·)
    "must be greater than zero"
  let feedbackLimitToleranceDeg ← parseBounded stod info "feedback_limit_tolerance_deg" 2 (0 ≤ ·)
    "must not be negative"
  let feedbackVelocityJitterToleranceSec ← parseBounded stod info
    "feedback_velocity_jitter_tolerance_sec" (3 / 100) (0 ≤ ·) "must not be negative"
  let maxFeedbackVelocityDegS ← parseBounded stod info "max_feedback_velocity_deg_s" 180 (0 < ·)
    "must be greater than zero"
  let swing ← loadAxis stod info (defaultAxisConfigs 0)
  let boom ← loadAxis stod info (defaultAxisConfigs 1)
  let arm ← loadAxis stod info (defaultAxisConfigs 2)
  let bucket ← loadAxis stod info (defaultAxisConfigs 3)
  return {
    activeAxisMaskTopic, commandOutputEnabled, feedbackVelocityLimitCheckEnabled,
    stateTimeoutSec, initialFeedbackWaitSec, feedbackVelocityJitterToleranceSec,
    feedbackLimitToleranceRad := feedbackLimitToleranceDeg * kDegreesToRadians
    maxFeedbackVelocityRadS := maxFeedbackVelocityDegS * kDegreesToRadians
    axisConfigs := fun | 0 => swing | 1 => boom | 2 => arm | 3 => bucket }

/-! ## What acceptance means -/

/-- The checks that an accepted axis has passed. -/
structure AxisConfig.Valid (axis : AxisConfig) : Prop where
  positiveMin_nonneg : 0 ≤ axis.leverPositiveMin
  positiveMin_le : axis.leverPositiveMin ≤ axis.leverMax
  negativeMin_nonneg : 0 ≤ axis.leverNegativeMin
  negativeMin_le : axis.leverNegativeMin ≤ -axis.leverMin
  stop_nonneg : 0 ≤ axis.leverStop
  stop_lt_start : axis.leverStop < axis.leverStart
  start_le_max : 0 < axis.leverPositiveMin → axis.leverStart ≤ axis.leverMax
  start_le_min : 0 < axis.leverNegativeMin → axis.leverStart ≤ -axis.leverMin
  position_lt : axis.continuous = false → axis.positionMinRad < axis.positionMaxRad
  topics_nonempty : axis.stateTopic ≠ "" ∧ axis.commandTopic ≠ ""
  sign_unit : |(|axis.leverSign| - 1)| ≤ kEpsilon
  min_nonpos : axis.leverMin ≤ 0
  max_nonneg : 0 ≤ axis.leverMax
  min_lt_max : axis.leverMin < axis.leverMax

/-- What an accepted configuration has passed, and which axis is continuous. -/
structure Parameters.Valid (P : Parameters) : Prop where
  stateTimeout_pos : 0 < P.stateTimeoutSec
  initialWait_pos : 0 < P.initialFeedbackWaitSec
  tolerance_nonneg : 0 ≤ P.feedbackLimitToleranceRad
  jitter_nonneg : 0 ≤ P.feedbackVelocityJitterToleranceSec
  maxVelocity_pos : 0 < P.maxFeedbackVelocityRadS
  axis : ∀ a, (P.axisConfigs a).Valid
  continuous_iff : ∀ a, (P.axisConfigs a).continuous = true ↔ a = 0
  jointName_eq : ∀ a, (P.axisConfigs a).jointName = (defaultAxisConfigs a).jointName

theorem Load.bind_eq_ok {α β : Type} {x : Load α} {f : α → Load β} {r : β} :
    (x >>= f) = .ok r ↔ ∃ a, x = .ok a ∧ f a = .ok r := by
  cases x with
  | error lines => simp [Bind.bind, Except.bind]
  | ok a => simp [Bind.bind, Except.bind]

theorem Load.pure_eq_ok {α : Type} {a r : α} : (pure a : Load α) = .ok r ↔ a = r := by
  simp [pure, Except.pure]

theorem refuseIf_eq_ok {refused : Bool} {line : String} {u : Unit} :
    refuseIf refused line = .ok u ↔ refused = false := by
  cases refused <;> simp [refuseIf]

theorem parseBounded_eq_ok {stod : Stod} {info : HardwareInfo} {key complaint : String}
    {defaultValue value : ℚ} {accept : ℚ → Bool}
    (parsed : parseBounded stod info key defaultValue accept complaint = .ok value) :
    accept value = true := by
  unfold parseBounded at parsed
  cases number : parseFiniteDouble stod info key defaultValue with
  | error lines => simp [number] at parsed
  | ok read =>
      by_cases accepted : accept read = true
      · simp only [number, accepted, if_true, Except.ok.injEq] at parsed
        exact parsed ▸ accepted
      · simp [number, accepted] at parsed

theorem loadPositionLimits_eq_ok {stod : Stod} {info : HardwareInfo} {key : String}
    {axis axis' : AxisConfig} (loaded : loadPositionLimits stod info key axis = .ok axis') :
    ∃ low high, (axis.continuous = false → low < high) ∧
      axis' = { axis with positionMinRad := low, positionMaxRad := high } := by
  unfold loadPositionLimits at loaded
  by_cases kind : axis.continuous = true
  · simp only [kind, if_true, Except.ok.injEq] at loaded
    exact ⟨axis.positionMinRad, axis.positionMaxRad, by simp [kind], loaded.symm⟩
  · simp only [kind, Bool.false_eq_true, if_false, Load.bind_eq_ok, refuseIf_eq_ok,
      Load.pure_eq_ok] at loaded
    obtain ⟨low, -, high, -, -, ordered, rfl⟩ := loaded
    exact ⟨_, _, fun _ => by simpa using ordered, by simp [kind]⟩

/-- What the checks of the dead-band compensation let through. -/
theorem compensationRefused_eq_false {axis : AxisConfig} :
    compensationRefused axis = false ↔
      (0 ≤ axis.leverPositiveMin ∧ axis.leverPositiveMin ≤ axis.leverMax) ∧
        (0 ≤ axis.leverNegativeMin ∧ axis.leverNegativeMin ≤ -axis.leverMin) ∧
        (0 ≤ axis.leverStop ∧ axis.leverStop < axis.leverStart) ∧
        (0 < axis.leverPositiveMin → axis.leverStart ≤ axis.leverMax) ∧
        (0 < axis.leverNegativeMin → axis.leverStart ≤ -axis.leverMin) := by
  simp only [compensationRefused, Bool.or_eq_false_iff, Bool.and_eq_false_imp,
    decide_eq_false_iff_not, decide_eq_true_eq, not_lt, not_le, gt_iff_lt, and_assoc]

/-- An axis that is accepted is valid, and is still the same joint. -/
theorem loadAxis_valid {stod : Stod} {info : HardwareInfo} {axis axis' : AxisConfig}
    (loaded : loadAxis stod info axis = .ok axis') :
    axis'.Valid ∧ axis'.continuous = axis.continuous ∧ axis'.jointName = axis.jointName := by
  simp only [loadAxis, Load.bind_eq_ok, refuseIf_eq_ok, Load.pure_eq_ok] at loaded
  obtain ⟨check, -, sign, -, min, -, max, -, positive, -, negative, -, start, -, stop, -, -,
    compensation, limited, positions, -, topics, -, unit, -, bounds, rfl⟩ := loaded
  obtain ⟨positiveMin, negativeMin, hysteresis, startMax, startMin⟩ :=
    compensationRefused_eq_false.mp compensation
  obtain ⟨low, high, ordered, rfl⟩ := loadPositionLimits_eq_ok positions
  simp only [Bool.or_eq_false_iff, decide_eq_false_iff_not, not_lt, not_le, gt_iff_lt,
    ge_iff_le] at topics unit bounds
  refine ⟨{ positiveMin_nonneg := positiveMin.1, positiveMin_le := positiveMin.2
            negativeMin_nonneg := negativeMin.1, negativeMin_le := negativeMin.2
            stop_nonneg := hysteresis.1, stop_lt_start := hysteresis.2
            start_le_max := startMax, start_le_min := startMin
            position_lt := ordered
            topics_nonempty := by simpa [String.isEmpty_iff] using topics
            sign_unit := unit, min_nonpos := bounds.1.1, max_nonneg := bounds.1.2
            min_lt_max := bounds.2 }, rfl, rfl⟩

/-- Every axis of an accepted configuration has been loaded. -/
theorem loadAxis_of_loaded {stod : Stod} {info : HardwareInfo} {P : Parameters}
    (loaded : loadHardwareParameters stod info = .ok P) (a : Axis) :
    loadAxis stod info (defaultAxisConfigs a) = .ok (P.axisConfigs a) := by
  simp only [loadHardwareParameters, Load.bind_eq_ok, Load.pure_eq_ok] at loaded
  obtain ⟨_, -, _, -, _, -, _, -, _, -, _, -, _, -, swing, hswing, boom, hboom, arm, harm, bucket,
    hbucket, rfl⟩ := loaded
  fin_cases a
  · exact hswing
  · exact hboom
  · exact harm
  · exact hbucket

/-- **Every accepted configuration is valid.** -/
theorem loadHardwareParameters_valid {stod : Stod} {info : HardwareInfo} {P : Parameters}
    (loaded : loadHardwareParameters stod info = .ok P) : P.Valid := by
  have axis (a : Axis) := loadAxis_valid (loadAxis_of_loaded loaded a)
  simp only [loadHardwareParameters, Load.bind_eq_ok, Load.pure_eq_ok] at loaded
  obtain ⟨output, -, check, -, timeout, htimeout, wait, hwait, tolerance, htolerance, jitter,
    hjitter, speed, hspeed, swing, -, boom, -, arm, -, bucket, -, rfl⟩ := loaded
  constructor
  · simpa using parseBounded_eq_ok htimeout
  · simpa using parseBounded_eq_ok hwait
  · exact mul_nonneg (by simpa using parseBounded_eq_ok htolerance) kDegreesToRadians_pos.le
  · simpa using parseBounded_eq_ok hjitter
  · exact mul_pos (by simpa using parseBounded_eq_ok hspeed) kDegreesToRadians_pos
  · intro a
    exact (axis a).1
  · intro a
    rw [(axis a).2.1]
    fin_cases a <;> simp [defaultAxisConfigs]
  · intro a
    exact (axis a).2.2

/-! ## The defaults -/

/-- The configuration of a description that sets no parameter. -/
def defaultParameters : Parameters where
  activeAxisMaskTopic := ""
  commandOutputEnabled := true
  feedbackVelocityLimitCheckEnabled := false
  stateTimeoutSec := 1 / 10
  initialFeedbackWaitSec := 2
  feedbackLimitToleranceRad := 2 * kDegreesToRadians
  feedbackVelocityJitterToleranceSec := 3 / 100
  maxFeedbackVelocityRadS := 180 * kDegreesToRadians
  axisConfigs := defaultAxisConfigs

theorem defaultAxisConfigs_valid (a : Axis) : (defaultAxisConfigs a).Valid := by
  have degree := kDegreesToRadians_pos
  fin_cases a <;> constructor <;> simp [defaultAxisConfigs, kEpsilon, degree] <;> linarith

section Defaults

variable {stod : Stod} {info : HardwareInfo} (unset : ∀ key, info.hardwareParameters key = none)
include unset

theorem parseFiniteDouble_unset (key : String) (defaultValue : ℚ) :
    parseFiniteDouble stod info key defaultValue = .ok defaultValue := by
  simp only [parseFiniteDouble, unset]

theorem parseBoolParameter_unset (key : String) (defaultValue : Bool) :
    parseBoolParameter info key defaultValue = .ok defaultValue := by
  simp only [parseBoolParameter, unset]

theorem loadPositionLimits_unset (key : String) {axis : AxisConfig}
    (ordered : axis.continuous = false → axis.positionMinRad < axis.positionMaxRad) :
    loadPositionLimits stod info key axis = .ok axis := by
  have back (x : ℚ) : x / kDegreesToRadians * kDegreesToRadians = x :=
    div_mul_cancel₀ x kDegreesToRadians_pos.ne'
  cases kind : axis.continuous with
  | true => simp [loadPositionLimits, kind]
  | false =>
      have passes : decide (axis.positionMinRad ≥ axis.positionMaxRad) = false := by
        simpa using ordered kind
      simp only [loadPositionLimits, kind, Bool.false_eq_true, if_false,
        parseFiniteDouble_unset unset, Load.bind_eq_ok, Load.pure_eq_ok, refuseIf_eq_ok,
        Except.ok.injEq, exists_eq_left', back, passes]
      refine ⟨(), trivial, ?_⟩
      rw [← kind]

/-- A valid axis is what it loads to when nothing overrides it. -/
theorem loadAxis_unset {axis : AxisConfig} (valid : axis.Valid)
    (limitCheck : axis.feedbackLimitCheckEnabled = true)
    (compensation : axis.leverPositiveMin = 0 ∧ axis.leverNegativeMin = 0 ∧ axis.leverStart = 2 ∧
      axis.leverStop = 1) :
    loadAxis stod info axis = .ok axis := by
  have same : { axis with
      feedbackLimitCheckEnabled := true, leverPositiveMin := 0, leverNegativeMin := 0,
      leverStart := 2, leverStop := 1 } = axis := by
    cases axis
    simp_all
  have compensated : compensationRefused axis = false := by
    simp [compensationRefused, compensation, valid.min_nonpos, valid.max_nonneg]
  simp only [loadAxis, parseFiniteDouble_unset unset, parseBoolParameter_unset unset,
    stringParameter, unset, Option.getD_none, Load.bind_eq_ok, Load.pure_eq_ok, refuseIf_eq_ok,
    Except.ok.injEq, exists_eq_left', same, compensated,
    loadPositionLimits_unset unset _ valid.position_lt]
  have topics := valid.topics_nonempty
  have unit := valid.sign_unit
  have bounds := And.intro (And.intro valid.min_nonpos valid.max_nonneg) valid.min_lt_max
  exact ⟨(), trivial, (), by simpa [String.isEmpty_iff] using topics, (), by simpa using unit, (),
    by simpa using bounds, trivial⟩

/-- **Every default passes its own check.** -/
theorem loadHardwareParameters_unset :
    loadHardwareParameters stod info = .ok defaultParameters := by
  have axis (a : Axis) : loadAxis stod info (defaultAxisConfigs a) = .ok (defaultAxisConfigs a) := by
    refine loadAxis_unset unset (defaultAxisConfigs_valid a) ?_ ?_ <;> fin_cases a <;>
      simp [defaultAxisConfigs]
  have bounded {key complaint : String} {value : ℚ} {accept : ℚ → Bool}
      (accepted : accept value = true) :
      parseBounded stod info key value accept complaint = .ok value := by
    simp [parseBounded, parseFiniteDouble_unset unset, accepted]
  simp only [loadHardwareParameters, stringParameter, unset, Option.getD_none,
    parseBoolParameter_unset unset, axis, Load.bind_eq_ok, Load.pure_eq_ok, Except.ok.injEq,
    exists_eq_left']
  refine ⟨1 / 10, bounded (by decide +kernel), 2, bounded (by decide +kernel), 2,
    bounded (by decide +kernel), 3 / 100, bounded (by decide +kernel), 180,
    bounded (by decide +kernel), ?_⟩
  simp only [defaultParameters, Parameters.mk.injEq, true_and]
  funext a
  fin_cases a <;> rfl

end Defaults

end Tb20e.Hardware
