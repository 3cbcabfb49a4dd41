/-
# Gamepad.Node -- the gamepad node

`tb20e_gamepad_node.cpp`: the parameters and their validation, the members, and
the three callbacks.  Callbacks run one at a time, so each is one function of
the members and of the clock reading it takes; the mutex and the log lines are
not modelled.

A `ClockedNode` is a node together with the clock.  A run is a list of timed events
that does not go back in time: Joy messages, simulator feedback and ticks of the
publish timer.
-/
import Tb20e.Control.GamepadSafety
import Tb20e.Control.PositionCommand
import Tb20e.Theory.Runs

namespace Tb20e.Gamepad

set_option autoImplicit false

open Tb20e.Theory Tb20e.Control
open Tb20e.Theory (Double)

def kStartButton : ℕ := 9

/-- The values that the constructor's `declare_parameter` calls return. -/
structure Parameters where
  mapping : Mapping := {}
  joyTimeoutSec : Double := (1 / 4 : ℚ)
  neutralHoldSec : Double := (1 / 2 : ℚ)
  publishRate : Double := (20 : ℚ)
  unityPositionOutputEnabled : Bool := false
  simFeedbackTimeoutSec : Double := (1 / 4 : ℚ)
  simStateTopics : Axis → String := fun
    | 0 => "/sim/TB20e_0/current_swing_angle"
    | 1 => "/sim/TB20e_0/current_boom_angle"
    | 2 => "/sim/TB20e_0/current_arm_angle"
    | 3 => "/sim/TB20e_0/current_bucket_angle"
  unityCommandTopics : Axis → String := fun
    | 0 => "/TB20e/swing/cmd"
    | 1 => "/TB20e/boom/cmd"
    | 2 => "/TB20e/arm/cmd"
    | 3 => "/TB20e/bucket/cmd"
  unityPositionSigns : Axis → Double := fun axis => if axis = 0 then (-1 : ℚ) else (1 : ℚ)
  unitySpeedDegS : Axis → Double := fun _ => (50 : ℚ)

/-- A topic with a leading slash, unless it is empty. -/
def rootedTopic (topic : String) : String :=
  match topic.toList with
  | [] => topic
  | front :: _ => if front = '/' then topic else "/" ++ topic

def Parameters.positionConfig (params : Parameters) : PositionCommand.Config :=
  { fullSpeedRadS := fun axis => degreesToRadians (params.unitySpeedDegS axis) }

theorem Parameters.lowerRad_eq (params : Parameters) (axis : Axis) :
    params.positionConfig.lowerRad axis = PositionCommand.jointLower axis := by
  fin_cases axis <;> rfl

theorem Parameters.upperRad_eq (params : Parameters) (axis : Axis) :
    params.positionConfig.upperRad axis = PositionCommand.jointUpper axis := by
  fin_cases axis <;> rfl

/-! ## Validation -/

/-- The text of the exception, or nothing. -/
abbrev Validate := Except String Unit

def require (condition : Bool) (complaint : String) : Validate :=
  if condition then .ok () else .error complaint

/-- A number that must be finite and positive. -/
def requirePositive (value : Double) (complaint : String) : Validate :=
  require (value.isFinite && 0 < value) complaint

/-- The checks of one axis's Unity parameters. -/
def validateUnityAxis (params : Parameters) (axis : Axis) : Validate := do
  require (!(params.simStateTopics axis).isEmpty &&
      !(rootedTopic (params.unityCommandTopics axis)).isEmpty)
    "Unity state and command topics must not be empty"
  requirePositive (params.positionConfig.fullSpeedRadS axis)
    "Unity position command speeds must be greater than zero"
  require ((params.unityPositionSigns axis).isFinite && (params.unityPositionSigns axis).abs = 1)
    "Unity position signs must be either -1 or 1"

def validateParameters (params : Parameters) : Validate := do
  require (axes.all fun axis => 0 ≤ params.mapping.index axis)
    "gamepad axis indices must not be negative"
  require (axes.all fun axis => (params.mapping.scale axis).isFinite &&
      (params.mapping.scale axis).abs ≤ ((100 : ℚ) : Double))
    "axis scales must be finite and within [-100, 100]"
  require (params.mapping.deadzone.isFinite && 0 ≤ params.mapping.deadzone &&
      params.mapping.deadzone < 1)
    "deadzone must satisfy 0 <= deadzone < 1"
  requirePositive params.joyTimeoutSec "joy_timeout_sec must be greater than zero"
  requirePositive params.neutralHoldSec "neutral_hold_sec must be greater than zero"
  requirePositive params.publishRate "publish_rate must be greater than zero"
  requirePositive params.simFeedbackTimeoutSec "sim_feedback_timeout_sec must be greater than zero"
  validateUnityAxis params 0
  validateUnityAxis params 1
  validateUnityAxis params 2
  validateUnityAxis params 3

/-- What the constructor has accepted. -/
structure Parameters.Accepted (params : Parameters) : Prop where
  index_nonneg : ∀ axis, 0 ≤ params.mapping.index axis
  scale : ∀ axis, ∃ q : ℚ, params.mapping.scale axis = q ∧ |q| ≤ 100
  deadzone : ∃ q : ℚ, params.mapping.deadzone = q ∧ 0 ≤ q ∧ q < 1
  joyTimeout : ∃ q : ℚ, params.joyTimeoutSec = q ∧ 0 < q
  neutralHold : ∃ q : ℚ, params.neutralHoldSec = q ∧ 0 < q
  publishRate : ∃ q : ℚ, params.publishRate = q ∧ 0 < q
  simFeedbackTimeout : ∃ q : ℚ, params.simFeedbackTimeoutSec = q ∧ 0 < q
  speed : ∀ axis, ∃ q : ℚ, params.positionConfig.fullSpeedRadS axis = q ∧ 0 < q
  sign : ∀ axis, ∃ q : ℚ, params.unityPositionSigns axis = q ∧ |q| = 1

theorem require_eq_ok {condition : Bool} {complaint : String} {u : Unit} :
    require condition complaint = .ok u ↔ condition = true := by
  cases condition <;> simp [require]

theorem bind_eq_ok {x : Validate} {f : Unit → Validate} {u : Unit} :
    (x >>= f) = .ok u ↔ x = .ok () ∧ f () = .ok u := by
  cases x <;> simp [bind, Except.bind]

theorem exists_pos_of_requirePositive {value : Double} {complaint : String} {u : Unit}
    (passed : requirePositive value complaint = .ok u) : ∃ q : ℚ, value = q ∧ 0 < q := by
  rw [requirePositive, require_eq_ok, Bool.and_eq_true, Double.isFinite_iff] at passed
  obtain ⟨⟨q, rfl⟩, positive⟩ := passed
  exact ⟨q, rfl, by simpa using positive⟩

theorem unityAxis_of_validate {params : Parameters} {axis : Axis} {u : Unit}
    (passed : validateUnityAxis params axis = .ok u) :
    (∃ q : ℚ, params.positionConfig.fullSpeedRadS axis = q ∧ 0 < q) ∧
      ∃ q : ℚ, params.unityPositionSigns axis = q ∧ |q| = 1 := by
  simp only [validateUnityAxis, bind_eq_ok, require_eq_ok, Bool.and_eq_true,
    Double.isFinite_iff, decide_eq_true_eq] at passed
  obtain ⟨-, speed, ⟨q, isFinite⟩, unit⟩ := passed
  exact ⟨exists_pos_of_requirePositive speed, q, isFinite, by simpa [isFinite] using unit⟩

/-- **What acceptance by `validate_parameters` means.** -/
theorem accepted_of_validate {params : Parameters} (passed : validateParameters params = .ok ()) :
    params.Accepted := by
  simp only [validateParameters, bind_eq_ok, require_eq_ok, all_axes_iff, Bool.and_eq_true,
    Double.isFinite_iff, decide_eq_true_eq] at passed
  obtain ⟨indices, scales, ⟨⟨⟨d, isDeadzone⟩, nonneg⟩, below⟩, joy, hold, rate, sim, swing, boom,
    arm, bucket⟩ := passed
  have axisFacts (axis : Axis) : (∃ q : ℚ, params.positionConfig.fullSpeedRadS axis = q ∧ 0 < q) ∧
      ∃ q : ℚ, params.unityPositionSigns axis = q ∧ |q| = 1 := by
    fin_cases axis
    · exact unityAxis_of_validate swing
    · exact unityAxis_of_validate boom
    · exact unityAxis_of_validate arm
    · exact unityAxis_of_validate bucket
  exact
    { index_nonneg := indices
      scale := fun axis => by
        obtain ⟨⟨q, isFinite⟩, bound⟩ := scales axis
        exact ⟨q, isFinite, by simpa [isFinite] using bound⟩
      deadzone := ⟨d, isDeadzone, by simpa [isDeadzone] using nonneg,
        by simpa [isDeadzone] using below⟩
      joyTimeout := exists_pos_of_requirePositive joy
      neutralHold := exists_pos_of_requirePositive hold
      publishRate := exists_pos_of_requirePositive rate
      simFeedbackTimeout := exists_pos_of_requirePositive sim
      speed := fun axis => (axisFacts axis).1
      sign := fun axis => (axisFacts axis).2 }

/-- The declared defaults are accepted. -/
theorem validateParameters_default (enabled : Bool) :
    validateParameters { unityPositionOutputEnabled := enabled } = .ok () := by
  cases enabled <;> decide +kernel

/-! ## The members -/

structure Node where
  safetyGate : NeutralToggleGate
  latestCommand : Axis → Double
  lastJoyTime : Time
  haveValidJoy : Bool
  simFeedbackPositions : Axis → Double
  simFeedbackReceived : Axis → Bool
  simFeedbackTimes : Axis → Time
  positionTargets : Axis → Double
  positionTargetsInitialized : Bool
  simFeedbackWasFresh : Bool
  lastPositionUpdate : Time

/-- The members after construction; the constructor reads the clock twice. -/
def initialNode (params : Parameters) (joyTime positionTime : Time) : Node where
  safetyGate := NeutralToggleGate.fresh params.neutralHoldSec params.joyTimeoutSec
  latestCommand := fun _ => 0
  lastJoyTime := joyTime
  haveValidJoy := false
  simFeedbackPositions := fun _ => 0
  simFeedbackReceived := fun _ => false
  simFeedbackTimes := fun _ => 0
  positionTargets := fun _ => 0
  positionTargetsInitialized := false
  simFeedbackWasFresh := false
  lastPositionUpdate := positionTime

/-! ## The callbacks -/

structure Joy where
  axes : List Double
  buttons : List ℤ
  deriving DecidableEq, Repr

/-- What a tick publishes: the four-element command, and the Unity values if any. -/
structure Published where
  command : Axis → Double
  unity : Option (Axis → Double)

section Callbacks

variable (params : Parameters)

/-- A message that has every configured axis and the Start button. -/
def Joy.wellFormed (message : Joy) : Bool :=
  axisIndicesAreValid message.axes params.mapping && kStartButton < message.buttons.length

def Joy.togglePressed (message : Joy) : Bool := message.buttons.getD kStartButton 0 ≠ 0

def simFeedbackCallback (axis : Axis) (data : Double) (now : Time) (s : Node) : Node :=
  if !data.isFinite then
    { s with simFeedbackReceived := Function.update s.simFeedbackReceived axis false }
  else
    { s with
      simFeedbackPositions := Function.update s.simFeedbackPositions axis
        (params.unityPositionSigns axis * degreesToRadians data)
      simFeedbackReceived := Function.update s.simFeedbackReceived axis true
      simFeedbackTimes := Function.update s.simFeedbackTimes axis now }

def joyCallback (message : Joy) (now : Time) (s : Node) : Node :=
  if !message.wellFormed params then
    { s with latestCommand := fun _ => 0, haveValidJoy := false, safetyGate := s.safetyGate.reset }
  else
    let (safetyGate, inputAllowed) :=
      s.safetyGate.update message.axes params.mapping message.togglePressed (now : Double)
    { s with
      safetyGate
      latestCommand := if inputAllowed then mapAxes message.axes params.mapping else fun _ => 0
      lastJoyTime := now
      haveValidJoy := true }

/-- Whether the Joy input is missing or too old. -/
def timedOut (now : Time) (s : Node) : Bool :=
  let age : Double := ((now - s.lastJoyTime : ℚ) : Double)
  !s.haveValidJoy || age > params.joyTimeoutSec

/-- Whether every axis's simulator feedback is received and recent. -/
def simFeedbackFresh (now : Time) (s : Node) : Bool :=
  axes.all fun axis =>
    let feedbackAge : Double := ((now - s.simFeedbackTimes axis : ℚ) : Double)
    s.simFeedbackReceived axis && feedbackAge ≤ params.simFeedbackTimeoutSec

/-- The command part of a tick. -/
def publishJoy (now : Time) (s : Node) : Node × (Axis → Double) :=
  if timedOut params now s then
    ({ s with latestCommand := fun _ => 0, safetyGate := s.safetyGate.reset }, fun _ => 0)
  else (s, s.latestCommand)

/-- The held feedback, with the swing wrapped: where a block of fresh ticks starts. -/
def heldTargets (s : Node) : Axis → Double :=
  Function.update s.simFeedbackPositions 0 (wrapToPi (s.simFeedbackPositions 0))

/-- Whether a tick with fresh feedback takes its targets from the feedback. -/
def reinitializes (s : Node) : Bool := !s.positionTargetsInitialized || !s.simFeedbackWasFresh

/-- The Unity part of a tick with fresh feedback. -/
def integrate (now : Time) (stale : Bool) (command : Axis → Double) (s : Node) : Node :=
  let s :=
    if reinitializes s then
      { s with positionTargets := heldTargets s, positionTargetsInitialized := true }
    else s
  let periodSec : Double := ((now - s.lastPositionUpdate : ℚ) : Double)
  if !stale then
    { s with positionTargets :=
        PositionCommand.advance s.positionTargets command params.positionConfig periodSec }
  else s

def publishCommand (now : Time) (s : Node) : Node × Published :=
  let stale := timedOut params now s
  let (s, command) := publishJoy params now s
  if !params.unityPositionOutputEnabled then (s, { command, unity := none })
  else
    let fresh := simFeedbackFresh params now s
    let s := if fresh then integrate params now stale command s else s
    let unity :=
      if fresh && s.positionTargetsInitialized then
        some fun axis => params.unityPositionSigns axis * s.positionTargets axis
      else none
    ({ s with simFeedbackWasFresh := fresh, lastPositionUpdate := now }, { command, unity })

/-! ### What the two parts of a tick leave alone -/

/-- The members that the Joy callback and the command part of a tick work on. -/
structure Node.SameJoy (s s' : Node) : Prop where
  safetyGate : s'.safetyGate = s.safetyGate
  latestCommand : s'.latestCommand = s.latestCommand
  lastJoyTime : s'.lastJoyTime = s.lastJoyTime
  haveValidJoy : s'.haveValidJoy = s.haveValidJoy

theorem sameJoy_integrate (now : Time) (stale : Bool) (command : Axis → Double) (s : Node) :
    s.SameJoy (integrate params now stale command s) := by
  unfold integrate
  cases stale <;> cases reinitializes s <;> exact ⟨rfl, rfl, rfl, rfl⟩

/-- The Unity part of a tick leaves the Joy members as the command part left them. -/
theorem sameJoy_publishCommand (now : Time) (s : Node) :
    (publishJoy params now s).1.SameJoy (publishCommand params now s).1 := by
  unfold publishCommand
  cases params.unityPositionOutputEnabled with
  | false => exact ⟨rfl, rfl, rfl, rfl⟩
  | true =>
      cases fresh : simFeedbackFresh params now (publishJoy params now s).1 with
      | false => simpa [fresh] using ⟨rfl, rfl, rfl, rfl⟩
      | true =>
          have same := sameJoy_integrate params now (timedOut params now s)
            (publishJoy params now s).2 (publishJoy params now s).1
          simpa [fresh] using ⟨same.safetyGate, same.latestCommand, same.lastJoyTime,
            same.haveValidJoy⟩

@[simp] theorem command_publishCommand (now : Time) (s : Node) :
    (publishCommand params now s).2.command = (publishJoy params now s).2 := by
  unfold publishCommand
  cases params.unityPositionOutputEnabled <;> rfl

theorem sameJoy_simFeedback (axis : Axis) (data : Double) (now : Time) (s : Node) :
    s.SameJoy (simFeedbackCallback params axis data now s) := by
  unfold simFeedbackCallback
  split <;> exact ⟨rfl, rfl, rfl, rfl⟩

/-! ### What a tick does with the Unity targets -/

/-- The targets that a tick with fresh feedback starts from. -/
def baseTargets (s : Node) : Axis → Double :=
  if reinitializes s then heldTargets s else s.positionTargets

/-- The targets after a tick with fresh feedback. -/
def nextTargets (now : Time) (s : Node) : Axis → Double :=
  if timedOut params now s then baseTargets s
  else PositionCommand.advance (baseTargets s) s.latestCommand params.positionConfig
    ((now - s.lastPositionUpdate : ℚ) : Double)

/-- The Unity members after a tick, and what it publishes. -/
structure Ticked (now : Time) (s s' : Node) (published : Published) : Prop where
  targets : s'.positionTargets =
    if simFeedbackFresh params now s then nextTargets params now s else s.positionTargets
  initialized : s'.positionTargetsInitialized =
    (s.positionTargetsInitialized || simFeedbackFresh params now s)
  wasFresh : s'.simFeedbackWasFresh = simFeedbackFresh params now s
  lastUpdate : s'.lastPositionUpdate = now
  positions : s'.simFeedbackPositions = s.simFeedbackPositions
  received : s'.simFeedbackReceived = s.simFeedbackReceived
  times : s'.simFeedbackTimes = s.simFeedbackTimes
  unity : published.unity =
    if simFeedbackFresh params now s then
      some fun axis => params.unityPositionSigns axis * nextTargets params now s axis
    else none

theorem initialized_of_not_reinitializes {s : Node} (keeps : reinitializes s = false) :
    s.positionTargetsInitialized = true ∧ s.simFeedbackWasFresh = true := by
  simpa [reinitializes] using keeps

/-- What the Unity part of a fresh tick comes to. -/
theorem integrate_eq (now : Time) (stale : Bool) (command : Axis → Double) (s : Node) :
    integrate params now stale command s =
      { s with
        positionTargets :=
          (let base := if reinitializes s then heldTargets s else s.positionTargets
           if stale then base
           else PositionCommand.advance base command params.positionConfig
            ((now - s.lastPositionUpdate : ℚ) : Double))
        positionTargetsInitialized := true } := by
  unfold integrate
  cases reinit : reinitializes s with
  | true => cases stale <;> rfl
  | false =>
      have same : s = { s with positionTargetsInitialized := true } := by
        rw [← (initialized_of_not_reinitializes reinit).1]
      cases stale with
      | true => exact same
      | false =>
          exact congrArg (fun t : Node => { t with
            positionTargets := PositionCommand.advance s.positionTargets command
              params.positionConfig ((now - s.lastPositionUpdate : ℚ) : Double) }) same

/-- The Unity members as a function of the members at the start of the tick: the
command part of the tick does not touch them. -/
theorem ticked_publishCommand (enabled : params.unityPositionOutputEnabled = true) (now : Time)
    (s : Node) :
    Ticked params now s (publishCommand params now s).1 (publishCommand params now s).2 := by
  have split : ∃ gate command, publishJoy params now s =
      ({ s with safetyGate := gate, latestCommand := command },
        if timedOut params now s then fun _ => 0 else s.latestCommand) := by
    unfold publishJoy
    cases timedOut params now s <;> exact ⟨_, _, rfl⟩
  obtain ⟨gate, command, isJoy⟩ := split
  have sameFresh : simFeedbackFresh params now
      { s with safetyGate := gate, latestCommand := command } = simFeedbackFresh params now s := rfl
  have sameHeld : heldTargets { s with safetyGate := gate, latestCommand := command } =
      heldTargets s := rfl
  have sameReinit : reinitializes { s with safetyGate := gate, latestCommand := command } =
      reinitializes s := rfl
  unfold publishCommand
  simp only [enabled, Bool.not_true, Bool.false_eq_true, if_false, isJoy, sameFresh, integrate_eq,
    sameHeld, sameReinit]
  cases fresh : simFeedbackFresh params now s with
  | false => constructor <;> simp [fresh]
  | true => constructor <;> simp [fresh, nextTargets, baseTargets] <;> split <;> simp_all

end Callbacks

/-! ## Runs -/

inductive Event where
  | joy (message : Joy)
  | simFeedback (axis : Axis) (data : Double)
  | tick
  deriving DecidableEq

structure ClockedNode where
  clock : Time
  node : Node

def Event.exec (params : Parameters) (now : Time) (s : Node) : Event → Node
  | .joy message => joyCallback params message now s
  | .simFeedback axis data => simFeedbackCallback params axis data now s
  | .tick => (publishCommand params now s).1

/-- Simulator feedback is subscribed to only if the Unity output is enabled. -/
def Event.subscribed (params : Parameters) : Event → Bool
  | .simFeedback _ _ => params.unityPositionOutputEnabled
  | _ => true

/-- One callback, at a clock reading that is not in the past. -/
def step (params : Parameters) (g : ClockedNode) (event : Time × Event) : Option ClockedNode :=
  if g.clock ≤ event.1 ∧ event.2.subscribed params = true then
    some { clock := event.1, node := event.2.exec params event.1 g.node }
  else none

/-- The node when its constructor returns. -/
def start (params : Parameters) (joyTime positionTime clock : Time) : ClockedNode where
  clock := clock
  node := initialNode params joyTime positionTime

theorem step_eq_some {params : Parameters} {g g' : ClockedNode} {event : Time × Event} :
    step params g event = some g' ↔
      g.clock ≤ event.1 ∧ event.2.subscribed params = true ∧
        g' = { clock := event.1, node := event.2.exec params event.1 g.node } := by
  simp only [step, Option.ite_none_right_eq_some, Option.some.injEq, and_assoc, eq_comm (a := g')]

end Tb20e.Gamepad
