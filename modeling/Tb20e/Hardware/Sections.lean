/-
# Hardware.Sections -- the control thread's operations, section by section

The controller manager calls the lifecycle callbacks, `read` and `write` one
after another from one thread.  Between the points where such a call takes or
releases a lock, the executor thread may run.  A `Section` is what the call does
between two such points; `ControlOp.sections` is the body of each source
function as the list of its sections, in the order of the source.

Values that a call keeps in local variables from one section to the next are
`Locals`.  A section reads the clock at most once, inside the lock it holds.
-/
import Tb20e.Hardware.State

namespace Tb20e.Hardware

set_option autoImplicit false

open Tb20e.Theory Tb20e.Control
open Tb20e.Theory (Double)

structure Locals where
  velocityFault : Axis → Bool := fun _ => false
  fresh : Axis → Bool := fun _ => false
  feedbackPositions : Axis → Double := fun _ => 0
  feedbackAges : Axis → ℚ := fun _ => 0
  isActive : Bool := false
  outputEnabled : Bool := false
  feedbackReady : Bool := false
  returned : ReturnCode := .ok

/-- The control thread's view: the members and the current call's locals. -/
structure Control where
  hw : LeverHardware
  locals : Locals

/-! ## `read` -/

section Read

variable (P : Parameters) (now : Time)

/-- The estimator of an axis after `read`, and whether it reported a fault. -/
def readVelocity (s : LeverHardware) (axis : Axis) : FeedbackVelocity × Bool :=
  let sample := s.feedback axis
  if sample.received && s.active && feedbackIsFresh P sample now then
    (s.feedbackVelocity axis).update sample.positionRad sample.receivedAt
      (P.axisConfigs axis).continuous P.maxFeedbackVelocityRadS
      P.feedbackVelocityJitterToleranceSec P.feedbackVelocityLimitCheckEnabled
  else (s.feedbackVelocity axis, false)

/-- The part of `read` under the feedback lock. -/
def readFeedback (c : Control) : Control where
  hw :=
    let s := c.hw
    { s with
      positionStates := fun axis =>
        if (s.feedback axis).received then (s.feedback axis).positionRad else s.positionStates axis
      feedbackVelocity := fun axis => (readVelocity P now s axis).1
      velocityStates := fun axis =>
        if (s.feedback axis).received && s.active && feedbackIsFresh P (s.feedback axis) now then
          (readVelocity P now s axis).1.velocity
        else 0 }
  locals := { c.locals with velocityFault := fun axis => (readVelocity P now c.hw axis).2 }

/-- The end of `read`: a fault on any axis latches while active. -/
def latchVelocityFault (throws : ℕ → Bool) (c : Control) : Control :=
  if c.hw.active && axes.any c.locals.velocityFault then
    { c with hw := latchFaultAndPublishZero throws c.hw }
  else c

end Read

/-! ## `write` -/

section Write

variable (P : Parameters)

/-- The part of `write` under the feedback lock. -/
def writeSnapshot (now : Time) (c : Control) : Control :=
  { c with locals := { c.locals with
      fresh := fun axis => feedbackIsFresh P (c.hw.feedback axis) now
      feedbackPositions := fun axis => (c.hw.feedback axis).positionRad
      feedbackAges := fun axis =>
        if (c.hw.feedback axis).received then now - (c.hw.feedback axis).receivedAt else -1 } }

/-- The part of `write` that decides, without a lock, whether output is enabled. -/
def writeTest (c : Control) : Control :=
  let isActive := c.hw.active
  let allFeedbackFresh := axes.all c.locals.fresh
  let allCommandsFinite := axes.all fun axis => (c.hw.effortCommands axis).isFinite
  let s :=
    if isActive && (!allFeedbackFresh || !allCommandsFinite) then
      { c.hw with feedbackFaultLatched := true }
    else c.hw
  { hw := s
    locals := { c.locals with
      isActive
      outputEnabled :=
        isActive && allFeedbackFresh && allCommandsFinite && !s.feedbackFaultLatched } }

/-- Whether an effort from a position points past an end stop of the axis. -/
def movesOutsideEndStop (axis : Axis) (position controllerCommand : Double) : Bool :=
  let config := P.axisConfigs axis
  !config.continuous &&
    commandPointsOutsideLimit position controllerCommand
      (config.positionMinRad + kEndStopGuardRadians : ℚ)
      (config.positionMaxRad - kEndStopGuardRadians : ℚ)

def axisEnabled (mask : BitVec 8) (axis : Axis) : Bool := (mask &&& (1#8 <<< axis.val)) ≠ 0#8

/-- The mask that is kept of a message enables an axis if the message has its bit. -/
theorem axisEnabled_kAllAxesMask (mask : BitVec 8) (axis : Axis) :
    axisEnabled (mask &&& kAllAxesMask) axis = mask.getLsbD axis := by
  revert mask axis
  decide +kernel

/-- The gates a lever command has to pass: none is ever published past one. -/
def axisOpen (locals : Locals) (latched : Bool) (mask : BitVec 8) (effort : Double)
    (axis : Axis) : Bool :=
  (locals.outputEnabled && P.commandOutputEnabled && !latched) &&
    (axisEnabled mask axis && !movesOutsideEndStop P axis (locals.feedbackPositions axis) effort)

/-- The lever command of an axis and the direction its compensation is left in. -/
def leverCommand (locals : Locals) (latched : Bool) (mask : BitVec 8) (effort : Double)
    (activeDirection : ℤ) (axis : Axis) : Double × ℤ :=
  let config := P.axisConfigs axis
  let (command, direction) :=
    if axisOpen P locals latched mask effort axis then
      compensatedLeverCommand
        (boundedLeverCommand effort config.leverSign config.leverMin config.leverMax)
        config.leverPositiveMin config.leverNegativeMin config.leverStart config.leverStop
        activeDirection
    else (0, activeDirection)
  (command, if command = 0 then 0 else direction)

/-- Whether an axis's missing feedback has been reported, after its loop body. -/
def staleAfter (locals : Locals) (latched : Bool) (reported : Bool) (axis : Axis) : Bool :=
  if locals.isActive && !locals.fresh axis && !reported then true
  else if !latched && locals.fresh axis then false
  else reported

/-- The loop body of `write`; a publish that throws is remembered. -/
def writeAxis (throws : ℕ → Bool) (locals : Locals) (mask : BitVec 8)
    (acc : LeverHardware × Bool) (axis : Axis) : LeverHardware × Bool :=
  let (s, publishFailed) := acc
  let (command, direction) := leverCommand P locals s.feedbackFaultLatched mask
    (s.effortCommands axis) (s.activeDirection axis) axis
  let s := { s with
    activeDirection := Function.update s.activeDirection axis direction
    staleReported := Function.update s.staleReported axis
      (staleAfter locals s.feedbackFaultLatched (s.staleReported axis) axis) }
  let (s, threw) := publish throws axis (if command.isFinite then command else 0) s
  (s, publishFailed || threw)

/-- The part of `write` under the publish lock. -/
def writePublish (throws : ℕ → Bool) (c : Control) : Control :=
  let (s, publishFailed) :=
    axes.foldl (writeAxis P throws c.locals c.hw.activeAxisMask) (c.hw, false)
  if publishFailed then
    { hw := publishZeroToAllAxesLocked throws { s with feedbackFaultLatched := true }
      locals := { c.locals with returned := .error } }
  else { hw := s, locals := { c.locals with returned := .ok } }

/-! ### What the publish loop does -/

/-- The lever command of an axis in the state the publish loop starts from. -/
def leverOf (c : Control) (axis : Axis) : Double × ℤ :=
  leverCommand P c.locals c.hw.feedbackFaultLatched c.hw.activeAxisMask
    (c.hw.effortCommands axis) (c.hw.activeDirection axis) axis

/-- The message the publish loop sends to an axis. -/
def leverMessage (c : Control) (axis : Axis) : Double :=
  if (leverOf P c axis).1.isFinite then (leverOf P c axis).1 else 0

/-- The publish calls of the loop, newest first. -/
def loopCalls (throws : ℕ → Bool) (c : Control) : List Attempt :=
  let call (axis : Axis) (earlier : ℕ) : Attempt :=
    { axis, data := leverMessage P c axis, threw := throws (c.hw.attempts.length + earlier) }
  [call 3 3, call 2 2, call 1 1, call 0 0]

/-- **The publish loop, axis by axis**: no axis's iteration reads what another's
wrote, so each works from the state the loop started in. -/
theorem writeLoop_eq (throws : ℕ → Bool) (c : Control) :
    axes.foldl (writeAxis P throws c.locals c.hw.activeAxisMask) (c.hw, false) =
      ({ c.hw with
          activeDirection := fun axis => (leverOf P c axis).2
          staleReported := fun axis =>
            staleAfter c.locals c.hw.feedbackFaultLatched (c.hw.staleReported axis) axis
          attempts := loopCalls P throws c ++ c.hw.attempts },
        (loopCalls P throws c).any (·.threw)) := by
  have updated {α : Type} (f g : Axis → α) :
      Function.update (Function.update (Function.update (Function.update f 0 (g 0)) 1 (g 1)) 2
        (g 2)) 3 (g 3) = g := by
    funext axis
    fin_cases axis <;> rfl
  simp only [axes, List.foldl_cons, List.foldl_nil, writeAxis, publish, ne_eq, Fin.reduceEq,
    not_false_eq_true, Function.update_of_ne, List.length_cons, Bool.false_or]
  refine Prod.ext ?_ ?_
  · simp only
    rw [← updated c.hw.activeDirection fun axis => (leverOf P c axis).2,
      ← updated c.hw.staleReported fun axis =>
        staleAfter c.locals c.hw.feedbackFaultLatched (c.hw.staleReported axis) axis]
    rfl
  · simp [loopCalls, leverMessage, leverOf, Bool.or_comm, Bool.or_assoc, add_assoc]

theorem any_threw_loopCalls {throws : ℕ → Bool} (quiet : ∀ n, throws n = false) (c : Control) :
    (loopCalls P throws c).any (·.threw) = false := by
  simp [loopCalls, quiet]

theorem exists_mem_loopCalls (throws : ℕ → Bool) (c : Control) (axis : Axis) :
    ∃ call ∈ loopCalls P throws c, call.axis = axis := by
  fin_cases axis <;> simp [loopCalls]

/-- A closed axis is sent zero, and has to cross its start threshold again. -/
theorem leverCommand_closed {locals : Locals} {latched : Bool} {mask : BitVec 8} {effort : Double}
    {activeDirection : ℤ} {axis : Axis} (closed : axisOpen P locals latched mask effort axis = false) :
    leverCommand P locals latched mask effort activeDirection axis = (0, 0) := by
  simp [leverCommand, closed]

/-- With output disabled or the latch set, the loop sends only zeros. -/
theorem allZero_loopCalls {throws : ℕ → Bool} {c : Control}
    (shut : c.locals.outputEnabled = false ∨ c.hw.feedbackFaultLatched = true) :
    AllZero throws (loopCalls P throws c) := by
  have zero (axis : Axis) : leverMessage P c axis = 0 := by
    have closed : axisOpen P c.locals c.hw.feedbackFaultLatched c.hw.activeAxisMask
        (c.hw.effortCommands axis) axis = false := by
      rcases shut with disabled | latched
      · simp [axisOpen, disabled]
      · simp [axisOpen, latched]
    simp [leverMessage, leverOf, leverCommand_closed P closed]
  intro call member
  simp only [loopCalls, zero, List.mem_cons, List.not_mem_nil, or_false] at member
  rcases member with rfl | rfl | rfl | rfl <;> exact ⟨rfl, fun quiet => quiet _⟩

/-- The publish section, by what its loop came to. -/
theorem writePublish_eq (throws : ℕ → Bool) (c : Control) :
    writePublish P throws c =
      (let failed := (loopCalls P throws c).any (·.threw)
       let s := { c.hw with
          activeDirection := fun axis => (leverOf P c axis).2
          staleReported := fun axis =>
            staleAfter c.locals c.hw.feedbackFaultLatched (c.hw.staleReported axis) axis
          attempts := loopCalls P throws c ++ c.hw.attempts }
       if failed then
        { hw := publishZeroToAllAxesLocked throws { s with feedbackFaultLatched := true }
          locals := { c.locals with returned := .error } }
       else { hw := s, locals := { c.locals with returned := .ok } }) := by
  unfold writePublish
  rw [writeLoop_eq]

end Write

/-! ## Every section, and every operation as a list of sections -/

inductive Section where
  /-- `active_.store(false)`. -/
  | deactivate
  /-- `feedback_fault_latched_.store(false)` of `on_configure`. -/
  | clearLatch
  /-- `effort_commands_.fill(0.0)` and every `active_direction = 0`. -/
  | clearCommands
  /-- `stale_reported_.fill(false)`. -/
  | clearStaleReported
  /-- `reset_feedback`. -/
  | resetFeedback
  /-- `start_executor`; `starts` is whether a thread can be created. -/
  | startExecutor (starts : Bool)
  /-- `stop_executor`, which joins the executor thread. -/
  | stopExecutor
  /-- `publish_zero_to_all_axes`. -/
  | publishZeroToAllAxes
  /-- The end of `on_activate`'s wait, and what it does if feedback is ready. -/
  | waitForFeedback
  /-- The refusal of `on_activate` if feedback is not ready. -/
  | refuseUnlessReady
  | readFeedback
  | latchVelocityFault
  | writeSnapshot
  | writeTest
  | writePublish
  deriving DecidableEq

def Section.exec (P : Parameters) (throws : ℕ → Bool) (now : Time) : Section → Control → Control
  | .deactivate, c => { c with hw := { c.hw with active := false } }
  | .clearLatch, c => { c with hw := { c.hw with feedbackFaultLatched := false } }
  | .clearCommands, c =>
      { c with hw := { c.hw with effortCommands := fun _ => 0, activeDirection := fun _ => 0 } }
  | .clearStaleReported, c => { c with hw := { c.hw with staleReported := fun _ => false } }
  | .resetFeedback, c => { c with hw := Hardware.resetFeedback c.hw }
  | .startExecutor starts, c =>
      if c.hw.executorRunning then c
      else if starts then { c with hw := { c.hw with executorRunning := true } }
      else { c with locals := { c.locals with returned := .error } }
  | .stopExecutor, c => { c with hw := { c.hw with executorRunning := false } }
  | .publishZeroToAllAxes, c => { c with hw := publishZeroToAllAxesLocked throws c.hw }
  | .waitForFeedback, c =>
      if allFeedbackIsFreshLocked P now c.hw then
        { hw := { copyFeedbackToStatesLocked c.hw with
            feedbackFaultLatched := false, active := true }
          locals := { c.locals with feedbackReady := true } }
      else { c with locals := { c.locals with feedbackReady := false } }
  | .refuseUnlessReady, c =>
      if c.locals.feedbackReady then c
      else { hw := publishZeroToAllAxesLocked throws c.hw
             locals := { c.locals with returned := .error } }
  | .readFeedback, c => Hardware.readFeedback P now c
  | .latchVelocityFault, c => Hardware.latchVelocityFault throws c
  | .writeSnapshot, c => Hardware.writeSnapshot P now c
  | .writeTest, c => Hardware.writeTest c
  | .writePublish, c => Hardware.writePublish P throws c

inductive ControlOp where
  | onConfigure (starts : Bool)
  | onCleanup
  | onActivate
  | onDeactivate
  | onShutdown
  | onError
  | read
  | write
  deriving DecidableEq

def ControlOp.sections : ControlOp → List Section
  | .onConfigure starts =>
      [.deactivate, .clearLatch, .clearCommands, .clearStaleReported, .resetFeedback,
        .startExecutor starts]
  | .onCleanup =>
      [.deactivate, .clearCommands, .publishZeroToAllAxes, .stopExecutor, .resetFeedback]
  | .onActivate =>
      [.deactivate, .clearCommands, .clearStaleReported, .publishZeroToAllAxes, .waitForFeedback,
        .refuseUnlessReady]
  | .onDeactivate => [.deactivate, .clearCommands, .publishZeroToAllAxes]
  | .onShutdown => [.deactivate, .clearCommands, .publishZeroToAllAxes, .stopExecutor]
  | .onError =>
      [.deactivate, .clearCommands, .publishZeroToAllAxes, .stopExecutor, .resetFeedback]
  | .read => [.readFeedback, .latchVelocityFault]
  | .write => [.writeSnapshot, .writeTest, .writePublish]

end Tb20e.Hardware
