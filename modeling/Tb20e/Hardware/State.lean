/-
# Hardware.State -- the lever hardware's members, and the functions that change them

The run-time members of `Tb20eLeverHardware` and the private member functions
that the lifecycle callbacks, `read`, `write` and the subscriptions are built
from.  A function that the source runs under a lock is one state transformer
here; where the source releases and retakes locks the parts are separate
definitions, which `Hardware.Sections` puts in order.

Every call of `publish` on a lever topic is recorded, newest first, with whether
it threw; `throws n` says whether the `n`-th call throws.  What a topic carries
is the calls that did not throw.  Log lines of the running hardware are not
modelled.
-/
import Tb20e.Control.FeedbackVelocity
import Tb20e.Hardware.Joints

namespace Tb20e.Hardware

set_option autoImplicit false

open Tb20e.Theory Tb20e.Control
open Tb20e.Theory (Double)

def kEndStopGuardRadians : ℚ := 1 / 2 * kDegreesToRadians

structure FeedbackSample where
  positionRad : Double := 0
  received : Bool := false
  receivedAt : Time := 0
  deriving DecidableEq, Repr

/-- One call of `publish` on a lever topic. -/
structure Attempt where
  axis : Axis
  data : Double
  threw : Bool
  deriving DecidableEq, Repr

structure LeverHardware where
  activeDirection : Axis → ℤ
  feedback : Axis → FeedbackSample
  feedbackVelocity : Axis → FeedbackVelocity
  positionStates : Axis → Double
  velocityStates : Axis → Double
  effortCommands : Axis → Double
  staleReported : Axis → Bool
  active : Bool
  feedbackFaultLatched : Bool
  activeAxisMask : BitVec 8
  commandPublishers : Axis → Bool
  executorRunning : Bool
  attempts : List Attempt

inductive ReturnCode where
  | ok
  | error
  deriving DecidableEq, Repr

/-- Every bit of the mask. -/
def kAllAxesMask : BitVec 8 := (1#8 <<< kAxisCount) - 1#8

/-- The members after a successful `on_init`. -/
def initialHardware (P : Parameters) : LeverHardware where
  activeDirection := fun _ => 0
  feedback := fun _ => {}
  feedbackVelocity := fun _ => {}
  positionStates := fun _ => 0
  velocityStates := fun _ => 0
  effortCommands := fun _ => 0
  staleReported := fun _ => false
  active := false
  feedbackFaultLatched := false
  activeAxisMask := if P.activeAxisMaskTopic.isEmpty then 0x0F#8 else 0x00#8
  commandPublishers := fun _ => true
  executorRunning := false
  attempts := []

/-- `on_init`; `baseOk` is whether the base class accepts the description. -/
def onInit (stod : Stod) (baseOk : Bool) (info : HardwareInfo) :
    Load (Parameters × List Axis × LeverHardware) := do
  refuseIf (!baseOk) "SystemInterface::on_init failed"
  let P ← loadHardwareParameters stod info
  let jointAxisIndices ← validateJointInterfaces P.axisConfigs info.joints
  return (P, jointAxisIndices, initialHardware P)

theorem onInit_eq_ok {stod : Stod} {baseOk : Bool} {info : HardwareInfo} {P : Parameters}
    {indices : List Axis} {hw : LeverHardware}
    (init : onInit stod baseOk info = .ok (P, indices, hw)) :
    loadHardwareParameters stod info = .ok P ∧
      validateJointInterfaces P.axisConfigs info.joints = .ok indices ∧
      hw = initialHardware P := by
  simp only [onInit, Load.bind_eq_ok, Load.pure_eq_ok, Prod.mk.injEq] at init
  obtain ⟨-, -, P', loaded, indices', validated, rfl, rfl, rfl⟩ := init
  exact ⟨loaded, validated, rfl⟩

theorem onInit_of_loaded {stod : Stod} {info : HardwareInfo} {P : Parameters}
    {indices : List Axis} (loaded : loadHardwareParameters stod info = .ok P)
    (validated : validateJointInterfaces P.axisConfigs info.joints = .ok indices) :
    onInit stod true info = .ok (P, indices, initialHardware P) := by
  simp only [onInit, loaded, validated, Load.bind_eq_ok, Load.pure_eq_ok, Except.ok.injEq,
    exists_eq_left']
  exact ⟨(), rfl, trivial⟩

/-- A description of the four joints, with some parameters. -/
def standardInfo (hardwareParameters : String → Option String) : HardwareInfo where
  hardwareParameters := hardwareParameters
  joints := axes.map fun a => JointInfo.standard (defaultAxisConfigs a).jointName

/-- `on_init` accepts a description of the four joints that sets no parameter. -/
theorem onInit_unset (stod : Stod) :
    onInit stod true (standardInfo fun _ => none) =
      .ok (defaultParameters, axes, initialHardware defaultParameters) :=
  onInit_of_loaded (loadHardwareParameters_unset fun _ => rfl) validateJointInterfaces_standard

/-! ## Publishing -/

section Publishing

variable (throws : ℕ → Bool)

/-- Call `publish` on one lever topic. -/
def publish (axis : Axis) (data : Double) (s : LeverHardware) : LeverHardware × Bool :=
  let threw := throws s.attempts.length
  ({ s with attempts := { axis, data, threw } :: s.attempts }, threw)

/-- The loop body of zeroing: a publisher that throws does not stop the loop. -/
def publishZero (s : LeverHardware) (axis : Axis) : LeverHardware :=
  if s.commandPublishers axis then (publish throws axis 0 s).1 else s

def publishZeroToAllAxesLocked (s : LeverHardware) : LeverHardware :=
  axes.foldl (publishZero throws) s

def latchFaultAndPublishZero (s : LeverHardware) : LeverHardware :=
  if s.active then publishZeroToAllAxesLocked throws { s with feedbackFaultLatched := true }
  else s

def invalidateFeedback (axis : Axis) (s : LeverHardware) : LeverHardware :=
  let s := { s with feedback := Function.update s.feedback axis {} }
  if s.active then publishZeroToAllAxesLocked throws { s with feedbackFaultLatched := true }
  else s

end Publishing

/-! ## Feedback -/

section Feedback

variable (P : Parameters)

def feedbackIsFresh (sample : FeedbackSample) (now : Time) : Bool :=
  -- The age is finite: it is a difference of two clock readings.
  let ageSec := now - sample.receivedAt
  sample.received && (0 ≤ ageSec && ageSec ≤ P.stateTimeoutSec)

def allFeedbackIsFreshLocked (now : Time) (s : LeverHardware) : Bool :=
  axes.all fun axis => feedbackIsFresh P (s.feedback axis) now

def copyFeedbackToStatesLocked (s : LeverHardware) : LeverHardware :=
  { s with
    positionStates := fun axis =>
      if (s.feedback axis).received then (s.feedback axis).positionRad else s.positionStates axis
    feedbackVelocity := fun axis =>
      if (s.feedback axis).received then
        FeedbackVelocity.reset (s.feedback axis).positionRad (s.feedback axis).receivedAt
      else s.feedbackVelocity axis
    velocityStates := fun axis =>
      if (s.feedback axis).received then 0 else s.velocityStates axis }

def resetFeedback (s : LeverHardware) : LeverHardware :=
  { s with
    feedback := fun _ => {}
    feedbackVelocity := fun _ => {}
    positionStates := fun _ => 0
    velocityStates := fun _ => 0 }

/-- The position `feedback_callback` stores for a message, or `none` when it
invalidates the axis.  `none` as a message is a null pointer. -/
def acceptedPosition (axis : Axis) (message : Option Double) : Option Double :=
  match message with
  | none => none
  | some data =>
      if !data.isFinite then none
      else
        let config := P.axisConfigs axis
        let positionRad := degreesToRadians data
        if config.continuous then some (wrapToPi positionRad)
        else if config.feedbackLimitCheckEnabled &&
            positionOutsideLimits positionRad config.positionMinRad config.positionMaxRad
              P.feedbackLimitToleranceRad then none
        else some (clamp positionRad config.positionMinRad config.positionMaxRad)

/-- The position stored for an accepted angle in degrees, as a rational. -/
def storedPosition (axis : Axis) (degrees : ℚ) : ℚ :=
  let config := P.axisConfigs axis
  let positionRad := degrees * kDegreesToRadians
  if config.continuous then remainder positionRad kTwoPi
  else clamp positionRad config.positionMinRad config.positionMaxRad

/-- An accepted message is finite, and so is the position stored for it. -/
theorem acceptedPosition_eq_some {axis : Axis} {message : Option Double} {positionRad : Double}
    (accepted : acceptedPosition P axis message = some positionRad) :
    ∃ degrees : ℚ, message = some (Double.finite degrees) ∧
      positionRad = Double.finite (storedPosition P axis degrees) := by
  cases message with
  | none => simp [acceptedPosition] at accepted
  | some data =>
      cases data with
      | inf negative => simp [acceptedPosition] at accepted
      | nan => simp [acceptedPosition] at accepted
      | finite degrees =>
          refine ⟨degrees, rfl, ?_⟩
          cases kind : (P.axisConfigs axis).continuous with
          | true => simpa [acceptedPosition, storedPosition, kind, eq_comm] using accepted
          | false =>
              simp only [acceptedPosition, kind, Double.isFinite_finite, Bool.not_true,
                Bool.false_eq_true, if_false] at accepted
              split at accepted
              · cases accepted
              · rw [← Option.some.inj accepted]
                simp [storedPosition, kind]

/-- The locked part of `feedback_callback`: store a sample with the clock reading
taken before the lock. -/
def storeSample (axis : Axis) (positionRad : Double) (stamp : Time) (s : LeverHardware) :
    LeverHardware :=
  { s with
    feedback := Function.update s.feedback axis
      { positionRad, received := true, receivedAt := stamp } }

def activeAxisMaskCallback (data : BitVec 8) (s : LeverHardware) : LeverHardware :=
  { s with activeAxisMask := data &&& kAllAxesMask }

end Feedback

/-- A message taken by the executor thread. -/
inductive Callback where
  | feedback (axis : Axis) (message : Option Double)
  | mask (data : BitVec 8)
  deriving DecidableEq

/-- The mask is subscribed to only if a topic is configured for it. -/
def Callback.subscribed (P : Parameters) : Callback → Bool
  | .feedback _ _ => true
  | .mask _ => !P.activeAxisMaskTopic.isEmpty

/-- A whole subscription callback, run at one reading of the clock. -/
def Callback.exec (P : Parameters) (throws : ℕ → Bool) (now : Time) :
    Callback → LeverHardware → LeverHardware
  | .feedback axis message, s =>
      match acceptedPosition P axis message with
      | none => invalidateFeedback throws axis s
      | some positionRad => storeSample axis positionRad now s
  | .mask data, s => activeAxisMaskCallback data s

/-! ## What publishing zero does -/

/-- The last message that a lever topic carries after some calls, newest first. -/
def lastMessage (calls : List Attempt) (axis : Axis) : Option Double :=
  (calls.find? fun call => call.axis = axis && !call.threw).map (·.data)

/-- A list of publish calls that are all zero, and that do not throw if none does. -/
def AllZero (throws : ℕ → Bool) (calls : List Attempt) : Prop :=
  ∀ call ∈ calls, call.data = 0 ∧ ((∀ n, throws n = false) → call.threw = false)

theorem allZero_append {throws : ℕ → Bool} {first second : List Attempt} :
    AllZero throws (first ++ second) ↔ AllZero throws first ∧ AllZero throws second :=
  List.forall_mem_append

/-- The calls that zeroing the axes of a list makes after `n` earlier calls. -/
def zeroCalls (throws : ℕ → Bool) (publishers : Axis → Bool) : List Axis → ℕ → List Attempt
  | [], _ => []
  | axis :: rest, n =>
      if publishers axis then
        zeroCalls throws publishers rest (n + 1) ++ [{ axis, data := 0, threw := throws n }]
      else zeroCalls throws publishers rest n

theorem publishZero_fold (throws : ℕ → Bool) (visited : List Axis) (s : LeverHardware) :
    visited.foldl (publishZero throws) s =
      { s with attempts :=
          zeroCalls throws s.commandPublishers visited s.attempts.length ++ s.attempts } := by
  induction visited generalizing s with
  | nil => rfl
  | cons axis rest ih =>
      rw [List.foldl_cons, ih]
      by_cases created : s.commandPublishers axis = true <;>
        simp [zeroCalls, publishZero, created, publish]

/-- **Zeroing** records its calls and changes nothing else. -/
@[simp] theorem publishZeroToAllAxesLocked_eq (throws : ℕ → Bool) (s : LeverHardware) :
    publishZeroToAllAxesLocked throws s =
      { s with attempts :=
          zeroCalls throws s.commandPublishers axes s.attempts.length ++ s.attempts } :=
  publishZero_fold throws axes s

theorem allZero_zeroCalls (throws : ℕ → Bool) (publishers : Axis → Bool) (visited : List Axis)
    (n : ℕ) : AllZero throws (zeroCalls throws publishers visited n) := by
  induction visited generalizing n with
  | nil => simp [AllZero, zeroCalls]
  | cons axis rest ih =>
      by_cases created : publishers axis = true
      · rw [zeroCalls, if_pos created, allZero_append]
        exact ⟨ih (n + 1), by simpa [AllZero] using fun quiet => quiet n⟩
      · rw [zeroCalls, if_neg created]
        exact ih n

/-- Zeroing calls every publisher there is. -/
theorem exists_mem_zeroCalls (throws : ℕ → Bool) {publishers : Axis → Bool} {axis : Axis}
    (created : publishers axis = true) {visited : List Axis} (member : axis ∈ visited) (n : ℕ) :
    ∃ call ∈ zeroCalls throws publishers visited n, call.axis = axis := by
  induction visited generalizing n with
  | nil => simp at member
  | cons head rest ih =>
      by_cases headCreated : publishers head = true
      · rw [zeroCalls, if_pos headCreated]
        rcases List.mem_cons.mp member with rfl | later
        · exact ⟨{ axis, data := 0, threw := throws n }, by simp, rfl⟩
        · obtain ⟨call, inZeros, same⟩ := ih later (n + 1)
          exact ⟨call, List.mem_append_left _ inZeros, same⟩
      · rw [zeroCalls, if_neg headCreated]
        rcases List.mem_cons.mp member with rfl | later
        · exact absurd created headCreated
        · exact ih later n

/-- A topic whose last message is zero stays so while only zeros are sent. -/
theorem lastMessage_append_allZero {throws : ℕ → Bool} {zeros calls : List Attempt} {axis : Axis}
    (zero : AllZero throws zeros) (last : lastMessage calls axis = some 0) :
    lastMessage (zeros ++ calls) axis = some 0 := by
  unfold lastMessage at last ⊢
  rw [List.find?_append]
  cases found : zeros.find? fun call => call.axis = axis && !call.threw with
  | none => simpa using last
  | some call => simp [(zero call (List.mem_of_find?_eq_some found)).1]

/-- A topic that takes a zero, among zeros, carries zero. -/
theorem lastMessage_of_sent {throws : ℕ → Bool} {zeros calls : List Attempt} {axis : Axis}
    (zero : AllZero throws zeros) (sent : ∃ call ∈ zeros, call.axis = axis ∧ call.threw = false) :
    lastMessage (zeros ++ calls) axis = some 0 := by
  obtain ⟨call, member, same, took⟩ := sent
  unfold lastMessage
  rw [List.find?_append]
  cases found : zeros.find? fun call => call.axis = axis && !call.threw with
  | none =>
      have := List.find?_eq_none.mp found call member
      simp [same, took] at this
  | some first => simp [(zero first (List.mem_of_find?_eq_some found)).1]

/-- If no publish throws, it is enough that the topic is called. -/
theorem lastMessage_of_called {throws : ℕ → Bool} (quiet : ∀ n, throws n = false)
    {zeros calls : List Attempt} {axis : Axis} (zero : AllZero throws zeros)
    (called : ∃ call ∈ zeros, call.axis = axis) : lastMessage (zeros ++ calls) axis = some 0 := by
  obtain ⟨call, member, same⟩ := called
  exact lastMessage_of_sent zero ⟨call, member, same, (zero call member).2 quiet⟩

end Tb20e.Hardware
