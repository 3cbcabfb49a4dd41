/-
# ImuToSim.Node -- the node that shows the machine in the simulator

`tb20e_imu_to_sim_node`: on each axis an angle of the machine, in degrees, becomes a command
of the simulator, in radians and with the simulator's sign.  The constructor checks one axis
after the other and throws at the first that it does not take.
-/
import Tb20e.Gamepad.Node

namespace Tb20e.ImuToSim

set_option autoImplicit false

open Tb20e.Theory Tb20e.Control
open Tb20e.Theory (Double)
open Tb20e.Gamepad (Validate require)

/-- The values that the constructor's `declare_parameter` calls return. -/
structure Parameters where
  stateTopics : Axis → String := fun
    | 0 => "/TB20e_0/current_swing_angle"
    | 1 => "/TB20e_0/current_boom_angle"
    | 2 => "/TB20e_0/current_arm_angle"
    | 3 => "/TB20e_0/current_bucket_angle"
  commandTopics : Axis → String := fun
    | 0 => "/TB20e/swing/cmd"
    | 1 => "/TB20e/boom/cmd"
    | 2 => "/TB20e/arm/cmd"
    | 3 => "/TB20e/bucket/cmd"
  positionSigns : Axis → Double := fun axis => if axis = 0 then (-1 : ℚ) else (1 : ℚ)

section Construct

variable (params : Parameters)

/-- The loop body of the constructor. -/
def validateAxis (axis : Axis) : Validate := do
  require (!(params.stateTopics axis).isEmpty && !(params.commandTopics axis).isEmpty)
    "IMU state and simulator command topics must not be empty"
  require ((params.positionSigns axis).isFinite && (params.positionSigns axis).abs = 1)
    "simulator position signs must be either -1 or 1"

def construct : Validate := do
  validateAxis params 0
  validateAxis params 1
  validateAxis params 2
  validateAxis params 3

/-- The command that a message is answered with, if it is. -/
def publishSimCommand (axis : Axis) (data : Double) : Option Double :=
  if !data.isFinite then none else some (params.positionSigns axis * degreesToRadians data)

end Construct

variable {params : Parameters}

theorem validateAxis_eq_ok {axis : Axis} :
    validateAxis params axis = .ok () ↔
      (params.stateTopics axis ≠ "" ∧ params.commandTopics axis ≠ "") ∧
        ∃ sign : ℚ, params.positionSigns axis = sign ∧ |sign| = 1 := by
  rw [validateAxis, Gamepad.bind_eq_ok, Gamepad.require_eq_ok, Gamepad.require_eq_ok]
  refine and_congr (by simp) ?_
  cases params.positionSigns axis with
  | finite sign => simp
  | inf negative => simp
  | nan => simp

/-- **The constructor returns** exactly for topics with a name and signs that are one or minus
one, as the gamepad node asks it of its own. -/
theorem construct_eq_ok :
    construct params = .ok () ↔ ∀ axis,
      (params.stateTopics axis ≠ "" ∧ params.commandTopics axis ≠ "") ∧
        ∃ sign : ℚ, params.positionSigns axis = sign ∧ |sign| = 1 := by
  simp only [construct, Gamepad.bind_eq_ok, validateAxis_eq_ok]
  constructor
  · rintro ⟨swing, boom, arm, bucket⟩ axis
    fin_cases axis
    exacts [swing, boom, arm, bucket]
  · exact fun checked => ⟨checked 0, checked 1, checked 2, checked 3⟩

/-- The declared defaults are accepted. -/
theorem construct_default : construct {} = .ok () := by decide +kernel

end Tb20e.ImuToSim
