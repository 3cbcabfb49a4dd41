/-
# Hardware.Joints -- which joint drives which axis

`validate_joint_interfaces` finds the axis of each declared joint by name and
refuses a description with a wrong number of joints, an unknown or repeated
joint, or a joint with other interfaces than one effort command and one position
and one velocity state.  Its result is `joint_axis_indices_`.
-/
import Tb20e.Hardware.Parameters

namespace Tb20e.Hardware

set_option autoImplicit false

open Tb20e.Control

def kEffort : String := "effort"
def kPosition : String := "position"
def kVelocity : String := "velocity"

/-- The axis that is configured for a joint name, searched in axis order. -/
def axisOfJoint (axisConfigs : Axis → AxisConfig) (name : String) : Option Axis :=
  axes.find? fun axis => (axisConfigs axis).jointName = name

/-- The interface checks for one joint. -/
def validateInterfaces (joint : JointInfo) : Load Unit := do
  refuseIf (joint.commandInterfaces.map (·.name) ≠ [kEffort])
    ("Joint '" ++ joint.name ++ "' must have exactly one 'effort' command interface")
  let hasPosition := joint.stateInterfaces.any fun state => state.name = kPosition
  let hasVelocity := joint.stateInterfaces.any fun state => state.name = kVelocity
  refuseIf (joint.stateInterfaces.length ≠ 2 || !hasPosition || !hasVelocity)
    ("Joint '" ++ joint.name ++ "' must have exactly 'position' and 'velocity' state interfaces")

/-- The loop over the declared joints, `axisSeen` being the axes found so far. -/
def validateJoints (axisConfigs : Axis → AxisConfig) :
    (Axis → Bool) → List JointInfo → Load (List Axis)
  | _, [] => .ok []
  | axisSeen, joint :: rest =>
      match axisOfJoint axisConfigs joint.name with
      | none => .error ["Unexpected joint '" ++ joint.name ++ "' in ros2_control definition"]
      | some axis =>
          if axisSeen axis then .error ["Joint '" ++ joint.name ++ "' is declared more than once"]
          else do
            validateInterfaces joint
            let indices ← validateJoints axisConfigs (Function.update axisSeen axis true) rest
            return axis :: indices

def validateJointInterfaces (axisConfigs : Axis → AxisConfig) (joints : List JointInfo) :
    Load (List Axis) :=
  if joints.length ≠ kAxisCount then
    .error ["Expected 4 joints, but the URDF declares " ++ toString joints.length]
  else validateJoints axisConfigs (fun _ => false) joints

/-- A joint declared as the hardware wants it. -/
def JointInfo.standard (name : String) : JointInfo where
  name := name
  commandInterfaces := [⟨kEffort⟩]
  stateInterfaces := [⟨kPosition⟩, ⟨kVelocity⟩]

/-- Four standard joints in the order of the axes are accepted, and drive them. -/
theorem validateJointInterfaces_standard :
    validateJointInterfaces defaultAxisConfigs
      (axes.map fun a => JointInfo.standard (defaultAxisConfigs a).jointName) = .ok axes := by
  rfl

end Tb20e.Hardware
